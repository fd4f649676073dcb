/-
The bits of a word beyond the sixteenth.

A word that is carried out may be any 32-bit number.  Family and operands are read off its
low sixteen bits, also when it is negative, so a word does what its low sixteen bits do.  There
is one exception: the screen is cleared only if the word as a whole is `0x00E0`.

* `Instruction.ofWord_of_clear_below` — a longer word does not clear the screen;
* `Instruction.ofWord_emod_eq_iff` — a word and its low bits are the same instruction, unless
  the low bits alone are the word that clears the screen;
* `State.high_bits_leak_once` — what this means for the words that a state carries out, and
  for mnemonics.
-/
import Chip8.Proofs.Frame

namespace Chip8

namespace Instruction

/-- A word beyond sixteen bits is no instruction, if its low bits are the word that clears the
screen. -/
theorem ofWord_of_clear_below {w : Int} (hlow : w % 65536 = 0x00E0) (hw : w ≠ 0x00E0) :
    ofWord w = .unknown := by
  have hfamily : (Fields.ofWord w).family = 0 := by
    rw [← Fields.ofWord_emod, hlow]
    rfl
  rw [ofWord, hfamily, Operation.ofFamily, Operation.read, if_neg hw]

/-- **The high bits of a word matter in one place.** -/
theorem ofWord_emod_eq_iff (w : Int) :
    ofWord (w % 65536) = ofWord w ↔ (w % 65536 = 0x00E0 → w = 0x00E0) := by
  constructor
  · intro h hlow
    by_contra hw
    rw [ofWord_of_clear_below hlow hw, hlow] at h
    have hclear : ofWord 0x00E0 = .clear := rfl
    rw [hclear] at h
    exact absurd h (by simp)
  · exact ofWord_emod

end Instruction

namespace State

theorem execute?_of_fits {w : Int} (h : FitsSigned32 w) (s : State) :
    s.execute? w = some (s.execute w) :=
  if_pos h

theorem fits_emod (w : Int) : FitsSigned32 (w % 65536) := by
  unfold FitsSigned32
  omega

/-- **The high bits of a word leak once.**  A state carries out every 32-bit word, and it does
what it does for the low sixteen bits of the word, in all its parts.  Only where these are the
word that clears the screen, and the word has higher bits, is the screen left as it is: such a
word records that it is no instruction, and nothing else.  The mnemonic of a word of any size
is that of its low sixteen bits. -/
theorem high_bits_leak_once (s : State) {w : Int} (hw : FitsSigned32 w) :
    let low := w % 65536
    (¬ (low = 0x00E0 ∧ w ≠ 0x00E0) → ∃ t, s.execute? w = some t ∧ s.execute? low = some t)
      ∧ (low = 0x00E0 → w ≠ 0x00E0 →
        s.execute? w = some { s with fault := 1 }
          ∧ s.execute? low = some { s with display := Display.blank })
      ∧ ∀ v : Int, disassemble v = disassemble (v % 65536) := by
  intro low
  have hlow : s.execute? low = some (s.execute low) := execute?_of_fits (fits_emod w) s
  rw [execute?_of_fits hw, hlow]
  refine ⟨fun hregular => ?_, fun hclear hhigh => ⟨?_, ?_⟩, fun v => (disassemble_emod v).symm⟩
  · have hsame : Instruction.ofWord low = Instruction.ofWord w := by
      rw [Instruction.ofWord_emod_eq_iff]
      intro hclear
      by_contra hhigh
      exact hregular ⟨hclear, hhigh⟩
    exact ⟨s.execute w, rfl, by rw [execute, execute, hsame]⟩
  · rw [execute, Instruction.ofWord_of_clear_below hclear hhigh]
    rfl
  · have hinstruction : Instruction.ofWord low = .clear := by
      rw [hclear]
      rfl
    rw [execute, hinstruction, exec]

/-- Two negative words on a state at fault: the first ends in the word that clears the screen
and is no instruction, the second ends in an addition and adds. -/
theorem high_bits_leak_once_negative :
    FitsSigned32 (-0xFF20) ∧ FitsSigned32 (-0x8CFF)
      ∧ State.execute? { fault := 2 } (-0xFF20) = some { fault := 1 }
      ∧ (∃ t, State.execute? { fault := 2 } (-0x8CFF) = some t
        ∧ State.execute? { fault := 2 } 0x7301 = some t)
      ∧ disassemble (-0x8CFF) = "ADD V3, 0x01" := by
  have hclear : FitsSigned32 (-0xFF20) := by decide
  have hadd : FitsSigned32 (-0x8CFF) := by decide
  obtain ⟨-, hleak, htext⟩ := high_bits_leak_once { fault := 2 } hclear
  obtain ⟨hsame, -, -⟩ := high_bits_leak_once { fault := 2 } hadd
  refine ⟨hclear, hadd, (hleak rfl (by decide)).1, hsame (by decide), ?_⟩
  rw [htext]
  decide +kernel

end State

end Chip8
