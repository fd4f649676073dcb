/-
Which instruction a word of memory stands for.

A word of memory has sixteen bits, and its first digit alone decides how the
others are read:

* `Fields.ofWord_natCast` — the fields are remainders of quotients of the word;
* `Instruction.ofWord_of_family` — the first digit selects the operation;
* `Instruction.ofWord_eq_unknown_iff` — the words that are no instruction are
  exactly those that are not `Implemented`;
* `Instruction.ofWord_eq_draw_iff` — the words that draw, with their operands;
* `Instruction.encodes_ofWord` — the words of every instruction, with their operands;
* `disassemble_eq_mnemonic` — the text of a word is that of the instruction it stands for.
-/
import Chip8.Instruction
import Mathlib.Data.Fintype.Basic
import Mathlib.Tactic.FinCases

namespace Chip8

/-- Whether a sixteen-bit word is an instruction: it is the word that clears the
screen, or its first digit is that of a family with operands. -/
def Implemented (w : Nat) : Prop :=
  w = 0x00E0 ∨ w / 0x1000 = 0x1 ∨ w / 0x1000 = 0x6 ∨ w / 0x1000 = 0x7 ∨ w / 0x1000 = 0xA
    ∨ w / 0x1000 = 0xD

instance (w : Nat) : Decidable (Implemented w) := by
  unfold Implemented; infer_instance

/-! ### Fields of a word of memory -/

/-- The fields of a word of memory are remainders of quotients of it; no bit is
beyond the sixteenth, so it does not matter whether higher bits are dropped. -/
theorem Fields.ofWord_natCast (w : Nat) :
    ofWord w =
      { family := nibble (w / 0x1000)
        x := nibble (w / 0x100)
        y := nibble (w / 0x10)
        n := nibble w
        nn := Fin.ofNat 256 w
        nnn := Fin.ofNat 4096 w } := by
  simp only [ofWord, low16_natCast, Fields.mk.injEq, Fin.ext_iff, val_nibble, Fin.val_ofNat]
  omega

/-! ### The instruction of a word of memory -/

namespace Instruction

variable {w : Nat}

theorem ofWord_of_family {f : Fin 16} (hf : w / 0x1000 = f.val) :
    ofWord w = (Operation.ofFamily f).read w := by
  have hfamily : (Fields.ofWord w).family = f := by
    rw [Fields.ofWord_natCast, Fin.ext_iff, val_nibble, ← hf]
    omega
  rw [ofWord, hfamily]

/-- The first digit of a word, as the family it selects. -/
theorem exists_family (hw : w < 65536) : ∃ f : Fin 16, w / 0x1000 = f.val :=
  ⟨⟨w / 0x1000, by omega⟩, rfl⟩

theorem ofWord_eq_unknown_iff (hw : w < 65536) : ofWord w = .unknown ↔ ¬ Implemented w := by
  obtain ⟨f, hf⟩ := exists_family hw
  rw [ofWord_of_family hf]
  by_cases h0 : f = 0
  · -- the system family knows a single word
    subst h0
    have hd : w / 0x1000 = 0 := hf
    simp only [Operation.ofFamily, Operation.read, Implemented, hd]
    by_cases hw0 : w = 0x00E0
    · simp [hw0]
    · have : ¬ (w : Int) = 0x00E0 := by omega
      simp [hw0, this]
  · -- every other family ignores the rest of the word
    have hne : w ≠ 0x00E0 := by
      rintro rfl
      exact h0 (Fin.ext hf.symm)
    simp only [Implemented, hne, hf, false_or]
    revert h0
    fin_cases f <;> simp [Operation.ofFamily, Operation.read]

theorem ofWord_eq_draw_iff (hw : w < 65536) {x y : Register} {n : Fin 16} :
    ofWord w = .draw x y n ↔
      w / 0x1000 = 0xD ∧ x = nibble (w / 0x100) ∧ y = nibble (w / 0x10)
        ∧ n.val = w % 0x10 := by
  obtain ⟨f, hf⟩ := exists_family hw
  rw [ofWord_of_family hf, hf]
  by_cases hd : f = 0xD
  · subst hd
    simp only [Operation.ofFamily, Operation.read, Instruction.draw.injEq, Fields.ofWord_natCast]
    constructor
    · rintro ⟨rfl, rfl, rfl⟩
      exact ⟨rfl, rfl, rfl, rfl⟩
    · rintro ⟨-, rfl, rfl, hn⟩
      exact ⟨rfl, rfl, Fin.ext hn.symm⟩
  · -- no other family draws, whatever the operands
    have hne : f.val ≠ 0xD := fun h => hd (Fin.ext h)
    simp only [hne, false_and, iff_false]
    revert hd
    fin_cases f <;> simp [Operation.ofFamily, Operation.read]
    split <;> simp

/-- That a sixteen-bit word stands for an instruction. -/
inductive Encodes (w : Nat) : Instruction → Prop
  | clear (h : w = 0x00E0) : Encodes w .clear
  | jump (h : w / 0x1000 = 0x1) : Encodes w (.jump (Fin.ofNat 4096 w))
  | set (h : w / 0x1000 = 0x6) : Encodes w (.set (nibble (w / 0x100)) (Fin.ofNat 256 w))
  | add (h : w / 0x1000 = 0x7) : Encodes w (.add (nibble (w / 0x100)) (Fin.ofNat 256 w))
  | setIndex (h : w / 0x1000 = 0xA) : Encodes w (.setIndex (Fin.ofNat 4096 w))
  | draw (h : w / 0x1000 = 0xD) :
      Encodes w (.draw (nibble (w / 0x100)) (nibble (w / 0x10)) (nibble w))
  | unknown (h : ¬ Implemented w) : Encodes w .unknown

theorem encodes_ofWord (hw : w < 65536) : Encodes w (ofWord w) := by
  by_cases himp : Implemented w
  · rcases himp with rfl | h | h | h | h | h
    · exact .clear rfl
    · rw [ofWord_of_family (f := 0x1) h, Operation.ofFamily, Operation.read, Fields.ofWord_natCast]
      exact .jump h
    · rw [ofWord_of_family (f := 0x6) h, Operation.ofFamily, Operation.read, Fields.ofWord_natCast]
      exact .set h
    · rw [ofWord_of_family (f := 0x7) h, Operation.ofFamily, Operation.read, Fields.ofWord_natCast]
      exact .add h
    · rw [ofWord_of_family (f := 0xA) h, Operation.ofFamily, Operation.read, Fields.ofWord_natCast]
      exact .setIndex h
    · rw [ofWord_of_family (f := 0xD) h, Operation.ofFamily, Operation.read, Fields.ofWord_natCast]
      exact .draw h
  · rw [(ofWord_eq_unknown_iff hw).2 himp]
    exact .unknown himp

end Instruction

/-! ### The text of a word -/

/-- **Disassembly and execution recognise the same words**: the form that a text is chosen by
is the one that the instruction is read from, with the same operands. -/
theorem disassemble_eq_mnemonic (w : Int) :
    disassemble w = (Instruction.ofWord (low16 w)).mnemonic (low16 w) := by
  have henc := Instruction.encodes_ofWord (low16_lt w)
  rw [disassemble, Fields.ofWord_natCast]
  generalize Instruction.ofWord (low16 w) = i at henc
  cases henc with
  | clear h => rw [if_pos h, Instruction.mnemonic]
  | unknown h =>
    simp only [Implemented, not_or] at h
    obtain ⟨h0, h1, h6, h7, hA, hD⟩ := h
    rw [if_neg h0, if_neg h1, if_neg h6, if_neg h7, if_neg hA, if_neg hD, Instruction.mnemonic]
  | _ h =>
    -- the word that clears the screen has another first digit
    have hclear : low16 w ≠ 0x00E0 := by
      intro hw
      rw [hw] at h
      exact absurd h (by decide)
    rw [if_neg hclear, h]
    rfl

theorem disassemble_natCast {w : Nat} (hw : w < 65536) :
    disassemble w = (Instruction.ofWord w).mnemonic w := by
  rw [disassemble_eq_mnemonic, low16_natCast, Nat.mod_eq_of_lt hw]

end Chip8
