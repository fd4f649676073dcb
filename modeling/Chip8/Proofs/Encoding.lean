/-
The word behind a mnemonic.

A mnemonic shows its instruction with all operands, or else, for a word that is no instruction,
the word itself.  So the word can be read back from the text alone, and two words have the same
mnemonic only if their low sixteen bits are the same:

* `Instruction.encode`, `Instruction.Encodes.encode_eq` — the word of an instruction, and that
  it is the only one;
* `Instruction.wordOf?` — the reader of words;
* `Instruction.wordOf?_mnemonic` — it reads the word that a mnemonic was written for;
* `mnemonics_identify_words` — the same for words of any size and sign.
-/
import Chip8.Proofs.Mnemonic
import Chip8.Proofs.Stamps

namespace Chip8

namespace Instruction

/-- The word of an instruction. -/
def encode : Instruction → Nat
  | clear => 0x00E0
  | jump target => 0x1000 + target.val
  | set x value => 0x6000 + 0x100 * x.val + value.val
  | add x value => 0x7000 + 0x100 * x.val + value.val
  | setIndex target => setIndexWord target
  | draw x y height => drawWord x y height
  | unknown => 0

/-- Only one word stands for an instruction. -/
theorem Encodes.encode_eq {w : Nat} {i : Instruction} (h : Encodes w i) (hi : i ≠ .unknown) :
    i.encode = w := by
  cases h with
  | clear hclear => exact hclear.symm
  | jump hjump =>
    rw [encode, Fin.val_ofNat]
    omega
  | set hset =>
    rw [encode, Fin.val_ofNat, val_nibble]
    omega
  | add hadd =>
    rw [encode, Fin.val_ofNat, val_nibble]
    omega
  | setIndex hset =>
    rw [encode, setIndexWord, Fin.val_ofNat]
    omega
  | draw hdraw =>
    rw [encode, drawWord, val_nibble, val_nibble, val_nibble]
    omega
  | unknown => exact absurd rfl hi

/-! ### Reading words -/

/-- The word that is shown as data. -/
def dataWord? : List Char → Option Nat
  | 'D' :: 'W' :: ' ' :: '0' :: 'x' :: ds => (Text.readDigits? 16 0x10000 ds).map Fin.val
  | _ => none

/-- The word that a mnemonic shows: that of the instruction it names, or a word shown as
data. -/
def wordOf? (text : List Char) : Option Nat :=
  ((ofMnemonic? text).map encode).or (dataWord? text)

theorem ofMnemonic?_data (ds : List Char) :
    ofMnemonic? ('D' :: 'W' :: ' ' :: '0' :: 'x' :: ds) = none :=
  rfl

/-- **The word of a mnemonic can be read.** -/
theorem wordOf?_mnemonic {w : Nat} (hw : w < 65536) :
    wordOf? ((ofWord w).mnemonic w).toList = some w := by
  by_cases hi : ofWord w = .unknown
  · -- the reader of instructions leaves data to that of words
    have htext : ((ofWord w).mnemonic w).toList
        = 'D' :: 'W' :: ' ' :: '0' :: 'x' :: (Text.hex 4 w).toList := by
      rw [hi, mnemonic, String.toList_append]
      rfl
    have hdigits : Text.readDigits? 16 0x10000 (Text.hex 4 w).toList = some ⟨w, hw⟩ :=
      Text.readDigits?_hex 4 ⟨w, hw⟩
    rw [htext, wordOf?, ofMnemonic?_data, dataWord?, hdigits]
    rfl
  · have hword : (ofWord w).encode = w := (encodes_ofWord hw).encode_eq hi
    rw [wordOf?, ofMnemonic?_mnemonic w hi, Option.map_some, hword, Option.some_or]

example : wordOf? "DW 0x8AF3".toList = some 0x8AF3 := by decide

end Instruction

theorem wordOf?_disassemble (w : Int) :
    Instruction.wordOf? (disassemble w).toList = some (low16 w) := by
  rw [disassemble_eq_mnemonic]
  exact Instruction.wordOf?_mnemonic (low16_lt w)

/-- **Mnemonics identify words.**  Two words of any size and sign have the same mnemonic exactly
if they are congruent modulo `2 ^ 16`, and these sixteen bits can be read from the mnemonic. -/
theorem mnemonics_identify_words :
    (∀ a b : Int, disassemble a = disassemble b ↔ a % 65536 = b % 65536)
      ∧ ∀ a : Int, Instruction.wordOf? (disassemble a).toList = some (a % 65536).toNat := by
  refine ⟨fun a b => ⟨fun htext => ?_, fun hmod => ?_⟩, wordOf?_disassemble⟩
  · have hwords : some (low16 a) = some (low16 b) := by
      rw [← wordOf?_disassemble, htext, wordOf?_disassemble]
    rw [← low16_cast a, ← low16_cast b, Option.some.inj hwords]
  · rw [← disassemble_emod a, hmod, disassemble_emod]

end Chip8
