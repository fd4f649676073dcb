/-
The fields of an instruction word.

An instruction is sixteen bits, read as four nibbles: the first selects the
family and the others are the operands `x`, `y` and `n`, or together the byte
`nn` and the address `nnn`.  Words come as integers of any size and sign; the
fields depend on the residue modulo `2 ^ 16` alone, that is on the low sixteen
bits of the two's complement form.  A decoded word keeps the whole integer
beside its fields.

* `Fields.recompose` — the four nibbles make up the low sixteen bits;
* `Fields.nn_eq`, `Fields.nnn_eq` — the byte and the address are the nibbles
  put together;
* `Fields.ofWord_eq_iff` — the fields determine the residue, and no more.
-/
import Chip8.Layout

namespace Chip8

/-- A general register, by number. -/
abbrev Register := Fin 16

/-- A byte of memory or of a register. -/
abbrev Byte := UInt8

/-- An address operand: twelve bits. -/
abbrev Address := Fin 4096

/-- The low sixteen bits of a word. -/
def low16 (w : Int) : Nat := (w % 65536).toNat

/-- The low four bits of a number. -/
def nibble (v : Nat) : Fin 16 := ⟨v % 16, by omega⟩

@[simp] theorem val_nibble (v : Nat) : (nibble v).val = v % 16 := rfl

/-- The operand fields of a word. -/
structure Fields where
  /-- First nibble: the family of the instruction. -/
  family : Fin 16
  /-- Second nibble: the register written or drawn from. -/
  x : Register
  /-- Third nibble. -/
  y : Register
  /-- Last nibble: the height of a sprite. -/
  n : Fin 16
  /-- Last byte. -/
  nn : Fin 256
  /-- Last twelve bits. -/
  nnn : Address
deriving DecidableEq, Repr

namespace Fields

/-- The fields of a word. -/
def ofWord (w : Int) : Fields :=
  let v := low16 w
  { family := nibble (v / 0x1000)
    x := nibble (v / 0x100)
    y := nibble (v / 0x10)
    n := nibble v
    nn := ⟨v % 256, by omega⟩
    nnn := ⟨v % 4096, by omega⟩ }

end Fields

/-- A word that has been decoded: its fields, and the word as it came. -/
structure Decoded extends Fields where
  /-- The word itself, with all its bits. -/
  raw : Int
deriving DecidableEq, Repr

/-- The word with its fields. -/
def Decoded.ofWord (w : Int) : Decoded :=
  { Fields.ofWord w with raw := w }

theorem low16_lt (w : Int) : low16 w < 65536 := by
  unfold low16; omega

theorem low16_cast (w : Int) : (low16 w : Int) = w % 65536 := by
  unfold low16; omega

@[simp] theorem low16_emod (w : Int) : low16 (w % 65536) = low16 w := by
  simp [low16]

@[simp] theorem low16_natCast (v : Nat) : low16 v = v % 65536 := by
  unfold low16; omega

namespace Fields

theorem recompose (w : Int) :
    (((ofWord w).family.val * 16 + (ofWord w).x.val) * 16 + (ofWord w).y.val) * 16
      + (ofWord w).n.val = low16 w := by
  have := low16_lt w
  simp only [ofWord, val_nibble]
  omega

theorem nn_eq (w : Int) :
    (ofWord w).nn.val = 16 * (ofWord w).y.val + (ofWord w).n.val := by
  simp only [ofWord, val_nibble]
  omega

theorem nnn_eq (w : Int) :
    (ofWord w).nnn.val = 256 * (ofWord w).x.val + (ofWord w).nn.val := by
  simp only [ofWord, val_nibble]
  omega

theorem ofWord_emod (w : Int) : ofWord (w % 65536) = ofWord w := by
  simp [ofWord]

theorem ofWord_eq_iff {v w : Int} : ofWord v = ofWord w ↔ v % 65536 = w % 65536 := by
  constructor
  · intro h
    have hv := recompose v
    rw [h, recompose w] at hv
    rw [← low16_cast, ← low16_cast, hv]
  · intro h
    rw [← ofWord_emod v, h, ofWord_emod]

end Fields

end Chip8
