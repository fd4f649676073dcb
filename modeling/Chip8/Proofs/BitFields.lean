/-
The fields of a word as groups of its bits.

A word is an integer in two's complement, and a negative one has ones without end on the left.
A field is a group of neighbouring bits: a mask lets them through, and a shift moves them to
the end.  Fields are computed by division instead, and that is the same:

* `land_ones`, `land_shiftRight` — the lowest bits of an integer are a remainder, and
  a mask may be shifted together with what it masks;
* `maskedBits`, `maskedBits_eq` — so the bits under a mask without gaps are a remainder of a
  quotient, whatever the sign of the integer is;
* `Fields.masked_ofWord` — every field of a word is the group of bits under its mask;
* `fields_make_up_words` — the digits make up the low sixteen bits of a word, the byte and the
  address are made of digits, and the fields determine these bits and no more.
-/
import Mathlib.Data.Int.Bitwise
import Chip8.Word

namespace Chip8

/-! ### Bits under a mask -/

/-- The bits of an integer that a mask lets through, moved down by some places. -/
def maskedBits (w : Int) (mask places : Nat) : Int :=
  Int.land w mask >>> places

/-- The lowest bits of the complement of a number. -/
theorem ldiff_ones (digits v : Nat) :
    Nat.ldiff (2 ^ digits - 1) v = 2 ^ digits - (v % 2 ^ digits + 1) := by
  have hlt : v % 2 ^ digits < 2 ^ digits := Nat.mod_lt v (Nat.two_pow_pos digits)
  refine Nat.eq_of_testBit_eq fun i => ?_
  rw [Nat.testBit_ldiff, Nat.testBit_two_pow_sub_one, Nat.testBit_two_pow_sub_succ hlt,
    Nat.testBit_mod_two_pow]
  cases decide (i < digits) with
  | true => rw [Bool.true_and, Bool.true_and, Bool.true_and]
  | false => rw [Bool.false_and, Bool.false_and]

/-- The lowest bits of an integer are its remainder. -/
theorem land_ones (w : Int) (digits : Nat) :
    Int.land w (2 ^ digits - 1 : Nat) = w % 2 ^ digits := by
  cases w with
  | ofNat v =>
    show Int.ofNat (v &&& 2 ^ digits - 1) = (v : Int) % 2 ^ digits
    rw [Nat.and_two_pow_sub_one_eq_mod]
    exact Int.natCast_mod v (2 ^ digits)
  | negSucc v =>
    -- a negative integer has the bits of the complement of a number
    have hpos : (0 : Int) < 2 ^ digits := Int.pow_pos (by decide)
    have hlt : v % 2 ^ digits < 2 ^ digits := Nat.mod_lt v (Nat.two_pow_pos digits)
    show ((Nat.ldiff (2 ^ digits - 1) v : Nat) : Int) = _
    rw [ldiff_ones, Int.negSucc_emod v hpos, Int.natCast_sub hlt]
    push_cast
    omega

/-- A mask may be shifted together with what it masks. -/
theorem land_shiftRight (w : Int) (mask places : Nat) :
    Int.land w mask >>> places = Int.land (w >>> places) (mask >>> places : Nat) := by
  cases w with
  | ofNat v => exact congrArg Int.ofNat Nat.shiftRight_and_distrib
  | negSucc v =>
    refine congrArg Int.ofNat (Nat.eq_of_testBit_eq fun i => ?_)
    rw [Nat.testBit_shiftRight, Nat.testBit_ldiff, Nat.testBit_ldiff, Nat.testBit_shiftRight,
      Nat.testBit_shiftRight]

/-- The bits under a mask without gaps are a remainder of a quotient. -/
theorem maskedBits_eq (w : Int) (digits places : Nat) :
    maskedBits w ((2 ^ digits - 1) <<< places) places = w / 2 ^ places % 2 ^ digits := by
  rw [maskedBits, land_shiftRight, Nat.shiftLeft_shiftRight, land_ones,
    Int.shiftRight_eq_div_pow]
  push_cast
  rfl

example : maskedBits (-0x8CFF) 0x0F00 8 = 0x3 := by decide +kernel

/-! ### The fields of a word -/

/-- The fields are groups of bits of a word, each under its mask. -/
structure Fields.Masked (w : Int) (f : Fields) : Prop where
  family : f.family.val = maskedBits w 0xF000 12
  x : f.x.val = maskedBits w 0x0F00 8
  y : f.y.val = maskedBits w 0x00F0 4
  n : f.n.val = maskedBits w 0x000F 0
  nn : f.nn.val = maskedBits w 0x00FF 0
  nnn : f.nnn.val = maskedBits w 0x0FFF 0

theorem Fields.masked_ofWord (w : Int) : (ofWord w).Masked w := by
  have hlow : (low16 w : Int) = w % 65536 := low16_cast w
  have hfamily : maskedBits w 0xF000 12 = w / 2 ^ 12 % 2 ^ 4 := maskedBits_eq w 4 12
  have hx : maskedBits w 0x0F00 8 = w / 2 ^ 8 % 2 ^ 4 := maskedBits_eq w 4 8
  have hy : maskedBits w 0x00F0 4 = w / 2 ^ 4 % 2 ^ 4 := maskedBits_eq w 4 4
  have hn : maskedBits w 0x000F 0 = w / 2 ^ 0 % 2 ^ 4 := maskedBits_eq w 4 0
  have hnn : maskedBits w 0x00FF 0 = w / 2 ^ 0 % 2 ^ 8 := maskedBits_eq w 8 0
  have hnnn : maskedBits w 0x0FFF 0 = w / 2 ^ 0 % 2 ^ 12 := maskedBits_eq w 12 0
  constructor
  all_goals
    simp only [ofWord, val_nibble]
    omega

/-- **The fields make up the word.**  A word is any integer, and its fields are the bits under
their masks.  The first four are digits of four bits and make up the low sixteen bits of the
word, the byte is made of the last two of them and the address of the last three, and the word
itself is kept.  Two words have the same fields exactly if they are congruent modulo `2 ^ 16`. -/
theorem fields_make_up_words :
    (∀ w : Int,
        let d := Decoded.ofWord w
        d.Masked w
          ∧ (d.family.val ≤ 15 ∧ d.x.val ≤ 15 ∧ d.y.val ≤ 15 ∧ d.n.val ≤ 15)
          ∧ (((d.family.val * 16 + d.x.val) * 16 + d.y.val) * 16 + d.n.val : Int) = w % 65536
          ∧ d.nn.val = 16 * d.y.val + d.n.val
          ∧ d.nnn.val = 256 * d.x.val + d.nn.val
          ∧ d.raw = w)
      ∧ ∀ w v : Int, (Decoded.ofWord w).toFields = (Decoded.ofWord v).toFields
        ↔ w % 65536 = v % 65536 := by
  refine ⟨fun w => ?_, fun w v => Fields.ofWord_eq_iff⟩
  intro d
  have hdigits : ((d.family.val * 16 + d.x.val) * 16 + d.y.val) * 16 + d.n.val = low16 w :=
    Fields.recompose w
  refine ⟨Fields.masked_ofWord w, ?_, ?_, Fields.nn_eq w, Fields.nnn_eq w, rfl⟩
  · exact ⟨Nat.le_of_lt_succ d.family.isLt, Nat.le_of_lt_succ d.x.isLt,
      Nat.le_of_lt_succ d.y.isLt, Nat.le_of_lt_succ d.n.isLt⟩
  · rw [← low16_cast, ← hdigits]
    push_cast
    rfl

end Chip8
