/-
Hexadecimal text with a sign and a least width.

`hex k n` writes the integer `n` in capital digits and fills it with zeros to
`k` characters.  A minus sign counts for the width, so `-1` is `-01` at width
three, and a number that needs more room is written in full.

* `ofHexDigits_hexDigits` — reading the digits of a number gives it back;
* `length_hexDigits_le` — a number below `16 ^ k` has at most `k` digits, for
  `k` at least one.
-/
namespace Chip8.Text

/-- The capital hexadecimal digit of a number below sixteen. -/
def hexDigit (d : Nat) : Char :=
  if d < 10 then Char.ofNat (0x30 + d) else Char.ofNat (0x37 + d)

/-- The value of a capital hexadecimal digit. -/
def hexDigitValue (c : Char) : Nat :=
  if c.toNat < 0x40 then c.toNat - 0x30 else c.toNat - 0x37

/-- The digits of a number, the most significant first; zero has one digit. -/
def hexDigits (n : Nat) : List Char :=
  if n < 16 then [hexDigit n] else hexDigits (n / 16) ++ [hexDigit (n % 16)]
  termination_by n

/-- The number that a list of digits stands for. -/
def ofHexDigits (ds : List Char) : Nat :=
  ds.foldl (fun n c => 16 * n + hexDigitValue c) 0

/-- An integer in capital hexadecimal, filled with zeros to `width` characters
behind its sign. -/
def hex (width : Nat) (n : Int) : String :=
  let sign := if n < 0 then ['-'] else []
  let digits := hexDigits n.natAbs
  String.ofList (sign ++ List.replicate (width - sign.length - digits.length) '0' ++ digits)

/-! ### Reading digits back -/

theorem hexDigitValue_hexDigit {d : Nat} (h : d < 16) : hexDigitValue (hexDigit d) = d := by
  have key : ∀ d : Fin 16, hexDigitValue (hexDigit d) = d := by decide
  exact key ⟨d, h⟩

theorem ofHexDigits_append_singleton (ds : List Char) (c : Char) :
    ofHexDigits (ds ++ [c]) = 16 * ofHexDigits ds + hexDigitValue c := by
  simp [ofHexDigits]

theorem ofHexDigits_hexDigits (n : Nat) : ofHexDigits (hexDigits n) = n := by
  induction n using Nat.strongRecOn with
  | _ n ih =>
    rw [hexDigits]
    split
    · next h => simp [ofHexDigits, hexDigitValue_hexDigit h]
    · next h =>
      rw [ofHexDigits_append_singleton, ih (n / 16) (by omega),
        hexDigitValue_hexDigit (Nat.mod_lt _ (by omega))]
      omega

theorem length_hexDigits_le {k n : Nat} (hk : 0 < k) (h : n < Nat.pow 16 k) :
    (hexDigits n).length ≤ k := by
  induction k generalizing n with
  | zero => omega
  | succ k ih =>
    rw [hexDigits]
    split
    · simp
    · next hn =>
      have hk' : 0 < k := by
        rcases Nat.eq_zero_or_pos k with rfl | hk'
        · simp at h; omega
        · exact hk'
      have := ih hk' (n := n / 16) (by rw [Nat.pow_eq, Nat.pow_succ] at h; rw [Nat.pow_eq]; omega)
      simpa using this

end Chip8.Text
