/-
Bytes written in base 64.

Four characters stand for three bytes.  Characters outside the alphabet are
skipped, and equals signs fill up the last group of four; what comes behind them
is not looked at.
-/
namespace Chip8.Text.Base64

/-- The value of a character of the alphabet. -/
def value? (c : Char) : Option Nat :=
  if 'A' ≤ c ∧ c ≤ 'Z' then some (c.toNat - 0x41)
  else if 'a' ≤ c ∧ c ≤ 'z' then some (c.toNat - 0x61 + 26)
  else if '0' ≤ c ∧ c ≤ '9' then some (c.toNat - 0x30 + 52)
  else if c = '+' then some 62
  else if c = '/' then some 63
  else none

/-- The bytes that a group of values stands for; the last group may lack one or
two of them. -/
def groupBytes : List Nat → List UInt8
  | [a, b] => [UInt8.ofNat (4 * a + b / 16)]
  | [a, b, c] => [UInt8.ofNat (4 * a + b / 16), UInt8.ofNat (b % 16 * 16 + c / 4)]
  | [a, b, c, d] =>
    [UInt8.ofNat (4 * a + b / 16), UInt8.ofNat (b % 16 * 16 + c / 4),
     UInt8.ofNat (c % 4 * 64 + d)]
  | _ => []

/-- The bytes of a text behind the values of a group that has been started, and
behind so many equals signs in a row. -/
def decodeFrom? (group : List Nat) (fill : Nat) : List Char → Option (List UInt8)
  | [] => if group.isEmpty then some [] else none
  | c :: rest =>
    if c = '=' then
      if 2 ≤ group.length ∧ 4 ≤ group.length + fill + 1 then some (groupBytes group)
      else decodeFrom? group (if 2 ≤ group.length then fill + 1 else fill) rest
    else
      match value? c with
      | none => decodeFrom? group fill rest
      | some v =>
        let group := group ++ [v]
        if group.length = 4 then (decodeFrom? [] 0 rest).map (groupBytes group ++ ·)
        else decodeFrom? group 0 rest

/-- The bytes of a text. -/
def decode? (cs : List Char) : Option (List UInt8) := decodeFrom? [] 0 cs

end Chip8.Text.Base64
