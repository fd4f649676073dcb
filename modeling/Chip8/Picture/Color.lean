/-
Colours and colour schemes.

A colour is given by its components; a single component stands for all three.
A `Scheme` is a pair of colours known by name.

* `Color.ofComponents?` refuses a component outside a byte before it looks at
  how many there are, and `Color.ofComponents?_components` reads back what
  `Color.components` gives;
* `Scheme.ofName?_name` — the names of the schemes differ.
-/
namespace Chip8

/-- A colour: the amounts of red, green and blue. -/
structure Color where
  red : Fin 256
  green : Fin 256
  blue : Fin 256
deriving DecidableEq, Repr

/-- Why components make no colour. -/
inductive ColorError where
  /-- A component is no byte. -/
  | outOfRange
  /-- There are neither one nor three components. -/
  | wrongCount
deriving DecidableEq, Repr

namespace Color

def black : Color := ⟨0, 0, 0⟩

/-- The components of a colour, red first. -/
def components (c : Color) : List Int :=
  [c.red.val, c.green.val, c.blue.val]

/-- A component as a byte. -/
def component? (n : Int) : Option (Fin 256) :=
  if 0 ≤ n ∧ n < 256 then some (Fin.ofNat 256 n.toNat) else none

/-- The colour with some components. -/
def ofComponents? (components : List Int) : Except ColorError Color :=
  match components.mapM component? with
  | none => .error .outOfRange
  | some [c] => .ok ⟨c, c, c⟩
  | some [r, g, b] => .ok ⟨r, g, b⟩
  | some _ => .error .wrongCount

theorem component?_val (b : Fin 256) : component? b.val = some b := by
  have hbyte : Fin.ofNat 256 b.val = b := Fin.ofNat_val_eq_self b
  rw [component?, if_pos (by omega), Int.toNat_natCast, hbyte]

theorem ofComponents?_components (c : Color) : ofComponents? c.components = .ok c := by
  have hmap : c.components.mapM component? = some [c.red, c.green, c.blue] := by
    simp [components, component?_val]
  rw [ofComponents?, hmap]

end Color

/-- The colour schemes. -/
inductive Scheme where
  | classic
  | amber
  | white
  | blue
  | retro
deriving DecidableEq, Repr

namespace Scheme

/-- All schemes, in the order in which they are offered. -/
def all : List Scheme := [classic, amber, white, blue, retro]

/-- The name of a scheme. -/
def name : Scheme → String
  | classic => "classic"
  | amber => "amber"
  | white => "white"
  | blue => "blue"
  | retro => "retro"

/-- The colour of a lit cell. -/
def on : Scheme → Color
  | classic => ⟨0, 255, 0⟩
  | amber => ⟨255, 176, 0⟩
  | white => ⟨255, 255, 255⟩
  | blue => ⟨0, 255, 255⟩
  | retro => ⟨255, 255, 0⟩

/-- The colour of a dark cell. -/
def off : Scheme → Color
  | classic | amber | white => ⟨0, 0, 0⟩
  | blue => ⟨0, 0, 64⟩
  | retro => ⟨64, 0, 64⟩

/-- The scheme with a name. -/
def ofName? (name : String) : Option Scheme :=
  all.find? fun scheme => scheme.name = name

/-- What is said about a name that no scheme has. -/
def unknownMessage (name : String) : String :=
  "Unknown color scheme '" ++ name ++ "'. Available: ["
    ++ ", ".intercalate (all.map fun scheme => "'" ++ scheme.name ++ "'") ++ "]"

theorem ofName?_name (scheme : Scheme) : ofName? scheme.name = some scheme := by
  cases scheme <;> decide +kernel

end Scheme

end Chip8
