/-
What settings could hold.

A source of settings may hold values for fields that do not exist, and
collections although no field can hold one.  Before the fields are looked at,
`check` walks through all of it, and refuses what no value could be: a key that is
no single value, a value of an unknown kind, a reference that is not well formed.

* `trailText_cons_key`, `trailText_cons_item` — where an error lies is written
  with points and brackets.

Design notes: a trail names the steps from a value out to the source, so the text
of a trail is put together from its end.
-/
import Chip8.Settings.Error
import Chip8.Settings.Loader

namespace Chip8.Settings

/-! ### Trails -/

/-- A step into a collection. -/
inductive Step where
  | key (name : String)
  | item (index : Nat)
deriving DecidableEq, Repr

namespace Step

/-- The text of a step. -/
def text : Step → String
  | key name => name
  | item index => "[" ++ index.repr ++ "]"

/-- The text of a step without brackets. -/
def bareText : Step → String
  | key name => name
  | item index => index.repr

/-- Whether a step leads into a list. -/
def isItem : Step → Bool
  | item _ => true
  | key _ => false

/-- Whether a step has a text. -/
def isNamed : Step → Bool
  | key name => !name.isEmpty
  | item _ => true

end Step

/-- The steps to a value, from the last one to the first. -/
abbrev Trail := List Step

/-- A text with the steps in front of it.  A point stands in front of a key, unless
the text is empty. -/
def behind (outer : Trail) (isItem : Bool) (text : String) : String :=
  match outer with
  | [] => text
  | step :: outer =>
    let joint := if isItem || text.isEmpty then "" else "."
    behind outer step.isItem (step.text ++ joint ++ text)

/-- The text for the collection at the end of a trail. -/
def collectionText : Trail → String
  | [] => ""
  | step :: outer => behind outer step.isItem step.bareText

/-- The text for the value at the end of a trail.  A key without a text does not
show: the collection that it belongs to stands in its place. -/
def trailText : Trail → String
  | [] => ""
  | step :: outer =>
    if step.isNamed then behind outer step.isItem step.text else collectionText outer

theorem trailText_cons_key (outer name : String) (h : name.isEmpty = false) :
    trailText [.key name, .key outer] = outer ++ "." ++ name := by
  simp [trailText, behind, Step.isNamed, Step.isItem, Step.text, h]

theorem trailText_cons_item (outer : String) (index : Nat) :
    trailText [.item index, .key outer] = outer ++ "[" ++ index.repr ++ "]" := by
  simp [trailText, behind, Step.isNamed, Step.isItem, Step.text, String.append_assoc]

/-! ### Checks -/

/-- Whether a text refers to something in a way that is not well formed. -/
def isMalformed (loader : Loader) (s : String) : Bool :=
  Template.mentions s && (loader.reference? s).isNone

/-- What is wrong with a key that is no single value. -/
def keyError (trail : Trail) : Value → Error
  | .moment _ => .noKey ""
  | _ => .noKey (collectionText trail)

section

variable (loader : Loader)

mutual

/-- Checks a value at the end of a trail. -/
def check (trail : Trail) : Value → Except Error Unit
  | .text s =>
    if isMalformed loader s then .error (.malformedReference (trailText trail)) else .ok ()
  | .list items =>
    if loader.depthLimit < trail.length then .error .tooDeep else checkItems trail 0 items
  | .mapping entries =>
    if loader.depthLimit < trail.length then .error .tooDeep else checkEntries trail entries
  | .set _ | .moment _ => .error (.unknownKind (trailText trail))
  | _ => .ok ()

/-- Checks the items of a list, from an index on. -/
def checkItems (trail : Trail) (index : Nat) : List Value → Except Error Unit
  | [] => .ok ()
  | item :: rest =>
    (check (.item index :: trail) item).bind fun _ => checkItems trail (index + 1) rest

/-- Checks the entries of a mapping. -/
def checkEntries (trail : Trail) : List (Value × Value) → Except Error Unit
  | [] => .ok ()
  | (key, value) :: rest =>
    match key.keyText? with
    | none => .error (keyError trail key)
    | some name => (check (.key name :: trail) value).bind fun _ => checkEntries trail rest

end

end

/-- Checks a source.  Nothing at all is one, but no other single value is. -/
def checkSource (loader : Loader) : Value → Except Error Unit
  | .null => .ok ()
  | .list items => check loader [] (.list items)
  | .mapping entries => check loader [] (.mapping entries)
  | _ => .error (.badValue "")

end Chip8.Settings
