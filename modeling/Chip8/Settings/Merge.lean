/-
Settings of a machine, merged from several sources.

`Settings.load` starts from the defaults, and puts in the entries of a source
and then the entries of the overrides, each in order.  The first entry that has
an unknown key or a value that does not fit is an error, even where a later
entry would replace it.  What no settings could hold at all is found before, by
`Settings.checkSource`, however deep it lies.

* `Draft.assign_missing` — a value that is marked as missing changes nothing.

Design notes: a text that refers to other settings cannot be converted when it
is put in.  What it stands for is kept, and resolved when all entries are there.  A
chain of references that is longer than there are fields goes in a circle.
-/
import Chip8.Settings.Check
import Chip8.Yaml.Document

namespace Chip8

namespace Settings

/-- Entries in order. -/
abbrev Entries := List (String × Value)

/-! ### Drafts -/

/-- What a field holds before references are resolved. -/
inductive Slot where
  /-- A converted value. -/
  | value (v : Value)
  /-- What a text that refers to other fields stands for. -/
  | reference (r : Reference)

/-- What all fields hold. -/
abbrev Draft := Field → Slot

/-- The text that marks a value as missing. -/
def missing : String := "???"

namespace Draft

/-- The draft with the defaults. -/
def default : Draft := fun field =>
  let d : Settings := {}
  match field with
  | .logLevel => .value (.text d.logLevel)
  | .useColors => .value (.bool d.useColors)
  | .showTimestamps => .value (.bool d.showTimestamps)
  | .trace => .value (.bool d.trace)
  | .progress => .value (.bool d.progress)

/-- The draft with something else in a field. -/
def set (d : Draft) (field : Field) (slot : Slot) : Draft :=
  fun f => if f = field then slot else d f

/-- Puts an entry in.  A value that is marked as missing leaves the field as it
is. -/
def assign (loader : Loader) (d : Draft) (key : String) (value : Value) :
    Except Error Draft :=
  match Field.ofName? key with
  | none => .error (.unknownKey key)
  | some field =>
    let convert : Except Error Draft :=
      if field = .logLevel ∧ value.isTooLong then .error .tooManyDigits
      else
        match field.convert? value with
        | some v => .ok (d.set field (.value v))
        | none => .error (.badValue key)
    match value with
    | .text s =>
      if s = missing then .ok d
      else if Template.mentions s then
        match loader.reference? s with
        | some r => .ok (d.set field (.reference r))
        | none => .error (.malformedReference key)
      else convert
    | _ => convert

/-- Puts entries in, in order, up to the first error. -/
def assignAll (loader : Loader) : Entries → Draft → Except Error Draft
  | [], d => .ok d
  | (key, value) :: rest, d => (d.assign loader key value).bind (assignAll loader rest)

theorem assign_missing (loader : Loader) (d : Draft) (field : Field) :
    d.assign loader field.name (.text missing) = .ok d := by
  simp [assign, Field.ofName?_name]

/-! ### References -/

/-- The value of a field, over a chain of so many references at most. -/
def resolve (d : Draft) : Nat → Lookup
  | 0, _ => .error .circular
  | fuel + 1, field =>
    match d field with
    | .value v => .ok v
    | .reference r => do
      let v ← r (d.resolve fuel)
      match field.convert? v with
      | some v => return v
      | none => throw (.unfit field)

/-- The value of a field, with all references resolved. -/
def final (d : Draft) (field : Field) : Except Error Value :=
  match d.resolve (Field.all.length + 1) field with
  | .ok v => .ok v
  | .error .unknown => .error (.unknownReference field.name)
  | .error .circular => .error (.circularReference field.name)
  | .error .failed => .error (.failedReference field.name)
  | .error (.unfit inner) => .error (.badReference inner.name)

/-- A field that holds a truth value. -/
def finalBool (d : Draft) (field : Field) : Except Error Bool := do
  return (← d.final field).toBool?.getD false

/-- The settings of a draft.  Fields are resolved in order. -/
def finish (d : Draft) : Except Error Settings := do
  let logLevel := (← d.final .logLevel).toText?.getD ""
  let useColors ← d.finalBool .useColors
  let showTimestamps ← d.finalBool .showTimestamps
  let trace ← d.finalBool .trace
  let progress ← d.finalBool .progress
  return { logLevel, useColors, showTimestamps, trace, progress }

end Draft

/-! ### Loading -/

/-- The entries of a mapping, with the texts of their keys. -/
def entriesOf (pairs : List (Value × Value)) : Entries :=
  pairs.filterMap fun (key, value) => key.keyText?.map fun name => (name, value)

/-- The entries of a source.  Nothing at all is a source without entries. -/
def sourceEntries : Value → Except Error Entries
  | .null => .ok []
  | .mapping pairs => .ok (entriesOf pairs)
  | .list _ => .error .notAMapping
  | _ => .error (.badValue "")

/-- Loads settings from a source and overrides.  Both are checked before the
entries are looked at. -/
def load (loader : Loader) (source : Value) (overrides : Entries) : Except Error Settings := do
  if overrides.any (·.1 = "source") then throw .reservedKey
  checkSource loader source
  checkSource loader (.mapping (overrides.map fun (key, value) => (.text key, value)))
  let d ← Draft.assignAll loader (← sourceEntries source) Draft.default
  let d ← Draft.assignAll loader overrides d
  d.finish

/-! ### Documents -/

/-- Reads the source that a document holds.  A document that is a text is read
once more; if it is a text still, it is a key without a value. -/
def sourceOfText (loader : Loader) (text : String) : Except Error Value := do
  match ← (Value.ofYaml? loader.sizeLimit text).mapError .document with
  | .null => return .mapping []
  | .mapping pairs => return .mapping pairs
  | .list items => return .list items
  | .text inner =>
    match ← (Value.ofYaml? loader.sizeLimit inner).mapError .document with
    | .null => return .mapping []
    | .mapping pairs => return .mapping pairs
    | .list items => return .list items
    | .text key => return .mapping [(.text key, .null)]
    | _ => throw .singleText
  | _ => throw .singleValue

end Settings

end Chip8
