/-
Why settings cannot be loaded.
-/
import Chip8.Yaml.Cursor

namespace Chip8.Settings

/-- Why settings cannot be loaded.  A key is given with those of the collections
that it lies in. -/
inductive Error where
  /-- No field has this key. -/
  | unknownKey (key : String)
  /-- The value given for this key does not fit. -/
  | badValue (key : String)
  /-- The value of a text is an integer with too many digits. -/
  | tooManyDigits
  /-- A key of the collection with this key is no single value. -/
  | noKey (key : String)
  /-- Collections are nested too deep. -/
  | tooDeep
  /-- The value of this key is of a kind that settings do not know. -/
  | unknownKind (key : String)
  /-- The value of this key has a reference that is not well formed. -/
  | malformedReference (key : String)
  /-- The value of this key refers to no field. -/
  | unknownReference (key : String)
  /-- The value of this key refers to itself. -/
  | circularReference (key : String)
  /-- What the value of this key refers to cannot be found out. -/
  | failedReference (key : String)
  /-- What the value of this key refers to does not fit. -/
  | badReference (key : String)
  /-- The source is no mapping. -/
  | notAMapping
  /-- An override has the name of the source. -/
  | reservedKey
  /-- The document is a single value and no text. -/
  | singleValue
  /-- The document is a text that stands for a single value. -/
  | singleText
  /-- The document cannot be read. -/
  | document (error : Yaml.Error)
deriving DecidableEq, Repr

/-- The sentence that describes an error. -/
def Error.message : Error → String
  | unknownKey key => "There is no setting '" ++ key ++ "'"
  | badValue key => "The value of '" ++ key ++ "' does not fit"
  | tooManyDigits => "A number has too many digits to be written out"
  | noKey key => "A setting has no name in '" ++ key ++ "'"
  | tooDeep => "The settings are nested too deep"
  | unknownKind key => "The value of '" ++ key ++ "' is of a kind that settings do not know"
  | malformedReference key => "The value of '" ++ key ++ "' has a reference that is not closed"
  | unknownReference key => "The value of '" ++ key ++ "' refers to no setting"
  | circularReference key => "The value of '" ++ key ++ "' refers to itself"
  | failedReference key => "What the value of '" ++ key ++ "' refers to cannot be found out"
  | badReference key => "What the value of '" ++ key ++ "' refers to does not fit"
  | notAMapping => "The settings are a list"
  | reservedKey => "There is no setting 'source'"
  | singleValue | singleText => "The settings are a single value"
  | document error => "The settings cannot be read: " ++ error.message

end Chip8.Settings
