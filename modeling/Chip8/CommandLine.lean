/-
The command line: the arguments of a session.

One argument names the program, and options may stand anywhere around it.  An
option may be shortened as long as it stays the only one, and its value may be
attached with an equals sign or follow as an argument of its own.  Of several
values the last counts.

* `Arguments.parse?` reads the arguments, or refuses them;
* `Arguments.session` is the session that they ask for.

Design notes: an argument that starts with a dash is still no option if it is a
number, or if it holds a space.  Two dashes end the options; attached to an option
they leave it without a value, which is an empty list.
-/
import Chip8.Session

namespace Chip8.CommandLine

/-- The options. -/
inductive Flag where
  | steps
  | config
  | image
  | trace
  | help
deriving DecidableEq, Repr

namespace Flag

/-- All options. -/
def all : List Flag := [steps, config, image, trace, help]

/-- How an option is written. -/
def name : Flag → String
  | steps => "--steps"
  | config => "--config"
  | image => "--image"
  | trace => "--trace"
  | help => "--help"

/-- The options whose names start with a text. -/
def matching (start : String) : List Flag :=
  all.filter fun flag => start.toList.isPrefixOf flag.name.toList

end Flag

/-- What an argument can be. -/
inductive Argument where
  | positional
  /-- An option, with the value attached to it. -/
  | option (flag : Flag) (attached : Option String)
  /-- An option that does not exist, or that several options could mean. -/
  | refused
deriving DecidableEq, Repr

/-- Whether a text behind a dash is a number.  A line break at its end does not
count. -/
def isNumber (cs : List Char) : Bool :=
  let isDigit (c : Char) : Bool := (Text.digitValue? c).isSome
  let cs := if cs.getLast? = some '\n' then cs.dropLast else cs
  match cs.dropWhile isDigit with
  | [] => !cs.isEmpty
  | '.' :: places => !places.isEmpty && places.all isDigit
  | _ => false

/-- The name of an option, and the value attached to it. -/
def splitValue (arg : String) : String × Option String :=
  let cs := arg.toList
  let name := String.ofList (cs.takeWhile (· ≠ '='))
  match cs.dropWhile (· ≠ '=') with
  | _ :: value => (name, some (String.ofList value))
  | [] => (name, none)

/-- What an argument is, in front of the two dashes that end the options. -/
def classify (arg : String) : Argument :=
  let other (rest : List Char) : Argument :=
    if isNumber rest || rest.contains ' ' then .positional else .refused
  match arg.toList with
  | '-' :: '-' :: rest =>
    let (name, attached) := splitValue arg
    match Flag.matching name with
    | [flag] => .option flag attached
    | [] => other ('-' :: rest)
    | _ => .refused
  | '-' :: 'h' :: _ => .refused
  | '-' :: c :: rest => other (c :: rest)
  | _ => .positional

/-- The arguments of a session. -/
structure Arguments where
  rom : Option String := none
  /-- Whether the argument just read names the program. -/
  atRom : Bool := false
  steps : Option Int := some 700
  config : Session.Config := .standard
  image : Option String := none
  trace : Bool := false

namespace Arguments

/-- Sets an option that takes a value. -/
def set? (a : Arguments) (flag : Flag) (value : String) : Option Arguments :=
  match flag with
  | .steps => (Text.readInteger? value).map fun n => { a with steps := some n, atRom := false }
  | .config => some { a with config := .file value, atRom := false }
  | .image => some { a with image := some value, atRom := false }
  | .trace | .help => none

/-- Sets an option that takes a value to an empty list. -/
def clear? (a : Arguments) (flag : Flag) : Option Arguments :=
  match flag with
  | .steps => some { a with steps := none, atRom := false }
  | .config => some { a with config := .given (.list []), atRom := false }
  | .image => some { a with image := none, atRom := false }
  | .trace | .help => none

/-- Reads what follows the two dashes that end the options. -/
def parseRest? (a : Arguments) (rest : List String) : Option Arguments :=
  match a.rom, rest with
  | none, [rom] => some { a with rom := some rom }
  | some _, [] => if a.atRom then some a else none
  | _, _ => none

/-- Reads arguments. -/
def parseFrom? : Arguments → List String → Option Arguments
  | a, [] => some a
  | a, "--" :: rest => a.parseRest? rest
  | a, arg :: rest =>
    match classify arg with
    | .positional =>
      if a.rom.isSome then none else parseFrom? { a with rom := some arg, atRom := true } rest
    | .option .trace none => parseFrom? { a with trace := true, atRom := false } rest
    | .option flag (some value) =>
      (if value = "--" then a.clear? flag else a.set? flag value).bind (parseFrom? · rest)
    | .option flag none =>
      match rest with
      | value :: rest =>
        if value ≠ "--" && classify value = .positional then
          (a.set? flag value).bind (parseFrom? · rest)
        else none
      | [] => none
    | .refused => none

/-- The session that arguments ask for.  Tracing also lowers the threshold, so
that the traced instructions are seen. -/
def session (a : Arguments) (rom : String) : Session :=
  { rom
    steps := a.steps
    config := a.config
    image := a.image
    overrides :=
      if a.trace then [("trace", .bool true), ("log_level", .text "DEBUG")] else [] }

end Arguments

/-- The session that a command line asks for; `none` if it is wrong. -/
def session? (args : List String) : Option Session := do
  let a ← ({} : Arguments).parseFrom? args
  let rom ← a.rom
  return a.session rom

end Chip8.CommandLine
