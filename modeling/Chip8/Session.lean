/-
A session: one program run from a file to its final screen.

`Session.run` loads the settings, then the program, carries out a number of
instructions, prints the screen, and saves it as an image if that is asked for.
A fault ends the run, but not the session: the screen of the last instruction
that succeeded is printed all the same.

* `Session.start_of_load_error` — nothing is printed and no program is read
  if the settings do not load;
* `Session.ofOptions?` is the session that named options ask for.

Design notes: what a session prints and saves is part of its `Report`, also when
it fails.  All that a session needs from outside is a `Host`, which also says how
settings are loaded; `Session.load` is how a loader does it.
The path of the settings is collapsed before it is followed, the other paths are
followed as they stand.
-/
import Chip8.Files
import Chip8.Machine
import Chip8.Picture.Format
import Chip8.Picture.Text
import Chip8.Settings.Merge

namespace Chip8

/-- How a machine of some settings shows what it does. -/
def Settings.machineConfig (settings : Settings) (bar : Bar) : Machine.Config where
  tracing := settings.trace
  progress := settings.progress
  bar := bar

/-- How a machine of some settings reports. -/
def Settings.journal (settings : Settings) (console : Log.Console) : Log.Journal :=
  Log.Journal.create
    { name := "Machine"
      level := settings.logLevel
      colors := settings.useColors
      timestamps := settings.showTimestamps } console

/-- What a session loads its settings from. -/
inductive Session.Config where
  /-- The defaults. -/
  | standard
  /-- The file at a path. -/
  | file (path : String)
  /-- A value that is given. -/
  | given (source : Value)

/-- What a session is asked to do. -/
structure Session where
  /-- The file that holds the program. -/
  rom : String
  /-- How many instructions to carry out, if that is a number. -/
  steps : Option Int := some 700
  config : Session.Config := .standard
  /-- The file to save the final screen to. -/
  image : Option String := none
  /-- Settings that count more than those of the file. -/
  overrides : Settings.Entries := []

namespace Session

/-- Why a session fails. -/
inductive Error where
  | settings (error : Settings.Error)
  | file (error : FileError)
  /-- The file with the settings is no text. -/
  | notText
  /-- The program does not fit in memory. -/
  | fault (fault : Fault)
  /-- The number of instructions is no number. -/
  | noSteps
  /-- More instructions were asked for than a run can count. -/
  | tooLong
  /-- There is no picture of the screen. -/
  | picture (error : Picture.Error)
  /-- The extension of the image file stands for no format. -/
  | unknownFormat
deriving DecidableEq, Repr

/-- The sentence that describes an error. -/
def Error.message : Error → String
  | settings error => error.message
  | file error => error.message
  | notText => "The file with the settings is no text"
  | fault f => f.name ++ ": " ++ f.message
  | noSteps => "The number of instructions is no integer"
  | tooLong => "A run of so many instructions cannot be counted"
  | picture _ => "The screen cannot be shown as an image"
  | unknownFormat => "The extension of the image file stands for no format"

/-- What a session is run on. -/
structure Host where
  files : Files
  /-- How settings are loaded from a configuration and overrides. -/
  load : Config → Settings.Entries → Except Error Settings
  /-- What shows how far a run is. -/
  bar : Bar := Bar.hidden
  /-- What there is room for. -/
  memory : Picture.Memory

/-- A frame that was saved. -/
structure Saved where
  path : String
  format : ImageFormat
  picture : Picture

/-- What comes of a session. -/
structure Report where
  /-- The console with all that was printed. -/
  console : Log.Console
  /-- The machine at the end, or the reason why there is none. -/
  result : Except Error Machine
  /-- The frame that was saved, if one was. -/
  saved : Option Saved := none

/-- A text with all line breaks written as one character. -/
def unifyBreaks : List Char → List Char
  | '\r' :: '\n' :: rest => '\n' :: unifyBreaks rest
  | '\r' :: rest => '\n' :: unifyBreaks rest
  | c :: rest => c :: unifyBreaks rest
  | [] => []

/-- The settings of a text and some overrides. -/
def settingsOfText (loader : Settings.Loader) (text : String) (overrides : Settings.Entries) :
    Except Settings.Error Settings := do
  let source ← Settings.sourceOfText loader (String.ofList (unifyBreaks text.toList))
  Settings.load loader source overrides

/-- Loads settings from a configuration and overrides. -/
def load (loader : Settings.Loader) (files : Files) (config : Config)
    (overrides : Settings.Entries) : Except Error Settings :=
  if overrides.any (·.1 = "source") then .error (.settings .reservedKey)
  else
    match config with
    | .standard => (Settings.load loader .null overrides).mapError .settings
    | .given source => (Settings.load loader source overrides).mapError .settings
    | .file path =>
      match files.read (Path.collapse path) with
      | .error e => .error (.file e)
      | .ok bytes =>
        match String.fromUTF8? (ByteArray.mk bytes) with
        | none => .error .notText
        | some text => (settingsOfText loader text overrides).mapError .settings

/-- A host with some files and room for everything, on which no resolvers are registered. -/
def Host.ofFiles (files : Files) : Host where
  files := files
  load := Session.load .plain files
  memory := .unlimited

/-- The settings of a session. -/
def settings (session : Session) (host : Host) : Except Error Settings :=
  host.load session.config session.overrides

/-- Loads the settings and the program. -/
def start (session : Session) (host : Host) (console : Log.Console) :
    Except (Error × Log.Console) Machine :=
  match session.settings host with
  | .error e => .error (e, console)
  | .ok settings =>
    match host.files.read session.rom with
    | .error e => .error (.file e, console)
    | .ok rom =>
      match Machine.load rom (settings.machineConfig host.bar) (settings.journal console) with
      | .error (fault, journal) => .error (.fault fault, journal.console)
      | .ok m => .ok m

/-- Reports how far a run came that a fault has stopped. -/
def reportStop (m : Machine) : Machine :=
  let message := "Stopped after " ++ Nat.repr m.steps ++ " instructions"
  { m with journal := m.journal.report .warning message }

/-- Prints the screen. -/
def printScreen (m : Machine) : Machine :=
  let console := m.journal.console.print (m.state.display.render ++ "\n")
  { m with journal := { m.journal with console } }

/-- Prints the screen at the end of a run, and first how far the run came if a
fault has stopped it. -/
def conclude : Machine × Option Machine.Stop → Except Error Machine
  | (m, none) => .ok (printScreen m)
  | (m, some (.fault _)) => .ok (printScreen (reportStop m))
  | (_, some .tooLong) => .error .tooLong

/-- Carries out the instructions and prints the screen. -/
def play (session : Session) (m : Machine) : Except Error Machine :=
  match session.steps with
  | some steps => conclude (m.run steps)
  | none => .error .noSteps

/-- The screen as it is saved. -/
def frame (memory : Picture.Memory) (m : Machine) : Except Picture.Error Picture :=
  Picture.frameOf? memory ⟨64, 32, Grid.ofDisplay m.state.display⟩ 8 .classic

/-- Saves the screen, if that is asked for. -/
def save (session : Session) (host : Host) (m : Machine) : Report :=
  let fail (e : Error) : Report := { console := m.journal.console, result := .error e }
  match session.image with
  | none | some "" => { console := m.journal.console, result := .ok m }
  | some path =>
    match frame host.memory m, ImageFormat.ofPath? path, host.files.canWrite path with
    | .error e, _, _ => fail (.picture e)
    | .ok _, none, _ => fail .unknownFormat
    | .ok _, some _, .error e => fail (.file e)
    | .ok picture, some format, .ok () =>
      let m := { m with journal := m.journal.report .info ("Saved frame to " ++ path) }
      { console := m.journal.console
        result := .ok m
        saved := some { path, format, picture } }

/-- Runs a session. -/
def run (session : Session) (host : Host) (console : Log.Console) : Report :=
  match session.start host console with
  | .error (e, console) => { console, result := .error e }
  | .ok m =>
    match session.play m with
    | .error e => { console := m.journal.console, result := .error e }
    | .ok m => session.save host m

/-! ### Options -/

/-- The number of instructions that an option gives.  Truth values are numbers. -/
def stepsOf : Value → Option Int
  | .integer n => some n
  | .bool b => some b.toInt
  | _ => none

/-- What an option says about the settings: nothing, a path, or a value. -/
def configOf : Value → Config
  | .null => .standard
  | .text path => .file path
  | source => .given source

/-- The path of the image that an option gives.  A value that is no text names no
file, and its text has no extension of an image. -/
def imageOf (value : Value) : Option String :=
  if value.isNothing then none else some (value.toText?.getD "?")

/-- The options that say how a session goes. -/
def ownOptions : List String := ["steps", "config_file", "image"]

/-- The session that named options ask for.  All other options are settings.  No
option can be given twice. -/
def ofOptions? (rom : String) (options : Settings.Entries) : Option Session :=
  let names := options.map (·.1)
  if names.eraseDups.length < names.length then none
  else some {
    rom
    steps := match options.lookup "steps" with
      | some value => stepsOf value
      | none => some 700
    config := ((options.lookup "config_file").map configOf).getD .standard
    image := (options.lookup "image").bind imageOf
    overrides := options.filter fun (name, _) =>
      !ownOptions.contains name }

theorem start_of_load_error {session : Session} {host : Host} {e : Error}
    (h : session.settings host = .error e) (console : Log.Console) :
    session.start host console = .error (e, console) := by
  simp [start, h]

end Session

end Chip8
