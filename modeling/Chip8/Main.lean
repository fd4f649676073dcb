/-
The program: runs a file and prints its final screen.

Only this module reads and writes.  What is printed and saved is decided by
`Session`; the instructions are carried out one at a time here, so that every
line shows the time at which it was printed.
-/
import Chip8.CommandLine

namespace Chip8.Main

/-- How the program is called. -/
def usage : String :=
  "usage: chip8 ROM [--steps STEPS] [--config CONFIG] [--image IMAGE] [--trace]"

/-- The present time in seconds. -/
def seconds : IO Float := do
  return (← IO.monoMsNow).toFloat / 1000.0

/-- Shows what a console has printed, and gives the console the present time. -/
def refresh (console : Log.Console) : IO Log.Console := do
  unless console.printed.isEmpty do
    let out ← IO.getStdout
    out.putStr console.text
    out.flush
  return { console.erase with clock := Log.Clock.stopped (← seconds) }

/-- The machine with its console refreshed. -/
def refreshMachine (m : Machine) : IO Machine := do
  return { m with journal := { m.journal with console := ← refresh m.journal.console } }

/-- What an error of the system says about a file. -/
def fileError : IO.Error → FileError
  | .inappropriateType .. => .isDirectory
  | _ => .notFound

/-- The bytes of a file. -/
def readFile (path : String) : IO (Except FileError (Array Byte)) := do
  try
    return .ok (← IO.FS.readBinFile path).data
  catch e => return .error (fileError e)

/-- Writes bytes to a file. -/
def writeFile (path : String) (bytes : List Byte) : IO (Except FileError Unit) := do
  try
    IO.FS.writeBinFile path (ByteArray.mk bytes.toArray)
    return .ok ()
  catch e => return .error (fileError e)

/-- The files that a session reads, and the answer to whether its image could be
written. -/
def filesOf (session : Session) (written : Except FileError Unit) : IO Files := do
  let rom ← readFile session.rom
  let settings ←
    match session.config with
    | .file path => readFile (Path.collapse path)
    | _ => pure (.error .notFound)
  return {
    read := fun path =>
      match session.config with
      | .file config =>
        if path = Path.collapse config then settings
        else if path = session.rom then rom
        else .error .notFound
      | _ => if path = session.rom then rom else .error .notFound
    canWrite := fun _ => written }

/-- Shows how far a run is. -/
def showProgress (done total : Nat) : IO Unit := do
  if done = total || done % (total / 100 + 1) = 0 then
    IO.eprint ("\rExecuting: " ++ Nat.repr done ++ "/" ++ Nat.repr total)
    if done = total then IO.eprintln ""

/-- Carries out so many instructions, up to the first fault. -/
def runFor (total : Nat) : Nat → Machine → IO (Machine × Option Machine.Stop)
  | 0, m => return (m, none)
  | left + 1, m => do
    let m ← refreshMachine m
    match m.run 1 with
    | (m, none) =>
      if m.config.progress then showProgress (total - left) total
      runFor total left m
    | (m, stop) => return (m, stop)

/-- Carries out so many instructions, if a run can count them. -/
def run (steps : Int) (m : Machine) : IO (Machine × Option Machine.Stop) :=
  if steps ≤ Machine.runLimit then runFor steps.toNat steps.toNat m
  else return m.run steps

/-- Writes the final screen to the image file of a session, if it has one. -/
def saveFrame (session : Session) (host : Session.Host) (m : Machine) :
    IO (Except FileError Unit) :=
  match session.image with
  | none | some "" => return .ok ()
  | some path =>
    match ImageFormat.ofPath? path, Session.frame host.memory m with
    | some format, .ok picture => writeFile path (format.encode picture)
    | _, _ => return .ok ()

/-- Reports an error, and gives the exit code for it. -/
def fail (error : Session.Error) : IO UInt32 := do
  IO.eprintln error.message
  return 1

/-- Runs a session, and gives the exit code. -/
def runSession (session : Session) : IO UInt32 := do
  let files ← filesOf session (.ok ())
  let host := Session.Host.ofFiles files
  let console : Log.Console :=
    { clock := Log.Clock.stopped (← seconds), isTerminal := ← (← IO.getStdout).isTty }
  match session.start host console with
  | .error (e, console) =>
    let _ ← refresh console
    fail e
  | .ok m =>
    let some steps := session.steps | do
      let _ ← refreshMachine m
      fail .noSteps
    let (m, stop) ← run steps m
    let m ← refreshMachine m
    match Session.conclude (m, stop) with
    | .error e => fail e
    | .ok m =>
      let written ← saveFrame session host m
      let m ← refreshMachine m
      let files := { files with canWrite := fun _ => written }
      let report := session.save { host with files } m
      let _ ← refresh report.console
      match report.result with
      | .error e => fail e
      | .ok _ => return 0

end Chip8.Main

/-- Runs the session that the arguments ask for. -/
def main (args : List String) : IO UInt32 :=
  match Chip8.CommandLine.session? args with
  | some session => Chip8.Main.runSession session
  | none => do
    IO.eprintln Chip8.Main.usage
    return 2
