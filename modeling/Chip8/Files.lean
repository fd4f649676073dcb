/-
Files, as a session sees them.

`Files` answers what a file holds and whether a file can be created.  A
`Directory` is a list of files in memory that answers in the same way as a
directory of a file system does: it tells a missing file, a directory and a file
in the way of a path apart.

Design notes: every file brings the directories on its way.  Nothing is known
outside the directory, but the way up is there.
-/
import Chip8.Path
import Chip8.Word

namespace Chip8

/-- Why a file cannot be opened. -/
inductive FileError where
  | notFound
  | isDirectory
  /-- A file stands where the path has a directory. -/
  | notDirectory
  /-- A name is longer than any file's can be. -/
  | nameTooLong
  /-- The path has a character that no path can have. -/
  | badCharacter
deriving DecidableEq, Repr

/-- The sentence that describes an error. -/
def FileError.message : FileError → String
  | notFound => "There is no such file or directory"
  | isDirectory => "This is a directory"
  | notDirectory => "This is not a directory"
  | nameTooLong => "The name of the file is too long"
  | badCharacter => "A path cannot hold this character"

/-- What can be asked about files. -/
structure Files where
  /-- The bytes of the file at a path. -/
  read : String → Except FileError (Array Byte)
  /-- Whether a file can be written at a path. -/
  canWrite : String → Except FileError Unit

/-- Files in memory with their paths. -/
abbrev Directory := List (String × Array Byte)

namespace Directory

/-- The number of bytes that a name may have. -/
def nameLimit : Nat := 255

/-- The number of bytes that a path may have. -/
def pathLimit : Nat := 4095

/-- A place among the directories. -/
inductive Place where
  /-- The directory with these names below the known one. -/
  | inside (names : List String)
  /-- A directory that the known one lies in. -/
  | outside

/-- What a path leads to. -/
inductive Target where
  | directory
  | file (bytes : Array Byte)
  /-- Nothing, but in a directory that exists. -/
  | free

/-- The directory that a directory lies in. -/
def Place.up : Place → Place
  | inside [] | outside => outside
  | inside (name :: names) => inside (name :: names).dropLast

/-- Whether names lead to a directory: they are on the way to some file. -/
def hasDirectory (d : Directory) (names : List String) : Bool :=
  d.any fun (path, _) =>
    names.length < (Path.names path).length && names.isPrefixOf (Path.names path)

/-- The bytes of the file that names lead to. -/
def bytesAt? (d : Directory) (names : List String) : Option (Array Byte) :=
  (d.find? fun (path, _) => Path.names path = names).map (·.2)

/-- What names lead to, from a place on. -/
def walk (d : Directory) : Place → List String → Except FileError Target
  | _, [] => .ok .directory
  | place, name :: rest =>
    if nameLimit < name.utf8ByteSize then .error .nameTooLong
    else if name = ".." then d.walk place.up rest
    else
      let missing : Except FileError Target :=
        if rest.isEmpty then .ok .free else .error .notFound
      match place with
      | .outside => missing
      | .inside names =>
        let here := names ++ [name]
        if d.hasDirectory here then d.walk (.inside here) rest
        else
          match d.bytesAt? here with
          | some bytes => if rest.isEmpty then .ok (.file bytes) else .error .notDirectory
          | none => missing

/-- What a path leads to. -/
def lookUp (d : Directory) (path : String) : Except FileError Target :=
  if path.contains '\x00' then .error .badCharacter
  else if path.isEmpty then .error .notFound
  else if pathLimit < path.utf8ByteSize then .error .nameTooLong
  else d.walk (if Path.isAbsolute path then .outside else .inside []) (Path.names path)

/-- The bytes of the file at a path. -/
def read (d : Directory) (path : String) : Except FileError (Array Byte) := do
  match ← d.lookUp path with
  | .directory => throw .isDirectory
  | .free => throw .notFound
  | .file bytes => if Path.asksForDirectory path then throw .notDirectory else return bytes

/-- Whether a file can be written at a path. -/
def canWrite (d : Directory) (path : String) : Except FileError Unit := do
  match ← d.lookUp path with
  | .directory => throw .isDirectory
  | .free => if Path.asksForDirectory path then throw .isDirectory else return
  | .file _ => if Path.asksForDirectory path then throw .notDirectory else return

/-- The files of a directory. -/
def files (d : Directory) : Files := { read := d.read, canWrite := d.canWrite }

end Directory

end Chip8
