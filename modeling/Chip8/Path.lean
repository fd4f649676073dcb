/-
Paths of files.

A path is a text of names between slashes.  Empty names and single dots mean
nothing, and two dots lead one directory up.

* `extension` is the part of a file name from its last dot on;
* `collapse` resolves two dots by the text alone, without a look at the files.
-/
namespace Chip8.Path

/-- The names of a path. -/
def names (path : String) : List String :=
  (path.splitOn "/").filter fun name => name ≠ "" && name ≠ "."

/-- Whether a path starts at the root of all directories. -/
def isAbsolute (path : String) : Bool := path.startsWith "/"

/-- Whether a path asks for a directory by its last character. -/
def asksForDirectory (path : String) : Bool :=
  path.endsWith "/" || path.endsWith "/."

/-- The extension of a path: from the last dot of its last name on.  Dots at the
start of the name do not count. -/
def extension (path : String) : String :=
  let last := (path.splitOn "/").getLast?.getD ""
  let body := last.toList.dropWhile (· = '.')
  if body.contains '.' then
    String.ofList ('.' :: (body.reverse.takeWhile (· ≠ '.')).reverse)
  else ""

/-- Adds a name to names that are kept the last one first.  Two dots take a name
away, if there is one; above the root there is nothing. -/
def step (absolute : Bool) (before : List String) (name : String) : List String :=
  if name ≠ ".." then name :: before
  else
    match before with
    | [] => if absolute then [] else [".."]
    | last :: rest => if last = ".." then name :: last :: rest else rest

/-- A path without empty names, single dots, and names that two dots take back. -/
def collapse (path : String) : String :=
  let absolute := isAbsolute path
  let kept := ((names path).foldl (step absolute) []).reverse
  if absolute then "/" ++ "/".intercalate kept
  else if kept.isEmpty then "."
  else "/".intercalate kept

end Chip8.Path
