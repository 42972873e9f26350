/-
Files as a run sees them: directories, files with text or other bytes, and
a device that is always full, each under the path of names that leads to
it. A run is a function of such a file system.
-/
import PermScript.Config.Error

namespace PermScript

open PermScript.Config (FileError)

/-- What a file holds. -/
inductive Content
  | text (text : String)
  /-- Bytes that are no text. -/
  | binary
  deriving DecidableEq, Repr, Inhabited

/-- The text of a content. -/
def Content.read : Content → Except FileError String
  | text s => .ok s
  | binary => .error .notText

/-- What stands under a path. -/
inductive Entry
  | directory
  | file (content : Content)
  | fullDevice
  deriving DecidableEq, Repr

/-- The names that lead to an entry from the working directory; the root
directory is named by a slash. -/
abbrev Path := List String

/-- A file system. The working directory has the empty path. -/
structure FileSystem where
  entry? : Path → Option Entry

namespace FileSystem

/-- The root directory. -/
def root : Path := ["/"]

/-- A file system with an empty working directory, the directories above it
and the full device. -/
def fresh : FileSystem where
  entry? p :=
    if p.all (· == "..") || p == root || p == ["/", "dev"] then some .directory
    else if p = ["/", "dev", "full"] then some .fullDevice
    else none

/-- The file system with one entry set. -/
def set (fs : FileSystem) (path : Path) (entry : Entry) : FileSystem where
  entry? p := if p = path then some entry else fs.entry? p

/-- One step of a path from a directory: a name, the directory itself or
the one above. A directory above the working directory is named by dots. -/
def step (here : Path) (name : String) : Path :=
  if name == "" || name == "." then here
  else if name == ".." then
    if here == root then root
    else if here.all (· == "..") then here ++ [name]
    else here.dropLast
  else here ++ [name]

/-- Follows names through directories that are there. -/
def descend (fs : FileSystem) (here : Path) : List String → Except FileError Path
  | [] => .ok here
  | name :: names =>
    match fs.entry? (step here name) with
    | some .directory => fs.descend (step here name) names
    | some _ => .error .notDirectory
    | none => .error .notFound

/-- The parts of a path between its slashes. -/
def splitPath (path : List Char) : List String :=
  match path with
  | [] => [""]
  | '/' :: cs => "" :: splitPath cs
  | c :: cs =>
    match splitPath cs with
    | [] => [String.ofList [c]]
    | part :: parts => String.ofList (c :: part.toList) :: parts

/-- Where a path leads. All directories on the way have to be there; the
last name need not. -/
def locate (fs : FileSystem) (path : String) : Except FileError Path := do
  if path.toList.contains '\x00' then .error .nullInPath
  let parts := splitPath path.toList
  let start := if path.toList.head? == some '/' then root else []
  let directory ← fs.descend start parts.dropLast
  return step directory (parts.getLastD "")

/-- Reads a file. -/
def read (fs : FileSystem) (path : String) : Except FileError String := do
  match fs.entry? (← fs.locate path) with
  | some (.file content) => content.read
  | some .directory => .error .isDirectory
  | some .fullDevice => .error (.other "Cannot allocate memory (os error 12)")
  | none => .error .notFound

/-- A path without the slashes at its end. -/
def dropEndSlashes (path : String) : String :=
  String.ofList (path.toList.reverse.dropWhile (· == '/')).reverse

/-- Writes a file anew. A path that ends in a slash can only name a
directory, there or not; nothing at all can be written to a full device. -/
def write (fs : FileSystem) (path text : String) : Except FileError FileSystem := do
  let place ← fs.locate (dropEndSlashes path)
  if path.toList.getLast? == some '/' then .error .isDirectory
  match fs.entry? place with
  | some .directory => .error .isDirectory
  | some .fullDevice => if text.isEmpty then .ok fs else .error .noSpace
  | _ => .ok (fs.set place (.file (.text text)))

end FileSystem

end PermScript
