import Rollout.Path
import Rollout.Unicode.Utf8

/-!
A tree of files and directories, and the ways in which it is read and changed. A path is walked
name by name; everything in front of a name has to be a directory. Relative paths start in the
working directory.
-/
namespace Rollout

inductive FileError where
  | notFound
  | exists
  | notDirectory
  | isDirectory
  | nameTooLong
  | nulInName
  | notText
  | noParent
  deriving Repr, DecidableEq

def FileError.message : FileError → String
  | .notFound => "No such file or directory (os error 2)"
  | .exists => "File exists (os error 17)"
  | .notDirectory => "Not a directory (os error 20)"
  | .isDirectory => "Is a directory (os error 21)"
  | .nameTooLong => "File name too long (os error 36)"
  | .nulInName => "file name contained an unexpected NUL byte"
  | .notText => "stream did not contain valid UTF-8"
  | .noParent => "failed to create whole tree"

inductive Item where
  | file (content : List UInt8)
  | directory
  deriving Repr, DecidableEq

/-- Places are lists of names from the root, which is always a directory. -/
structure Files where
  items : List (List String × Item)
  home : List String
  deriving Repr

namespace Files

def item? (fs : Files) (place : List String) : Option Item :=
  if place = [] then some .directory else fs.items.lookup place

def put (fs : Files) (place : List String) (item : Item) : Files :=
  { fs with items := (place, item) :: fs.items.filter fun i => i.1 != place }

/-- Goes from a place to a name in it. -/
def enter (fs : Files) (place : List String) (name : String) : Except FileError (List String) :=
  match fs.item? place with
  | none => .error .notFound
  | some (.file _) => .error .notDirectory
  | some .directory =>
    if name = "" ∨ name = "." then .ok place
    else if name = ".." then .ok place.dropLast
    else if 255 < name.utf8ByteSize then .error .nameTooLong
    else .ok (place ++ [name])

/-- Paths are shorter than this many bytes. -/
def pathLimit : Nat := 4096

/-- Goes along pieces of a path, if the path is one that can be gone along at all. The last name
need not exist. -/
def walk (fs : Files) (path : String) (pieces : List String) : Except FileError (List String) :=
  if path = "" then .error .notFound
  else if '\x00' ∈ path.toList then .error .nulInName
  else if pathLimit ≤ path.utf8ByteSize then .error .nameTooLong
  else pieces.foldlM fs.enter (if Path.isAbsolute path then [] else fs.home)

/-- The place that a path leads to. -/
def locate (fs : Files) (path : String) : Except FileError (List String) :=
  fs.walk path (Path.pieces path)

def look (fs : Files) (path : String) : Except FileError Item := do
  match fs.item? (← fs.locate path) with
  | some item => .ok item
  | none => .error .notFound

def exists? (fs : Files) (path : String) : Bool := (fs.look path).isOk

def isDirectory (fs : Files) (path : String) : Bool :=
  match fs.look path with
  | .ok .directory => true
  | _ => false

/-- The content of a file as text. -/
def readText (fs : Files) (path : String) : Except FileError String := do
  match ← fs.look path with
  | .directory => .error .isDirectory
  | .file content =>
    match Utf8.text? content with
    | some s => .ok s
    | none => .error .notText

/-- The pieces of a path without its slashes at the end. -/
def named (path : String) : List String :=
  ((Path.pieces path).reverse.dropWhile (· == "")).reverse

/-- Makes one directory, whose parent has to exist. -/
def makeDirectory (fs : Files) (path : String) : Except FileError Files := do
  let place ← fs.walk path (named path)
  if (fs.item? place).isSome then .error .exists else .ok (fs.put place .directory)

/-- Makes a directory with all that is missing above it. A directory that exists is left alone. -/
def makeDirectories (fs : Files) (path : String) : (steps : Nat) → Except FileError Files
  | 0 => .error .noParent
  | steps + 1 =>
    if path = "" then .ok fs
    else
      match fs.makeDirectory path with
      | .ok fs => .ok fs
      | .error .notFound => do
        match Path.parent? path with
        | none => .error .noParent
        | some parent =>
          let fs ← makeDirectories fs parent steps
          match fs.makeDirectory path with
          | .ok fs => .ok fs
          | .error e => if fs.isDirectory path then .ok fs else .error e
      | .error e => if fs.isDirectory path then .ok fs else .error e

/-- Adds bytes to a file, which is made if it is missing. A path that ends in a slash or in dots
names a directory, whether it is there or not; what is in front of its last name has to be there. -/
def append (fs : Files) (path : String) (bytes : List UInt8) : Except FileError Files := do
  let pieces := named path
  let last := pieces.getLast?
  if pieces ≠ Path.pieces path ∨ last = some "." ∨ last = some ".." then
    let _ ← fs.walk path (pieces.dropLast ++ ["."])
    .error .isDirectory
  else
    let place ← fs.locate path
    match fs.item? place with
    | some .directory => .error .isDirectory
    | some (.file content) => .ok (fs.put place (.file (content ++ bytes)))
    | none => .ok (fs.put place (.file bytes))

end Files
end Rollout
