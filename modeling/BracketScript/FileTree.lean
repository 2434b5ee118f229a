import BracketScript.Path

set_option autoImplicit false

/-!
# Files

What a path leads to is a parameter of everything that reads files. This file gives one value of it: a
small file system with files and their bytes, the directories on the way to them, and a working directory
from which relative paths start. What differs from machine to machine stands in its fields.

## Main definitions

* `BracketScript.Found` — what a path leads to.
* `BracketScript.FileTree.look` — follows a path.
* `BracketScript.FileTree.write` — puts a file below the working directory.
* `BracketScript.Found.text` — the text of what was found, or the reason why it cannot be read.
* `BracketScript.ReadError` — those reasons.
-/

namespace BracketScript

/-- What a path leads to. -/
inductive Found where
  /-- Nothing of that name. -/
  | nothing
  /-- The path goes on below something that is no directory. -/
  | blocked
  /-- The path, or a name of it, is longer than it can be. -/
  | unnameable
  /-- The path has a null character in it. -/
  | unspeakable
  /-- A directory. -/
  | directory
  /-- A file. -/
  | file (bytes : ByteArray)
deriving Inhabited

/-- Why a text cannot be read. -/
inductive ReadError where
  /-- There is no such file. -/
  | missing
  /-- The path goes on below something that is no directory. -/
  | notDirectory
  /-- The path, or a name of it, is longer than it can be. -/
  | nameTooLong
  /-- The path has a null character in it. -/
  | nullInName
  /-- A directory has no text. -/
  | isDirectory
  /-- The bytes are not UTF-8. -/
  | notText
deriving DecidableEq, Repr, Inhabited

/-- The wording of a read error. -/
def ReadError.message : ReadError → String
  | .missing => "No such file or directory (os error 2)"
  | .notDirectory => "Not a directory (os error 20)"
  | .nameTooLong => "File name too long (os error 36)"
  | .nullInName => "file name contained an unexpected NUL byte"
  | .isDirectory => "Is a directory (os error 21)"
  | .notText => "stream did not contain valid UTF-8"

namespace Found

/-- Whether there is a file or a directory. -/
def isThere : Found → Bool
  | .directory | .file _ => true
  | .nothing | .blocked | .unnameable | .unspeakable => false

/-- The text of the bytes of a file. -/
def decode (bytes : ByteArray) : Except ReadError String :=
  match String.fromUTF8? bytes with
  | some text => .ok text
  | none => .error .notText

/-- The text of what was found. -/
def text : Found → Except ReadError String
  | .nothing => .error .missing
  | .blocked => .error .notDirectory
  | .unnameable => .error .nameTooLong
  | .unspeakable => .error .nullInName
  | .directory => .error .isDirectory
  | .file bytes => decode bytes

end Found

/-- Files by the names on the way to them from the root, and the working directory. -/
structure FileTree where
  /-- The working directory, as the names on the way to it from the root. -/
  workingDir : List String := []
  /-- The files, each as the names on the way to it from the root, with its bytes; the ones that were
  written last in front. -/
  files : List (List String × ByteArray) := []
  /-- Directories that are there even if no file is below them. -/
  directories : List (List String) := []
  /-- The most bytes that a name can have. -/
  maxNameSize : Nat := 255
  /-- The most bytes that a path can have. -/
  maxPathSize : Nat := 4095
deriving Inhabited

namespace FileTree

/-- The bytes of the file at a place. -/
def file? (t : FileTree) (place : List String) : Option ByteArray :=
  (t.files.find? fun (names, _) => names == place).map Prod.snd

/-- The place of a path below the working directory that does not go up. -/
def placeOf (t : FileTree) (path : String) : List String :=
  t.workingDir ++ (Path.segments path).filter (· != ".")

/-- Puts a file at a path below the working directory. It hides an earlier one at the same place. -/
def write (t : FileTree) (path : String) (bytes : ByteArray) : FileTree :=
  { t with files := (t.placeOf path, bytes) :: t.files }

/-- Whether a place is a directory: the working directory, one above it, one above a file, or one that is
there anyhow. -/
def isDirectory (t : FileTree) (place : List String) : Bool :=
  place.isPrefixOf t.workingDir || t.directories.contains place ||
    t.files.any fun (names, _) => place.isPrefixOf names && place != names

/-- What stands at a place. -/
def found (t : FileTree) (place : List String) : Found :=
  match t.file? place with
  | some bytes => .file bytes
  | none => if t.isDirectory place then .directory else .nothing

/-- Follows the remaining steps of a path. Each step starts from a directory; an empty step and `.`
stay in it, `..` goes up, and the root is above itself. -/
def follow (t : FileTree) : List String → List String → Found
  | place, [] => t.found place
  | place, step :: steps =>
    match t.found place with
    | .directory =>
      if step = "" ∨ step = "." then follow t place steps
      else if step = ".." then follow t place.dropLast steps
      else if t.maxNameSize < step.utf8ByteSize then .unnameable
      else follow t (place ++ [step]) steps
    | .file _ => .blocked
    | found => found

/-- Follows a path, from the root if it is absolute and else from the working directory. The empty path
leads nowhere. -/
def look (t : FileTree) (path : String) : Found :=
  if path.toList.contains '\x00' then .unspeakable
  else if path.isEmpty then .nothing
  else if t.maxPathSize < path.utf8ByteSize then .unnameable
  else
    let steps := (Text.pieces Path.isSlash path.toList).map String.ofList
    t.follow (if Path.isAbsolute path then [] else t.workingDir) steps

end FileTree

end BracketScript
