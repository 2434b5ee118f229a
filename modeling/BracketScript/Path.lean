import BracketScript.Text.Pieces

set_option autoImplicit false

/-!
# Paths

A path is the text that names a file. Two texts are *the same path* when they have the same
components: repeated and trailing slashes do not count, nor does `.`, except as the first component
of a relative path. `..` is kept.

## Main definitions

* `BracketScript.Path.components` — the components of a path.
* `BracketScript.Path.same` — whether two texts are the same path.
* `BracketScript.Path.isAbsolute`, `BracketScript.Path.join` — absolute paths, and a path below a
  directory.
-/

namespace BracketScript.Path

/-- The directory separator. -/
def isSlash (c : Char) : Bool :=
  c == '/'

/-- Whether a path starts at the root. -/
def isAbsolute (path : String) : Bool :=
  path.toList.head?.any isSlash

/-- One component of a path. -/
inductive Component where
  /-- The root that an absolute path starts from. -/
  | root
  /-- The name of an entry; `.` and `..` are names too. -/
  | name (text : String)
deriving DecidableEq, Repr, Inhabited

/-- The texts between the slashes, without the empty ones. -/
def segments (path : String) : List String :=
  ((Text.pieces isSlash path.toList).filter (! ·.isEmpty)).map String.ofList

/-- The components of a path; `.` counts only as the first one of a relative path. -/
def components (path : String) : List Component :=
  if isAbsolute path then
    .root :: ((segments path).filter (· != ".")).map .name
  else
    match segments path with
    | [] => []
    | first :: rest => .name first :: (rest.filter (· != ".")).map .name

/-- Whether two texts are the same path. -/
def same (p q : String) : Bool :=
  components p == components q

/-- A path below a directory. A slash is put between the two unless the directory is empty or ends
in one; an absolute path stays as it is. -/
def join (dir path : String) : String :=
  if isAbsolute path then path
  else if dir.isEmpty || dir.toList.getLast?.any isSlash then dir ++ path
  else dir ++ "/" ++ path

end BracketScript.Path
