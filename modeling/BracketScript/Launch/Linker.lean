import BracketScript.FileTree

set_option autoImplicit false

/-!
# A linker

A run takes the linker of the system as a parameter. This one stands in for it where the program is
executed. It finds the file that the name of a library means and looks at its first bytes, and that is
all: code of a library is never run. What differs from machine to machine is a parameter here, too.

## Main definitions

* `BracketScript.Linker` — what a linker knows about its machine.
* `BracketScript.Linker.name` — the part of a path that names a library.
* `BracketScript.Linker.fileOf` — the path of the file that a name means.
* `BracketScript.Linker.check` — why a library is not opened.
-/

namespace BracketScript

/-- What a linker knows about its machine. -/
structure Linker where
  /-- What a path leads to. -/
  look : String → Found
  /-- The tokens that can stand in a name, with what they stand for. -/
  tokens : List (String × String) := []
  /-- The directory of a library whose name has no slash in it. -/
  systemDir : String := "/lib"
  /-- The names that are always opened: those of libraries that are there anyhow. -/
  known : List String := [""]

namespace Linker

/-! ## Names -/

/-- What is wrong with a path that cannot be handed over as a name. A null character ends a name, so it
can only come last. -/
inductive NameError where
  /-- A null character comes before the last one. -/
  | innerNullBeforeLast
  /-- A null character comes before the end. -/
  | innerNull
deriving DecidableEq, Repr, Inhabited

/-- The wording of what is wrong with a name. -/
def NameError.message : NameError → String
  | innerNullBeforeLast => "could not create a C string from bytes with trailing null"
  | innerNull => "could not create a C string from bytes"

/-- The name that a path hands over, up to a null character at its end. -/
def name (path : String) : Except NameError (List Char) :=
  let ended := path.toList.getLast? == some '\x00'
  let name := if ended then path.toList.dropLast else path.toList
  if name.contains '\x00' then .error (if ended then .innerNullBeforeLast else .innerNull)
  else .ok name

/-! ## Tokens -/

/-- The characters that cannot follow a token, because its name would go on. -/
def continuesName (c : Char) : Bool :=
  c.isAlphanum || c == '_'

/-- The number of characters that a token takes up at the start of a text, with the braces around it if
there are any. -/
def tokenLength? (token cs : List Char) : Option Nat :=
  match cs with
  | '\x7b' :: rest =>
    if token.isPrefixOf rest && (rest.drop token.length).head? == some '\x7d' then
      some (token.length + 2)
    else none
  | _ =>
    if token.isPrefixOf cs && !(cs.drop token.length).head?.any continuesName then some token.length
    else none

/-- What stands for the token at the start of a text, and the number of characters it takes up. -/
def token? (l : Linker) (cs : List Char) : Option (String × Nat) :=
  l.tokens.findSome? fun (token, value) => (tokenLength? token.toList cs).map (value, ·)

/-- The text with its tokens replaced, its first `skipped` characters left out. A token comes after a
dollar sign; any other dollar sign stands for itself. -/
def expand (l : Linker) : Nat → List Char → List Char
  | _, [] => []
  | skipped + 1, _ :: cs => expand l skipped cs
  | 0, c :: cs =>
    match if c = '$' then l.token? cs else none with
    | some (value, length) => value.toList ++ expand l length cs
    | none => c :: expand l 0 cs

/-- The path of the file that a name means. -/
def fileOf (l : Linker) (name : List Char) : String :=
  if name.contains '/' then String.ofList (l.expand 0 name)
  else Path.join l.systemDir (String.ofList name)

/-! ## Opening -/

/-- The size of the header of a library. -/
def headerSize : Nat := 64

/-- The bytes that a library starts with. -/
def mark : List UInt8 := [0x7f, 0x45, 0x4c, 0x46]

/-- What is wrong with the first bytes of a file. -/
def headerFault? (bytes : ByteArray) : Option String :=
  if bytes.size < headerSize then some "file too short"
  else if (bytes.extract 0 mark.length).toList ≠ mark then some "invalid ELF header"
  else none

/-- The message for a file that cannot be opened. -/
def notOpened (name : List Char) (reason : String) : String :=
  String.ofList name ++ ": cannot open shared object file: " ++ reason

/-- Finds and checks the library at a path, and says why it is not opened. -/
def check (l : Linker) (path : String) : Except String Unit :=
  match name path with
  | .error e => .error e.message
  | .ok name =>
    if l.known.contains (String.ofList name) then .ok ()
    else
      let file := l.fileOf name
      match l.look file with
      | .nothing | .unspeakable => .error (notOpened name "No such file or directory")
      | .blocked => .error (notOpened name "Not a directory")
      | .unnameable => .error (notOpened name "File name too long")
      | .directory => .error (file ++ ": cannot read file data: Is a directory")
      | .file bytes =>
        match headerFault? bytes with
        | none => .ok ()
        | some fault => .error (file ++ ": " ++ fault)

end Linker

end BracketScript
