import BracketScript.Path
import BracketScript.Table
import BracketScript.Text.Outline
import BracketScript.Text.Quoted

set_option autoImplicit false

/-!
# Libraries

The code of a module lives in a library: factories that build instances, destructors that take them
apart, and functions that answer questions about the module, each exported under a symbol. A library
that was opened runs some code when it is closed.

## Main definitions

* `BracketScript.Library` — the exports of a library.
* `BracketScript.Library.createSymbol`, `BracketScript.Library.destroySymbol`,
  `BracketScript.Library.infoSymbol` — the symbols under which a module is found.
* `BracketScript.Loader` — what it takes to find a library.
* `BracketScript.Catalog` — libraries by path, for hosts that bring all their modules along.
-/

namespace BracketScript

/-- The exports of a library. -/
structure Library (κ : Type) where
  /-- Code that builds an instance, by symbol. -/
  factories : Table κ := .empty
  /-- Code that takes an instance apart, by symbol. -/
  destructors : Table κ := .empty
  /-- Code that answers questions, by symbol. -/
  infos : Table κ := .empty
  /-- Code that runs when the library is closed. -/
  onUnload : Option κ := none

namespace Library

variable {κ : Type}

instance : Inhabited (Library κ) := ⟨{}⟩

/-- The symbol of the factory of a module. -/
def createSymbol : String := "module_create"

/-- The symbol of the destructor of a module. -/
def destroySymbol : String := "module_destroy"

/-- The symbol of the information about a module. -/
def infoSymbol : String := "module_info"

/-- The library that exports a module: its factory and its destructor. -/
def ofModule (create destroy : κ) : Library κ where
  factories := Table.empty.insert createSymbol create
  destructors := Table.empty.insert destroySymbol destroy

/-- A library for diagnostics. -/
def outline (l : Library κ) : String :=
  let symbols (t : Table κ) := Outline.list (t.names.map Text.quoted)
  Outline.record "StaticLibrary" [
    ("factories", symbols l.factories),
    ("destructors", symbols l.destructors),
    ("infos", symbols l.infos)]

end Library

/-- What it takes to find a library. -/
structure Loader (κ : Type) where
  /-- Whether there is a file or a directory at a path. -/
  pathExists : String → Bool
  /-- Opens the library at a path, or says why it cannot. -/
  openLibrary : String → Except String (Library κ)

/-- Libraries by path. -/
structure Catalog (κ : Type) where
  /-- The libraries, the ones that were put in last in front. -/
  libraries : List (String × Library κ) := []

namespace Catalog

variable {κ : Type}

/-- Adds a library; it hides an earlier one at the same path. -/
def insert (c : Catalog κ) (path : String) (l : Library κ) : Catalog κ :=
  ⟨(path, l) :: c.libraries⟩

/-- The library at a path. -/
def find? (c : Catalog κ) (path : String) : Option (Library κ) :=
  (c.libraries.find? fun (p, _) => Path.same p path).map Prod.snd

/-- Opens the library at a path. -/
def openLibrary (c : Catalog κ) (path : String) : Except String (Library κ) :=
  match c.find? path with
  | some l => .ok l
  | none => .error (path ++ ": no such library")

end Catalog

end BracketScript
