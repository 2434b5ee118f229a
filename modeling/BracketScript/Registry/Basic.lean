import BracketScript.Host

set_option autoImplicit false

/-!
# Registries of modules

A registry knows modules by name and keeps track of the instances that it has handed out.

## Main definitions

* `BracketScript.Definition` — how instances of a module are built, taken apart and described.
* `BracketScript.Tracked` — an instance that was handed out.
* `BracketScript.Registry` — definitions by name with the order of their registration, and instances
  in the order of their numbers.
* `BracketScript.Registry.resolve` — where a library is looked for.
-/

namespace BracketScript

/-- How instances of a module are built, taken apart and described. -/
structure Definition (κ : Type) where
  /-- The name of the module. -/
  name : String
  /-- The opened library that the code is in, if there is one. -/
  library? : Option (Library κ) := none
  /-- Builds an instance. -/
  factory : κ
  /-- Takes an instance apart; without one the instance is just dropped. -/
  destructor? : Option κ := none
  /-- Answers questions about the module. -/
  info? : Option κ := none

namespace Definition

variable {κ : Type}

/-- Whether the code is in a library that was opened for it. -/
def isDynamic (d : Definition κ) : Bool :=
  d.library?.isSome

/-- A definition for diagnostics. -/
def outline (d : Definition κ) : String :=
  Outline.openRecord "ModuleDefinition" [
    ("name", Text.quoted d.name),
    ("dynamic", Outline.bool d.isDynamic),
    ("info", Outline.bool d.info?.isSome)]

end Definition

/-- An instance that a registry has handed out. -/
structure Tracked where
  /-- The number of the instance. -/
  id : Nat
  /-- The name of its module. -/
  moduleName : String
  /-- Where it is. -/
  cell : Ref
deriving DecidableEq, Repr, Inhabited

/-- Modules by name, and their instances. -/
structure Registry (κ : Type) where
  /-- Finds libraries. -/
  loader : Loader κ
  /-- The directories in which relative paths are tried, in order. -/
  searchPath : List String := []
  /-- The modules by name. -/
  definitions : Table (Definition κ) := .empty
  /-- The names of the modules in the order of their registration. -/
  order : List String := []
  /-- The instances in the order of their numbers. -/
  instances : List Tracked := []
  /-- The number that was given last. Numbers have no bound here; a counter of 64 bits would only run over
  after as many instances as it can count. -/
  lastId : Nat := 0
  /-- The variables that all instances share. -/
  shared : Ref

namespace Registry

variable {κ ω : Type}

/-- An empty registry, with shared variables of its own. -/
def create (loader : Loader κ) : StateM (Memory ω) (Registry κ) := do
  let shared ← Memory.newStore
  return { loader, shared }

/-- The names of the modules in the order of their registration. -/
def modules (r : Registry κ) : List String :=
  r.order

/-- The module of a name. -/
def definition? (r : Registry κ) (name : String) : Option (Definition κ) :=
  r.definitions.find? name

/-- Whether there is a module of a name. -/
def hasModule (r : Registry κ) (name : String) : Bool :=
  r.definitions.contains name

/-- What a module says about itself. -/
def info (host : Host κ ω) (r : Registry κ) (name : String) (id : Int) : Option String := do
  let d ← r.definition? name
  let code ← d.info?
  host.info code id

/-- The number of instances that are tracked. -/
def instanceCount (r : Registry κ) : Nat :=
  r.instances.length

/-- The record of an instance, if it is tracked. -/
def tracked? (r : Registry κ) (cell : Ref) : Option Tracked :=
  r.instances.find? (·.cell == cell)

/-- Adds a directory to the end of the search path. -/
def addSearchDir (r : Registry κ) (dir : String) : Registry κ :=
  { r with searchPath := r.searchPath ++ [dir] }

/-- The path at which a library is opened: an absolute path as it is, else the path below the first
search directory where there is something, else the path itself. -/
def resolve (r : Registry κ) (path : String) : String :=
  if Path.isAbsolute path then path
  else ((r.searchPath.map (Path.join · path)).find? r.loader.pathExists).getD path

/-- Adds a definition under its name, which comes last in the order. -/
def define (r : Registry κ) (d : Definition κ) : Registry κ :=
  { r with order := r.order ++ [d.name], definitions := r.definitions.insert d.name d }

/-- A registry for diagnostics. -/
def outline (r : Registry κ) : String :=
  Outline.openRecord "Registry" [
    ("modules", Outline.list (r.modules.map Text.quoted)),
    ("instances", toString r.instanceCount),
    ("search_path", Outline.list (r.searchPath.map Text.quoted))]

end Registry

end BracketScript
