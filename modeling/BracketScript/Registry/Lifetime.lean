import BracketScript.Registry.Basic

set_option autoImplicit false

/-!
# Lifetimes of modules and instances

Modules are registered, instances are made and given back, and in the end everything is taken down.
Instances always go before the definition of their module, because the code that takes them apart is
in the library that the definition holds.

## Main definitions

* `BracketScript.Registry.load`, `BracketScript.Registry.add`, `BracketScript.Registry.register` —
  three ways to register a module.
* `BracketScript.Registry.newInstance`, `BracketScript.Registry.deleteInstance` — make an instance and
  take it apart.
* `BracketScript.Registry.remove`, `BracketScript.Registry.clear` — take down one module or all.

## Design

An operation that can fail answers with its result and gives the registry back in either case, as it is
at that point. An instance that is in use when its module is taken down is dropped from the records and
left alone.
-/

namespace BracketScript

namespace Registry

variable {κ ω : Type}

/-! ## Registration -/

/-- Closes an opened library. -/
def closeLibrary (host : Host κ ω) (l : Library κ) : StateM (World κ ω) Unit :=
  match l.onUnload with
  | some code => (host.unload code).run
  | none => pure ()

/-- The definition of a module from the exports of its library, or the symbol that is missing. -/
def exported (name : String) (l : Library κ) : Except String (Definition κ) :=
  match l.factories.find? Library.createSymbol, l.destructors.find? Library.destroySymbol with
  | none, _ => .error Library.createSymbol
  | some _, none => .error Library.destroySymbol
  | some factory, some destructor => .ok {
      name, factory
      library? := some l
      destructor? := some destructor
      info? := l.infos.find? Library.infoSymbol }

/-- Registers the module in the library at a path. A library that was opened in vain is closed. -/
def load (host : Host κ ω) (r : Registry κ) (name path : String) :
    StateM (World κ ω) (Except Failure Unit × Registry κ) := do
  if r.hasModule name then
    return (.error (.duplicate name), r)
  let path := r.resolve path
  match r.loader.openLibrary path with
  | .error reason => return (.error (.notLoaded name path reason), r)
  | .ok l =>
    match exported name l with
    | .error symbol =>
      closeLibrary host l
      return (.error (.notLoaded name path ("missing symbol `" ++ symbol ++ "`")), r)
    | .ok d => return (.ok (), r.define d)

/-- Registers a module by its definition. If the name is taken, the library of the definition is
closed. -/
def add (host : Host κ ω) (r : Registry κ) (d : Definition κ) :
    StateM (World κ ω) (Except Failure Unit × Registry κ) := do
  if r.hasModule d.name then
    if let some l := d.library? then
      closeLibrary host l
    return (.error (.duplicate d.name), r)
  return (.ok (), r.define d)

/-- Registers a module whose instances are just dropped in the end. -/
def register (host : Host κ ω) (r : Registry κ) (name : String) (factory : κ) :
    StateM (World κ ω) (Except Failure Unit × Registry κ) :=
  r.add host { name, factory }

/-! ## Instances -/

/-- The registry with one more instance, which gets the next number. -/
def track (r : Registry κ) (name : String) (cell : Ref) : Registry κ :=
  { r with instances := r.instances ++ [⟨r.lastId + 1, name, cell⟩], lastId := r.lastId + 1 }

/-- Makes an instance of a module and keeps track of it. -/
def newInstance (host : Host κ ω) (r : Registry κ) (name : String) :
    StateM (World κ ω) (Except Failure Ref × Registry κ) :=
  match r.definition? name with
  | none => return (.error (.noModule name), r)
  | some d => do
    match ← (host.create d.factory).run with
    | .error reason => return (.error (.notCreated name reason), r)
    | .ok i =>
      let cell ← World.newCell (i.attach (r.lastId + 1) name r.shared)
      return (.ok cell, r.track name cell)

/-- Hands what was in a cell to the destructor of a module. -/
def destroy (host : Host κ ω) (d : Definition κ) (i : Instance κ) : StateM (World κ ω) Unit :=
  match d.destructor? with
  | some code => (host.destroy code i).run
  | none => pure ()

/-- Takes an instance apart: its cell becomes empty and its destructor gets what was in it. An instance
that is in use is left alone. -/
def dispose (host : Host κ ω) (r : Registry κ) (t : Tracked) : StateM (World κ ω) Unit := do
  let w ← get
  if w.isIdle t.cell then
    set (w.setInst t.cell .empty)
    match r.definition? t.moduleName with
    | some d => destroy host d (w.inst t.cell)
    | none => pure ()

/-- Takes an instance apart and forgets about it. -/
def deleteInstance (host : Host κ ω) (r : Registry κ) (cell : Ref) :
    StateM (World κ ω) (Except Failure Unit × Registry κ) := do
  let w ← get
  match r.tracked? cell with
  | none => return (.error (.notTracked (if w.isReadable cell then (w.inst cell).id else 0)), r)
  | some t =>
    if !w.isIdle cell then
      return (.error (.inUse t.id), r)
    r.dispose host t
    return (.ok (), { r with instances := r.instances.filter (·.id != t.id) })

/-! ## Taking down -/

/-- Drops a definition, which closes its library. -/
def release (host : Host κ ω) (d : Definition κ) : StateM (World κ ω) Unit :=
  match d.library? with
  | some l => closeLibrary host l
  | none => pure ()

/-- Takes down one module: first its instances, then its definition. Tells whether there was one. -/
def remove (host : Host κ ω) (r : Registry κ) (name : String) :
    StateM (World κ ω) (Bool × Registry κ) :=
  match r.definition? name with
  | none => return (false, r)
  | some d => do
    (r.instances.filter (·.moduleName == name)).forM (r.dispose host)
    release host d
    return (true, { r with
      instances := r.instances.filter (·.moduleName != name)
      order := r.order.filter (· != name)
      definitions := r.definitions.erase name })

/-- Drops the definitions of some names, in order, and gives those that are left. -/
def releaseAll (host : Host κ ω) : List String → Table (Definition κ) →
    StateM (World κ ω) (Table (Definition κ))
  | [], definitions => return definitions
  | name :: names, definitions => do
    if let some d := definitions.find? name then
      release host d
    releaseAll host names (definitions.erase name)

/-- Takes down every module: first all instances, then all definitions in the order of their
registration. -/
def clear (host : Host κ ω) (r : Registry κ) : StateM (World κ ω) (Registry κ) := do
  r.instances.forM (r.dispose host)
  let definitions ← releaseAll host r.order r.definitions
  return { r with instances := [], order := [], definitions }

end Registry

end BracketScript
