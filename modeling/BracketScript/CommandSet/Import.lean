import BracketScript.CommandSet.Basic
import BracketScript.Registry.Lifetime

set_option autoImplicit false

/-!
# Modules as commands

Every module of a registry can become a command of the same name. The module is instantiated once; one
of its methods gives the template, and two others, if it has them, are called at the ends of the block.
Either all modules are imported or none is, and then the instances that were made are taken apart again.

## Main definitions

* `BracketScript.CommandSet.stage` — prepares the command of one module.
* `BracketScript.CommandSet.importRegistry` — imports all modules of a registry.
-/

namespace BracketScript

namespace CommandSet

variable {κ ω : Type}

/-- The method that gives the template of a module's command. -/
def templateMethod : String := "get_template"

/-- The method that is called when the block opens. -/
def openMethod : String := "open"

/-- The method that is called when the block closes. -/
def closeMethod : String := "close"

/-- The test for a shared variable of the registry. -/
def definedTest : String := "defined"

/-- Asks an instance for the specification of its template and takes the result away; without a result
the specification is empty. -/
def askTemplate (host : Host κ ω) (i : Instance κ) : Visit κ ω (Except Failure String × Instance κ) :=
  (i.execute host templateMethod []).map fun
    | (.error e, i) => (.error e, i)
    | (.ok (), i) =>
      (.ok ((i.result?.map (Value.display host.address)).getD ""), { i with result? := none })

/-- The command of an instance whose module gave this specification. -/
def bindingOf (cs : CommandSet κ) (name spec : String) (cell : Ref) (i : Instance κ) :
    Except Failure (Binding κ) := do
  let template ← cs.newTemplate name spec
  let forwarded (method : String) : Option (Handler κ) :=
    if i.hasMethod method then some (.forward method) else none
  return { cell, template, onOpen := forwarded openMethod, onClose := forwarded closeMethod }

/-- Takes an instance apart whatever comes of it. -/
def discard (host : Host κ ω) (r : Registry κ) (cell : Ref) : StateM (World κ ω) (Registry κ) := do
  let (_, r) ← r.deleteInstance host cell
  return r

/-- Prepares the command of one module. When that fails, the instance made for it is gone. -/
def stage (cs : CommandSet κ) (host : Host κ ω) (r : Registry κ) (name : String) :
    StateM (World κ ω) (Except Failure (Binding κ) × Registry κ) := do
  match ← r.newInstance host name with
  | (.error e, r) => return (.error e, r)
  | (.ok cell, r) =>
    let spec ← (World.onInstance cell (askTemplate host)).run
    let i := (← get).inst cell
    match spec.bind fun spec => cs.bindingOf name spec cell i with
    | .ok binding => return (.ok binding, r)
    | .error e => return (.error e, ← discard host r cell)

/-- Prepares the commands of modules, in order. At the first failure the instances made so far are
taken apart again. -/
def stageAll (cs : CommandSet κ) (host : Host κ ω) :
    Registry κ → List (String × Binding κ) → List String →
      StateM (World κ ω) (Except Failure (List (String × Binding κ)) × Registry κ)
  | r, staged, [] => return (.ok staged, r)
  | r, staged, name :: names => do
    match ← cs.stage host r name with
    | (.ok binding, r) => stageAll cs host r (staged ++ [(name, binding)]) names
    | (.error e, r) => return (.error e, ← staged.foldlM (fun r (_, b) => discard host r b.cell) r)

/-- The commands with those that were staged. The test for shared variables comes along unless there is
a test of that name. -/
def adopt (cs : CommandSet κ) (staged : List (String × Binding κ)) (shared : Ref) : CommandSet κ :=
  let cs := { cs with bindings := cs.bindings.insertAll staged }
  if cs.hasTest definedTest then cs else cs.addTest definedTest (.defined shared)

/-- Makes every module of a registry a command, and tells how many there are. When a module fails, the
commands stay as they are. -/
def importRegistry (cs : CommandSet κ) (host : Host κ ω) (r : Registry κ) :
    StateM (World κ ω) (Except Failure Nat × CommandSet κ × Registry κ) := do
  match ← cs.stageAll host r [] r.modules with
  | (.error e, r) => return (.error e, cs, r)
  | (.ok staged, r) => return (.ok staged.length, cs.adopt staged r.shared, r)

end CommandSet

end BracketScript
