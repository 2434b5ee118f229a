import BracketScript.CommandSet.Basic
import BracketScript.Rc.Settings
import BracketScript.Registry.Lifetime

set_option autoImplicit false

/-!
# Putting settings to use

Search directories and variables come first, so that where a `/load` stands among the lines does not
matter. A module that does not load is reported, and the others are loaded all the same.

## Main definitions

* `BracketScript.Settings.apply` — changes a registry and a set of commands as the settings ask.
-/

namespace BracketScript

namespace Settings

variable {κ ω : Type}

/-- Loads modules in order, with a complaint about each that does not load. -/
def loadAll (host : Host κ ω) : Registry κ → List ModuleSpec →
    StateM (World κ ω) (List (Complaint Failure) × Registry κ)
  | r, [] => return ([], r)
  | r, m :: rest => do
    match ← r.load host m.name m.path with
    | (.ok (), r) => loadAll host r rest
    | (.error e, r) =>
      let (complaints, r) ← loadAll host r rest
      return (⟨m.line, e⟩ :: complaints, r)

/-- Sets the shared variables of a registry. -/
def shareAll (memory : Memory ω) (shared : Ref) (vars : Variables) : Memory ω :=
  vars.entries.foldl (fun m (name, value) => m.assign shared name (some value)) memory

/-- Uses the default template, with a complaint if it cannot be read. -/
def useTemplate (cs : CommandSet κ) : Option String → List (Complaint Failure) × CommandSet κ
  | none => ([], cs)
  | some spec =>
    match cs.setDefaultTemplate spec with
    | (.ok (), cs) => ([], cs)
    | (.error e, cs) => ([⟨0, e⟩], cs)

/-- Changes a registry and a set of commands as the settings ask, and gives the complaints in order. -/
def apply (s : Settings) (host : Host κ ω) (r : Registry κ) (cs : CommandSet κ) :
    StateM (World κ ω) (List (Complaint Failure) × Registry κ × CommandSet κ) := do
  let r := s.searchPath.foldl Registry.addSearchDir r
  World.onMemory (modify (shareAll · r.shared s.vars))
  let (refused, cs) := useTemplate cs s.template
  let (failed, r) ← loadAll host r s.modules
  return (refused ++ failed, r, cs)

end Settings

end BracketScript
