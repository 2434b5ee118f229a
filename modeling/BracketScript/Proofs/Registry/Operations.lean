import BracketScript.Proofs.Effect
import BracketScript.Proofs.World
import BracketScript.Registry.Lifetime

set_option autoImplicit false

/-!
# The operations of a registry, case by case

Each operation of a registry is taken apart once: in every case that it tells apart there is one
equation for what it answers, for the registry that it leaves and for the world. Everything that is
said later about registries is said by these equations.

## Main results

* `BracketScript.Registry.usage_destroy`, `BracketScript.Registry.usage_closeLibrary` — destructors and
  libraries that are closed give back what they borrow.
* `BracketScript.Registry.load_of_exported`, `BracketScript.Registry.add_of_new` and the lemmas around
  them — registration.
* `BracketScript.Registry.newInstance_of_built`, `BracketScript.Registry.deleteInstance_of_idle` and
  the lemmas around them — instances.
* `BracketScript.Registry.remove_of_known` — taking down one module.
-/

namespace BracketScript.Registry

variable {κ ω : Type} {host : Host κ ω} {r : Registry κ} {w : World κ ω}

/-! ## Code of the host -/

/-- A destructor makes no instance. -/
@[simp]
lemma next_destroy (host : Host κ ω) (d : Definition κ) (i : Instance κ) (w : World κ ω) :
    (destroy host d i w).2.cells.next = w.cells.next := by
  unfold destroy
  cases d.destructor? with
  | none => rfl
  | some code => exact (host.destroy code i).next_run w

/-- A destructor gives back what it borrows. -/
@[simp]
lemma usage_destroy (host : Host κ ω) (d : Definition κ) (i : Instance κ) (w : World κ ω)
    (cell : Ref) : ((destroy host d i w).2.cell cell).usage = (w.cell cell).usage := by
  unfold destroy
  cases d.destructor? with
  | none => rfl
  | some code => exact (host.destroy code i).usage_run w cell

/-- Closing a library makes no instance. -/
@[simp]
lemma next_closeLibrary (host : Host κ ω) (l : Library κ) (w : World κ ω) :
    (closeLibrary host l w).2.cells.next = w.cells.next := by
  unfold closeLibrary
  cases l.onUnload with
  | none => rfl
  | some code => exact (host.unload code).next_run w

/-- A library that is closed gives back what it borrows. -/
@[simp]
lemma usage_closeLibrary (host : Host κ ω) (l : Library κ) (w : World κ ω) (cell : Ref) :
    ((closeLibrary host l w).2.cell cell).usage = (w.cell cell).usage := by
  unfold closeLibrary
  cases l.onUnload with
  | none => rfl
  | some code => exact (host.unload code).usage_run w cell

/-! ## Registration -/

section Registration

variable {name path : String} {l : Library κ} {d : Definition κ}

lemma load_of_duplicate (h : r.hasModule name = true) :
    r.load host name path w = ((.error (.duplicate name), r), w) := by
  unfold load
  rw [if_pos h]
  rfl

lemma load_of_unopened {reason : String} (h : r.hasModule name = false)
    (ho : r.loader.openLibrary (r.resolve path) = .error reason) :
    r.load host name path w = ((.error (.notLoaded name (r.resolve path) reason), r), w) := by
  simp only [load, h, ho]
  rfl

lemma load_of_incomplete {symbol : String} (h : r.hasModule name = false)
    (ho : r.loader.openLibrary (r.resolve path) = .ok l) (he : exported name l = .error symbol) :
    r.load host name path w =
      ((.error (.notLoaded name (r.resolve path) ("missing symbol `" ++ symbol ++ "`")), r),
        (closeLibrary host l w).2) := by
  simp only [load, h, ho, he]
  rfl

lemma load_of_exported (h : r.hasModule name = false)
    (ho : r.loader.openLibrary (r.resolve path) = .ok l) (he : exported name l = .ok d) :
    r.load host name path w = ((.ok (), r.define d), w) := by
  simp only [load, h, ho, he]
  rfl

/-- A definition from a library has the name that was asked for, and holds the library. -/
lemma of_exported (h : exported name l = .ok d) : d.name = name ∧ d.library? = some l := by
  unfold exported at h
  split at h <;> cases h
  exact ⟨rfl, rfl⟩

lemma add_of_duplicate (h : r.hasModule d.name = true) :
    r.add host d w =
      ((.error (.duplicate d.name), r), (d.library?.elim w fun l => (closeLibrary host l w).2)) := by
  simp only [add, h]
  cases d.library? <;> rfl

lemma add_of_new (h : r.hasModule d.name = false) :
    r.add host d w = ((.ok (), r.define d), w) := by
  simp only [add, h]
  rfl

end Registration

/-! ## Instances -/

section Instances

variable {name : String} {d : Definition κ} {t : Tracked} {cell : Ref} {w' : World κ ω}

lemma newInstance_of_unknown (h : r.definition? name = none) :
    r.newInstance host name w = ((.error (.noModule name), r), w) := by
  simp only [newInstance, h]
  rfl

lemma newInstance_of_refused {reason : String} (h : r.definition? name = some d)
    (hc : (host.create d.factory).run w = (.error reason, w')) :
    r.newInstance host name w = ((.error (.notCreated name reason), r), w') := by
  simp only [newInstance, h]
  rw [Effect.bind_of_eq hc]
  rfl

/-- The factory makes no cell, so the new instance gets the one that was next before. -/
lemma newInstance_of_built {i : Instance κ} (h : r.definition? name = some d)
    (hc : (host.create d.factory).run w = (.ok i, w')) :
    r.newInstance host name w = ((.ok w.cells.next, r.track name w.cells.next),
      w'.place (i.attach (r.lastId + 1) name r.shared)) := by
  simp only [newInstance, h]
  rw [Effect.bind_of_eq hc, ← Visit.next_eq hc]
  rfl

/-- An instance in use is left alone. -/
lemma dispose_of_busy (h : w.isIdle t.cell = false) : r.dispose host t w = ((), w) := by
  rw [dispose, Effect.get_bind, h]
  rfl

/-- The destructor of the module gets what was in the cell. -/
lemma dispose_of_idle (h : w.isIdle t.cell = true) (hd : r.definition? t.moduleName = some d) :
    r.dispose host t w =
      ((), (destroy host d (w.inst t.cell) (w.setInst t.cell .empty)).2) := by
  rw [dispose, Effect.get_bind, h, hd]
  rfl

lemma deleteInstance_of_untracked (h : r.tracked? cell = none) :
    r.deleteInstance host cell w =
      ((.error (.notTracked (if w.isReadable cell then (w.inst cell).id else 0)), r), w) := by
  rw [deleteInstance, Effect.get_bind, h]
  rfl

lemma deleteInstance_of_busy (h : r.tracked? cell = some t) (hw : w.isIdle cell = false) :
    r.deleteInstance host cell w = ((.error (.inUse t.id), r), w) := by
  rw [deleteInstance, Effect.get_bind, h, hw]
  rfl

lemma deleteInstance_of_idle (h : r.tracked? cell = some t) (hw : w.isIdle cell = true) :
    r.deleteInstance host cell w =
      ((.ok (), { r with instances := r.instances.filter (·.id != t.id) }),
        (r.dispose host t w).2) := by
  rw [deleteInstance, Effect.get_bind, h, hw]
  rfl

end Instances

/-! ## Taking down -/

section TakingDown

variable {name : String} {d : Definition κ}

lemma remove_of_unknown (h : r.definition? name = none) :
    r.remove host name w = ((false, r), w) := by
  simp only [remove, h]
  rfl

lemma remove_of_known {w₁ : World κ ω} (h : r.definition? name = some d)
    (hw : (r.instances.filter (·.moduleName == name)).forM (r.dispose host) w = ((), w₁)) :
    r.remove host name w = ((true, { r with
      instances := r.instances.filter (·.moduleName != name)
      order := r.order.filter (· != name)
      definitions := r.definitions.erase name }), (release host d w₁).2) := by
  simp only [remove, h]
  rw [Effect.bind_of_eq hw]
  rfl

lemma clear_eq {w₁ w₂ : World κ ω} {definitions : Table (Definition κ)}
    (hw : r.instances.forM (r.dispose host) w = ((), w₁))
    (hd : releaseAll host r.order r.definitions w₁ = (definitions, w₂)) :
    r.clear host w = ({ r with instances := [], order := [], definitions }, w₂) := by
  unfold clear
  rw [Effect.bind_of_eq hw, Effect.bind_of_eq hd]
  rfl

end TakingDown

end BracketScript.Registry
