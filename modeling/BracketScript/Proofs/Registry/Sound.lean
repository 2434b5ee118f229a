import BracketScript.Proofs.Registry.Operations
import Mathlib.Data.List.Nodup

set_option autoImplicit false

/-!
# Records that agree

A registry keeps several records that have to agree: definitions by name and the order of the names,
instances by number and the modules they are of. This file says what it means that they agree, and that
they still do after a new definition, a new instance or the loss of some instances.

## Main definitions

* `BracketScript.Registry.Sound` — the records of a registry agree with each other and with the world.

## Main results

* `BracketScript.Registry.Sound.exists_definition` — the module of a tracked instance is defined.
* `BracketScript.Registry.Sound.tracked?_eq` — an instance is found by its cell.
* `BracketScript.Registry.Sound.define`, `BracketScript.Registry.Sound.track`,
  `BracketScript.Registry.Sound.of_filter` — the records still agree.
-/

namespace BracketScript

variable {κ ω : Type}

namespace Registry

/-- Where keys are different, one element has the key of an element. -/
lemma filter_key_of_nodup {α β : Type} [DecidableEq β] {key : α → β} {l : List α} {a : α}
    (hl : (l.map key).Nodup) (ha : a ∈ l) : l.filter (fun b => key b == key a) = [a] := by
  induction l with
  | nil => cases ha
  | cons b l ih =>
    obtain ⟨hnot, hl⟩ := List.nodup_cons.1 hl
    rcases List.mem_cons.1 ha with rfl | ha
    · have hrest : l.filter (fun b => key b == key a) = [] :=
        List.filter_eq_nil_iff.2 fun b hb h => hnot (List.mem_map.2 ⟨b, hb, eq_of_beq h⟩)
      rw [List.filter_cons_of_pos (by simp), hrest]
    · have hne : key b ≠ key a := fun h => hnot (List.mem_map.2 ⟨a, ha, h.symm⟩)
      rw [List.filter_cons_of_neg (by simpa using hne), ih hl ha]

/-- The records of a registry agree with each other and with the world. -/
structure Sound (r : Registry κ) (w : World κ ω) : Prop where
  /-- No module is listed twice. -/
  order_nodup : r.order.Nodup
  /-- The modules that are listed are those that are defined. -/
  mem_order : ∀ name, name ∈ r.order ↔ (r.definition? name).isSome = true
  /-- Every tracked instance is of a module that is listed. -/
  module_listed : ∀ t ∈ r.instances, t.moduleName ∈ r.order
  /-- The numbers of the instances increase. -/
  ids_increase : r.instances.Pairwise fun s t => s.id < t.id
  /-- The numbers were given by the registry. -/
  id_given : ∀ t ∈ r.instances, 1 ≤ t.id ∧ t.id ≤ r.lastId
  /-- No two records are about the same instance. -/
  cells_nodup : (r.instances.map Tracked.cell).Nodup
  /-- The instances are there. -/
  cell_taken : ∀ t ∈ r.instances, t.cell < w.cells.next

namespace Sound

variable {r : Registry κ} {w u : World κ ω} {t : Tracked}

/-- The module of a tracked instance is defined. -/
lemma exists_definition (hs : r.Sound w) (ht : t ∈ r.instances) :
    ∃ d, r.definition? t.moduleName = some d :=
  Option.isSome_iff_exists.1 ((hs.mem_order _).1 (hs.module_listed t ht))

/-- Nothing but the number of cells matters of the world. -/
lemma of_next_le (hs : r.Sound w) (h : w.cells.next ≤ u.cells.next) : r.Sound u :=
  { hs with cell_taken := fun t ht => Nat.lt_of_lt_of_le (hs.cell_taken t ht) h }

/-- Records of the same instance are the same. -/
lemma eq_of_cell_eq (hs : r.Sound w) {s : Tracked} (hs' : s ∈ r.instances) (ht : t ∈ r.instances)
    (h : s.cell = t.cell) : s = t :=
  List.inj_on_of_nodup_map hs.cells_nodup hs' ht h

/-- No two records have the same number. -/
lemma ids_nodup (hs : r.Sound w) : (r.instances.map Tracked.id).Nodup := by
  rw [List.Nodup, List.pairwise_map]
  exact hs.ids_increase.imp fun hlt => Nat.ne_of_lt hlt

/-- Records with the same number are the same. -/
lemma eq_of_id_eq (hs : r.Sound w) {s : Tracked} (hs' : s ∈ r.instances) (ht : t ∈ r.instances)
    (h : s.id = t.id) : s = t :=
  List.inj_on_of_nodup_map hs.ids_nodup hs' ht h

/-- An instance is found by its cell. -/
lemma tracked?_eq (hs : r.Sound w) (ht : t ∈ r.instances) : r.tracked? t.cell = some t := by
  cases hf : r.tracked? t.cell with
  | none =>
    have := List.find?_eq_none.1 hf t ht
    simp at this
  | some s =>
    have hcell : s.cell = t.cell := by simpa using List.find?_some hf
    rw [hs.eq_of_cell_eq (List.mem_of_find?_eq_some hf) ht hcell]

/-! ## Steps that keep the records in agreement -/

/-- A registry with nothing in it. -/
lemma empty (loader : Loader κ) (shared : Ref) (w : World κ ω) :
    Sound { loader, shared } w where
  order_nodup := List.nodup_nil
  mem_order := fun name => by simp [definition?]
  module_listed := fun t ht => nomatch ht
  ids_increase := List.Pairwise.nil
  id_given := fun t ht => nomatch ht
  cells_nodup := List.nodup_nil
  cell_taken := fun t ht => nomatch ht

/-- The search path and the loader do not matter. -/
lemma of_search (hs : r.Sound w) (loader : Loader κ) (searchPath : List String) :
    Sound { r with loader, searchPath } w :=
  { hs with }

/-- Some instances may be forgotten. -/
lemma of_filter (hs : r.Sound w) (p : Tracked → Bool) :
    Sound { r with instances := r.instances.filter p } w :=
  have hmem {t : Tracked} (ht : t ∈ r.instances.filter p) : t ∈ r.instances :=
    (List.mem_filter.1 ht).1
  { hs with
    module_listed := fun t ht => hs.module_listed t (hmem ht)
    ids_increase := hs.ids_increase.filter _
    id_given := fun t ht => hs.id_given t (hmem ht)
    cells_nodup := hs.cells_nodup.sublist (List.filter_sublist.map _)
    cell_taken := fun t ht => hs.cell_taken t (hmem ht) }

lemma define (hs : r.Sound w) {d : Definition κ} (hnew : r.definition? d.name = none) :
    (r.define d).Sound w where
  order_nodup := by
    have hnot : d.name ∉ r.order := fun h => by simpa [hnew] using (hs.mem_order d.name).1 h
    exact List.nodup_append.2 ⟨hs.order_nodup, List.nodup_singleton _, by
      intro a ha b hb hab
      rw [List.mem_singleton.1 hb] at hab
      exact hnot (hab ▸ ha)⟩
  mem_order := fun name => by
    have hmem := hs.mem_order name
    simp only [Registry.define, definition?, Table.find?_insert, List.mem_append,
      List.mem_singleton] at hmem ⊢
    by_cases h : d.name = name
    · simp [h]
    · simp [h, Ne.symm h, hmem]
  module_listed := fun t ht => List.mem_append_left _ (hs.module_listed t ht)
  ids_increase := hs.ids_increase
  id_given := hs.id_given
  cells_nodup := hs.cells_nodup
  cell_taken := hs.cell_taken

lemma track (hs : r.Sound w) {name : String} {d : Definition κ}
    (hd : r.definition? name = some d) (hw : w.cells.next < u.cells.next) :
    (r.track name w.cells.next).Sound u where
  order_nodup := hs.order_nodup
  mem_order := hs.mem_order
  module_listed := fun t ht => by
    rcases List.mem_append.1 ht with ht | ht
    · exact hs.module_listed t ht
    · rw [List.mem_singleton.1 ht]
      exact (hs.mem_order name).2 (by simp [hd])
  ids_increase := by
    refine List.pairwise_append.2 ⟨hs.ids_increase, List.pairwise_singleton _ _, ?_⟩
    intro s hs' t ht
    rw [List.mem_singleton.1 ht]
    exact Nat.lt_succ_of_le (hs.id_given s hs').2
  id_given := fun t ht => by
    rcases List.mem_append.1 ht with ht | ht
    · exact ⟨(hs.id_given t ht).1, Nat.le_succ_of_le (hs.id_given t ht).2⟩
    · rw [List.mem_singleton.1 ht]
      exact ⟨Nat.le_add_left 1 _, Nat.le_refl _⟩
  cells_nodup := by
    rw [Registry.track, List.map_append]
    refine List.nodup_append.2 ⟨hs.cells_nodup, List.nodup_singleton _, ?_⟩
    -- the new cell is the next one, and all cells so far are below it
    intro c hc c' hc' h
    obtain ⟨t, ht, rfl⟩ := List.mem_map.1 hc
    rw [List.map_singleton, List.mem_singleton] at hc'
    rw [hc'] at h
    exact Nat.ne_of_lt (hs.cell_taken t ht) h
  cell_taken := fun t ht => by
    rcases List.mem_append.1 ht with ht | ht
    · exact Nat.lt_trans (hs.cell_taken t ht) hw
    · rw [List.mem_singleton.1 ht]
      exact hw

end Sound

end Registry

end BracketScript
