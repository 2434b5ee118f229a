import BracketScript.Proofs.Registry.Changes

set_option autoImplicit false

/-!
# What an operation preserves

Once it is known what an operation can do, everything that is said about histories follows from a few
facts about one step: the records still agree, a name keeps its module unless it is dropped, modules are
listed in the order in which they come, and instances are tracked until they are forgotten.

## Main results

* `BracketScript.Registry.Teardown.exists_takesApart` — what is forgotten and not in use is taken apart.
* `BracketScript.Registry.Change.sound` — the records still agree after an operation.
* `BracketScript.Registry.Change.definition?_cases` — what can happen to the module of a name.
* `BracketScript.Registry.Change.built_or_forgotten` — what can happen to the instances.
* `BracketScript.Registry.Change.destroys_eq_false` — what is kept or in use is not taken apart.
-/

namespace BracketScript

variable {κ ω : Type}

namespace Registry

variable {host : Host κ ω} {origin : String → Nat} {now : Nat} {r : Registry κ} {w u : World κ ω}

/-- Taking down leaves the records in agreement. -/
lemma Sound.tornDown (hs : r.Sound w) {op : Operation κ} {r' : Registry κ} {deeds : List (Deed κ)}
    (h : Teardown host origin r w op r' u deeds) : r'.Sound u where
  order_nodup := by
    rw [h.order_eq]
    exact hs.order_nodup.filter _
  mem_order := fun name => by
    rw [h.order_eq, h.definition?_eq, List.mem_filter, hs.mem_order name]
    cases op.drops name <;> simp
  module_listed := fun t ht => by
    rw [h.instances_eq] at ht
    obtain ⟨hmem, hkept⟩ := List.mem_filter.1 ht
    rw [h.order_eq, List.mem_filter]
    refine ⟨hs.module_listed t hmem, ?_⟩
    cases hdrop : op.drops t.moduleName with
    | false => rfl
    | true => simp [Operation.forgets_of_drops hdrop w] at hkept
  ids_increase := by
    rw [h.instances_eq]
    exact hs.ids_increase.filter _
  id_given := fun t ht => by
    rw [h.instances_eq] at ht
    rw [h.lastId_eq]
    exact hs.id_given t (List.mem_filter.1 ht).1
  cells_nodup := by
    rw [h.instances_eq]
    exact hs.cells_nodup.sublist (List.filter_sublist.map _)
  cell_taken := fun t ht => by
    rw [h.instances_eq] at ht
    exact Nat.lt_of_lt_of_le (hs.cell_taken t (List.mem_filter.1 ht).1) h.course.next_le

/-- The deeds of taking down make nothing and ask nothing, and destroy only what is forgotten and not in
use. -/
lemma Teardown.of_mem {op : Operation κ} {r' : Registry κ} {deeds : List (Deed κ)} {deed : Deed κ}
    (h : Teardown host origin r w op r' u deeds) (hdeed : deed ∈ deeds) :
    (∀ cell, deed.makes cell = false) ∧ (∀ cell, deed ≠ .asked cell) ∧
      ∀ cell, deed.destroys cell = true → ∃ t ∈ r.instances, op.forgets w t = true ∧
        w.isIdle t.cell = true ∧ t.cell = cell := by
  rw [h.deeds_eq, List.mem_append] at hdeed
  rcases hdeed with hdeed | hdeed
  · obtain ⟨t, ht, hidle, d, i, -, rfl⟩ := of_mem_destructions hdeed
    obtain ⟨hmem, hforgets⟩ := List.mem_filter.1 ht
    exact ⟨fun _ => rfl, nofun, fun cell hcell => ⟨t, hmem, hforgets, hidle, eq_of_beq hcell⟩⟩
  · obtain ⟨name, -, d, l, -, -, rfl⟩ := mem_closings.1 hdeed
    exact ⟨fun _ => rfl, nofun, nofun⟩

/-- When some of the tracked instances are taken apart and some libraries closed, each of these instances
gets its turn, if nobody uses it. -/
lemma Sound.exists_takesApart (hs : r.Sound w) {gone : Tracked → Bool} {names : List String}
    {t : Tracked} {d : Definition κ} (hcourse : host.Course w
      (r.destructions host origin w (r.instances.filter gone) ++ r.closings origin names) u)
    (ht : t ∈ r.instances) (hgone : gone t = true) (hidle : w.isIdle t.cell = true)
    (hd : r.definition? t.moduleName = some d) : ∃ earlier v later,
      host.TakesApart w (r.destructions host origin w (r.instances.filter gone) ++
        r.closings origin names) u (origin t.moduleName) d t.cell earlier v later :=
  Registry.exists_takesApart hcourse (hs.cells_nodup.sublist (List.filter_sublist.map _))
    (fun _ hs' => hs.exists_definition (List.mem_filter.1 hs').1) (List.mem_filter.2 ⟨ht, hgone⟩)
    hidle hd fun _ hdeed => destroys_of_mem_closings hdeed t.cell

/-- An instance that is forgotten gets its turn, if nobody uses it. -/
lemma Teardown.exists_takesApart {op : Operation κ} {r' : Registry κ} {deeds : List (Deed κ)}
    {t : Tracked} {d : Definition κ} (h : Teardown host origin r w op r' u deeds) (hs : r.Sound w)
    (ht : t ∈ r.instances) (hforgets : op.forgets w t = true) (hidle : w.isIdle t.cell = true)
    (hd : r.definition? t.moduleName = some d) : ∃ earlier v later,
      host.TakesApart w deeds u (origin t.moduleName) d t.cell earlier v later := by
  have hcourse := h.course
  rw [h.deeds_eq] at hcourse ⊢
  exact hs.exists_takesApart hcourse ht hforgets hidle hd

namespace Change

variable {op : Operation κ} {answer : Answer} {r' : Registry κ} {w' : World κ ω}
  {deeds : List (Deed κ)} {name : String} {d : Definition κ}

/-- A change is a course of its deeds. -/
lemma course (h : Change host origin now r w op answer r' w' deeds) : host.Course w deeds w' := by
  cases h with
  | defined => exact .nil w
  | wasted => exact .single (.closed now _ w)
  | refused hd hc => exact .single (.refused hc)
  | built hd hc => exact .single (.built rfl hc)
  | tornDown _ _ _ h => exact h.course

/-- **The records still agree after an operation.** -/
lemma sound (h : Change host origin now r w op answer r' w' deeds) (hs : r.Sound w) :
    r'.Sound w' := by
  have hnext := h.course.next_le
  cases h with
  | defined hreg hhandle hnew => exact hs.define hnew
  | wasted => exact hs.of_next_le hnext
  | refused => exact hs.of_next_le hnext
  | built hd hc =>
    exact hs.track hd (by rw [World.next_place, Visit.next_eq hc]; exact Nat.lt_succ_self _)
  | tornDown _ _ _ h => exact hs.tornDown h

/-- A name loses its module, keeps it, or gets one that it did not have. -/
lemma definition?_cases (h : Change host origin now r w op answer r' w' deeds) (name : String) :
    r'.definition? name = none ∨
      (r'.definition? name = r.definition? name ∧ ∀ d, r.registers? op = some d → d.name ≠ name) ∨
      ∃ d, r.registers? op = some d ∧ d.name = name ∧ answer = .done ∧
        r.definition? name = none ∧ r'.definition? name = some d := by
  cases h with
  | @defined op d hreg hhandle hnew =>
    have hfind : (r.define d).definition? name = if d.name = name then some d else r.definition? name :=
      Table.find?_insert ..
    by_cases hname : d.name = name
    · exact .inr (.inr ⟨d, hreg, hname, rfl, hname ▸ hnew, by rw [hfind, if_pos hname]⟩)
    · refine .inr (.inl ⟨by rw [hfind, if_neg hname], ?_⟩)
      intro d' hd'
      rw [hreg] at hd'
      cases hd'
      exact hname
  | wasted hreg _ => exact .inr (.inl ⟨rfl, by simp [hreg]⟩)
  | refused => exact .inr (.inl ⟨rfl, by simp [registers?]⟩)
  | built => exact .inr (.inl ⟨rfl, by simp [registers?]⟩)
  | tornDown _ hreg _ h =>
    rw [h.definition?_eq]
    by_cases hname : op.drops name = true
    · exact .inl (if_pos hname)
    · exact .inr (.inl ⟨if_neg hname, by simp [hreg]⟩)

/-- A definition that is registered holds the library that came with the operation. -/
lemma of_registers (h : Change host origin now r w op answer r' w' deeds)
    (hreg : r.registers? op = some d) :
    r.handle? op = d.library? ∧ answer = .done ∧ r'.definition? d.name = some d := by
  cases h with
  | @defined _ d' hreg' hhandle _ =>
    cases hreg'.symm.trans hreg
    exact ⟨hhandle, rfl, by simp [definition?, define]⟩
  | wasted hnone _ => cases hnone.symm.trans hreg
  | refused => cases hreg
  | built => cases hreg
  | tornDown _ hnone _ _ => cases hnone.symm.trans hreg

/-- An operation that drops modules takes down and does nothing else. -/
lemma of_drops (h : Change host origin now r w op answer r' w' deeds) (hdrops : op.drops name = true) :
    Teardown host origin r w op r' w' deeds := by
  cases h with
  | defined hreg _ _ => cases op <;> first | cases hreg | cases hdrops
  | wasted _ hhandle => cases op <;> first | cases hhandle | cases hdrops
  | refused => cases hdrops
  | built => cases hdrops
  | tornDown _ _ _ h => exact h

/-- So does one that forgets instances. -/
lemma of_forgets {t : Tracked} (h : Change host origin now r w op answer r' w' deeds)
    (hforgets : op.forgets w t = true) : Teardown host origin r w op r' w' deeds := by
  cases h with
  | defined hreg _ _ => cases op <;> first | cases hreg | cases hforgets
  | wasted _ hhandle => cases op <;> first | cases hhandle | cases hforgets
  | refused => cases hforgets
  | built => cases hforgets
  | tornDown _ _ _ h => exact h

/-- A module that is not dropped stays. -/
lemma definition?_of_not_drops (h : Change host origin now r w op answer r' w' deeds)
    (hd : r.definition? name = some d) (hdrops : op.drops name = false) :
    r'.definition? name = some d := by
  cases h with
  | @defined _ d' _ _ hnew =>
    have hne : d'.name ≠ name := by
      rintro rfl
      cases hnew.symm.trans hd
    simpa [definition?, define, hne] using hd
  | wasted => exact hd
  | refused => exact hd
  | built => exact hd
  | tornDown _ _ _ h => rw [h.definition?_eq, hdrops, if_neg Bool.false_ne_true, hd]

/-- The order of the modules changes only at its end, or by losing some. -/
lemma order_cases (h : Change host origin now r w op answer r' w' deeds) :
    (r.registers? op = none ∧ r'.order.Sublist r.order) ∨
      ∃ d, r.registers? op = some d ∧ r.definition? d.name = none ∧
        r'.order = r.order ++ [d.name] := by
  cases h with
  | @defined op d hreg hhandle hnew => exact .inr ⟨d, hreg, hnew, rfl⟩
  | wasted hreg _ => exact .inl ⟨hreg, .refl _⟩
  | refused => exact .inl ⟨rfl, .refl _⟩
  | built => exact .inl ⟨rfl, .refl _⟩
  | tornDown _ hreg _ h =>
    rw [h.order_eq]
    exact .inl ⟨hreg, List.filter_sublist⟩

/-- One more instance is tracked, or some are forgotten; these are the ones that are taken apart. -/
lemma built_or_forgotten (h : Change host origin now r w op answer r' w' deeds) :
    (∃ name d, ∃ i : Instance κ, r.definition? name = some d ∧ op = .newInstance name ∧
      answer = .handedOut w.cells.next ∧ r' = r.track name w.cells.next ∧
      w'.inst w.cells.next = i.attach (r.lastId + 1) name r.shared ∧
      deeds = [.built (origin name) d ⟨r.lastId + 1, name, w.cells.next⟩
        (i.attach (r.lastId + 1) name r.shared)]) ∨
    ((∀ cell, answer ≠ .handedOut cell) ∧ r'.lastId = r.lastId ∧
      (r'.instances = r.instances.filter fun t => !op.forgets w t) ∧
      ∃ more, deeds = r.destructions host origin w (r.instances.filter (op.forgets w)) ++ more ∧
        ∀ cell, ∀ deed ∈ more, deed.destroys cell = false) := by
  have hall (hop : op.forgets w = fun _ => false) :
      (r.instances = r.instances.filter fun t => !op.forgets w t) ∧
        r.destructions host origin w (r.instances.filter (op.forgets w)) = [] := by
    simp [hop]
  cases h with
  | defined hreg _ _ =>
    obtain ⟨hkept, hnone⟩ := hall (by cases op <;> first | rfl | cases hreg)
    exact .inr ⟨by simp, rfl, hkept, [], by rw [hnone, List.append_nil], by simp⟩
  | wasted _ hhandle =>
    obtain ⟨hkept, hnone⟩ := hall (by cases op <;> first | rfl | cases hhandle)
    exact .inr ⟨by simp, rfl, hkept, _, by rw [hnone, List.nil_append], by simp [Deed.destroys]⟩
  | refused =>
    obtain ⟨hkept, hnone⟩ := hall rfl
    exact .inr ⟨by simp, rfl, hkept, _, by rw [hnone, List.nil_append], by simp [Deed.destroys]⟩
  | @built name d i u hd hc =>
    refine .inl ⟨name, d, i, hd, rfl, rfl, rfl, ?_, rfl⟩
    rw [World.inst_place, if_pos (Visit.next_eq hc).symm]
  | tornDown hanswer _ _ h =>
    exact .inr ⟨hanswer, h.lastId_eq, h.instances_eq, _, h.deeds_eq, fun cell deed hdeed =>
      destroys_of_mem_closings hdeed cell⟩

/-- Nothing is taken apart that is kept or in use. -/
lemma destroys_eq_false (h : Change host origin now r w op answer r' w' deeds) {cell : Ref}
    (hkept : ∀ t ∈ r.instances, t.cell = cell → op.forgets w t = true → w.isIdle cell = false) :
    ∀ deed ∈ deeds, deed.destroys cell = false := by
  intro deed hdeed
  rcases h.built_or_forgotten with
    ⟨name, d, i, -, -, -, -, -, rfl⟩ | ⟨-, -, -, more, rfl, hmore⟩
  · rw [List.mem_singleton.1 hdeed]
    rfl
  · rcases List.mem_append.1 hdeed with hdeed | hdeed
    · refine Registry.destroys_eq_false (fun t ht hcell => ?_) hdeed
      obtain ⟨hmem, hforgets⟩ := List.mem_filter.1 ht
      exact hkept t hmem hcell hforgets
    · exact hmore cell deed hdeed

/-- No operation asks an instance for its template. -/
lemma ne_asked (h : Change host origin now r w op answer r' w' deeds) {deed : Deed κ}
    (hdeed : deed ∈ deeds) (cell : Ref) : deed ≠ .asked cell := by
  rintro rfl
  cases h with
  | defined => cases hdeed
  | wasted => cases List.mem_singleton.1 hdeed
  | refused => cases List.mem_singleton.1 hdeed
  | built => cases List.mem_singleton.1 hdeed
  | tornDown _ _ _ h => exact (h.of_mem hdeed).2.1 cell rfl

end Change

end Registry

end BracketScript
