import BracketScript.Proofs.Registry.Invariant

set_option autoImplicit false

/-!
# Making instances for commands, and taking them apart again

To make modules commands, an instance of each is made and asked for its template, one after the other.
This file follows a registry through that: it has the instances it had and those that were made, and
nobody uses these. If a module fails, they are all taken apart again, and the registry has the instances
that it had before.

## Main definitions

* `BracketScript.CommandSet.Staged` — a registry on the way, with the instances that were made.
* `BracketScript.CommandSet.Undone` — what is left when all of them were taken apart again.
* `BracketScript.Host.KeepsIdentity` — factories and methods change neither the number nor the module of
  an instance.

## Main results

* `BracketScript.CommandSet.Staged.undone` — taking apart what was made.
* `BracketScript.CommandSet.Staged.stageAll` — either there is an instance for each module, or all is
  undone.
-/

namespace BracketScript

variable {κ ω : Type}

/-- The number of an instance and the name of its module. -/
def Instance.identity (i : Instance κ) : Nat × String :=
  (i.id, i.moduleName)

/-- Factories and methods change neither the number of an instance nor the name of its module, be it the
instance that a method works on or another one. -/
structure Host.KeepsIdentity (host : Host κ ω) : Prop where
  /-- A factory does not. -/
  create : ∀ code w cell,
    (((host.create code).run w).2.inst cell).identity = (w.inst cell).identity
  /-- A method does not to its own instance. -/
  method : ∀ code i w, ((host.method code i).run w).1.2.identity = i.identity
  /-- It does not to others. -/
  others : ∀ code i w cell,
    (((host.method code i).run w).2.inst cell).identity = (w.inst cell).identity

namespace Host.KeepsIdentity

variable {host : Host κ ω}

/-- Asking for a template is a call of a method. -/
lemma askTemplate (h : host.KeepsIdentity) (i : Instance κ) (w : World κ ω) :
    ((CommandSet.askTemplate host i).run w).1.2.identity = i.identity ∧ ∀ cell,
      (((CommandSet.askTemplate host i).run w).2.inst cell).identity = (w.inst cell).identity := by
  rcases CommandSet.askTemplate_cases host i w with
    ⟨hi, hw⟩ | ⟨method, i', w', result, -, hm, hw, hi⟩
  · rw [hi, hw]
    exact ⟨rfl, fun _ => rfl⟩
  · have hown := h.method method.code { i with result? := none, args := [] } w
    have hothers := h.others method.code { i with result? := none, args := [] } w
    rw [hm] at hown hothers
    rw [hw]
    exact ⟨by rcases hi with hi | hi <;> rw [hi] <;> exact hown, hothers⟩

/-- So an instance that was asked is what it was, and so are the others. -/
lemma onInstance (h : host.KeepsIdentity) {w : World κ ω} {ref : Ref} (hc : ref < w.cells.next)
    (cell : Ref) : (((World.onInstance ref (CommandSet.askTemplate host)).run w).2.inst cell).identity =
      (w.inst cell).identity := by
  obtain ⟨hown, hothers⟩ := h.askTemplate (w.inst ref) (w.setUsage ref .taken)
  by_cases hcell : ref = cell
  · rw [← hcell, World.inst_onInstance hc, hown]
  · rw [World.inst_onInstance_of_ne hcell, hothers, World.inst_setUsage]

end Host.KeepsIdentity

namespace CommandSet

variable {host : Host κ ω} {origin : String → Nat} {r r₁ r' : Registry κ} {w w₁ w' : World κ ω}
  {t : Tracked} {ts ss : List Tracked} {deeds : List (Deed κ)} {name : String} {d : Definition κ}
  {cs : CommandSet κ}

/-! ## Taking instances apart again -/

/-- An instance that is tracked and idle is taken apart and forgotten. -/
lemma discard_of_idle (hs : r.Sound w) (ht : t ∈ r.instances) (hidle : w.isIdle t.cell = true)
    (hd : r.definition? t.moduleName = some d) :
    discard host r t.cell w = ({ r with instances := r.instances.filter (·.id != t.id) },
      (Registry.destroy host d (w.inst t.cell) (w.setInst t.cell .empty)).2) := by
  have hrun : r.deleteInstance host t.cell w = _ :=
    Registry.deleteInstance_of_idle (hs.tracked?_eq ht) hidle
  rw [Registry.dispose_of_idle hidle hd] at hrun
  rw [discard, Effect.bind_of_eq hrun]
  rfl

/-- **Idle instances are taken apart one after the other.**

**Proof sketch.** Induction on the instances. A destructor gives back what it borrows, so the others are
idle still, and they stay tracked. -/
lemma discardAll (host : Host κ ω) (origin : String → Nat) (hs : r.Sound w)
    (hmem : ∀ t ∈ ss, t ∈ r.instances) (hidle : ∀ t ∈ ss, w.isIdle t.cell = true)
    (hcells : (ss.map Tracked.cell).Nodup) :
    ∃ w', ss.foldlM (fun r t => discard host r t.cell) r w =
        ({ r with instances := r.instances.filter (· ∉ ss) }, w') ∧
      host.Course w (r.destructions host origin w ss) w' := by
  induction ss generalizing r w with
  | nil =>
    refine ⟨w, ?_, .nil w⟩
    simp only [List.not_mem_nil, not_false_eq_true, decide_true, List.filter_true]
    rfl
  | cons t ss ih =>
    obtain ⟨hnot, hcells⟩ := List.nodup_cons.1 hcells
    obtain ⟨ht, hmem⟩ := List.forall_mem_cons.1 hmem
    obtain ⟨hfirst, hidle⟩ := List.forall_mem_cons.1 hidle
    obtain ⟨d, hd⟩ := hs.exists_definition ht
    have hdeed : Deed.Happens host (.destroyed (origin t.moduleName) d t.cell (w.inst t.cell)) w
        (Registry.destroy host d (w.inst t.cell) (w.setInst t.cell .empty)).2 :=
      .destroyed _ d hfirst
    have hkept : ∀ s ∈ ss, s ∈ r.instances.filter (·.id != t.id) := by
      refine fun s hs' => List.mem_filter.2 ⟨hmem s hs', bne_iff_ne.2 fun hid => hnot ?_⟩
      exact List.mem_map.2 ⟨s, hs', by rw [hs.eq_of_id_eq (hmem s hs') ht hid]⟩
    obtain ⟨w', hrun, hcourse⟩ := ih ((hs.of_filter (·.id != t.id)).of_next_le hdeed.next_le) hkept
      (fun s hs' => (World.isIdle_of_usage_eq (by simp)).trans (hidle s hs')) hcells
    have hfilter : (r.instances.filter (·.id != t.id)).filter (· ∉ ss) =
        r.instances.filter (· ∉ t :: ss) := by
      rw [List.filter_filter]
      refine List.filter_congr fun s hs' => ?_
      by_cases hst : s = t
      · simp [hst]
      · have hid : s.id ≠ t.id := fun hid => hst (hs.eq_of_id_eq hs' ht hid)
        simp [hst, hid]
    refine ⟨w', ?_, ?_⟩
    · rw [List.foldlM_cons, Effect.bind_of_eq (discard_of_idle hs ht hfirst hd), hrun, hfilter]
    · rw [Registry.destructions_of_instances] at hcourse
      rw [Registry.destructions_cons_of_idle hfirst hd]
      exact .cons hdeed hcourse

/-! ## A registry on the way -/

/-- From a registry `r` and a world `w` on, the instances `ts` were made. Here `origin` tells which
registration a module is from. -/
structure Staged (host : Host κ ω) (origin : String → Nat) (r : Registry κ) (w : World κ ω)
    (ts : List Tracked) (r' : Registry κ) (w' : World κ ω) (deeds : List (Deed κ)) : Prop where
  /-- The records of the registry agree. -/
  sound : r'.Sound w'
  /-- The instances are tracked, and so are those that were. -/
  instances_eq : r'.instances = r.instances ++ ts
  /-- The modules are the same. -/
  order_eq : r'.order = r.order
  /-- Their definitions are the same. -/
  definitions_eq : r'.definitions = r.definitions
  /-- The numbers go up. -/
  lastId_le : r.lastId ≤ r'.lastId
  /-- The instances have new numbers. -/
  fresh : ∀ t ∈ ts, r.lastId < t.id
  /-- Nobody uses them. -/
  idle : ∀ t ∈ ts, w'.isIdle t.cell = true
  /-- If factories and methods let them, they have their numbers and the names of their modules. -/
  identity : host.KeepsIdentity → ∀ t ∈ ts,
    (w'.inst t.cell).identity = (t.id, t.moduleName)
  /-- The factories of their modules have built them. -/
  built : ∀ t ∈ ts, ∃ d i, r.definition? t.moduleName = some d ∧
    .built (origin t.moduleName) d t i ∈ deeds
  /-- Otherwise factories have built nothing, or instances were asked. -/
  only : ∀ deed ∈ deeds, (∃ t ∈ ts, ∃ d i, r.definition? t.moduleName = some d ∧
    deed = .built (origin t.moduleName) d t i) ∨ (∃ o d, deed = .refused o d) ∨
      ∃ cell, deed = .asked cell
  /-- Nothing else has happened. -/
  course : host.Course w deeds w'

namespace Staged

lemma refl (host : Host κ ω) (origin : String → Nat) (hs : r.Sound w) :
    Staged host origin r w [] r w [] where
  sound := hs
  instances_eq := (List.append_nil _).symm
  order_eq := rfl
  definitions_eq := rfl
  lastId_le := Nat.le_refl _
  fresh := fun _ ht => nomatch ht
  idle := fun _ ht => nomatch ht
  identity := fun _ _ ht => nomatch ht
  built := fun _ ht => nomatch ht
  only := fun _ hdeed => nomatch hdeed
  course := .nil w

lemma cell_taken (h : Staged host origin r w ts r₁ w₁ deeds) (ht : t ∈ ts) :
    t.cell < w₁.cells.next :=
  h.sound.cell_taken t (h.instances_eq ▸ List.mem_append_right _ ht)

/-- A factory that builds nothing, or a question for a template, is one more deed. -/
lemma snoc (h : Staged host origin r w ts r₁ w₁ deeds) {deed : Deed κ}
    (hdeed : deed.Happens host w₁ w')
    (hkind : (∃ o d, deed = .refused o d) ∨ ∃ cell, deed = .asked cell)
    (hsame : host.KeepsIdentity → ∀ t ∈ ts, (w'.inst t.cell).identity = (w₁.inst t.cell).identity) :
    Staged host origin r w ts r₁ w' (deeds ++ [deed]) :=
  { h with
    sound := h.sound.of_next_le hdeed.next_le
    idle := fun t ht => (World.isIdle_of_usage_eq (hdeed.usage_eq (h.cell_taken ht))).trans (h.idle t ht)
    identity := fun hkeeps t ht => (hsame hkeeps t ht).trans (h.identity hkeeps t ht)
    built := fun t ht =>
      have ⟨d, i, hd, hbuilt⟩ := h.built t ht
      ⟨d, i, hd, List.mem_append_left _ hbuilt⟩
    only := fun other hother => by
      rcases List.mem_append.1 hother with hold | hnew
      · exact h.only other hold
      · rw [List.mem_singleton.1 hnew]
        exact .inr hkind
    course := h.course.append (.single hdeed) }

/-- A factory builds nothing. -/
lemma refused (h : Staged host origin r w ts r₁ w₁ deeds) {reason : String} (o : Nat)
    (hc : (host.create d.factory).run w₁ = (.error reason, w')) :
    Staged host origin r w ts r₁ w' (deeds ++ [.refused o d]) := by
  refine h.snoc (.refused hc) (.inl ⟨o, d, rfl⟩) fun hkeeps t _ => ?_
  have hsame := hkeeps.create d.factory w₁ t.cell
  rwa [hc] at hsame

/-- An instance is asked for its template. -/
lemma asked (h : Staged host origin r w ts r₁ w₁ deeds) (ht : t ∈ ts) :
    Staged host origin r w ts r₁ ((World.onInstance t.cell (askTemplate host)).run w₁).2
      (deeds ++ [.asked t.cell]) :=
  h.snoc (.asked t.cell w₁) (.inr ⟨t.cell, rfl⟩) fun hkeeps s _ =>
    hkeeps.onInstance (h.cell_taken ht) s.cell

/-- A factory builds an instance. -/
lemma made (h : Staged host origin r w ts r₁ w₁ deeds) {i : Instance κ}
    (hd : r₁.definition? name = some d) (hc : (host.create d.factory).run w₁ = (.ok i, w')) :
    Staged host origin r w (ts ++ [⟨r₁.lastId + 1, name, w₁.cells.next⟩])
      (r₁.track name w₁.cells.next) (w'.place (i.attach (r₁.lastId + 1) name r₁.shared))
      (deeds ++ [.built (origin name) d ⟨r₁.lastId + 1, name, w₁.cells.next⟩
        (i.attach (r₁.lastId + 1) name r₁.shared)]) where
  sound := h.sound.track hd (by rw [World.next_place, Visit.next_eq hc]; exact Nat.lt_succ_self _)
  instances_eq := by rw [Registry.track, h.instances_eq, List.append_assoc]
  order_eq := h.order_eq
  definitions_eq := h.definitions_eq
  lastId_le := Nat.le_succ_of_le h.lastId_le
  fresh := fun t ht => by
    rcases List.mem_append.1 ht with hold | hnew
    · exact h.fresh t hold
    · rw [List.mem_singleton.1 hnew]
      exact Nat.lt_succ_of_le h.lastId_le
  idle := fun t ht => by
    rcases List.mem_append.1 ht with hold | hnew
    · have hcell : t.cell ≠ w'.cells.next :=
        Nat.ne_of_lt ((Visit.next_eq hc).symm ▸ h.cell_taken hold)
      have husage := (World.usage_place_of_ne hcell (i.attach (r₁.lastId + 1) name r₁.shared)).trans
        (Visit.usage_eq hc t.cell)
      exact (World.isIdle_of_usage_eq husage).trans (h.idle t hold)
    · rw [List.mem_singleton.1 hnew, ← Visit.next_eq hc]
      exact World.isIdle_place_next _ _
  identity := fun hkeeps t ht => by
    rw [World.inst_place, Visit.next_eq hc]
    rcases List.mem_append.1 ht with hold | hnew
    · have hsame := hkeeps.create d.factory w₁ t.cell
      rw [hc] at hsame
      rw [if_neg (Nat.ne_of_lt (h.cell_taken hold))]
      exact hsame.trans (h.identity hkeeps t hold)
    · rw [List.mem_singleton.1 hnew, if_pos rfl]
      rfl
  built := fun t ht => by
    rcases List.mem_append.1 ht with hold | hnew
    · obtain ⟨d, i, hd, hdeed⟩ := h.built t hold
      exact ⟨d, i, hd, List.mem_append_left _ hdeed⟩
    · rw [List.mem_singleton.1 hnew]
      refine ⟨d, _, ?_, List.mem_append_right _ List.mem_cons_self⟩
      rwa [Registry.definition?, ← h.definitions_eq]
  only := fun deed hdeed => by
    rcases List.mem_append.1 hdeed with hold | hnew
    · rcases h.only deed hold with ⟨t, ht, hbuilt⟩ | hother
      · exact .inl ⟨t, List.mem_append_left _ ht, hbuilt⟩
      · exact .inr hother
    · refine .inl ⟨_, List.mem_append_right _ List.mem_cons_self, d, _, ?_, List.mem_singleton.1 hnew⟩
      rwa [Registry.definition?, ← h.definitions_eq]
  course := h.course.append (.single (.built rfl hc))

end Staged

/-- All instances that were made were taken apart again, from a registry `r` and a world `w` on. -/
structure Undone (host : Host κ ω) (r : Registry κ) (w : World κ ω) (r' : Registry κ)
    (w' : World κ ω) (deeds : List (Deed κ)) : Prop where
  /-- The instances that are tracked are the same, with the same numbers. -/
  instances_eq : r'.instances = r.instances
  /-- The modules are the same. -/
  order_eq : r'.order = r.order
  /-- Their definitions are the same. -/
  definitions_eq : r'.definitions = r.definitions
  /-- Every instance that was made was taken apart once, by the definition that built it. -/
  destroyed : ∀ cell, w.cells.next ≤ cell → cell < w'.cells.next → ∃ o d t i i',
    t.cell = cell ∧ .built o d t i ∈ deeds ∧
      deeds.filter (Deed.destroys cell) = [.destroyed o d cell i']
  /-- No other instance was. -/
  own : ∀ o d cell i, .destroyed o d cell i ∈ deeds →
    w.cells.next ≤ cell ∧ cell < w'.cells.next
  /-- Nothing else has happened. -/
  course : host.Course w deeds w'

namespace Staged

/-- No destructor has been called so far. -/
lemma destroys_nothing (h : Staged host origin r w ts r₁ w₁ deeds) (cell : Ref) :
    deeds.filter (Deed.destroys cell) = [] := by
  refine List.filter_eq_nil_iff.2 fun deed hdeed => ?_
  rcases h.only deed hdeed with ⟨t, -, d, i, -, rfl⟩ | ⟨o, d, rfl⟩ | ⟨cell, rfl⟩ <;>
    simp [Deed.destroys]

/-- The instances that were made are those in the cells that were taken. -/
lemma mem_cells_iff (h : Staged host origin r w ts r₁ w₁ deeds) (cell : Ref) :
    (∃ t ∈ ts, t.cell = cell) ↔ w.cells.next ≤ cell ∧ cell < w₁.cells.next := by
  rw [← h.course.makes_iff]
  constructor
  · rintro ⟨t, ht, rfl⟩
    obtain ⟨d, i, -, hdeed⟩ := h.built t ht
    exact ⟨_, hdeed, beq_self_eq_true t.cell⟩
  · rintro ⟨deed, hdeed, hmakes⟩
    rcases h.only deed hdeed with ⟨t, ht, d, i, -, rfl⟩ | ⟨o, d, rfl⟩ | ⟨cell, rfl⟩
    · exact ⟨t, ht, eq_of_beq hmakes⟩
    · cases hmakes
    · cases hmakes

/-- **What was made can be taken apart again**, in any order. -/
lemma undone (h : Staged host origin r w ts r₁ w₁ deeds) (hperm : ss.Perm ts) :
    ∃ r' w' deeds', ss.foldlM (fun r t => discard host r t.cell) r₁ w₁ = (r', w') ∧
      Undone host r w r' w' deeds' := by
  have hnodup : (r.instances.map Tracked.cell ++ ts.map Tracked.cell).Nodup := by
    rw [← List.map_append, ← h.instances_eq]
    exact h.sound.cells_nodup
  obtain ⟨-, htscells, hdisjoint⟩ := List.nodup_append.1 hnodup
  have hcells : (ss.map Tracked.cell).Nodup := (hperm.map Tracked.cell).nodup_iff.2 htscells
  have hmem : ∀ t ∈ ss, t ∈ r₁.instances := fun t ht => by
    rw [h.instances_eq]
    exact List.mem_append_right _ (hperm.mem_iff.1 ht)
  obtain ⟨w', hrun, hcourse⟩ := discardAll host origin h.sound hmem
    (fun t ht => h.idle t (hperm.mem_iff.1 ht)) hcells
  -- taking instances apart takes no cells
  have hlast {cell : Ref} (hlt : cell < w'.cells.next) : cell < w₁.cells.next := by
    by_contra hge
    obtain ⟨deed, hdeed, hmakes⟩ := hcourse.makes_iff.2 ⟨Nat.not_lt.1 hge, hlt⟩
    obtain ⟨t, -, -, d, i, -, rfl⟩ := Registry.of_mem_destructions hdeed
    cases hmakes
  refine ⟨_, w', deeds ++ r₁.destructions host origin w₁ ss, hrun, {
    instances_eq := ?_
    order_eq := h.order_eq
    definitions_eq := h.definitions_eq
    destroyed := fun cell hle hlt => ?_
    own := fun o d cell i hdeed => ?_
    course := h.course.append hcourse }⟩
  · have hold : r.instances.filter (· ∉ ss) = r.instances := by
      refine List.filter_eq_self.2 fun t ht => decide_eq_true fun hss => ?_
      exact hdisjoint _ (List.mem_map_of_mem ht) _ (List.mem_map_of_mem (hperm.mem_iff.1 hss)) rfl
    have hnew : ts.filter (· ∉ ss) = [] :=
      List.filter_eq_nil_iff.2 fun t ht => by simpa using hperm.mem_iff.2 ht
    rw [h.instances_eq, List.filter_append, hold, hnew, List.append_nil]
  · obtain ⟨t, ht, rfl⟩ := (h.mem_cells_iff cell).2 ⟨hle, hlast hlt⟩
    obtain ⟨d, i, hd, hdeed⟩ := h.built t ht
    have hd' : r₁.definition? t.moduleName = some d := by
      rwa [Registry.definition?, h.definitions_eq]
    have hcourse' : host.Course w₁ (r₁.destructions host origin w₁ ss ++ []) w' := by
      rwa [List.append_nil]
    obtain ⟨earlier, u, later, hturn⟩ := Registry.exists_takesApart hcourse' hcells
      (fun s hs => h.sound.exists_definition (hmem s hs)) (hperm.mem_iff.2 ht) (h.idle t ht) hd'
      (List.forall_mem_nil _)
    rw [List.append_nil] at hturn
    refine ⟨_, d, t, i, u.inst t.cell, rfl, List.mem_append_left _ hdeed, ?_⟩
    rw [List.filter_append, h.destroys_nothing, List.nil_append, hturn.filter_destroys]
  · rcases List.mem_append.1 hdeed with hold | hnew
    · rcases h.only _ hold with ⟨t, -, d, i, -, hsame⟩ | ⟨o, d, hsame⟩ | ⟨cell, hsame⟩ <;> cases hsame
    · obtain ⟨t, ht, -, d, i, -, hsame⟩ := Registry.of_mem_destructions hnew
      cases hsame
      obtain ⟨hle, hlt⟩ := (h.mem_cells_iff t.cell).1 ⟨t, hperm.mem_iff.1 ht, rfl⟩
      exact ⟨hle, Nat.lt_of_lt_of_le hlt hcourse.next_le⟩

end Staged

/-! ## Staging modules -/

/-- A command works on its instance, and its name was free. -/
lemma of_bindingOf {spec : String} {cell : Ref} {i : Instance κ} {b : Binding κ}
    (h : cs.bindingOf name spec cell i = .ok b) : b.cell = cell ∧ cs.hasCommand name = false := by
  unfold bindingOf at h
  cases ht : cs.newTemplate name spec with
  | error e =>
    rw [ht] at h
    cases h
  | ok template =>
    rw [ht] at h
    cases h
    refine ⟨rfl, ?_⟩
    unfold newTemplate at ht
    split at ht
    · cases ht
    · next hfree => simpa using hfree

section Stage

variable {cell : Ref} {spec : Except Failure String} {e : Failure}

/-- Without an instance nothing is staged. -/
lemma stage_of_unmade (h : r.newInstance host name w = ((.error e, r'), w')) :
    cs.stage host r name w = ((.error e, r'), w') := by
  rw [stage, Effect.bind_of_eq h]
  rfl

/-- An instance that gives a template gets a command. -/
lemma stage_of_bound {b : Binding κ} (h : r.newInstance host name w = ((.ok cell, r'), w₁))
    (hask : (World.onInstance cell (askTemplate host)).run w₁ = (spec, w'))
    (hb : (spec.bind fun spec => cs.bindingOf name spec cell (w'.inst cell)) = .ok b) :
    cs.stage host r name w = ((.ok b, r'), w') := by
  rw [stage, Effect.bind_of_eq h]
  dsimp only
  rw [Effect.bind_of_eq hask, Effect.get_bind, hb]
  rfl

/-- An instance that gives none is taken apart again. -/
lemma stage_of_unbound (h : r.newInstance host name w = ((.ok cell, r'), w₁))
    (hask : (World.onInstance cell (askTemplate host)).run w₁ = (spec, w'))
    (hb : (spec.bind fun spec => cs.bindingOf name spec cell (w'.inst cell)) = .error e) :
    cs.stage host r name w =
      ((.error e, (discard host r' cell w').1), (discard host r' cell w').2) := by
  rw [stage, Effect.bind_of_eq h]
  dsimp only
  rw [Effect.bind_of_eq hask, Effect.get_bind, hb]
  rfl

end Stage

/-- **A module is staged**, or its instance is not there, or there is one that gives no template. -/
lemma Staged.stage (h : Staged host origin r w ts r₁ w₁ deeds) (cs : CommandSet κ) (name : String) :
    (∃ e w₂ deeds₂, cs.stage host r₁ name w₁ = ((.error e, r₁), w₂) ∧
      Staged host origin r w ts r₁ w₂ deeds₂) ∨
    ∃ t r₂ w₂ deeds₂, t.moduleName = name ∧ Staged host origin r w (ts ++ [t]) r₂ w₂ deeds₂ ∧
      ((∃ b, cs.stage host r₁ name w₁ = ((.ok b, r₂), w₂) ∧ b.cell = t.cell ∧
        cs.hasCommand name = false) ∨
      ∃ e, cs.stage host r₁ name w₁ =
        ((.error e, (discard host r₂ t.cell w₂).1), (discard host r₂ t.cell w₂).2)) := by
  cases hd : r₁.definition? name with
  | none => exact .inl ⟨_, w₁, deeds, stage_of_unmade (Registry.newInstance_of_unknown hd), h⟩
  | some d =>
    match hc : (host.create d.factory).run w₁ with
    | (.error reason, u) =>
      exact .inl ⟨_, _, _, stage_of_unmade (Registry.newInstance_of_refused hd hc),
        h.refused (origin name) hc⟩
    | (.ok i, u) =>
      have hmade := Registry.newInstance_of_built hd hc
      have hstaged := (h.made hd hc).asked (List.mem_append_right _ List.mem_cons_self)
      refine .inr ⟨_, _, _, _, rfl, hstaged, ?_⟩
      generalize u.place (i.attach (r₁.lastId + 1) name r₁.shared) = v at hmade
      match hask : (World.onInstance w₁.cells.next (askTemplate host)).run v with
      | (.error e, w₂) => exact .inr ⟨e, stage_of_unbound hmade hask rfl⟩
      | (.ok spec, w₂) =>
        cases hb : cs.bindingOf name spec w₁.cells.next (w₂.inst w₁.cells.next) with
        | error e => exact .inr ⟨e, stage_of_unbound hmade hask hb⟩
        | ok b => exact .inl ⟨b, stage_of_bound hmade hask hb, of_bindingOf hb⟩

/-- Taking apart the instances of commands. -/
lemma foldlM_discard {staged : List (String × Binding κ)}
    (hsame : (staged.map fun e => (e.1, e.2.cell)) = ts.map fun t => (t.moduleName, t.cell))
    (host : Host κ ω) (r : Registry κ) : staged.foldlM (fun r (_, b) => discard host r b.cell) r =
      ts.foldlM (fun r t => discard host r t.cell) r := by
  have hcells : (staged.map fun e => e.2.cell) = ts.map Tracked.cell := by
    have h := congrArg (List.map Prod.snd) hsame
    rwa [List.map_map, List.map_map] at h
  calc staged.foldlM (fun r (_, b) => discard host r b.cell) r
    _ = (staged.map fun e => e.2.cell).foldlM (discard host) r := by
      rw [List.foldlM_map]
    _ = (ts.map Tracked.cell).foldlM (discard host) r := by rw [hcells]
    _ = ts.foldlM (fun r t => discard host r t.cell) r := List.foldlM_map

/-- At the first failure what was staged is taken apart. -/
lemma stageAll_of_error {staged : List (String × Binding κ)} {names : List String} {e : Failure}
    (hsame : (staged.map fun e => (e.1, e.2.cell)) = ts.map fun t => (t.moduleName, t.cell))
    (hrun : cs.stage host r name w = ((.error e, r₁), w₁))
    (hundo : ts.foldlM (fun r t => discard host r t.cell) r₁ w₁ = (r', w')) :
    cs.stageAll host r staged (name :: names) w = ((.error e, r'), w') := by
  rw [← foldlM_discard hsame] at hundo
  rw [stageAll, Effect.bind_of_eq hrun]
  dsimp only
  rw [Effect.bind_of_eq hundo]
  rfl

/-- **All modules are staged, or everything is undone.** The commands that are staged are those of the
instances that were made, and their names were free.

**Proof sketch.** Induction on the modules that are left. When one fails, its own instance is taken apart
first, if there is one, and then those of the modules before. -/
lemma Staged.stageAll (h : Staged host origin r w ts r₁ w₁ deeds) (cs : CommandSet κ)
    (staged : List (String × Binding κ)) (names : List String)
    (hsame : (staged.map fun e => (e.1, e.2.cell)) = ts.map fun t => (t.moduleName, t.cell))
    (hfree : ∀ e ∈ staged, cs.hasCommand e.1 = false) :
    (∃ e r' w' deeds', cs.stageAll host r₁ staged names w₁ = ((.error e, r'), w') ∧
      Undone host r w r' w' deeds') ∨
    ∃ staged' ts' r' w' deeds', cs.stageAll host r₁ staged names w₁ = ((.ok staged', r'), w') ∧
      Staged host origin r w ts' r' w' deeds' ∧
      (staged'.map fun e => (e.1, e.2.cell)) = (ts'.map fun t => (t.moduleName, t.cell)) ∧
      (∀ e ∈ staged', cs.hasCommand e.1 = false) ∧
      staged'.map Prod.fst = staged.map Prod.fst ++ names := by
  induction names generalizing staged ts r₁ w₁ deeds with
  | nil => exact .inr ⟨staged, ts, r₁, w₁, deeds, rfl, h, hsame, hfree, (List.append_nil _).symm⟩
  | cons name names ih =>
    rcases h.stage cs name with ⟨e, w₂, deeds₂, hrun, h₂⟩ | ⟨t, r₂, w₂, deeds₂, rfl, h₂, hstage⟩
    · obtain ⟨r', w', deeds', hundo, hundone⟩ := h₂.undone (.refl ts)
      exact .inl ⟨e, r', w', deeds', stageAll_of_error hsame hrun hundo, hundone⟩
    rcases hstage with ⟨b, hrun, hcell, hnew⟩ | ⟨e, hrun⟩
    · have hsame' : ((staged ++ [(t.moduleName, b)]).map fun e => (e.1, e.2.cell)) =
          (ts ++ [t]).map fun t => (t.moduleName, t.cell) := by
        simp [hsame, hcell]
      have hfree' : ∀ e ∈ staged ++ [(t.moduleName, b)], cs.hasCommand e.1 = false := by
        intro e he
        rcases List.mem_append.1 he with hold | hlast
        · exact hfree e hold
        · rwa [List.mem_singleton.1 hlast]
      have hnext : cs.stageAll host r₁ staged (t.moduleName :: names) w₁ =
          cs.stageAll host r₂ (staged ++ [(t.moduleName, b)]) names w₂ := by
        rw [CommandSet.stageAll, Effect.bind_of_eq hrun]
      rw [hnext]
      rcases ih h₂ _ hsame' hfree' with hundone | ⟨staged', ts', r', w', deeds', hrun', h', hs', hf', hn⟩
      · exact .inl hundone
      · exact .inr ⟨staged', ts', r', w', deeds', hrun', h', hs', hf', by simpa using hn⟩
    · obtain ⟨r', w', deeds', hundo, hundone⟩ := h₂.undone (List.perm_append_singleton t ts).symm
      exact .inl ⟨e, r', w', deeds', stageAll_of_error hsame hrun hundo, hundone⟩

end CommandSet

end BracketScript
