import BracketScript.Proofs.Registry.History

set_option autoImplicit false

/-!
# When libraries are closed

The code of a module may be in a library, which comes with the operation that registers the module. A
library that comes in vain is closed at once. Otherwise the definition holds it, and it is closed when
the definition is dropped. The destructors of the module are in the library, so they have to be called
before.

## Main definitions

* `BracketScript.History.Closing` — the one operation that closes a library.
* `BracketScript.History.Service` — how long a library is in use, and what is done before it is closed.

## Main results

* `BracketScript.History.closed_after_use` — every library is closed once: at once if its registration
  fails, and otherwise after the destructors of its instances when its module is dropped.
-/

namespace BracketScript

variable {κ ω : Type}

namespace Registry

variable {host : Host κ ω} {origin : String → Nat} {now : Nat} {r r' : Registry κ}
  {w w' : World κ ω} {op : Operation κ} {answer : Answer} {deeds : List (Deed κ)} {name : String}
  {d : Definition κ} {l : Library κ} {o : Nat}

/-- The libraries that are closed for one registration are those of the modules from it. -/
lemma filter_closes (r : Registry κ) (origin : String → Nat) (names : List String) (o : Nat) :
    (r.closings origin names).filter (Deed.closes o) =
      r.closings origin (names.filter (origin · == o)) := by
  simp only [closings, List.filter_filterMap, List.filterMap_filter]
  refine List.filterMap_congr fun name _ => ?_
  cases (r.definition? name).bind Definition.library? <;> cases ho : origin name == o <;>
    simp [Deed.closes, ho]

lemma closings_singleton (origin : String → Nat) (hd : r.definition? name = some d)
    (hl : d.library? = some l) : r.closings origin [name] = [.closed (origin name) l] := by
  simp [closings, hd, hl]

namespace Change

/-- A library that comes with an operation comes in vain or with a definition. -/
lemma of_handle (h : Change host origin now r w op answer r' w' deeds)
    (hhandle : r.handle? op = some l) :
    (∃ e, answer = .failed e ∧ r.registers? op = none ∧ deeds = [.closed now l]) ∨
      ∃ d, r.registers? op = some d ∧ d.library? = some l ∧ deeds = [] := by
  cases h with
  | @defined _ d hreg hsame _ => exact .inr ⟨d, hreg, hsame.symm.trans hhandle, rfl⟩
  | @wasted _ e _ hreg hsame =>
    cases hsame.symm.trans hhandle
    exact .inl ⟨e, rfl, hreg, rfl⟩
  | refused => cases hhandle
  | built => cases hhandle
  | tornDown _ _ hnone _ => cases hnone.symm.trans hhandle

/-- A library that is closed came in vain or is that of a module that is dropped. -/
lemma of_closed (h : Change host origin now r w op answer r' w' deeds)
    (hdeed : .closed o l ∈ deeds) : (o = now ∧ r.handle? op = some l) ∨
      ∃ name ∈ r.order, op.drops name = true ∧ origin name = o ∧
        ∃ d, r.definition? name = some d ∧ d.library? = some l := by
  cases h with
  | defined => cases hdeed
  | wasted _ hhandle =>
    cases List.mem_singleton.1 hdeed
    exact .inl ⟨rfl, hhandle⟩
  | refused => cases List.mem_singleton.1 hdeed
  | built => cases List.mem_singleton.1 hdeed
  | tornDown _ _ _ h =>
    rw [h.deeds_eq] at hdeed
    rcases List.mem_append.1 hdeed with hdeed | hdeed
    · obtain ⟨t, -, -, d, i, -, hsame⟩ := of_mem_destructions hdeed
      cases hsame
    · obtain ⟨name, hname, d, l, hd, hl, hsame⟩ := mem_closings.1 hdeed
      cases hsame
      obtain ⟨hmem, hdrops⟩ := List.mem_filter.1 hname
      exact .inr ⟨name, hmem, hdrops, rfl, d, hd, hl⟩

/-- A destructor that is called is that of a module that is there. -/
lemma of_destroyed {cell : Ref} {i : Instance κ}
    (h : Change host origin now r w op answer r' w' deeds)
    (hdeed : .destroyed o d cell i ∈ deeds) :
    ∃ name, r.definition? name = some d ∧ origin name = o := by
  cases h with
  | defined => cases hdeed
  | wasted => cases List.mem_singleton.1 hdeed
  | refused => cases List.mem_singleton.1 hdeed
  | built => cases List.mem_singleton.1 hdeed
  | tornDown _ _ _ h =>
    rw [h.deeds_eq] at hdeed
    rcases List.mem_append.1 hdeed with hdeed | hdeed
    · obtain ⟨t, -, -, d, i, hd, hsame⟩ := of_mem_destructions hdeed
      cases hsame
      exact ⟨t.moduleName, hd, rfl⟩
    · obtain ⟨name, -, d, l, -, -, hsame⟩ := mem_closings.1 hdeed
      cases hsame

end Change

end Registry

namespace History

variable {h : History κ ω} {k m n : Nat} {d : Definition κ} {l : Library κ}

/-- The library that came with operation `k` is closed by operation `m` and by no other. -/
structure Closing (h : History κ ω) (k m : Nat) (l : Library κ) : Prop where
  /-- The operation closes it once. -/
  once : (h.deeds m).filter (Deed.closes k) = [.closed k l]
  /-- No other operation closes it. -/
  nowhere : ∀ n, n ≠ m → (h.deeds n).filter (Deed.closes k) = []

/-- The library that came with operation `k` is held by the definition `d` until operation `m`. -/
structure Service (h : History κ ω) (k m : Nat) (d : Definition κ) (l : Library κ) : Prop where
  /-- The operation registered the definition. -/
  registers : (h.before k).registry.registers? (h.operation k) = some d
  /-- The definition holds the library. -/
  library : d.library? = some l
  /-- The definition was not dropped at once. -/
  lt : k < m
  /-- It is dropped at the latest when the registry is. -/
  le : m ≤ h.ending
  /-- It is there in between. -/
  defined : ∀ n, k < n → n ≤ m → (h.stage n).registry.definition? d.name = some d
  /-- The first operation that is to drop the module does so. -/
  dropped : ∀ n, k < n → n ≤ m → ((h.operation n).drops d.name = true ↔ n = m)
  /-- The library is closed in a world `u`. Before that the destructor has got every instance of the
  module that nobody uses; after that, only other libraries are closed. -/
  last : ∃ pre u post, h.deeds m = pre ++ .closed k l :: post ∧
    h.host.Course (h.before m).world pre u ∧
    (∀ t ∈ (h.before m).registry.instances, t.moduleName = d.name →
      (h.before m).world.isIdle t.cell = true → ∃ earlier v later,
        h.host.TakesApart (h.before m).world pre u k d t.cell earlier v later) ∧
    ∀ deed ∈ post, ∃ j l', deed = .closed j l'
  /-- Its destructor is never called again. -/
  finished : ∀ n d' cell i, .destroyed k d' cell i ∈ h.deeds n → n ≤ m

/-- A library that is closed came in vain, or the module that was registered with it is dropped. -/
lemma of_closed (hdeed : .closed k l ∈ h.deeds n) :
    (n = k ∧ (h.before k).registry.handle? (h.operation k) = some l) ∨
      ∃ d, h.Registered n d.name d k ∧ (h.operation n).drops d.name = true ∧
        d.library? = some l := by
  rcases (change (h := h) n).of_closed hdeed with ⟨rfl, hhandle⟩ | ⟨name, -, hdrops, ho, d, hd, hl⟩
  · exact .inl ⟨rfl, hhandle⟩
  · have hr : h.Registered n name d k := registered_of_origin hd ho
    obtain rfl := hr.name_eq
    exact .inr ⟨d, hr, hdrops, hl⟩

/-- Where a library is not closed, no closing of it is found. -/
lemma filter_closes_eq_nil (hnone : ∀ l, .closed k l ∉ h.deeds n) :
    (h.deeds n).filter (Deed.closes k) = [] := by
  refine List.filter_eq_nil_iff.2 fun deed hdeed hcloses => ?_
  cases deed with
  | closed o l =>
    obtain rfl : o = k := eq_of_beq hcloses
    exact hnone l hdeed
  | _ => cases hcloses

/-- The library of a failed registration is closed within it. -/
lemma closing_of_failed (hreg : (h.before k).registry.registers? (h.operation k) = none)
    (hdeeds : h.deeds k = [.closed k l]) : h.Closing k k l where
  once := by simp [hdeeds, Deed.closes]
  nowhere := fun n hn => by
    refine filter_closes_eq_nil fun l' hdeed => ?_
    rcases of_closed hdeed with ⟨rfl, -⟩ | ⟨d, hr, -, -⟩
    · exact hn rfl
    · cases hreg.symm.trans hr.registers

/-- Dropping a module closes its library once. Before that the destructor gets the instances of the
module, and after that only other libraries are closed. -/
lemma deeds_of_drops (hr : h.Registered m d.name d k) (hl : d.library? = some l)
    (hdrops : (h.operation m).drops d.name = true) :
    (h.deeds m).filter (Deed.closes k) = [.closed k l] ∧
    ∃ pre u post, h.deeds m = pre ++ .closed k l :: post ∧
      h.host.Course (h.before m).world pre u ∧
      (∀ t ∈ (h.before m).registry.instances, t.moduleName = d.name →
        (h.before m).world.isIdle t.cell = true → ∃ earlier v later,
          h.host.TakesApart (h.before m).world pre u k d t.cell earlier v later) ∧
      ∀ deed ∈ post, ∃ j l', deed = .closed j l' := by
  obtain ⟨hd, ho⟩ := hr.since m hr.lt (Nat.le_refl m)
  have hd : (h.before m).registry.definition? d.name = some d := hd
  have ho : (h.before m).origin d.name = k := ho
  have hlisted : d.name ∈ (h.before m).registry.order := ((sound m).mem_order d.name).2 (by rw [hd]; rfl)
  have hmem : d.name ∈ (h.before m).registry.order.filter (h.operation m).drops :=
    List.mem_filter.2 ⟨hlisted, hdrops⟩
  have hclosed : (h.before m).registry.closings (h.before m).origin [d.name] = [.closed k l] := by
    rw [Registry.closings_singleton _ hd hl, ho]
  have hdeeds := ((change m).of_drops hdrops).deeds_eq
  constructor
  · have hnone : ((h.before m).registry.destructions h.host (h.before m).origin (h.before m).world
        ((h.before m).registry.instances.filter ((h.operation m).forgets (h.before m).world))).filter
        (Deed.closes k) = [] := by
      refine List.filter_eq_nil_iff.2 fun deed hdeed => ?_
      obtain ⟨t, -, -, d', i, -, rfl⟩ := Registry.of_mem_destructions hdeed
      simp [Deed.closes]
    have hone : ((h.before m).registry.order.filter (h.operation m).drops).filter
        ((h.before m).origin · == k) = [d.name] := by
      rw [← ho]
      exact Registry.filter_key_of_nodup (origins_nodup.sublist (List.filter_sublist.map _)) hmem
    rw [hdeeds, List.filter_append, hnone, Registry.filter_closes, hone, hclosed, List.nil_append]
  · obtain ⟨names, more, hsplit⟩ := List.append_of_mem hmem
    rw [hsplit, ← List.singleton_append, Registry.closings_append, Registry.closings_append, hclosed,
      ← List.append_assoc] at hdeeds
    have hcourse := (change (h := h) m).course
    rw [hdeeds] at hcourse
    obtain ⟨u, hbefore, -⟩ := Host.Course.append_iff.1 hcourse
    refine ⟨_, u, _, hdeeds, hbefore, fun t ht hname hidle => ?_, fun deed hdeed => ?_⟩
    · rw [← hname] at hd ho hdrops
      have hforgotten := Operation.forgets_of_drops hdrops (h.before m).world
      have hturn := (sound m).exists_takesApart hbefore ht hforgotten hidle hd
      rwa [ho] at hturn
    · obtain ⟨name, -, d', l', -, -, rfl⟩ := Registry.mem_closings.1 hdeed
      exact ⟨_, l', rfl⟩

/-- **The library of a module is closed when the module is dropped.**

**Proof sketch.** The module is there after operation `k` and not when the registry has been dropped, so
there is an operation `m` that drops it. No other module is ever from operation `k`, so this is the only
time that a library is closed for it. -/
lemma exists_service (hreg : (h.before k).registry.registers? (h.operation k) = some d)
    (hl : d.library? = some l) : ∃ m, h.Service k m d l ∧ h.Closing k m l := by
  obtain ⟨m, hmend, hr, hgone⟩ := exists_last hreg
  have hlatest {n : Nat} {name : String} {d' : Definition κ} (hr' : h.Registered n name d' k) :
      n ≤ m := by
    obtain ⟨rfl, rfl⟩ := hr.unique hr'
    by_contra hmn
    exact hgone (hr'.of_le (Nat.lt_succ_of_lt hr.lt) (Nat.not_le.1 hmn))
  have hdropped (n : Nat) (hkn : k < n) (hnm : n ≤ m) :
      (h.operation n).drops d.name = true ↔ n = m := by
    rw [← Bool.not_eq_false, ← (hr.of_le hkn hnm).succ_iff]
    constructor
    · intro hnot
      by_contra hne
      exact hnot (hr.of_le (Nat.lt_succ_of_lt hkn) (Nat.lt_of_le_of_ne hnm hne))
    · rintro rfl
      exact hgone
  obtain ⟨honce, hlast⟩ := deeds_of_drops hr hl ((hdropped m hr.lt (Nat.le_refl m)).2 rfl)
  refine ⟨m, {
    registers := hreg
    library := hl
    lt := hr.lt
    le := hmend
    defined := fun n hkn hnm => (hr.since n hkn hnm).1
    dropped := hdropped
    last := hlast
    finished := fun n d' cell i hdeed => ?_ }, honce, fun n hn => ?_⟩
  · obtain ⟨name, hd', ho'⟩ := (change n).of_destroyed hdeed
    exact hlatest (registered_of_origin hd' ho')
  · refine filter_closes_eq_nil fun l' hdeed => ?_
    rcases of_closed hdeed with ⟨rfl, hhandle⟩ | ⟨d', hr', hdrops, -⟩
    · -- the library did not come in vain
      rcases (change n).of_handle hhandle with ⟨e, -, hnone, -⟩ | ⟨d', -, -, hnothing⟩
      · cases hnone.symm.trans hreg
      · rw [hnothing] at hdeed
        cases hdeed
    · obtain ⟨rfl, -⟩ := hr.unique hr'
      exact hn ((hdropped n hr'.lt (hlatest hr')).1 hdrops)

/-- **Every library is closed once, and after the destructors that are in it.** Operations run their
deeds and nothing else. A library that comes with a registration that fails is closed within it.
Otherwise it is closed when its module is dropped, after the destructors of the instances that nobody
uses. No other library is closed. Clearing calls the destructors for all tracked instances that nobody
uses, in the order of their numbers, and then closes the libraries of all modules in the order of their
registration. -/
theorem closed_after_use (h : History κ ω) :
    h.RunsDeeds ∧
    (∀ k l, (h.before k).registry.handle? (h.operation k) = some l →
      ((∃ e, h.answer k = .failed e) ∧ h.deeds k = [.closed k l] ∧ h.Closing k k l) ∨
      (h.answer k = .done ∧ ∃ m d, h.Service k m d l ∧ h.Closing k m l)) ∧
    (∀ k m l, .closed k l ∈ h.deeds m →
      (h.before k).registry.handle? (h.operation k) = some l) ∧
    ∀ k, h.operation k = .clear →
      h.deeds k = (h.before k).registry.destructions h.host (h.before k).origin (h.before k).world
          (h.before k).registry.instances ++
        (h.before k).registry.closings (h.before k).origin (h.before k).registry.order ∧
      (h.before k).registry.DestroysInOrder (h.before k).origin
        ((h.before k).registry.instances.filter fun t => (h.before k).world.isIdle t.cell)
        ((h.before k).registry.destructions h.host (h.before k).origin (h.before k).world
          (h.before k).registry.instances) ∧
      (∀ t ∈ (h.before k).registry.instances,
        ∃ d, (h.before k).registry.definition? t.moduleName = some d) ∧
      (h.before k).registry.instances.Pairwise (fun s t => s.id < t.id) ∧
      (h.before k).registry.order.Pairwise
        fun a b => (h.before k).origin a < (h.before k).origin b := by
  refine ⟨runsDeeds h, fun k l hhandle => ?_, fun k m l hdeed => ?_, fun k hop => ?_⟩
  · rcases (change k).of_handle hhandle with ⟨e, hfailed, hnone, hdeeds⟩ | ⟨d, hreg, hl, -⟩
    · exact .inl ⟨⟨e, hfailed⟩, hdeeds, closing_of_failed hnone hdeeds⟩
    · obtain ⟨m, hservice, hclosing⟩ := exists_service hreg hl
      exact .inr ⟨((change k).of_registers hreg).2.1, m, d, hservice, hclosing⟩
  · rcases of_closed hdeed with ⟨-, hhandle⟩ | ⟨d, hr, -, hl⟩
    · exact hhandle
    · rw [((change k).of_registers hr.registers).1, hl]
  · have hs := sound (h := h) k
    have hdefs : ∀ t ∈ (h.before k).registry.instances,
        ∃ d, (h.before k).registry.definition? t.moduleName = some d :=
      fun t ht => hs.exists_definition ht
    refine ⟨?_, Registry.destroysInOrder_destructions h.host _ _ hdefs, hdefs, hs.ids_increase,
      origins_increase k⟩
    rw [deeds, hop]
    rfl

/-- A module that is registered with a library. -/
def held : Definition Nat :=
  ⟨"m", some { onUnload := some 2 }, 0, some 1, none⟩

/-- Another one under the same name. -/
def vain : Definition Nat :=
  ⟨"m", some { onUnload := some 4 }, 0, some 3, none⟩

/-- The first one gets an instance before the second one is refused. -/
def contending : History Nat (List (Entry Nat)) :=
  calm (.scribe Nat) { memory := { host := [] } } [.add held, .newInstance "m", .add vain]

-- the library that comes in vain is closed at once, the other one after the destructor in it
theorem closed_after_use_contending :
    contending.Closing 2 2 { onUnload := some 4 } ∧
      (∃ m d, contending.Service 0 m d { onUnload := some 2 } ∧
        contending.Closing 0 m { onUnload := some 2 }) ∧
      (contending.after 3).world.memory.host = [.unloaded 4,
        .destroyed 1 { id := 1, moduleName := "m", shared? := some 0 }, .unloaded 2] := by
  obtain ⟨hruns, hhandled, -⟩ := closed_after_use contending
  refine ⟨?_, ?_, hruns.logged id (Host.keepsLog_scribe Nat) 3⟩
  · rcases hhandled 2 _ rfl with ⟨-, -, hclosing⟩ | ⟨hdone, -⟩
    · exact hclosing
    · cases hdone
  · rcases hhandled 0 _ rfl with ⟨⟨e, hfailed⟩, -⟩ | ⟨-, hservice⟩
    · cases hfailed
    · exact hservice

end History

end BracketScript
