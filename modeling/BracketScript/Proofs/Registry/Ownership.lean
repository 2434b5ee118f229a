import BracketScript.Proofs.Registry.History

set_option autoImplicit false

/-!
# Who takes instances apart

An instance is handed out by one operation and forgotten by a later one. In between its module stays
what it was when the instance was built, since a module does not go before its instances; so the
destructor that gets the instance is that of the definition whose factory built it, also when the name
of the module has been used before or is used again.

## Main definitions

* `BracketScript.History.Life` — an instance from the operation that hands it out to the one that
  forgets it.

## Main results

* `BracketScript.History.destroyed_by_owner` — each instance has one life, at the end of which it is
  taken apart once by its owner unless it is in use, and no other destructor is ever called.
-/

namespace BracketScript

variable {κ ω : Type}

namespace Registry

variable {host : Host κ ω} {origin : String → Nat} {now : Nat} {r r' : Registry κ}
  {w w' : World κ ω} {t : Tracked} {op : Operation κ} {answer : Answer} {deeds : List (Deed κ)}

namespace Change

/-- What is tracked after an operation was tracked and is not forgotten, or is new. -/
lemma of_mem_instances (h : Change host origin now r w op answer r' w' deeds)
    (ht : t ∈ r'.instances) : (t ∈ r.instances ∧ op.forgets w t = false) ∨
      (answer = .handedOut t.cell ∧ t.cell = w.cells.next) := by
  rcases h.built_or_forgotten with ⟨name, d, i, -, rfl, rfl, rfl, -, -⟩ | ⟨-, -, hkept, -⟩
  · rcases List.mem_append.1 ht with hold | hnew
    · exact .inl ⟨hold, rfl⟩
    · rw [List.mem_singleton.1 hnew]
      exact .inr ⟨rfl, rfl⟩
  · rw [hkept] at ht
    exact .inl (by simpa using ht)

/-- What is not forgotten stays tracked. -/
lemma mem_instances (h : Change host origin now r w op answer r' w' deeds) (ht : t ∈ r.instances)
    (hkept : op.forgets w t = false) : t ∈ r'.instances := by
  rcases h.built_or_forgotten with ⟨name, d, i, -, -, -, rfl, -, -⟩ | ⟨-, -, hinstances, -⟩
  · exact List.mem_append_left _ ht
  · rw [hinstances]
    exact List.mem_filter.2 ⟨ht, by simp [hkept]⟩

/-- Nothing is taken apart that is kept or in use. -/
lemma destroys_nothing (h : Change host origin now r w op answer r' w' deeds) {cell : Ref}
    (hkept : ∀ t ∈ r.instances, t.cell = cell → op.forgets w t = true → w.isIdle cell = false) :
    deeds.filter (Deed.destroys cell) = [] :=
  List.filter_eq_nil_iff.2 fun deed hdeed => by simp [h.destroys_eq_false hkept deed hdeed]

end Change

end Registry

namespace History

variable {h : History κ ω} {b j k m : Nat} {t : Tracked} {cell : Ref} {d : Definition κ}

/-! ## How long an instance is tracked -/

/-- A tracked instance stays tracked unless it is forgotten. -/
lemma tracked_succ_iff (ht : t ∈ (h.stage k).registry.instances) :
    t ∈ (h.stage (k + 1)).registry.instances ↔
      (h.operation k).forgets (h.before k).world t = false := by
  constructor
  · intro ht'
    rcases (change (h := h) k).of_mem_instances ht' with ⟨-, hkept⟩ | ⟨-, hnext⟩
    · exact hkept
    · exact absurd hnext (Nat.ne_of_lt ((sound k).cell_taken t ht))
  · exact (change k).mem_instances ht

/-- An instance that was there and is not tracked will never be tracked. -/
lemma tracked_of_le (hjk : j ≤ k) (hcell : t.cell < (h.stage j).world.cells.next)
    (ht : t ∈ (h.stage k).registry.instances) : t ∈ (h.stage j).registry.instances := by
  induction k, hjk using Nat.le_induction with
  | base => exact ht
  | succ k hjk ih =>
    rcases (change (h := h) k).of_mem_instances ht with ⟨hold, -⟩ | ⟨-, hnext⟩
    · exact ih hold
    · have hpause : (h.stage k).world.cells.next ≤ (h.before k).world.cells.next :=
        (h.turn k).grows _
      have hlt := Nat.lt_of_lt_of_le hcell (Nat.le_trans (next_le_next hjk) hpause)
      exact absurd hnext (Nat.ne_of_lt hlt)

/-- What gets a new cell is tracked only later. -/
lemma lt_of_tracked (hnext : t.cell = (h.before b).world.cells.next)
    (ht : t ∈ (h.stage k).registry.instances) : b < k := by
  by_contra hkb
  have hle : (h.stage k).world.cells.next ≤ (h.before b).world.cells.next :=
    Nat.le_trans (next_le_next (Nat.not_lt.1 hkb)) ((h.turn b).grows _)
  exact Nat.ne_of_lt (Nat.lt_of_lt_of_le ((sound_stage k).cell_taken t ht) hle) hnext

/-- What is tracked was handed out. -/
lemma exists_handedOut (ht : t ∈ (h.stage k).registry.instances) :
    ∃ b, h.answer b = .handedOut t.cell := by
  have hstart : t ∉ (h.stage 0).registry.instances := List.not_mem_nil
  obtain ⟨b, -, -, hnot, hthen⟩ := exists_end (P := fun k => t ∉ (h.stage k).registry.instances)
    hstart (not_not.2 ht) (Nat.zero_le k)
  rcases (change (h := h) b).of_mem_instances (not_not.1 hthen) with ⟨hold, -⟩ | ⟨hanswer, -⟩
  · exact absurd hold hnot
  · exact ⟨b, hanswer⟩

/-! ## The life of an instance -/

/-- An instance is handed out by operation `b` and forgotten by operation `m`. It was built by the
definition `d` that operation `j` had registered. -/
structure Life (h : History κ ω) (b m : Nat) (t : Tracked) (j : Nat) (d : Definition κ) : Prop where
  /-- When it was built, the definition of its module was the one that operation `j` registered. -/
  registered : h.Registered b t.moduleName d j
  /-- It was handed out. -/
  handedOut : h.answer b = .handedOut t.cell
  /-- The factory of that definition built it. -/
  built : h.deeds b = [.built j d t ((h.after b).world.inst t.cell)]
  /-- It was not forgotten at once. -/
  lt : b < m
  /-- It is forgotten at the latest when the registry is dropped. -/
  le : m ≤ h.ending
  /-- It is tracked in between and at no other time. -/
  tracked : ∀ k, t ∈ (h.stage k).registry.instances ↔ b < k ∧ k ≤ m
  /-- The first operation that is to take it down does so. -/
  forgotten : ∀ k, b < k → k ≤ m →
    ((h.operation k).forgets (h.before k).world t = true ↔ k = m)
  /-- Unless it is in use, the destructor of its definition gets it then, once, as it is when its turn
  comes. -/
  destroyed : (h.before m).world.isIdle t.cell = true → ∃ earlier u later,
    h.host.TakesApart (h.before m).world (h.deeds m) (h.after m).world j d t.cell earlier u later
  /-- If it is in use, no destructor gets it. -/
  busy : (h.before m).world.isIdle t.cell = false → (h.deeds m).filter (Deed.destroys t.cell) = []
  /-- No other operation calls a destructor on it. -/
  spared : ∀ k, k ≠ m → (h.deeds k).filter (Deed.destroys t.cell) = []

/-- What it means that an instance is handed out. -/
lemma of_handedOut (hb : h.answer b = .handedOut cell) : b < h.ending ∧ ∃ t d, t.cell = cell ∧
    cell = (h.before b).world.cells.next ∧
    (h.stage b).registry.definition? t.moduleName = some d ∧
    t ∈ (h.stage (b + 1)).registry.instances ∧
    h.deeds b = [.built ((h.stage b).origin t.moduleName) d t ((h.after b).world.inst t.cell)] := by
  rcases (change (h := h) b).built_or_forgotten with
    ⟨name, d, i, hd, hop, hanswer, hr, hinst, hdeeds⟩ | ⟨hanswer, -⟩
  · obtain rfl : (h.before b).world.cells.next = cell := Answer.handedOut.inj (hanswer.symm.trans hb)
    have hbend : b < h.ending := by
      by_contra hge
      rw [operation_of_ending_le (Nat.not_lt.1 hge)] at hop
      cases hop
    refine ⟨hbend, ⟨(h.before b).registry.lastId + 1, name, (h.before b).world.cells.next⟩, d, rfl,
      rfl, hd, ?_, ?_⟩
    · change _ ∈ (h.after b).registry.instances
      rw [hr]
      exact List.mem_append_right _ List.mem_cons_self
    · rw [hdeeds, hinst]
      rfl
  · exact absurd hb (hanswer cell)

/-- An instance is tracked for some time, and never again. -/
lemma exists_span (hbend : b < h.ending) (hnext : t.cell = (h.before b).world.cells.next)
    (hborn : t ∈ (h.stage (b + 1)).registry.instances) :
    ∃ m, b < m ∧ m ≤ h.ending ∧ ∀ k, t ∈ (h.stage k).registry.instances ↔ b < k ∧ k ≤ m := by
  have htaken {k : Nat} (hbk : b < k) : t.cell < (h.stage k).world.cells.next :=
    Nat.lt_of_lt_of_le ((sound_stage (b + 1)).cell_taken t hborn) (next_le_next hbk)
  obtain ⟨m, hbm, hmend, hm, hgone⟩ := exists_end (P := fun k => t ∈ (h.stage k).registry.instances)
    hborn (by rw [ended.1]; exact List.not_mem_nil) (Nat.le_succ_of_le hbend)
  refine ⟨m, hbm, Nat.le_of_lt_succ hmend, fun k => ⟨fun ht => ⟨lt_of_tracked hnext ht, ?_⟩, ?_⟩⟩
  · by_contra hmk
    exact hgone (tracked_of_le (Nat.not_le.1 hmk) (htaken (Nat.lt_succ_of_lt hbm)) ht)
  · rintro ⟨hbk, hkm⟩
    exact tracked_of_le hkm (htaken hbk) hm

section Span

variable (htracked : ∀ k, t ∈ (h.stage k).registry.instances ↔ b < k ∧ k ≤ m)
include htracked

/-- The operation at the end of the time is the first that forgets the instance. -/
lemma forgets_iff (hbk : b < k) (hkm : k ≤ m) :
    (h.operation k).forgets (h.before k).world t = true ↔ k = m := by
  have hiff := tracked_succ_iff ((htracked k).2 ⟨hbk, hkm⟩)
  rw [htracked, ← Bool.not_eq_true] at hiff
  rw [← not_iff_not, ← hiff]
  omega

/-- Whatever is tracked in the cell of an instance is this instance. -/
lemma eq_of_tracked {s : Tracked} (hbm : b < m) (hnext : t.cell = (h.before b).world.cells.next)
    (hs : s ∈ (h.stage k).registry.instances) (hsame : s.cell = t.cell) : s = t := by
  have hm : t ∈ (h.stage m).registry.instances := (htracked m).2 ⟨hbm, Nat.le_refl m⟩
  have hbk : b < k := lt_of_tracked (hsame.trans hnext) hs
  by_cases hkm : k ≤ m
  · exact (sound_stage k).eq_of_cell_eq hs ((htracked k).2 ⟨hbk, hkm⟩) hsame
  · have htaken : s.cell < (h.stage m).world.cells.next := hsame ▸ (sound_stage m).cell_taken t hm
    have hsm := tracked_of_le (Nat.le_of_not_le hkm) htaken hs
    exact (sound_stage m).eq_of_cell_eq hsm hm hsame

/-- The definition of a module stays the same as long as one of its instances is tracked. -/
lemma owner_kept (hd : (h.stage b).registry.definition? t.moduleName = some d) (hbk : b ≤ k)
    (hkm : k ≤ m) : (h.stage k).registry.definition? t.moduleName = some d ∧
      (h.stage k).origin t.moduleName = (h.stage b).origin t.moduleName := by
  induction k, hbk using Nat.le_induction with
  | base => exact ⟨hd, rfl⟩
  | succ k hbk ih =>
    obtain ⟨hk, horigin⟩ := ih (Nat.le_of_succ_le hkm)
    have ht := (htracked (k + 1)).2 ⟨Nat.lt_succ_of_le hbk, hkm⟩
    obtain ⟨d', hd'⟩ := (sound_stage (k + 1)).exists_definition ht
    obtain ⟨rfl, hsame⟩ := definition?_kept hk hd'
    exact ⟨hd', hsame.trans horigin⟩

end Span

/-- **An instance that is handed out has a life.**

**Proof sketch.** The instance is tracked after operation `b` and not when the registry has been
dropped, so there is an operation `m` that forgets it. It is tracked at no time before `b`, because its
cell is new, and at no time after `m`, because nobody gets its cell again. While it is tracked, its
module is there, and so stays the same. -/
lemma exists_life (hb : h.answer b = .handedOut cell) :
    ∃ m t j d, t.cell = cell ∧ h.Life b m t j d := by
  obtain ⟨hbend, t, d, rfl, hnext, hd, hborn, hbuilt⟩ := of_handedOut hb
  obtain ⟨m, hbm, hmend, htracked⟩ := exists_span hbend hnext hborn
  have hm : t ∈ (h.stage m).registry.instances := (htracked m).2 ⟨hbm, Nat.le_refl m⟩
  obtain ⟨howner, horigin⟩ := owner_kept htracked hd (Nat.le_of_lt hbm) (Nat.le_refl m)
  refine ⟨m, t, (h.stage b).origin t.moduleName, d, rfl, {
    registered := registered hd
    handedOut := hb
    built := hbuilt
    lt := hbm
    le := hmend
    tracked := htracked
    forgotten := fun k => forgets_iff htracked
    destroyed := fun hidle => ?_
    busy := fun hbusy => ?_
    spared := fun k hkm => ?_ }⟩
  · rw [← horigin]
    have hforgets := (forgets_iff htracked hbm (Nat.le_refl m)).2 rfl
    exact ((change m).of_forgets hforgets).exists_takesApart (sound m) hm hforgets hidle howner
  · refine (change m).destroys_nothing fun s hs hsame _ => ?_
    obtain rfl := eq_of_tracked htracked hbm hnext hs hsame
    exact hbusy
  · refine (change k).destroys_nothing fun s hs hsame hforgets => ?_
    obtain rfl := eq_of_tracked htracked hbm hnext hs hsame
    obtain ⟨hbk, hle⟩ := (htracked k).1 hs
    exact absurd ((forgets_iff htracked hbk hle).1 hforgets) hkm

/-- **Every instance is taken apart at most once, and by its owner.** Operations run their deeds and
nothing else. Every instance that is handed out has a life: at its end the destructor of the definition
that built it gets the instance, unless it is in use, and no destructor gets it at any other time. There
are no other calls of destructors. Code of the host may reach any instance, so what the destructor gets
is what the instance is when its turn comes. But this code gives back what it borrows, so whether the
instance is in use is known when the operation begins. -/
theorem destroyed_by_owner (h : History κ ω) :
    h.RunsDeeds ∧
    (∀ b cell, h.answer b = .handedOut cell → ∃ m t j d, t.cell = cell ∧ h.Life b m t j d) ∧
    ∀ k j d cell i, .destroyed j d cell i ∈ h.deeds k →
      ∃ b t, t.cell = cell ∧ h.Life b k t j d := by
  refine ⟨runsDeeds h, fun b cell => exists_life, fun k j d cell i hdeed => ?_⟩
  have hmem : .destroyed j d cell i ∈ (h.deeds k).filter (Deed.destroys cell) :=
    List.mem_filter.2 ⟨hdeed, beq_self_eq_true cell⟩
  -- the instance is tracked, since otherwise nothing would be destroyed
  obtain ⟨t, ht, rfl⟩ : ∃ t ∈ (h.stage k).registry.instances, t.cell = cell := by
    by_contra hnone
    rw [(change k).destroys_nothing fun t ht hcell => absurd ⟨t, ht, hcell⟩ hnone] at hmem
    cases hmem
  obtain ⟨b, hb⟩ := exists_handedOut ht
  obtain ⟨m, s, j', d', hcell, hlife⟩ := exists_life hb
  rw [← hcell] at hmem ⊢
  obtain rfl : k = m := by
    by_contra hne
    rw [hlife.spared k hne] at hmem
    cases hmem
  cases hidle : (h.before k).world.isIdle s.cell with
  | false =>
    rw [hlife.busy hidle] at hmem
    cases hmem
  | true =>
    obtain ⟨earlier, u, later, hturn⟩ := hlife.destroyed hidle
    rw [hturn.filter_destroys] at hmem
    cases List.mem_singleton.1 hmem
    exact ⟨b, s, rfl, hlife⟩

/-- A name is used twice: the module is removed while it has an instance, and another one is registered
under its name. -/
def replacing : History Nat (List (Entry Nat)) :=
  calm (.scribe Nat) { memory := { host := [] } }
    [.add ⟨"m", none, 0, some 1, none⟩, .newInstance "m", .remove "m",
      .add ⟨"m", none, 0, some 2, none⟩, .newInstance "m"]

-- each instance is taken apart by the definition that built it
theorem destroyed_by_owner_replacing :
    (∃ m t j d, t.cell = 0 ∧ d.destructor? = some 1 ∧ replacing.Life 1 m t j d) ∧
      (∃ m t j d, t.cell = 1 ∧ d.destructor? = some 2 ∧ replacing.Life 4 m t j d) ∧
      (replacing.after 5).world.memory.host = [
        .destroyed 1 { id := 1, moduleName := "m", shared? := some 0 },
        .destroyed 2 { id := 2, moduleName := "m", shared? := some 0 }] := by
  obtain ⟨hruns, hlives, -⟩ := destroyed_by_owner replacing
  refine ⟨?_, ?_, ?_⟩
  · obtain ⟨m, t, j, d, hcell, hlife⟩ := hlives 1 0 rfl
    refine ⟨m, t, j, d, hcell, ?_, hlife⟩
    cases (Deed.built.inj (List.cons.inj hlife.built).1).2.1
    rfl
  · obtain ⟨m, t, j, d, hcell, hlife⟩ := hlives 4 1 rfl
    refine ⟨m, t, j, d, hcell, ?_, hlife⟩
    cases (Deed.built.inj (List.cons.inj hlife.built).1).2.1
    rfl
  · exact hruns.logged id (Host.keepsLog_scribe Nat) 5

end History

end BracketScript
