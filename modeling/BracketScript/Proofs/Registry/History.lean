import BracketScript.Proofs.Registry.Invariant
import Mathlib.Data.Nat.Init

set_option autoImplicit false

/-!
# Histories of a registry

A registry is created, goes through operations, and is dropped in the end, which clears it. Before
each operation the host has its turn: it may do anything to the world except make instances disappear,
and what the loader finds may change. So a history covers every way of using instances, of
holding on to them and of building libraries, and every state of a registry that can come up.

## Main definitions

* `BracketScript.Turn`, `BracketScript.History` — what happens to a registry.
* `BracketScript.Stage` — a registry and a world on the way, with the operation that registered each
  module.
* `BracketScript.History.before`, `BracketScript.History.after` — where an operation starts and where
  it ends.
* `BracketScript.History.answer`, `BracketScript.History.deeds` — what it answers and what it runs.

## Main results

* `BracketScript.History.change` — every operation does one of the changes.
* `BracketScript.History.runsDeeds` — every operation runs its deeds and no other code.
* `BracketScript.History.Registered`, `BracketScript.History.registered` — a module that is there was
  registered by one operation, and has been there ever since with the same definition.
-/

namespace BracketScript

variable {κ ω : Type}

/-- What the host does before it calls a registry: the world changes, though no instance loses its
place, and so does what the loader finds. -/
structure Interlude (κ ω : Type) where
  /-- What happens to the world. -/
  act : World κ ω → World κ ω
  /-- No instance loses its place. -/
  grows : ∀ w, w.cells.next ≤ (act w).cells.next
  /-- What can be loaded from now on. -/
  loader : Loader κ

/-- One operation, and what the host does before. -/
structure Turn (κ ω : Type) extends Interlude κ ω where
  /-- The operation. -/
  operation : Operation κ

/-- A registry on its way, and the world. -/
structure Stage (κ ω : Type) where
  /-- The registry. -/
  registry : Registry κ
  /-- The world. -/
  world : World κ ω
  /-- The number of the operation that registered a module. -/
  origin : String → Nat

namespace Stage

/-- The host has its turn. -/
def pause (s : Stage κ ω) (i : Interlude κ ω) : Stage κ ω where
  registry := { s.registry with loader := i.loader }
  world := i.act s.world
  origin := s.origin

/-- Runs the operation of a number. -/
def perform (host : Host κ ω) (now : Nat) (s : Stage κ ω) (op : Operation κ) :
    Answer × Stage κ ω :=
  let ((answer, registry), world) := s.registry.perform host op s.world
  let origin := match s.registry.registers? op with
    | some d => Function.update s.origin d.name now
    | none => s.origin
  (answer, { registry, world, origin })

end Stage

/-- All that happens to a registry. -/
structure History (κ ω : Type) where
  /-- What the code means. -/
  host : Host κ ω
  /-- What can be loaded in the beginning. -/
  loader : Loader κ
  /-- The world in the beginning. -/
  world : World κ ω
  /-- The operations. -/
  turns : List (Turn κ ω)
  /-- What the host does before it drops the registry. -/
  last : Interlude κ ω

namespace History

variable (h : History κ ω)

/-- The number of the operation that drops the registry. -/
def ending : Nat :=
  h.turns.length

/-- The turn of a number. In the last one the registry is dropped, which clears it. -/
def turn (k : Nat) : Turn κ ω :=
  h.turns.getD k { h.last with operation := .clear }

/-- The operation of a number. -/
def operation (k : Nat) : Operation κ :=
  (h.turn k).operation

/-- The registry when it is created. -/
def start : Stage κ ω :=
  let (registry, memory) := Registry.create h.loader h.world.memory
  { registry, world := { h.world with memory }, origin := fun _ => 0 }

/-- After so many operations. -/
def stage (h : History κ ω) : Nat → Stage κ ω
  | 0 => h.start
  | k + 1 => (((stage h k).pause (h.turn k).toInterlude).perform h.host k (h.operation k)).2

/-- Where an operation starts. -/
def before (k : Nat) : Stage κ ω :=
  (h.stage k).pause (h.turn k).toInterlude

/-- Where an operation ends. -/
def after (k : Nat) : Stage κ ω :=
  h.stage (k + 1)

/-- What an operation answers. -/
def answer (k : Nat) : Answer :=
  ((h.before k).perform h.host k (h.operation k)).1

/-- The code that an operation runs. -/
def deeds (k : Nat) : List (Deed κ) :=
  (h.before k).registry.deeds h.host (h.before k).origin k (h.before k).world (h.operation k)

variable {h}

/-- A history in which the host does nothing between the operations, and nothing can be loaded. -/
def calm (host : Host κ ω) (world : World κ ω) (operations : List (Operation κ)) : History κ ω :=
  let loader : Loader κ := ⟨fun _ => false, .error⟩
  let pause : Interlude κ ω := ⟨id, fun _ => Nat.le_refl _, loader⟩
  { host, loader, world
    turns := operations.map fun operation => { pause with operation }
    last := pause }

/-- In the end the registry is cleared. -/
lemma operation_of_ending_le {k : Nat} (hk : h.ending ≤ k) : h.operation k = .clear := by
  rw [operation, turn, List.getD_eq_getElem?_getD, List.getElem?_eq_none hk]
  rfl

/-! ## Every operation does one of the changes -/

lemma sound_start : h.start.registry.Sound h.start.world :=
  .empty h.loader _ _

lemma sound_pause {s : Stage κ ω} (hs : s.registry.Sound s.world) (i : Interlude κ ω) :
    (s.pause i).registry.Sound (s.pause i).world :=
  (hs.of_search i.loader _).of_next_le (i.grows s.world)

lemma change_of_sound {k : Nat} (hs : (h.before k).registry.Sound (h.before k).world) :
    Registry.Change h.host (h.before k).origin k (h.before k).registry (h.before k).world
      (h.operation k) (h.answer k) (h.after k).registry (h.after k).world (h.deeds k) := by
  obtain ⟨answer, r', w', hrun, hchange⟩ :=
    hs.change h.host (h.before k).origin k (h.operation k)
  have hanswer : h.answer k = answer := by
    simp only [History.answer, Stage.perform, hrun]
  have hafter : (h.after k).registry = r' ∧ (h.after k).world = w' := by
    have : h.after k = ((h.before k).perform h.host k (h.operation k)).2 := rfl
    rw [this]
    simp only [Stage.perform, hrun, and_self]
  rw [hanswer, hafter.1, hafter.2]
  exact hchange

/-- The records of the registry always agree. -/
lemma sound_stage (k : Nat) : (h.stage k).registry.Sound (h.stage k).world := by
  induction k with
  | zero => exact sound_start
  | succ k ih =>
    have hs := sound_pause ih (h.turn k).toInterlude
    exact (change_of_sound hs).sound hs

/-- They agree where an operation starts. -/
lemma sound (k : Nat) : (h.before k).registry.Sound (h.before k).world :=
  sound_pause (sound_stage k) _

/-- **Every operation does one of the changes**, and its deeds are what it runs. -/
lemma change (k : Nat) :
    Registry.Change h.host (h.before k).origin k (h.before k).registry (h.before k).world
      (h.operation k) (h.answer k) (h.after k).registry (h.after k).world (h.deeds k) :=
  change_of_sound (sound k)

/-- Every operation runs its deeds, in order, and no other code, as a host that keeps a log can see. -/
structure RunsDeeds (h : History κ ω) : Prop where
  /-- What the deeds do is what happens to the world. -/
  course : ∀ k, h.host.Course (h.before k).world (h.deeds k) (h.after k).world
  /-- What they are is what is written down. -/
  logged : ∀ log, h.host.KeepsLog log → ∀ k, log (h.after k).world.memory.host =
    log (h.before k).world.memory.host ++ (h.deeds k).flatMap Deed.entries

lemma runsDeeds (h : History κ ω) : h.RunsDeeds where
  course k := (change k).course
  logged _ hlog k := (change k).course.log_eq hlog

/-- Nothing is left when the registry has been dropped. -/
lemma ended : (h.stage (h.ending + 1)).registry.instances = [] ∧
    (h.stage (h.ending + 1)).registry.order = [] := by
  have hafter : h.stage (h.ending + 1) =
      ((h.before h.ending).perform h.host h.ending .clear).2 := by
    rw [← operation_of_ending_le (Nat.le_refl _)]
    rfl
  rw [hafter]
  exact ⟨rfl, rfl⟩

/-- No cell is ever given up. -/
lemma next_le_next {j k : Nat} (hjk : j ≤ k) :
    (h.stage j).world.cells.next ≤ (h.stage k).world.cells.next := by
  induction k, hjk using Nat.le_induction with
  | base => exact Nat.le_refl _
  | succ k _ ih =>
    have hpause : (h.stage k).world.cells.next ≤ (h.before k).world.cells.next :=
      (h.turn k).grows _
    exact Nat.le_trans ih (Nat.le_trans hpause (change k).course.next_le)

/-- A property that holds at one time and not at a later one ends in between. -/
lemma exists_end {P : Nat → Prop} {a n : Nat} (ha : P a) (hn : ¬ P n) (hle : a ≤ n) :
    ∃ m, a ≤ m ∧ m < n ∧ P m ∧ ¬ P (m + 1) := by
  induction n, hle using Nat.le_induction with
  | base => exact absurd ha hn
  | succ n hle ih =>
    by_cases hP : P n
    · exact ⟨n, hle, Nat.lt_succ_self n, hP, hn⟩
    · obtain ⟨m, ham, hmn, hm⟩ := ih hP
      exact ⟨m, ham, Nat.lt_succ_of_lt hmn, hm⟩

/-! ## Where modules are from -/

lemma origin_after_of_registers {k : Nat} {d : Definition κ}
    (hreg : (h.before k).registry.registers? (h.operation k) = some d) :
    (h.after k).origin = Function.update (h.stage k).origin d.name k := by
  have : h.after k = ((h.before k).perform h.host k (h.operation k)).2 := rfl
  rw [this]
  simp only [Stage.perform, hreg]
  rfl

lemma origin_after_of_not_registers {k : Nat}
    (hreg : (h.before k).registry.registers? (h.operation k) = none) :
    (h.after k).origin = (h.stage k).origin := by
  have : h.after k = ((h.before k).perform h.host k (h.operation k)).2 := rfl
  rw [this]
  simp only [Stage.perform, hreg]
  rfl

/-- An operation drops a module, leaves it, or registers it under a name that was free. -/
lemma definition?_after (k : Nat) (name : String) :
    (h.after k).registry.definition? name = none ∨
      ((h.after k).registry.definition? name = (h.stage k).registry.definition? name ∧
        (h.after k).origin name = (h.stage k).origin name) ∨
      ∃ d, (h.before k).registry.registers? (h.operation k) = some d ∧ d.name = name ∧
        h.answer k = .done ∧ (h.stage k).registry.definition? name = none ∧
        (h.after k).registry.definition? name = some d ∧ (h.after k).origin name = k := by
  rcases (change (h := h) k).definition?_cases name with
    hnone | ⟨hsame, hother⟩ | ⟨d, hreg, hname, hdone, hnew, hfind⟩
  · exact .inl hnone
  · refine .inr (.inl ⟨hsame, ?_⟩)
    cases hreg : (h.before k).registry.registers? (h.operation k) with
    | none => rw [origin_after_of_not_registers hreg]
    | some d => rw [origin_after_of_registers hreg, Function.update_of_ne (hother d hreg).symm]
  · refine .inr (.inr ⟨d, hreg, hname, hdone, hnew, hfind, ?_⟩)
    rw [origin_after_of_registers hreg, hname, Function.update_self]

/-- At a time `k` a name has the definition that operation `j` registered, and has had it ever since. -/
structure Registered (h : History κ ω) (k : Nat) (name : String) (d : Definition κ) (j : Nat) :
    Prop where
  /-- It was registered before. -/
  lt : j < k
  /-- The operation was a registration of the definition. -/
  registers : (h.before j).registry.registers? (h.operation j) = some d
  /-- It was registered under the name. -/
  name_eq : d.name = name
  /-- The operation succeeded. -/
  done : h.answer j = .done
  /-- It has been there ever since. -/
  since : ∀ m, j < m → m ≤ k →
    (h.stage m).registry.definition? name = some d ∧ (h.stage m).origin name = j

/-- **A module that is there was registered by one operation**, the one that is kept as its origin. -/
lemma registered {k : Nat} {name : String} {d : Definition κ}
    (hd : (h.stage k).registry.definition? name = some d) :
    h.Registered k name d ((h.stage k).origin name) := by
  induction k with
  | zero =>
    have hnone : (h.stage 0).registry.definition? name = none := Table.find?_empty ..
    rw [hnone] at hd
    cases hd
  | succ k ih =>
    have hlast {m : Nat} (hm : m ≤ k + 1) (hlt : ¬ m ≤ k) : m = k + 1 := by omega
    rcases definition?_after (h := h) k name with
      hnone | ⟨hsame, horigin⟩ | ⟨d', hreg, hname, hdone, -, hfind, horigin⟩
    · exact absurd (hnone.symm.trans hd) (by simp)
    · have hr := ih (hsame.symm.trans hd)
      have horigin : (h.stage (k + 1)).origin name = (h.stage k).origin name := horigin
      rw [horigin]
      refine { hr with lt := Nat.lt_succ_of_lt hr.lt, since := fun m hjm hmk => ?_ }
      by_cases hm : m ≤ k
      · exact hr.since m hjm hm
      · rw [hlast hmk hm]
        exact ⟨hd, horigin⟩
    · obtain rfl : d' = d := Option.some.inj (hfind.symm.trans hd)
      have horigin : (h.stage (k + 1)).origin name = k := horigin
      rw [horigin]
      refine ⟨Nat.lt_succ_self k, hreg, hname, hdone, fun m hkm hmk => ?_⟩
      rw [hlast hmk (Nat.not_le.2 hkm)]
      exact ⟨hd, horigin⟩

lemma registered_of_origin {k n : Nat} {name : String} {d : Definition κ}
    (hd : (h.stage n).registry.definition? name = some d) (ho : (h.stage n).origin name = k) :
    h.Registered n name d k := by
  rw [← ho]
  exact registered hd

/-- A module that is there before and after an operation is the same. -/
lemma definition?_kept {k : Nat} {name : String} {d d' : Definition κ}
    (hd : (h.stage k).registry.definition? name = some d)
    (hd' : (h.stage (k + 1)).registry.definition? name = some d') :
    d' = d ∧ (h.stage (k + 1)).origin name = (h.stage k).origin name := by
  rcases definition?_after (h := h) k name with
    hnone | ⟨hsame, horigin⟩ | ⟨_, -, -, -, hnew, -, -⟩
  · exact absurd (hnone.symm.trans hd') (by simp)
  · exact ⟨Option.some.inj (hd'.symm.trans (hsame.trans hd)), horigin⟩
  · exact absurd (hnew.symm.trans hd) (by simp)

namespace Registered

variable {k m n : Nat} {name : String} {d : Definition κ}

lemma of_le (hr : h.Registered n name d k) (hkm : k < m) (hmn : m ≤ n) : h.Registered m name d k :=
  { hr with lt := hkm, since := fun i hki him => hr.since i hki (Nat.le_trans him hmn) }

/-- An operation registers one definition under one name. -/
lemma unique {name' : String} {d' : Definition κ} (hr : h.Registered m name d k)
    (hr' : h.Registered n name' d' k) : d' = d ∧ name' = name := by
  cases hr.registers.symm.trans hr'.registers
  exact ⟨rfl, hr'.name_eq.symm.trans hr.name_eq⟩

/-- A module stays until it is dropped. -/
lemma succ_iff (hr : h.Registered n name d k) :
    h.Registered (n + 1) name d k ↔ (h.operation n).drops name = false := by
  obtain ⟨hd, ho⟩ := hr.since n hr.lt (Nat.le_refl n)
  constructor
  · intro hnext
    obtain ⟨hd', -⟩ := hnext.since (n + 1) hnext.lt (Nat.le_refl _)
    cases hdrops : (h.operation n).drops name with
    | false => rfl
    | true =>
      have hnone := ((change n).of_drops hdrops).definition?_eq name
      rw [if_pos hdrops] at hnone
      cases hnone.symm.trans hd'
  · intro hdrops
    have hd' : (h.stage (n + 1)).registry.definition? name = some d :=
      (change n).definition?_of_not_drops hd hdrops
    exact registered_of_origin hd' ((definition?_kept hd hd').2.trans ho)

end Registered

/-- A module that is registered is there until some operation drops it. -/
lemma exists_last {k : Nat} {d : Definition κ}
    (hreg : (h.before k).registry.registers? (h.operation k) = some d) :
    ∃ m, m ≤ h.ending ∧ h.Registered m d.name d k ∧ ¬ h.Registered (m + 1) d.name d k := by
  have hkend : k < h.ending := by
    by_contra hge
    rw [operation_of_ending_le (Nat.not_lt.1 hge)] at hreg
    cases hreg
  have hstart : h.Registered (k + 1) d.name d k := by
    have hd : (h.stage (k + 1)).registry.definition? d.name = some d :=
      ((change k).of_registers hreg).2.2
    have ho : (h.stage (k + 1)).origin = Function.update (h.stage k).origin d.name k :=
      origin_after_of_registers hreg
    exact registered_of_origin hd (by rw [ho, Function.update_self])
  have hend : ¬ h.Registered (h.ending + 1) d.name d k := by
    intro hr
    have hd := (hr.since (h.ending + 1) hr.lt (Nat.le_refl _)).1
    have hlisted := ((sound_stage (h.ending + 1)).mem_order d.name).2 (by rw [hd]; rfl)
    rw [ended.2] at hlisted
    cases hlisted
  obtain ⟨m, -, hmend, hm, hgone⟩ :=
    exists_end (P := fun m => h.Registered m d.name d k) hstart hend (Nat.le_succ_of_le hkend)
  exact ⟨m, Nat.le_of_lt_succ hmend, hm, hgone⟩

/-- **The modules are listed in the order of their registration.** -/
lemma origins_increase (k : Nat) :
    (h.stage k).registry.order.Pairwise fun a b =>
      (h.stage k).origin a < (h.stage k).origin b := by
  induction k with
  | zero => exact List.Pairwise.nil
  | succ k ih =>
    rcases (change (h := h) k).order_cases with ⟨hreg, hsub⟩ | ⟨d, hreg, hnew, horder⟩
    · have horigin : (h.stage (k + 1)).origin = (h.stage k).origin :=
        origin_after_of_not_registers hreg
      rw [horigin]
      exact ih.sublist hsub
    · have horigin : (h.stage (k + 1)).origin = Function.update (h.stage k).origin d.name k :=
        origin_after_of_registers hreg
      have horder : (h.stage (k + 1)).registry.order = (h.stage k).registry.order ++ [d.name] :=
        horder
      -- the other modules were registered earlier and keep their origins
      have hold {a : String} (ha : a ∈ (h.stage k).registry.order) :
          (h.stage (k + 1)).origin a = (h.stage k).origin a ∧ (h.stage k).origin a < k := by
        obtain ⟨d', hd'⟩ := Option.isSome_iff_exists.1 (((sound_stage k).mem_order a).1 ha)
        have hne : a ≠ d.name := by
          rintro rfl
          exact absurd (hnew.symm.trans hd') (by simp)
        exact ⟨by rw [horigin, Function.update_of_ne hne], (registered hd').lt⟩
      rw [horder]
      refine List.pairwise_append.2 ⟨?_, List.pairwise_singleton _ _, ?_⟩
      · refine ih.imp_of_mem fun ha hb hab => ?_
        rwa [(hold ha).1, (hold hb).1]
      · intro a ha b hb
        rw [List.mem_singleton.1 hb, (hold ha).1, horigin, Function.update_self]
        exact (hold ha).2

/-- Different modules are from different operations. -/
lemma origins_nodup {k : Nat} : ((h.stage k).registry.order.map (h.stage k).origin).Nodup := by
  rw [List.Nodup, List.pairwise_map]
  exact (origins_increase k).imp fun hlt => Nat.ne_of_lt hlt

end History

end BracketScript
