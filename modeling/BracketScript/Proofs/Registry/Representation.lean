import BracketScript.Proofs.Registry.History

set_option autoImplicit false

/-!
# The records of a registry

Four records of a registry repeat each other: the definitions by name, the order of the names, the
instances that are tracked, and the number that was given last. The number of an instance stands in the
instance as well, where the registry cannot watch it. In every state that a history comes through they
agree, as long as the host does not write over the numbers in instances.

## Main definitions

* `BracketScript.Registry.Faithful` — the records agree, and the instances have their numbers.
* `BracketScript.History.KeepsIds` — nobody writes over the numbers of instances.

## Main results

* `BracketScript.History.faithful` — the records always agree, and no number is given twice.
-/

namespace BracketScript

variable {κ ω : Type}

namespace Registry

/-- The records of a registry agree with each other and with what stands in the instances. -/
structure Faithful (host : Host κ ω) (r : Registry κ) (w : World κ ω) : Prop extends r.Sound w where
  /-- The number of a record is the one in the instance. -/
  stored : ∀ t ∈ r.instances, (w.inst t.cell).id = t.id
  /-- An instance that is taken apart always has a definition whose destructor gets it. -/
  dispose_eq : ∀ t ∈ r.instances, ∀ u : World κ ω, ∃ d, r.definition? t.moduleName = some d ∧
    r.dispose host t u =
      if u.isIdle t.cell then destroy host d (u.inst t.cell) (u.setInst t.cell .empty) else ((), u)

variable {host : Host κ ω} {origin : String → Nat} {now : Nat} {r r' : Registry κ}
  {w w' : World κ ω} {t : Tracked} {op : Operation κ} {answer : Answer} {deeds : List (Deed κ)}

/-- There is a definition for every instance that is taken apart. -/
lemma Sound.dispose_eq (hs : r.Sound w) (host : Host κ ω) (ht : t ∈ r.instances)
    (u : World κ ω) : ∃ d, r.definition? t.moduleName = some d ∧
      r.dispose host t u =
        if u.isIdle t.cell then destroy host d (u.inst t.cell) (u.setInst t.cell .empty)
        else ((), u) := by
  obtain ⟨d, hd⟩ := hs.exists_definition ht
  refine ⟨d, hd, ?_⟩
  cases hidle : u.isIdle t.cell with
  | false => rw [dispose_of_busy hidle, if_neg Bool.false_ne_true]
  | true =>
    rw [dispose_of_idle hidle hd, if_pos rfl]
    rfl

/-- The instances that stay tracked have the same numbers, if the code that runs spares these. -/
lemma Change.id_eq (h : Change host origin now r w op answer r' w' deeds) (hs : r.Sound w)
    (ht : t ∈ r.instances) (ht' : t ∈ r'.instances)
    (hspares : ∀ deed ∈ deeds, deed.Spares host fun w => (w.inst t.cell).id) :
    (w'.inst t.cell).id = (w.inst t.cell).id := by
  refine h.course.inst_eq (hs.cell_taken t ht) hspares (h.destroys_eq_false ?_)
  -- what is forgotten is not tracked any more
  intro s hs' hsame hforgets
  obtain rfl := hs.eq_of_cell_eq hs' ht hsame
  rw [(h.of_forgets hforgets).instances_eq] at ht'
  simp [hforgets] at ht'

/-- The numbers in the instances are those of the records after an operation, too. -/
lemma Change.stored (h : Change host origin now r w op answer r' w' deeds) (hs : r.Sound w)
    (hstored : ∀ t ∈ r.instances, (w.inst t.cell).id = t.id)
    (hspares : ∀ t ∈ r'.instances, ∀ deed ∈ deeds,
      deed.Spares host fun w => (w.inst t.cell).id) :
    ∀ t ∈ r'.instances, (w'.inst t.cell).id = t.id := by
  intro t ht'
  by_cases ht : t ∈ r.instances
  · rw [h.id_eq hs ht ht' (hspares t ht'), hstored t ht]
  · rcases h.built_or_forgotten with ⟨name, d, i, -, -, -, rfl, hinst, -⟩ | ⟨-, -, hkept, -⟩
    · rcases List.mem_append.1 ht' with hold | hnew
      · exact absurd hold ht
      · rw [List.mem_singleton.1 hnew, hinst]
        rfl
    · rw [hkept] at ht'
      exact absurd (List.mem_filter.1 ht').1 ht

/-- Numbers are given in increasing order. -/
lemma Change.lastId_le (h : Change host origin now r w op answer r' w' deeds) :
    r.lastId ≤ r'.lastId := by
  rcases h.built_or_forgotten with ⟨name, d, i, -, -, -, rfl, -, -⟩ | ⟨-, hid, -, -⟩
  · exact Nat.le_succ _
  · exact Nat.le_of_eq hid.symm

/-- An instance that is handed out has the next number. -/
lemma Change.id_handedOut {cell : Ref}
    (h : Change host origin now r w op (.handedOut cell) r' w' deeds) :
    (w'.inst cell).id = r.lastId + 1 ∧ r'.lastId = r.lastId + 1 := by
  rcases h.built_or_forgotten with ⟨name, d, i, -, -, hanswer, rfl, hinst, -⟩ | ⟨hanswer, -⟩
  · cases hanswer
    refine ⟨?_, rfl⟩
    rw [hinst]
    rfl
  · exact absurd rfl (hanswer cell)

end Registry

namespace History

variable {h : History κ ω}

/-- Nobody writes over the numbers of the instances that are tracked. -/
structure KeepsIds (h : History κ ω) : Prop where
  /-- The host does not between the operations. -/
  pause : ∀ k, ∀ t ∈ (h.stage k).registry.instances,
    ((h.before k).world.inst t.cell).id = ((h.stage k).world.inst t.cell).id
  /-- The code that an operation runs does not, either. -/
  code : ∀ k, ∀ t ∈ (h.after k).registry.instances, ∀ deed ∈ h.deeds k,
    deed.Spares h.host fun w => (w.inst t.cell).id

lemma stored_stage (hids : h.KeepsIds) (k : Nat) :
    ∀ t ∈ (h.stage k).registry.instances, ((h.stage k).world.inst t.cell).id = t.id := by
  induction k with
  | zero => exact fun t ht => nomatch ht
  | succ k ih =>
    refine (change k).stored (sound k) (fun t ht => ?_) (hids.code k)
    rw [hids.pause k t ht]
    exact ih t ht

lemma lastId_le {j k : Nat} (hjk : j ≤ k) :
    (h.stage j).registry.lastId ≤ (h.stage k).registry.lastId := by
  induction k, hjk using Nat.le_induction with
  | base => exact Nat.le_refl _
  | succ k _ ih => exact Nat.le_trans ih (change (h := h) k).lastId_le

/-- Of two instances the one that is handed out later has the greater number. -/
lemma id_lt_id {j k : Nat} {c c' : Ref} (hjk : j < k) (hj : h.answer j = .handedOut c)
    (hk : h.answer k = .handedOut c') :
    ((h.after j).world.inst c).id < ((h.after k).world.inst c').id := by
  obtain ⟨hid, hlast⟩ := (hj ▸ change j : Registry.Change ..).id_handedOut
  obtain ⟨hid', -⟩ := (hk ▸ change k : Registry.Change ..).id_handedOut
  have hle : (h.after j).registry.lastId ≤ (h.before k).registry.lastId := lastId_le hjk
  omega

/-- **The records of a registry agree in every state of every history**, before and after each
operation, if nobody writes over the numbers in instances: no module is listed twice, and
those that are listed are those that are defined; every tracked instance is of a module that is
defined, so its destructor is found when it is taken apart; the numbers of the records were given and
are those in the instances; no two records are about the same instance. The numbers of the instances
that are handed out strictly increase. -/
theorem faithful (h : History κ ω) (hids : h.KeepsIds) :
    (∀ k, (h.stage k).registry.Faithful h.host (h.stage k).world ∧
      (h.before k).registry.Faithful h.host (h.before k).world) ∧
    ∀ j k c c', j < k → h.answer j = .handedOut c → h.answer k = .handedOut c' →
      ((h.after j).world.inst c).id < ((h.after k).world.inst c').id := by
  refine ⟨fun k => ⟨?_, ?_⟩, fun j k c c' => id_lt_id⟩
  · exact {
      toSound := sound_stage k
      stored := stored_stage hids k
      dispose_eq := fun t ht => (sound_stage k).dispose_eq h.host ht }
  · exact {
      toSound := sound k
      stored := fun t ht => (hids.pause k t ht).trans (stored_stage hids k t ht)
      dispose_eq := fun t ht => (sound k).dispose_eq h.host ht }

/-- A host that does nothing, and whose destructors and libraries leave the instances alone, does not
write over anything. -/
lemma keepsIds_calm {host : Host κ ω} (hhost : host.LeavesInstances) (world : World κ ω)
    (operations : List (Operation κ)) : (calm host world operations).KeepsIds where
  pause := by
    intro k t _
    have hact : ((calm host world operations).turn k).act = id := by
      simp only [calm, turn, List.getD_eq_getElem?_getD, List.getElem?_map]
      cases operations[k]? <;> rfl
    have hworld : ((calm host world operations).before k).world =
        ((calm host world operations).stage k).world := congrFun hact _
    rw [hworld]
  code := fun k t _ deed hdeed w =>
    congrArg Instance.id (Deed.spares_inst hhost ((change k).ne_asked hdeed) t.cell w)

/-- An instance is made and taken apart again, and then another one is made. -/
def remaking : History Unit (List (Entry Unit)) :=
  calm (.scribe Unit) { memory := { host := [] } }
    [.register "m" (), .newInstance "m", .deleteInstance 0, .newInstance "m"]

/-- The instance that was taken apart had the number one, and the other one has a greater number. -/
theorem faithful_remaking : remaking.KeepsIds ∧
    (remaking.stage 2).registry.Faithful remaking.host (remaking.stage 2).world ∧
      ((remaking.after 1).world.inst 0).id = 1 ∧
      1 < ((remaking.after 3).world.inst 1).id :=
  have hids := keepsIds_calm (Host.leavesInstances_scribe Unit) _ _
  have h := faithful remaking hids
  ⟨hids, (h.1 2).1, rfl, h.2 1 3 0 1 (by decide) rfl rfl⟩

end History

end BracketScript
