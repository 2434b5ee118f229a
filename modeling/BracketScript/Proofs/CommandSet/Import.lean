import BracketScript.Proofs.CommandSet.Staging
import BracketScript.Proofs.Registry.History

set_option autoImplicit false

/-!
# Importing a registry

All modules of a registry become commands, or none does. In the first case there is one more tracked
instance for each module, and the command of the module works on it. In the second case the commands
are as before, the registry tracks what it tracked before, and every instance that was made on the way
was taken apart once.

## Main definitions

* `BracketScript.CommandSet.Imported` — all modules have become commands.

## Main results

* `BracketScript.CommandSet.importRegistry_all_or_nothing` — an import that fails is undone, and one
  that succeeds has imported all modules.
-/

namespace BracketScript

variable {κ ω : Type}

namespace Table

variable {α : Type} {t : Table α} {entries : List (String × α)} {name : String} {value : α}

/-- Entries of other names leave an entry as it is. -/
lemma find?_insertAll_of_not_mem (h : name ∉ entries.map Prod.fst) :
    (t.insertAll entries).find? name = t.find? name := by
  induction entries generalizing t with
  | nil => rfl
  | cons e entries ih =>
    rw [List.map_cons, List.mem_cons, not_or] at h
    change ((t.insert e.1 e.2).insertAll entries).find? name = t.find? name
    rw [ih h.2, find?_insert, if_neg (Ne.symm h.1)]

/-- Of entries with different names each is found. -/
lemma find?_insertAll_of_mem (hnames : (entries.map Prod.fst).Nodup)
    (h : (name, value) ∈ entries) : (t.insertAll entries).find? name = some value := by
  induction entries generalizing t with
  | nil => cases h
  | cons e entries ih =>
    obtain ⟨hnot, hnames⟩ := List.nodup_cons.1 hnames
    change ((t.insert e.1 e.2).insertAll entries).find? name = some value
    rcases List.mem_cons.1 h with rfl | h
    · rw [find?_insertAll_of_not_mem hnot, find?_insert, if_pos rfl]
    · exact ih hnames h

end Table

namespace CommandSet

variable {host : Host κ ω} {origin : String → Nat} {cs : CommandSet κ} {r : Registry κ}
  {w : World κ ω}

/-- From a registry `r` and a world `w` on, the instances `ts` were made, one for each module, and the
modules have become commands. -/
structure Imported (host : Host κ ω) (origin : String → Nat) (cs : CommandSet κ) (r : Registry κ)
    (w : World κ ω) (n : Nat) (ts : List Tracked) (cs' : CommandSet κ) (r' : Registry κ)
    (w' : World κ ω) (deeds : List (Deed κ)) : Prop
    extends Staged host origin r w ts r' w' deeds where
  /-- The number is that of the modules. -/
  count_eq : n = r.modules.length
  /-- There is one instance for each module, in order. -/
  modules_eq : ts.map Tracked.moduleName = r.modules
  /-- They have all the cells that were taken. -/
  cells_iff : ∀ cell, (∃ t ∈ ts, t.cell = cell) ↔ w.cells.next ≤ cell ∧ cell < w'.cells.next
  /-- The command of a module works on its instance. -/
  bound : ∀ t ∈ ts, ∃ b, cs'.bindings.find? t.moduleName = some b ∧ b.cell = t.cell
  /-- The commands that were there are still there. -/
  kept : ∀ name b, cs.bindings.find? name = some b → cs'.bindings.find? name = some b
  /-- No other command is new. -/
  others : ∀ name, name ∉ r.modules → cs'.bindings.find? name = cs.bindings.find? name
  /-- The intrinsics are the same. -/
  intrinsics_eq : cs'.intrinsics = cs.intrinsics
  /-- The default fields are the same. -/
  defaultTemplate_eq : cs'.defaultTemplate = cs.defaultTemplate
  /-- The tests that were there are still there. -/
  tests_kept : ∀ name test, cs.tests.find? name = some test → cs'.tests.find? name = some test

/-- New commands change neither the intrinsics nor the default fields, and lose no test. -/
lemma exists_adopt_eq (cs : CommandSet κ) (staged : List (String × Binding κ)) (shared : Ref) :
    ∃ tests, cs.adopt staged shared =
        { cs with bindings := cs.bindings.insertAll staged, tests } ∧
      ∀ name test, cs.tests.find? name = some test → tests.find? name = some test := by
  unfold adopt
  dsimp only
  split
  · exact ⟨cs.tests, rfl, fun _ _ h => h⟩
  · next hnone =>
    refine ⟨cs.tests.insert definedTest (.defined shared), rfl, fun name test h => ?_⟩
    have hne : definedTest ≠ name := by
      rintro rfl
      simp [hasTest, Table.contains, h] at hnone
    rw [Table.find?_insert, if_neg hne, h]

/-- **An import of a registry whose records agree is all or nothing.** -/
lemma importRegistry_cases (host : Host κ ω) (origin : String → Nat) (cs : CommandSet κ)
    (hs : r.Sound w) :
    (∃ e r' w' deeds, cs.importRegistry host r w = ((.error e, cs, r'), w') ∧
      Undone host r w r' w' deeds) ∨
    ∃ n ts cs' r' w' deeds, cs.importRegistry host r w = ((.ok n, cs', r'), w') ∧
      Imported host origin cs r w n ts cs' r' w' deeds := by
  rcases (Staged.refl host origin hs).stageAll cs [] r.modules rfl (fun _ he => nomatch he) with
    ⟨e, r', w', deeds, hrun, hundone⟩ |
    ⟨staged, ts, r', w', deeds, hrun, hstaged, hsame, hfree, hnames⟩
  · refine .inl ⟨e, r', w', deeds, ?_, hundone⟩
    rw [importRegistry, Effect.bind_of_eq hrun]
    rfl
  · rw [List.map_nil, List.nil_append] at hnames
    have hmodules : ts.map Tracked.moduleName = r.modules := by
      have h := congrArg (List.map Prod.fst) hsame
      rw [List.map_map, List.map_map] at h
      rw [← hnames]
      exact h.symm
    have hnodup : (staged.map Prod.fst).Nodup := hnames ▸ hs.order_nodup
    obtain ⟨tests, hadopt, htests⟩ := exists_adopt_eq cs staged r'.shared
    refine .inr ⟨staged.length, ts, { cs with bindings := cs.bindings.insertAll staged, tests }, r',
      w', deeds, ?_, {
      toStaged := hstaged
      count_eq := by rw [← hnames, List.length_map]
      modules_eq := hmodules
      cells_iff := hstaged.mem_cells_iff
      bound := fun t ht => ?_
      kept := fun name b hb => ?_
      others := fun name hname => ?_
      intrinsics_eq := rfl
      defaultTemplate_eq := rfl
      tests_kept := htests }⟩
    · rw [importRegistry, Effect.bind_of_eq hrun, ← hadopt]
      rfl
    · have hmem : (t.moduleName, t.cell) ∈ staged.map fun e => (e.1, e.2.cell) :=
        hsame ▸ List.mem_map_of_mem ht
      obtain ⟨⟨name, b⟩, hb, hkey⟩ := List.mem_map.1 hmem
      obtain ⟨rfl, hcell⟩ := Prod.mk.inj hkey
      exact ⟨b, Table.find?_insertAll_of_mem hnodup hb, hcell⟩
    · -- a name that is taken cannot be staged
      have hnot : name ∉ staged.map Prod.fst := by
        rintro hmem
        obtain ⟨e, he, rfl⟩ := List.mem_map.1 hmem
        simpa [hasCommand, Table.contains, hb] using hfree e he
      exact (Table.find?_insertAll_of_not_mem hnot).trans hb
    · exact Table.find?_insertAll_of_not_mem (hnames ▸ hname)

/-- **Importing a registry is all or nothing**, in every state of every history. An import that fails
leaves the commands as they are, and the registry tracks the instances that it tracked before; every
instance that was made on the way was taken apart once, by the definition that built it, and no other
one was. An import that succeeds tells how many modules there are; for each of them one more instance
is tracked, which is new and which its command works on, and no command that was there is lost. Only
the deeds are run, as a host that keeps a log can see. -/
theorem importRegistry_all_or_nothing (h : History κ ω) (k : Nat) (cs : CommandSet κ) :
    ∃ result cs' r' w' deeds,
      cs.importRegistry h.host (h.before k).registry (h.before k).world = ((result, cs', r'), w') ∧
      (∀ log, h.host.KeepsLog log → log w'.memory.host =
        log (h.before k).world.memory.host ++ deeds.flatMap Deed.entries) ∧
      match result with
      | .error _ => cs' = cs ∧ Undone h.host (h.before k).registry (h.before k).world r' w' deeds
      | .ok n => ∃ ts, Imported h.host (h.before k).origin cs (h.before k).registry
          (h.before k).world n ts cs' r' w' deeds := by
  rcases importRegistry_cases h.host (h.before k).origin cs (History.sound k) with
    ⟨e, r', w', deeds, hrun, hundone⟩ | ⟨n, ts, cs', r', w', deeds, hrun, himported⟩
  · exact ⟨.error e, cs, r', w', deeds, hrun, fun log hlog => hundone.course.log_eq hlog, rfl, hundone⟩
  · exact ⟨.ok n, cs', r', w', deeds, hrun, fun log hlog => himported.course.log_eq hlog, ts,
      himported⟩

-- two modules are imported; where the name of the second one is taken, both instances are taken apart
example :
    let host := { Host.scribe Nat with
      create := fun _ => .pure (.ok (Instance.empty.addMethod templateMethod "" 0)) }
    let s := (History.calm host { memory := { host := [] } }
      [.add ⟨"a", none, 0, some 1, none⟩, .add ⟨"b", none, 0, some 2, none⟩]).before 2
    let good := importRegistry {} host s.registry s.world
    let bad := importRegistry { intrinsics := Table.empty.insert "b" .conditional } host s.registry
      s.world
    (good.1.1.toOption = some 2 ∧ good.1.2.1.commands = ["a", "b"] ∧ good.1.2.2.instanceCount = 2) ∧
      bad.1.1.toOption = none ∧ bad.1.2.2.instanceCount = 0 ∧ bad.2.memory.host.length = 2 := by
  decide +kernel

end CommandSet

end BracketScript
