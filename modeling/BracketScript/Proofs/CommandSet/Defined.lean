import BracketScript.Proofs.CommandSet.Import

set_option autoImplicit false

/-!
# The test for shared variables

An import brings a test for the shared variables of its registry, and keeps a test of that name which
is there already. It cannot tell a test of the host from one that an earlier import has brought, and
nothing takes a test away. So the test speaks of the registry that was imported first, and imports
after that do not change it.

## Main definitions

* `BracketScript.CommandSet.Update` — what a host can do to a set of commands.
* `BracketScript.CommandSet.Progress` — a set of commands on its way, with the stores of the registries
  that were imported.
* `BracketScript.CommandSet.after` — where updates lead, each of them made in a world of its own.

## Main results

* `BracketScript.CommandSet.importRegistry_adopts` — what an import does to the commands, in any world.
* `BracketScript.CommandSet.Update.find?_perform` — what one update does to the test.
* `BracketScript.CommandSet.keepsFirst_after` — the test after any updates is that of the first import.
* `BracketScript.CommandSet.defined_speaks_of_first_import` — what the test answers, and when this is
  the answer for the registry imported last.
-/

namespace BracketScript

variable {κ ω : Type}

namespace CommandSet

variable {host : Host κ ω} {cs cs' : CommandSet κ} {r r' : Registry κ} {w w' : World κ ω}

/-! ## Imports keep the store of a registry -/

lemma newInstance_shared {name : String} {result : Except Failure Ref}
    (h : r.newInstance host name w = ((result, r'), w')) : r'.shared = r.shared := by
  cases hd : r.definition? name with
  | none =>
    rw [Registry.newInstance_of_unknown hd] at h
    cases h
    rfl
  | some d =>
    match hc : (host.create d.factory).run w with
    | (.error reason, u) =>
      rw [Registry.newInstance_of_refused hd hc] at h
      cases h
      rfl
    | (.ok i, u) =>
      rw [Registry.newInstance_of_built hd hc] at h
      cases h
      rfl

lemma stage_shared {name : String} {b : Binding κ}
    (h : cs.stage host r name w = ((.ok b, r'), w')) : r'.shared = r.shared := by
  match hnew : r.newInstance host name w with
  | ((.error e, r₁), w₁) =>
    rw [stage_of_unmade hnew] at h
    cases h
  | ((.ok cell, r₁), w₁) =>
    match hask : (World.onInstance cell (askTemplate host)).run w₁ with
    | (spec, w₂) =>
      cases hb : spec.bind fun spec => cs.bindingOf name spec cell (w₂.inst cell) with
      | error e =>
        rw [stage_of_unbound hnew hask hb] at h
        cases h
      | ok b =>
        rw [stage_of_bound hnew hask hb] at h
        cases h
        exact newInstance_shared hnew

lemma stageAll_shared {staged staged' : List (String × Binding κ)} {names : List String}
    (h : cs.stageAll host r staged names w = ((.ok staged', r'), w')) : r'.shared = r.shared := by
  induction names generalizing r w staged with
  | nil =>
    cases h
    rfl
  | cons name names ih =>
    match hstage : cs.stage host r name w with
    | ((.error e, r₁), w₁) =>
      rw [stageAll, Effect.bind_of_eq hstage] at h
      cases h
    | ((.ok b, r₁), w₁) =>
      rw [stageAll, Effect.bind_of_eq hstage] at h
      exact (ih h).trans (stage_shared hstage)

/-- What an import does to the commands. No registry is assumed to be in order, and the store is the one
that it had before. -/
lemma importRegistry_adopts (host : Host κ ω) (cs : CommandSet κ) (r : Registry κ)
    (w : World κ ω) :
    (∃ e r' w', cs.importRegistry host r w = ((.error e, cs, r'), w')) ∨
    ∃ staged r' w', cs.importRegistry host r w =
      ((.ok staged.length, cs.adopt staged r.shared, r'), w') := by
  match hrun : cs.stageAll host r [] r.modules w with
  | ((.error e, r'), w') =>
    refine .inl ⟨e, r', w', ?_⟩
    rw [importRegistry, Effect.bind_of_eq hrun]
    rfl
  | ((.ok staged, r'), w') =>
    refine .inr ⟨staged, r', w', ?_⟩
    rw [importRegistry, Effect.bind_of_eq hrun, ← stageAll_shared hrun]
    rfl

/-- New commands bring the test unless it is there. -/
lemma find?_adopt (cs : CommandSet κ) (staged : List (String × Binding κ)) (shared : Ref) :
    (cs.adopt staged shared).tests.find? definedTest =
      (cs.tests.find? definedTest).or (some (.defined shared)) := by
  unfold adopt
  dsimp only
  split
  · next hthere =>
    obtain ⟨test, htest⟩ := Option.isSome_iff_exists.1 hthere
    rw [htest, Option.some_or]
  · next hnew =>
    have hnone : cs.tests.find? definedTest = none := by
      simpa [hasTest, Table.contains] using hnew
    simp [addTest, hnone]

/-! ## Updates -/

/-- What a host can do to a set of commands. -/
inductive Update (κ : Type) where
  /-- Adds an intrinsic. -/
  | addIntrinsic (name : String) (code : κ)
  /-- Adds a test. -/
  | addTest (name : String) (test : Test κ)
  /-- Sets the default template. -/
  | setDefaultTemplate (spec : String)
  /-- Adds a command. -/
  | register (name spec : String) (cell? : Option Ref) (onOpen onClose : Option (Handler κ))
  /-- Forgets all commands. -/
  | reset
  /-- Makes every module of a registry a command. -/
  | importRegistry (r : Registry κ)

namespace Update

/-- Whether the host itself adds a test of a name. -/
def addsTest (name : String) : Update κ → Bool
  | addTest name' _ => name' == name
  | _ => false

/-- The commands after an update that is made in a world, also if it fails. -/
def perform (host : Host κ ω) (w : World κ ω) (cs : CommandSet κ) : Update κ → CommandSet κ
  | addIntrinsic name code => cs.addIntrinsic name code
  | addTest name test => cs.addTest name test
  | setDefaultTemplate spec => (cs.setDefaultTemplate spec).2
  | register name spec cell? onOpen onClose => (cs.register name spec cell? onOpen onClose w).1.2
  | reset => cs.reset
  | importRegistry r => (cs.importRegistry host r w).1.2.1

/-- The store of the registry that an update imports, if it does. -/
def store? (host : Host κ ω) (w : World κ ω) (cs : CommandSet κ) : Update κ → Option Ref
  | importRegistry r => (cs.importRegistry host r w).1.1.toOption.map fun _ => r.shared
  | _ => none

/-- The tests are the same when the default template has been set, or has not. -/
lemma tests_setDefaultTemplate (cs : CommandSet κ) (spec : String) :
    (cs.setDefaultTemplate spec).2.tests = cs.tests := by
  unfold CommandSet.setDefaultTemplate
  split <;> rfl

/-- The tests are the same when a command has been added, or has not. -/
lemma tests_register (w : World κ ω) (cs : CommandSet κ) (name spec : String) (cell? : Option Ref)
    (onOpen onClose : Option (Handler κ)) :
    (cs.register name spec cell? onOpen onClose w).1.2.tests = cs.tests := by
  unfold CommandSet.register
  cases cs.newTemplate name spec with
  | error e => rfl
  | ok template => cases cell? <;> rfl

/-- **What one update does to the test for shared variables**, if the host does not add it: it stays, or
an import brings it. -/
lemma find?_perform {u : Update κ} (h : u.addsTest definedTest = false) :
    (u.perform host w cs).tests.find? definedTest =
      (cs.tests.find? definedTest).or ((u.store? host w cs).map .defined) := by
  cases u with
  | addIntrinsic name code => simp [perform, store?, CommandSet.addIntrinsic]
  | addTest name test =>
    have hne : name ≠ definedTest := by
      simpa [addsTest] using h
    simp [perform, store?, CommandSet.addTest, hne]
  | setDefaultTemplate spec => simp [perform, store?, tests_setDefaultTemplate]
  | register name spec cell? onOpen onClose => simp [perform, store?, tests_register]
  | reset => simp [perform, store?, CommandSet.reset]
  | importRegistry r =>
    rcases importRegistry_adopts host cs r w with ⟨e, r', w', hrun⟩ | ⟨staged, r', w', hrun⟩
    · simp [perform, store?, hrun, Except.toOption]
    · simp [perform, store?, hrun, Except.toOption, find?_adopt]

end Update

/-- A set of commands on its way. -/
structure Progress (κ : Type) where
  /-- The commands. -/
  commands : CommandSet κ
  /-- The stores of the registries that were imported, in order. -/
  stores : List Ref := []

/-- One more update. -/
def Progress.step (host : Host κ ω) (p : Progress κ) (turn : Update κ × World κ ω) : Progress κ where
  commands := turn.1.perform host turn.2 p.commands
  stores := p.stores ++ (turn.1.store? host turn.2 p.commands).toList

/-- Where updates lead. Each is made in a world of its own, because anything can happen between them. -/
def after (host : Host κ ω) (cs : CommandSet κ) (turns : List (Update κ × World κ ω)) : Progress κ :=
  turns.foldl (Progress.step host) { commands := cs }

/-- The test for shared variables is that of the registry that was imported first. -/
def Progress.KeepsFirst (p : Progress κ) : Prop :=
  p.commands.tests.find? definedTest = p.stores.head?.map .defined

/-- An update keeps the first test. -/
lemma Progress.KeepsFirst.step {p : Progress κ} (h : p.KeepsFirst) {turn : Update κ × World κ ω}
    (hturn : turn.1.addsTest definedTest = false) : (p.step host turn).KeepsFirst := by
  have hhead : ((turn.1.store? host turn.2 p.commands).toList).head? =
      turn.1.store? host turn.2 p.commands := by
    cases turn.1.store? host turn.2 p.commands <;> rfl
  rw [KeepsFirst] at h
  rw [KeepsFirst, Progress.step, Update.find?_perform hturn, h, List.head?_append, hhead,
    Option.map_or]

/-- **After any updates the test is that of the first import**, if the host does not add one. -/
lemma keepsFirst_after (hcs : cs.hasTest definedTest = false) {turns : List (Update κ × World κ ω)}
    (hturns : ∀ turn ∈ turns, turn.1.addsTest definedTest = false) :
    (after host cs turns).KeepsFirst := by
  have hstart : (Progress.mk cs []).KeepsFirst := by
    simpa [Progress.KeepsFirst, hasTest, Table.contains] using hcs
  unfold after
  generalize Progress.mk cs [] = p at hstart
  induction turns generalizing p with
  | nil => exact hstart
  | cons turn turns ih =>
    obtain ⟨hturn, hturns⟩ := List.forall_mem_cons.1 hturns
    exact ih hturns _ (hstart.step hturn)

/-- A store that was imported stays where it is in the list. -/
lemma exists_stores_eq (host : Host κ ω) (p : Progress κ) (turns : List (Update κ × World κ ω)) :
    ∃ stores, (turns.foldl (Progress.step host) p).stores = p.stores ++ stores := by
  induction turns generalizing p with
  | nil => exact ⟨[], (List.append_nil _).symm⟩
  | cons turn turns ih =>
    obtain ⟨stores, hstores⟩ := ih (p.step host turn)
    refine ⟨(turn.1.store? host turn.2 p.commands).toList ++ stores, ?_⟩
    rw [List.foldl_cons, hstores, Progress.step, List.append_assoc]

/-- After an import the first store is one that was imported before, or else that of the registry. -/
lemma head?_stores_after {turns : List (Update κ × World κ ω)} {n : Nat}
    (himport : ((after host cs turns).commands.importRegistry host r w).1.1 = .ok n)
    (later : List (Update κ × World κ ω)) :
    (after host cs (turns ++ (.importRegistry r, w) :: later)).stores.head? =
      some ((after host cs turns).stores.headD r.shared) := by
  have hstore : (Update.importRegistry r).store? host w (after host cs turns).commands =
      some r.shared := by
    simp [Update.store?, himport, Except.toOption]
  have hafter : after host cs (turns ++ (.importRegistry r, w) :: later) =
      later.foldl (Progress.step host)
        ((after host cs turns).step host (.importRegistry r, w)) := by
    simp [after]
  obtain ⟨stores, hstores⟩ :=
    exists_stores_eq host ((after host cs turns).step host (.importRegistry r, w)) later
  rw [hafter, hstores, Progress.step, hstore]
  cases (after host cs turns).stores <;> rfl

/-! ## What the test answers -/

/-- The test for one name reads the store that it is about, and changes nothing. -/
lemma ask_defined {store : Ref} (h : cs.tests.find? definedTest = some (.defined store))
    (name : String) (w : World κ ω) :
    cs.ask host definedTest [name] w = (some ((w.memory.store store).contains name), w) := by
  simp only [ask, test?, h]
  rfl

/-- Two stores can differ in any variable. -/
lemma exists_store_contains (w : World κ ω) {a b : Ref} (hne : a ≠ b) (name : String) :
    ∃ w' : World κ ω, (w'.memory.store a).contains name = true ∧
      (w'.memory.store b).contains name = false := by
  let empties : Pool Variables := ⟨Array.replicate a .empty⟩
  have hnext : empties.next = a := Array.size_replicate
  let stores := empties.add (Table.empty.insert name (.int 0))
  refine ⟨{ w with memory := { w.memory with stores } }, ?_, ?_⟩
  · simp [Memory.store, stores, Pool.get?_add, hnext, Table.contains]
  · have hb : (empties.get? b).getD .empty = .empty := by
      by_cases hlt : b < a <;> simp [empties, Pool.get?, hlt]
    simp [Memory.store, stores, Pool.get?_add, hnext, hne.symm, hb, Table.contains]

/-- **The test for shared variables speaks of the registry that was imported first.** Let a set of
commands go through updates, in any worlds, and let the host never add a test of that name. As soon as
`r` has been imported, and for all updates that come `later`, the test is about the store of the first
registry that was imported, as this store is at the time of the test. So it is about the variables of
`r`, as it should be, if and only if `r` has that store. -/
theorem defined_speaks_of_first_import (hcs : cs.hasTest definedTest = false)
    {turns later : List (Update κ × World κ ω)} {n : Nat}
    (hturns : ∀ turn ∈ turns ++ (.importRegistry r, w) :: later,
      turn.1.addsTest definedTest = false)
    (himport : ((after host cs turns).commands.importRegistry host r w).1.1 = .ok n) :
    let first := (after host cs turns).stores.headD r.shared
    let commands := (after host cs (turns ++ (.importRegistry r, w) :: later)).commands
    (∀ name w', commands.ask host definedTest [name] w' =
      (some ((w'.memory.store first).contains name), w')) ∧
    ((∀ name w', commands.ask host definedTest [name] w' =
      (some ((w'.memory.store r.shared).contains name), w')) ↔ first = r.shared) := by
  intro first commands
  have htest : commands.tests.find? definedTest = some (.defined first) := by
    rw [keepsFirst_after hcs hturns, head?_stores_after himport later]
    rfl
  refine ⟨fun name w' => ask_defined htest name w', fun hasks => ?_, fun hsame name w' => ?_⟩
  · by_contra hne
    obtain ⟨w', hfirst, hshared⟩ := exists_store_contains w hne ""
    have hanswer := (ask_defined htest "" w').symm.trans (hasks "" w')
    rw [hfirst, hshared] at hanswer
    cases hanswer
  · rw [← hsame]
    exact ask_defined htest name w'

/-- A host whose instances have an empty template. -/
def plainHost : Host Nat (List (Entry Nat)) :=
  { Host.scribe Nat with create := fun _ => .pure (.ok (Instance.empty.addMethod templateMethod "" 0)) }

/-- A registry with one module and a given store. -/
def plainRegistry (name : String) (shared : Ref) : Registry Nat :=
  ({ loader := ⟨fun _ => false, .error⟩, shared } : Registry Nat).define { name, factory := 0 }

/-- A world with two stores, of which only the second one has a variable `y`. -/
def plainWorld : World Nat (List (Entry Nat)) where
  memory := { stores := ⟨#[.empty, Table.empty.insert "y" (.int 1)]⟩, host := [] }

-- the second import succeeds, and yet the test is still about the store of the first
theorem defined_speaks_of_first_import_twice :
    let turns := [(Update.importRegistry (plainRegistry "a" 0), plainWorld)]
    let commands := (after plainHost standard
      (turns ++ [(.importRegistry (plainRegistry "b" 1), plainWorld), (.reset, plainWorld)])).commands
    (∀ name w, commands.ask plainHost definedTest [name] w =
      (some ((w.memory.store 0).contains name), w)) ∧
    ¬ ∀ name w, commands.ask plainHost definedTest [name] w =
      (some ((w.memory.store 1).contains name), w) := by
  intro turns commands
  have hcs : (standard : CommandSet Nat).hasTest definedTest = false := by
    decide +kernel
  have himport : ((after plainHost standard turns).commands.importRegistry plainHost
      (plainRegistry "b" 1) plainWorld).1.1 = .ok 1 := by
    with_unfolding_all rfl
  have hfirst : (after plainHost standard turns).stores = [0] := by
    with_unfolding_all rfl
  have hturns : ∀ turn ∈ turns ++ [(.importRegistry (plainRegistry "b" 1), plainWorld),
      (.reset, plainWorld)], turn.1.addsTest definedTest = false := by
    decide +kernel
  have hasks := defined_speaks_of_first_import hcs hturns himport
  rw [hfirst] at hasks
  exact ⟨hasks.1, fun h => absurd (hasks.2.1 h) (by decide)⟩

theorem not_defined_speaks_of_last_import :
    let before := (after plainHost standard
      [(.importRegistry (plainRegistry "a" 0), plainWorld)]).commands
    let imported := before.importRegistry plainHost (plainRegistry "b" 1) plainWorld
    imported.1.1 = .ok 1 ∧
      (imported.2.memory.store (plainRegistry "b" 1).shared).contains "y" = true ∧
      (imported.1.2.1.ask plainHost definedTest ["y"] imported.2).1 = some false := by
  with_unfolding_all exact ⟨rfl, rfl, rfl⟩

end CommandSet

end BracketScript
