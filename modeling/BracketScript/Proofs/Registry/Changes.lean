import BracketScript.Proofs.Registry.Sound
import BracketScript.Proofs.Registry.TakingDown

set_option autoImplicit false

/-!
# What an operation can do

This file goes through the operations of a registry once, to say what each of them can do from a state
in which the records agree: register a definition, close a library that came in vain, make an instance,
or take down some instances and modules, perhaps none.

## Main definitions

* `BracketScript.Operation`, `BracketScript.Answer`, `BracketScript.Registry.perform` — the operations
  as data, what they answer, and how they run.
* `BracketScript.Operation.forgets`, `BracketScript.Operation.drops` — the instances and modules that
  are gone after an operation.
* `BracketScript.Registry.deeds` — the code of the host that an operation has to run.
* `BracketScript.Registry.Change` — what an operation can do.

## Main results

* `BracketScript.Registry.Sound.change` — every operation does one of these, and runs just its deeds.
-/

namespace BracketScript

variable {κ ω : Type}

/-! ## Operations as data -/

/-- The operations of a registry. -/
inductive Operation (κ : Type) where
  /-- Registers the module in the library at a path. -/
  | load (name path : String)
  /-- Registers a module by its definition. -/
  | add (d : Definition κ)
  /-- Registers a module whose instances are just dropped. -/
  | register (name : String) (factory : κ)
  /-- Makes an instance. -/
  | newInstance (name : String)
  /-- Takes an instance apart. -/
  | deleteInstance (cell : Ref)
  /-- Takes down a module. -/
  | remove (name : String)
  /-- Takes down all modules. -/
  | clear
  /-- Adds a directory to the search path. -/
  | addSearchDir (dir : String)

namespace Operation

/-- Whether an instance is not tracked any more after an operation. An instance that is in use cannot be
deleted, but its module can be removed. -/
def forgets (op : Operation κ) (w : World κ ω) (t : Tracked) : Bool :=
  match op with
  | deleteInstance cell => t.cell == cell && w.isIdle cell
  | remove name => t.moduleName == name
  | clear => true
  | _ => false

/-- Whether there is no module of a name after an operation. -/
def drops (op : Operation κ) (name : String) : Bool :=
  match op with
  | remove other => name == other
  | clear => true
  | _ => false

/-- The instances of a module do not outlast it. -/
lemma forgets_of_drops {op : Operation κ} {t : Tracked} (h : op.drops t.moduleName = true)
    (w : World κ ω) : op.forgets w t = true := by
  cases op <;> first | exact h | cases h

end Operation

/-- What an operation answers. -/
inductive Answer where
  /-- It was done. -/
  | done
  /-- It was not done. -/
  | failed (e : Failure)
  /-- An instance was made. -/
  | handedOut (cell : Ref)
  /-- Whether there was a module to be removed. -/
  | removed (found : Bool)
deriving DecidableEq

namespace Registry

/-- Runs an operation that may fail. The registry is the one that the operation gives back. -/
def settle (x : StateM (World κ ω) (Except Failure Unit × Registry κ)) :
    StateM (World κ ω) (Answer × Registry κ) := do
  match ← x with
  | (.ok (), r) => return (.done, r)
  | (.error e, r) => return (.failed e, r)

/-- Runs an operation. -/
def perform (host : Host κ ω) (r : Registry κ) :
    Operation κ → StateM (World κ ω) (Answer × Registry κ)
  | .load name path => settle (r.load host name path)
  | .add d => settle (r.add host d)
  | .register name factory => settle (r.register host name factory)
  | .newInstance name => do
    match ← r.newInstance host name with
    | (.ok cell, r) => return (.handedOut cell, r)
    | (.error e, r) => return (.failed e, r)
  | .deleteInstance cell => settle (r.deleteInstance host cell)
  | .remove name => do
    let (found, r) ← r.remove host name
    return (.removed found, r)
  | .clear => do
    return (.done, ← r.clear host)
  | .addSearchDir dir => return (.done, r.addSearchDir dir)

/-- The library that comes with an operation: `load` opens it, and `add` is given it. -/
def handle? (r : Registry κ) : Operation κ → Option (Library κ)
  | .load name path =>
    if r.hasModule name then none else (r.loader.openLibrary (r.resolve path)).toOption
  | .add d => d.library?
  | _ => none

/-- The definition that an operation registers, if it does. -/
def registers? (r : Registry κ) : Operation κ → Option (Definition κ)
  | .load name path => (r.handle? (.load name path)).bind fun l => (exported name l).toOption
  | .add d => if r.hasModule d.name then none else some d
  | .register name factory => if r.hasModule name then none else some { name, factory }
  | _ => none

/-- The code of the host that an operation has to run, in order. Here `origin` tells which
registration a module is from, and `now` is the number of the operation. -/
def deeds (host : Host κ ω) (origin : String → Nat) (now : Nat) (r : Registry κ) (w : World κ ω) :
    Operation κ → List (Deed κ)
  | .newInstance name =>
    match r.definition? name with
    | none => []
    | some d =>
      match ((host.create d.factory).run w).1 with
      | .error _ => [.refused (origin name) d]
      | .ok i => [.built (origin name) d ⟨r.lastId + 1, name, w.cells.next⟩
          (i.attach (r.lastId + 1) name r.shared)]
  | .deleteInstance cell => r.destructions host origin w (r.tracked? cell).toList
  | .remove name =>
    r.destructions host origin w (r.instances.filter (·.moduleName == name)) ++ r.closings origin [name]
  | .clear => r.destructions host origin w r.instances ++ r.closings origin r.order
  | op => if (r.registers? op).isSome then [] else (r.handle? op).toList.map (.closed now)

/-! ## Changes -/

/-- Some instances of a registry are taken apart and some modules dropped, perhaps none. -/
structure Teardown (host : Host κ ω) (origin : String → Nat) (r : Registry κ) (w : World κ ω)
    (op : Operation κ) (r' : Registry κ) (w' : World κ ω) (deeds : List (Deed κ)) : Prop where
  /-- The other instances are still tracked. -/
  instances_eq : r'.instances = r.instances.filter fun t => !op.forgets w t
  /-- The other modules are still listed. -/
  order_eq : r'.order = r.order.filter fun name => !op.drops name
  /-- The other modules are still defined, and as before. -/
  definition?_eq : ∀ name, r'.definition? name = if op.drops name then none else r.definition? name
  /-- No number is given. -/
  lastId_eq : r'.lastId = r.lastId
  /-- The destructors are called in the order of the numbers, and then the libraries are closed in the
  order of their registration. -/
  deeds_eq : deeds = r.destructions host origin w (r.instances.filter (op.forgets w)) ++
    r.closings origin (r.order.filter op.drops)
  /-- Nothing else happens. -/
  course : host.Course w deeds w'

/-- What an operation can do to a registry and to the world, with its answer and its deeds. -/
inductive Change (host : Host κ ω) (origin : String → Nat) (now : Nat) (r : Registry κ)
    (w : World κ ω) :
    Operation κ → Answer → Registry κ → World κ ω → List (Deed κ) → Prop
  /-- A module is registered; its definition holds the library that came with the operation. -/
  | defined {op : Operation κ} {d : Definition κ} (hreg : r.registers? op = some d)
    (hhandle : r.handle? op = d.library?) (hnew : r.definition? d.name = none) :
    Change host origin now r w op .done (r.define d) w []
  /-- A library came in vain and is closed. -/
  | wasted {op : Operation κ} {e : Failure} {l : Library κ} (hreg : r.registers? op = none)
    (hhandle : r.handle? op = some l) :
    Change host origin now r w op (.failed e) r (closeLibrary host l w).2 [.closed now l]
  /-- A factory builds nothing. -/
  | refused {name reason : String} {d : Definition κ} {w' : World κ ω}
    (hd : r.definition? name = some d)
    (hc : (host.create d.factory).run w = (.error reason, w')) :
    Change host origin now r w (.newInstance name) (.failed (.notCreated name reason)) r w'
      [.refused (origin name) d]
  /-- A factory builds an instance, which is handed out. -/
  | built {name : String} {d : Definition κ} {i : Instance κ} {w' : World κ ω}
    (hd : r.definition? name = some d) (hc : (host.create d.factory).run w = (.ok i, w')) :
    Change host origin now r w (.newInstance name) (.handedOut w.cells.next)
      (r.track name w.cells.next) (w'.place (i.attach (r.lastId + 1) name r.shared))
      [.built (origin name) d ⟨r.lastId + 1, name, w.cells.next⟩
        (i.attach (r.lastId + 1) name r.shared)]
  /-- Instances are taken apart and modules dropped, or nothing happens. -/
  | tornDown {op : Operation κ} {answer : Answer} {r' : Registry κ} {w' : World κ ω}
    {deeds : List (Deed κ)} (hanswer : ∀ cell, answer ≠ .handedOut cell)
    (hreg : r.registers? op = none) (hhandle : r.handle? op = none)
    (h : Teardown host origin r w op r' w' deeds) :
    Change host origin now r w op answer r' w' deeds

variable {host : Host κ ω} {origin : String → Nat} {now : Nat} {r : Registry κ} {w u : World κ ω}

/-- Where there is nothing to take down, nothing happens. -/
lemma Teardown.nothing {op : Operation κ} (hforgets : ∀ t ∈ r.instances, op.forgets w t = false)
    (hdrops : ∀ name, op.drops name = true → name ∉ r.order ∧ r.definition? name = none) :
    Teardown host origin r w op r w [] where
  instances_eq := (List.filter_eq_self.2 fun t ht => by rw [hforgets t ht]; rfl).symm
  order_eq := by
    refine (List.filter_eq_self.2 fun name hname => ?_).symm
    cases hdrop : op.drops name with
    | false => rfl
    | true => exact absurd hname (hdrops name hdrop).1
  definition?_eq := fun name => by
    cases hdrop : op.drops name with
    | false => rfl
    | true => exact (hdrops name hdrop).2
  lastId_eq := rfl
  deeds_eq := by
    have hnone : r.instances.filter (op.forgets w) = [] :=
      List.filter_eq_nil_iff.2 fun t ht => by rw [hforgets t ht]; exact Bool.false_ne_true
    have hnames : r.order.filter op.drops = [] :=
      List.filter_eq_nil_iff.2 fun name hname hdrop => (hdrops name hdrop).1 hname
    rw [hnone, hnames]
    rfl
  course := .nil w

/-- An operation may take nothing down and register nothing. -/
lemma Change.still {op : Operation κ} {answer : Answer} (hanswer : ∀ cell, answer ≠ .handedOut cell)
    (hreg : r.registers? op = none) (hhandle : r.handle? op = none)
    (hforgets : ∀ t, op.forgets w t = false) (hdrops : ∀ name, op.drops name = false) :
    Change host origin now r w op answer r w [] :=
  .tornDown hanswer hreg hhandle (.nothing (fun t _ => hforgets t) fun name h =>
    absurd ((hdrops name).symm.trans h) Bool.false_ne_true)

/-- There is no module of a name exactly if nothing is found. -/
lemma definition?_eq_none_iff {name : String} :
    r.definition? name = none ↔ r.hasModule name = false := by
  rw [definition?, hasModule, Table.contains]
  cases r.definitions.find? name <;> simp

section Perform

variable {x : StateM (World κ ω) (Except Failure Unit × Registry κ)} {e : Failure} {r' : Registry κ}
  {w' : World κ ω} {name : String} {cell : Ref}

lemma settle_of_ok (h : x w = ((.ok (), r'), w')) : settle x w = ((.done, r'), w') := by
  rw [settle, Effect.bind_of_eq h]
  rfl

lemma settle_of_error (h : x w = ((.error e, r'), w')) : settle x w = ((.failed e, r'), w') := by
  rw [settle, Effect.bind_of_eq h]
  rfl

lemma perform_newInstance_of_ok (h : r.newInstance host name w = ((.ok cell, r'), w')) :
    r.perform host (.newInstance name) w = ((.handedOut cell, r'), w') := by
  rw [perform, Effect.bind_of_eq h]
  rfl

lemma perform_newInstance_of_error (h : r.newInstance host name w = ((.error e, r'), w')) :
    r.perform host (.newInstance name) w = ((.failed e, r'), w') := by
  rw [perform, Effect.bind_of_eq h]
  rfl

end Perform

/-! ## What a load comes with -/

section Load

variable {name path : String} {l : Library κ}

/-- Nothing is opened for a name that is taken. -/
lemma handle?_load_of_duplicate (h : r.hasModule name = true) :
    r.handle? (.load name path) = none := by
  rw [handle?, if_pos h]

lemma handle?_load_of_unopened {reason : String} (h : r.hasModule name = false)
    (ho : r.loader.openLibrary (r.resolve path) = .error reason) :
    r.handle? (.load name path) = none := by
  rw [handle?, h, ho]
  rfl

lemma handle?_load_of_opened (h : r.hasModule name = false)
    (ho : r.loader.openLibrary (r.resolve path) = .ok l) :
    r.handle? (.load name path) = some l := by
  rw [handle?, h, ho]
  rfl

lemma registers?_load_of_nothing (h : r.handle? (.load name path) = none) :
    r.registers? (.load name path) = none := by
  rw [registers?, h, Option.bind_none]

/-- A library that is opened is registered if it exports a module. -/
lemma registers?_load_of_opened (h : r.handle? (.load name path) = some l) :
    r.registers? (.load name path) = (exported name l).toOption := by
  rw [registers?, h, Option.bind_some]

lemma deeds_load_of_nothing (h : r.handle? (.load name path) = none) :
    r.deeds host origin now w (.load name path) = [] := by
  simp [deeds, registers?_load_of_nothing h, h]

lemma deeds_load_of_incomplete {symbol : String} (h : r.handle? (.load name path) = some l)
    (he : exported name l = .error symbol) :
    r.deeds host origin now w (.load name path) = [.closed now l] := by
  simp [deeds, registers?_load_of_opened h, he, Except.toOption, h]

end Load

/-! ## Every operation does one of the changes -/

/-- An operation does what its change says. -/
def Does (host : Host κ ω) (origin : String → Nat) (now : Nat) (r : Registry κ) (w : World κ ω)
    (op : Operation κ) : Prop :=
  ∃ answer r' w', r.perform host op w = ((answer, r'), w') ∧
    Change host origin now r w op answer r' w' (r.deeds host origin now w op)

lemma does_load_of_nothing {name path : String} {e : Failure}
    (hrun : r.load host name path w = ((.error e, r), w))
    (hhandle : r.handle? (.load name path) = none) :
    Does host origin now r w (.load name path) := by
  refine ⟨_, _, _, settle_of_error hrun, ?_⟩
  rw [deeds_load_of_nothing hhandle]
  exact .still (by simp) (registers?_load_of_nothing hhandle) hhandle (fun _ => rfl) fun _ => rfl

lemma does_load (name path : String) : Does host origin now r w (.load name path) := by
  cases hm : r.hasModule name with
  | true => exact does_load_of_nothing (load_of_duplicate hm) (handle?_load_of_duplicate hm)
  | false =>
    cases ho : r.loader.openLibrary (r.resolve path) with
    | error reason =>
      exact does_load_of_nothing (load_of_unopened hm ho) (handle?_load_of_unopened hm ho)
    | ok l =>
      have hhandle := handle?_load_of_opened hm ho
      have hreg := registers?_load_of_opened hhandle
      cases he : exported name l with
      | error symbol =>
        rw [he] at hreg
        refine ⟨_, _, _, settle_of_error (load_of_incomplete hm ho he), ?_⟩
        rw [deeds_load_of_incomplete hhandle he]
        exact .wasted hreg hhandle
      | ok d =>
        rw [he] at hreg
        obtain ⟨hname, hlibrary⟩ := of_exported he
        refine ⟨_, _, _, settle_of_ok (load_of_exported hm ho he), ?_⟩
        simp only [deeds, hreg]
        exact .defined hreg (by rw [hhandle, hlibrary])
          (by rw [hname]; exact definition?_eq_none_iff.2 hm)

lemma does_add (d : Definition κ) : Does host origin now r w (.add d) := by
  cases hm : r.hasModule d.name with
  | true =>
    have hreg : r.registers? (.add d) = none := by simp [registers?, hm]
    refine ⟨_, _, _, settle_of_error (add_of_duplicate hm), ?_⟩
    cases hl : d.library? with
    | none =>
      simp only [deeds, hreg, handle?, hl]
      exact .still (by simp) hreg hl (fun _ => rfl) fun _ => rfl
    | some l =>
      simp only [deeds, hreg, handle?, hl]
      exact .wasted hreg hl
  | false =>
    have hreg : r.registers? (.add d) = some d := by simp [registers?, hm]
    refine ⟨_, _, _, settle_of_ok (add_of_new hm), ?_⟩
    simp only [deeds, hreg]
    exact .defined hreg rfl (definition?_eq_none_iff.2 hm)

lemma does_newInstance (name : String) : Does host origin now r w (.newInstance name) := by
  cases hd : r.definition? name with
  | none =>
    refine ⟨_, _, _, perform_newInstance_of_error (newInstance_of_unknown hd), ?_⟩
    simp only [deeds, hd]
    exact .still (by simp) rfl rfl (fun _ => rfl) fun _ => rfl
  | some d =>
    match hc : (host.create d.factory).run w with
    | (.error reason, w') =>
      refine ⟨_, _, _, perform_newInstance_of_error (newInstance_of_refused hd hc), ?_⟩
      simp only [deeds, hd, hc]
      exact .refused hd hc
    | (.ok i, w') =>
      refine ⟨_, _, _, perform_newInstance_of_ok (newInstance_of_built hd hc), ?_⟩
      simp only [deeds, hd, hc]
      exact .built hd hc

lemma does_register (name : String) (factory : κ) :
    Does host origin now r w (.register name factory) := by
  cases hm : r.hasModule name with
  | true =>
    have hreg : r.registers? (.register name factory) = none := by simp [registers?, hm]
    refine ⟨_, _, _, settle_of_error (add_of_duplicate hm), ?_⟩
    simp only [deeds, hreg]
    exact .still (by simp) hreg rfl (fun _ => rfl) fun _ => rfl
  | false =>
    have hreg : r.registers? (.register name factory) = some { name, factory } := by
      simp [registers?, hm]
    refine ⟨_, _, _, settle_of_ok (add_of_new hm), ?_⟩
    simp only [deeds, hreg]
    exact .defined hreg rfl (definition?_eq_none_iff.2 hm)

/-- Some of the tracked instances can be taken apart. -/
lemma Sound.course_dispose_filter (hs : r.Sound w) (host : Host κ ω) (origin : String → Nat)
    (gone : Tracked → Bool) :
    ∃ w', (r.instances.filter gone).forM (r.dispose host) w = ((), w') ∧
      host.Course w (r.destructions host origin w (r.instances.filter gone)) w' :=
  course_dispose host origin _ w fun _ ht =>
    hs.exists_definition (List.mem_filter.1 ht).1

/-- The record that is found by its cell is the one that is dropped by its number. -/
lemma Sound.forgets_deleteInstance (hs : r.Sound w) {s t : Tracked} (hmem : s ∈ r.instances)
    (ht : t ∈ r.instances) (hidle : w.isIdle t.cell = true) :
    (Operation.deleteInstance t.cell : Operation κ).forgets w s = (s.id == t.id) := by
  by_cases h : s = t
  · simp [h, Operation.forgets, hidle]
  · have hcell : s.cell ≠ t.cell := fun hc => h (hs.eq_of_cell_eq hmem ht hc)
    have hid : s.id ≠ t.id := fun hi => h (hs.eq_of_id_eq hmem ht hi)
    rw [Operation.forgets, beq_false_of_ne hcell, beq_false_of_ne hid]
    rfl

/-- One instance is deleted. -/
lemma Sound.filter_forgets_deleteInstance (hs : r.Sound w) {t : Tracked} (ht : t ∈ r.instances)
    (hidle : w.isIdle t.cell = true) :
    r.instances.filter ((Operation.deleteInstance t.cell : Operation κ).forgets w) = [t] :=
  (List.filter_congr fun _ hmem => hs.forgets_deleteInstance hmem ht hidle).trans
    (filter_key_of_nodup hs.ids_nodup ht)

/-- One module is removed. -/
lemma Sound.filter_drops_remove (hs : r.Sound w) {name : String} (h : name ∈ r.order) :
    r.order.filter (Operation.remove name : Operation κ).drops = [name] :=
  filter_key_of_nodup (by rw [List.map_id']; exact hs.order_nodup) h

lemma Sound.does_deleteInstance (hs : r.Sound w) (cell : Ref) :
    Does host origin now r w (.deleteInstance cell) := by
  cases ht : r.tracked? cell with
  | none =>
    refine ⟨_, _, _, settle_of_error (deleteInstance_of_untracked ht), ?_⟩
    simp only [deeds, ht]
    refine .tornDown (by simp) rfl rfl (.nothing (fun t hmem => ?_) fun _ h => nomatch h)
    have hne : t.cell ≠ cell := by simpa using List.find?_eq_none.1 ht t hmem
    simp [Operation.forgets, hne]
  | some t =>
    have hmem : t ∈ r.instances := List.mem_of_find?_eq_some ht
    obtain rfl : t.cell = cell := by simpa using List.find?_some ht
    cases hw : w.isIdle t.cell with
    | false =>
      refine ⟨_, _, _, settle_of_error (deleteInstance_of_busy ht hw), ?_⟩
      simp only [deeds, ht, Option.toList_some, destructions_cons_of_busy hw]
      exact .tornDown (by simp) rfl rfl
        (.nothing (fun t _ => by simp [Operation.forgets, hw]) fun _ h => nomatch h)
    | true =>
      have hgone := hs.filter_forgets_deleteInstance hmem hw
      obtain ⟨w', hrun, hcourse⟩ := hs.course_dispose_filter host origin
        ((Operation.deleteInstance t.cell : Operation κ).forgets w)
      have hdispose : (r.dispose host t w).2 = w' := by
        rw [hgone] at hrun
        exact congrArg Prod.snd hrun
      have hdeeds : r.deeds host origin now w (.deleteInstance t.cell) =
          r.destructions host origin w
            (r.instances.filter ((Operation.deleteInstance t.cell : Operation κ).forgets w)) := by
        rw [deeds, ht, hgone, Option.toList_some]
      refine ⟨_, _, _, settle_of_ok (deleteInstance_of_idle ht hw),
        .tornDown (by simp) rfl rfl ?_⟩
      rw [hdispose, hdeeds]
      exact {
        instances_eq := List.filter_congr fun s hs' => by
          rw [hs.forgets_deleteInstance hs' hmem hw]
          rfl
        order_eq := by simp [Operation.drops]
        definition?_eq := by simp [definition?, Operation.drops]
        lastId_eq := rfl
        deeds_eq := by simp [closings, Operation.drops]
        course := hcourse }

lemma Sound.does_remove (hs : r.Sound w) (name : String) :
    Does host origin now r w (.remove name) := by
  cases hd : r.definition? name with
  | none =>
    -- a module that is not there has no instances
    have hnone : ∀ t ∈ r.instances, (t.moduleName == name) = false := by
      refine fun t ht => beq_false_of_ne fun h => ?_
      obtain ⟨d, hd'⟩ := hs.exists_definition ht
      rw [h, hd] at hd'
      cases hd'
    have hnot : name ∉ r.order := fun h => by simpa [hd] using (hs.mem_order name).1 h
    refine ⟨.removed false, r, w, ?_, ?_⟩
    · rw [perform, Effect.bind_of_eq (remove_of_unknown hd)]
      rfl
    · have hfilter : r.instances.filter (·.moduleName == name) = [] :=
        List.filter_eq_nil_iff.2 fun t ht => by rw [hnone t ht]; exact Bool.false_ne_true
      have hdeeds : r.deeds host origin now w (.remove name) = [] := by
        simp [deeds, hfilter, closings, hd]
      rw [hdeeds]
      refine .tornDown (by simp) rfl rfl (.nothing hnone fun other h => ?_)
      rw [eq_of_beq h]
      exact ⟨hnot, hd⟩
  | some d =>
    have hlisted : name ∈ r.order := (hs.mem_order name).2 (by simp [hd])
    obtain ⟨w₁, hrun, hcourse⟩ :=
      hs.course_dispose_filter host origin (·.moduleName == name)
    have hperform : r.perform host (.remove name) w = ((.removed true, { r with
        instances := r.instances.filter (·.moduleName != name)
        order := r.order.filter (· != name)
        definitions := r.definitions.erase name }), (release host d w₁).2) := by
      rw [perform, Effect.bind_of_eq (remove_of_known hd hrun)]
      rfl
    refine ⟨_, _, _, hperform, .tornDown (by simp) rfl rfl ?_⟩
    exact {
      instances_eq := rfl
      order_eq := rfl
      definition?_eq := fun other => by
        simp only [definition?, Table.find?_erase, Operation.drops, beq_iff_eq, @eq_comm _ name]
      lastId_eq := rfl
      deeds_eq := by
        rw [deeds, hs.filter_drops_remove hlisted]
        rfl
      course := hcourse.append (course_release origin hd w₁) }

lemma Sound.does_clear (hs : r.Sound w) : Does host origin now r w .clear := by
  obtain ⟨w₁, hrun, hcourse⟩ := hs.course_dispose_filter host origin fun _ => true
  obtain ⟨left, w', hrelease, hclose, hfind⟩ := course_releaseAll host origin r.order
    r.definitions w₁ hs.order_nodup fun _ _ => rfl
  rw [List.filter_true] at hrun hcourse
  have hperform : r.perform host .clear w =
      ((.done, { r with instances := [], order := [], definitions := left }), w') := by
    rw [perform, Effect.bind_of_eq (clear_eq hrun hrelease)]
    rfl
  refine ⟨_, _, _, hperform, .tornDown (by simp) rfl rfl ?_⟩
  exact {
    instances_eq := (List.filter_false _).symm
    order_eq := (List.filter_false _).symm
    definition?_eq := fun name => by
      -- a module that is not listed is not there
      have hlisted := hs.mem_order name
      refine (hfind name).trans ?_
      by_cases hname : name ∈ r.order
      · simp [hname, Operation.drops]
      · simpa [hname, definition?, Operation.drops] using hlisted
    lastId_eq := rfl
    deeds_eq := by
      have hall : r.instances.filter ((Operation.clear : Operation κ).forgets w) = r.instances :=
        List.filter_true _
      have hnames : r.order.filter (Operation.clear : Operation κ).drops = r.order :=
        List.filter_true _
      rw [deeds, hall, hnames]
    course := hcourse.append hclose }

lemma does_addSearchDir (dir : String) : Does host origin now r w (.addSearchDir dir) :=
  ⟨.done, r.addSearchDir dir, w, rfl, .tornDown (by simp) rfl rfl {
    instances_eq := (List.filter_true _).symm
    order_eq := (List.filter_true _).symm
    definition?_eq := fun _ => rfl
    lastId_eq := rfl
    deeds_eq := by
      have hnone : r.instances.filter ((Operation.addSearchDir dir : Operation κ).forgets w) = [] :=
        List.filter_false _
      simp [deeds, registers?, handle?, hnone, closings, Operation.drops]
    course := .nil w }⟩

/-- **Every operation does one of the changes**, and runs just its deeds. -/
lemma Sound.change (hs : r.Sound w) (host : Host κ ω) (origin : String → Nat) (now : Nat)
    (op : Operation κ) : Does host origin now r w op := by
  cases op with
  | load name path => exact does_load name path
  | add d => exact does_add d
  | register name factory => exact does_register name factory
  | newInstance name => exact does_newInstance name
  | deleteInstance cell => exact hs.does_deleteInstance cell
  | remove name => exact hs.does_remove name
  | clear => exact hs.does_clear
  | addSearchDir dir => exact does_addSearchDir dir

end Registry

end BracketScript
