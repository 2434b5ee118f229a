import BracketScript.Proofs.Script.Language
import BracketScript.Proofs.Script.Scanning
import BracketScript.Proofs.Script.Steps

set_option autoImplicit false

/-!
# What the log of a run says

A language that keeps a log behaves like the language itself, and each step of a run adds to the log
the code that it has called: no code, or one piece of it. This file goes through the steps of a run
once and says what each of them calls.

## Main definitions

* `BracketScript.Language.perform` — the code that an event in the log stands for.
* `BracketScript.Language.Opening`, `BracketScript.Language.Closing`, `BracketScript.Language.Move`
  — what is called when a block is opened, when one is closed, and in a step of a run.

## Main results

* `BracketScript.Language.exists_move` — every step is one of these, with a log or without.
* `BracketScript.Language.exists_events_runFrom` — keeping a log changes nothing.
-/

namespace BracketScript

namespace Language

variable {σ : Type} (L : Language σ)

/-- The code that an event stands for. -/
def perform : Event → ExceptT String (StateM σ) Unit
  | .tested test words => do
    let _ ← L.ask test words
  | .opened call => (L.command? call.command).elim (pure ()) (·.onOpen call)
  | .closed call => (L.command? call.command).elim (pure ()) (·.onClose call)

/-! ## Opening a block -/

/-- What can come of opening a block: the result, the state that is left, and the code called. -/
inductive Opening (name text : String) (depth : Nat) (u : σ) :
    Except Failure (Args × List Nat) → σ → List Event → Prop
  /-- Nobody knows the name. -/
  | unknown (hname : name ≠ Conditional.name) (h : L.command? name = none) :
    Opening name text depth u (.error (.noCommand name)) u []
  /-- The arguments of a command do not bind. -/
  | unbound (hname : name ≠ Conditional.name) {command : Command σ} {e : BindError}
    (hcommand : L.command? name = some command) (hbind : command.template.bind text = .error e) :
    Opening name text depth u (.error (.badArguments name e.message)) u []
  /-- The words of a conditional cannot be read, or there are none. -/
  | unread (hname : name = Conditional.name) (reason : String) :
    Opening name text depth u (.error (.badArguments name reason)) u []
  /-- A conditional has a test that nobody knows. -/
  | untested (hname : name = Conditional.name) (skips : List Nat) :
    Opening name text depth u (.ok ({}, skips)) u []
  /-- A conditional asks for its test. -/
  | tested (hname : name = Conditional.name) {test : String} {words : List String} {u' : σ}
    (h : L.perform (.tested test words) u = (.ok (), u')) (skips : List Nat) :
    Opening name text depth u (.ok ({}, skips)) u' [.tested test words]
  /-- A command calls its code. -/
  | opened (hname : name ≠ Conditional.name) {command : Command σ} {args : Args} {u' : σ}
    (hcommand : L.command? name = some command) (hbind : command.template.bind text = .ok args)
    (h : L.perform (.opened ⟨name, args, depth⟩) u = (.ok (), u')) :
    Opening name text depth u (.ok (args, [])) u' [.opened ⟨name, args, depth⟩]
  /-- The code of a command fails. -/
  | failed (hname : name ≠ Conditional.name) {command : Command σ} {args : Args} {u' : σ}
    {reason : String} (hcommand : L.command? name = some command)
    (hbind : command.template.bind text = .ok args)
    (h : L.perform (.opened ⟨name, args, depth⟩) u = (.error reason, u')) :
    Opening name text depth u (.error (.commandFailed name reason)) u'
      [.opened ⟨name, args, depth⟩]

variable {L} {name text : String} {depth : Nat} {u : σ}

lemma command?_recorded {command : Command σ} (h : L.command? name = some command) :
    L.recorded.command? name = some command.recorded := by
  simp only [recorded, h, Option.map_some]

/-- A test that is known is written down. -/
lemma ask_recorded {test : String} {code : List String → StateM σ Bool}
    (h : L.test? test = some code) (words : List String) (u : σ) (log : List Event) :
    L.recorded.ask test words (u, log) =
      ((L.ask test words u).1, (L.ask test words u).2, log ++ [.tested test words]) := by
  simp only [ask, recorded, h, Option.map_some]
  rfl

/-- A test that nobody knows is not. -/
lemma ask_recorded_of_unknown {test : String} (h : L.test? test = none) (words : List String)
    (u : σ) (log : List Event) :
    L.ask test words u = (false, u) ∧ L.recorded.ask test words (u, log) = (false, u, log) := by
  simp only [ask, recorded, h, Option.map_none]
  exact ⟨rfl, rfl⟩

variable (L name text depth u)

/-- A conditional is opened in the same way with a log. -/
lemma exists_opening_conditional :
    ∃ r u' events, L.vocabulary.openBlock Conditional.name text depth u = (r, u') ∧
      (∀ log, L.recorded.vocabulary.openBlock Conditional.name text depth (u, log) =
        (r, u', log ++ events)) ∧
      L.Opening Conditional.name text depth u r u' events := by
  match ht : Word.texts? text with
  | none =>
    refine ⟨_, u, [], ?_, fun log => ?_, .unread rfl BindError.openQuote.message⟩
    · rw [openBlock_conditional_of_openQuote ht]
      rfl
    · rw [openBlock_conditional_of_openQuote ht, List.append_nil]
      rfl
  | some [] =>
    refine ⟨_, u, [], ?_, fun log => ?_, .unread rfl "expected at least one argument"⟩
    · rw [openBlock_conditional_of_nil ht]
      rfl
    · rw [openBlock_conditional_of_nil ht, List.append_nil]
      rfl
  | some (test :: words) =>
    cases hc : L.test? test with
    | none =>
      refine ⟨_, u, [], ?_, fun log => ?_, .untested rfl [1]⟩
      · have hask := (ask_recorded_of_unknown hc words u []).1
        rw [openBlock_conditional ht, Effect.bind_of_ok (Effect.lift_of_eq hask)]
        rfl
      · have hask := (ask_recorded_of_unknown hc words u log).2
        rw [openBlock_conditional ht, Effect.bind_of_ok (Effect.lift_of_eq hask), List.append_nil]
        rfl
    | some code =>
      match hask : L.ask test words u with
      | (holds, u') =>
        refine ⟨_, u', [.tested test words], ?_, fun log => ?_,
          .tested rfl ?_ [if holds then 2 else 1]⟩
        · rw [openBlock_conditional ht, Effect.bind_of_ok (Effect.lift_of_eq hask)]
          rfl
        · have hlog := ask_recorded hc words u log
          rw [hask] at hlog
          rw [openBlock_conditional ht, Effect.bind_of_ok (Effect.lift_of_eq hlog)]
          rfl
        · rw [perform, Effect.bind_of_ok (Effect.lift_of_eq hask)]
          rfl

/-- A block is opened in the same way with a log.

**Proof sketch.** By the cases of `Language.openBlock_command` and the lemmas around it, in both
languages. -/
lemma exists_opening :
    ∃ r u' events, L.vocabulary.openBlock name text depth u = (r, u') ∧
      (∀ log, L.recorded.vocabulary.openBlock name text depth (u, log) = (r, u', log ++ events)) ∧
      L.Opening name text depth u r u' events := by
  by_cases hname : name = Conditional.name
  · subst hname
    exact L.exists_opening_conditional text depth u
  · cases hc : L.command? name with
    | none =>
      refine ⟨_, u, [], ?_, fun log => ?_, .unknown hname hc⟩
      · rw [openBlock_of_unknown hname hc]
        rfl
      · have hrecorded : L.recorded.command? name = none := by
          simp only [recorded, hc, Option.map_none]
        rw [openBlock_of_unknown hname hrecorded, List.append_nil]
        rfl
    | some command =>
      have hrecorded := command?_recorded hc
      cases hb : command.template.bind text with
      | error e =>
        refine ⟨_, u, [], ?_, fun log => ?_, .unbound hname hc hb⟩
        · rw [openBlock_of_unbound hname hc hb]
          rfl
        · rw [openBlock_of_unbound hname hrecorded hb, List.append_nil]
          rfl
      | ok args =>
        match hcode : command.onOpen ⟨name, args, depth⟩ u with
        | (r, u') =>
          have hlog (log : List Event) : command.recorded.onOpen ⟨name, args, depth⟩ (u, log) =
              (r, u', log ++ [.opened ⟨name, args, depth⟩]) :=
            Event.noting_eq _ hcode log
          refine ⟨(r.mapError (Failure.commandFailed name)).map fun _ => (args, []), u',
            [.opened ⟨name, args, depth⟩], ?_, fun log => ?_, ?_⟩
          · rw [openBlock_command hname hc hb, Effect.adapt_bind_pure hcode]
          · rw [openBlock_command hname hrecorded hb, Effect.adapt_bind_pure (hlog log)]
          · have hperform : L.perform (.opened ⟨name, args, depth⟩) u = (r, u') := by
              simp only [perform, hc, Option.elim_some, hcode]
            cases r with
            | ok => exact .opened hname hc hb hperform
            | error reason => exact .failed hname hc hb hperform

variable {L} {name text : String} {depth : Nat} {u u' : σ}

/-! ## Closing a block -/

/-- What can come of closing a block. -/
inductive Closing (L : Language σ) (call : Call) (u : σ) :
    Except Failure Unit → σ → List Event → Prop
  | conditional (hname : call.command = Conditional.name) : Closing L call u (.ok ()) u []
  | unknown (h : L.command? call.command = none) : Closing L call u (.ok ()) u []
  | closed (hname : call.command ≠ Conditional.name) {u' : σ}
    (h : L.perform (.closed call) u = (.ok (), u')) : Closing L call u (.ok ()) u' [.closed call]
  | failed (hname : call.command ≠ Conditional.name) {u' : σ} {reason : String}
    (h : L.perform (.closed call) u = (.error reason, u')) :
    Closing L call u (.error (.commandFailed call.command reason)) u' [.closed call]

/-- A block is closed in the same way with a log. -/
lemma exists_closing (L : Language σ) (call : Call) (u : σ) :
    ∃ r u' events, L.vocabulary.closeBlock call u = (r, u') ∧
      (∀ log, L.recorded.vocabulary.closeBlock call (u, log) = (r, u', log ++ events)) ∧
      L.Closing call u r u' events := by
  by_cases hname : call.command = Conditional.name
  · refine ⟨_, u, [], ?_, fun log => ?_, .conditional hname⟩
    · rw [closeBlock_conditional hname]
      rfl
    · rw [closeBlock_conditional hname, List.append_nil]
      rfl
  · cases hc : L.command? call.command with
    | none =>
      refine ⟨_, u, [], ?_, fun log => ?_, .unknown hc⟩
      · rw [closeBlock_of_unknown hc]
        rfl
      · rw [closeBlock_of_unknown (by simp only [recorded, hc, Option.map_none]), List.append_nil]
        rfl
    | some command =>
      match hcode : command.onClose call u with
      | (r, u') =>
        have hlog (log : List Event) :
            command.recorded.onClose call (u, log) = (r, u', log ++ [.closed call]) :=
          Event.noting_eq _ hcode log
        have hperform : L.perform (.closed call) u = (r, u') := by
          simp only [perform, hc, Option.elim_some, hcode]
        rw [closeBlock_command hname hc, closeBlock_command hname (command?_recorded hc)]
        cases r with
        | ok =>
          exact ⟨_, u', _, Effect.adapt_of_ok hcode _, fun log => Effect.adapt_of_ok (hlog log) _,
            .closed hname hperform⟩
        | error reason =>
          exact ⟨_, u', _, Effect.adapt_of_error hcode _,
            fun log => Effect.adapt_of_error (hlog log) _, .failed hname hperform⟩

/-! ## The steps of a run -/

/-- What can come of a step of a run: the next position, the end or a failure, the state that is
left, and the code called. -/
inductive Move (L : Language σ) (p : Position) (u : σ) :
    Except Failure (Option Position) → σ → List Event → Prop
  | finished (hs : p.scanner.stack = []) : Move L p u (.ok none) u []
  | unmatched (e : Failure) : Move L p u (.error e) u []
  | opened {s : Scanner} {name : String} {args : Args} {skips : List Nat} {u' : σ}
    {events : List Event} (hnext : p.scanner.next = (.ok (some (.opened name)), s))
    (h : L.Opening name s.argText (s.depth + 1) u (.ok (args, skips)) u' events) :
    Move L p u (.ok (some (p.opened s name args skips))) u' events
  | notOpened {s : Scanner} {name : String} {e : Failure} {u' : σ} {events : List Event}
    (hnext : p.scanner.next = (.ok (some (.opened name)), s))
    (h : L.Opening name s.argText (s.depth + 1) u (.error e) u' events) :
    Move L p u (.error e) u' events
  | closed {s : Scanner} {name : String} {u' : σ} {events : List Event}
    (hnext : p.scanner.next = (.ok (some (.closed name)), s))
    (h : L.Closing ⟨name, p.frames.headD {}, s.depth + 1⟩ u (.ok ()) u' events) :
    Move L p u (.ok (some (p.closed s))) u' events
  | notClosed {s : Scanner} {name : String} {e : Failure} {u' : σ} {events : List Event}
    (hnext : p.scanner.next = (.ok (some (.closed name)), s))
    (h : L.Closing ⟨name, p.frames.headD {}, s.depth + 1⟩ u (.error e) u' events) :
    Move L p u (.error e) u' events

/-- A step is the same with a log. -/
lemma exists_move (L : Language σ) (p : Position) (u : σ) :
    ∃ r u' events, L.vocabulary.advance p u = (r, u') ∧
      (∀ log, L.recorded.vocabulary.advance p (u, log) = (r, u', log ++ events)) ∧
      L.Move p u r u' events := by
  match hnext : p.scanner.next with
  | (.error offset, s) =>
    refine ⟨_, u, [], Vocabulary.Step.advance_eq (.stray hnext), fun log => ?_, .unmatched _⟩
    rw [List.append_nil]
    exact Vocabulary.Step.advance_eq (.stray hnext)
  | (.ok none, s) =>
    by_cases hs : s.stack = []
    · have hp : p.scanner.stack = [] := by
        obtain ⟨-, rfl⟩ := Scanner.of_next_end hnext
        rwa [Scanner.stack_passSkipped] at hs
      refine ⟨_, u, [], Vocabulary.Step.advance_eq (.finished hnext hs), fun log => ?_,
        .finished hp⟩
      rw [List.append_nil]
      exact Vocabulary.Step.advance_eq (.finished hnext hs)
    · refine ⟨_, u, [], Vocabulary.Step.advance_eq (.unclosed hnext hs), fun log => ?_,
        .unmatched _⟩
      rw [List.append_nil]
      exact Vocabulary.Step.advance_eq (.unclosed hnext hs)
  | (.ok (some (.opened name)), s) =>
    obtain ⟨r, u', events, hopen, hlog, h⟩ := L.exists_opening name s.argText (s.depth + 1) u
    cases r with
    | ok result =>
      exact ⟨_, u', events, Vocabulary.Step.advance_eq (.opened hnext hopen),
        fun log => Vocabulary.Step.advance_eq (.opened hnext (hlog log)), .opened hnext h⟩
    | error e =>
      exact ⟨_, u', events, Vocabulary.Step.advance_eq (.notOpened hnext hopen),
        fun log => Vocabulary.Step.advance_eq (.notOpened hnext (hlog log)), .notOpened hnext h⟩
  | (.ok (some (.closed name)), s) =>
    obtain ⟨r, u', events, hclose, hlog, h⟩ :=
      L.exists_closing ⟨name, p.frames.headD {}, s.depth + 1⟩ u
    cases r with
    | ok result =>
      exact ⟨_, u', events, Vocabulary.Step.advance_eq (.closed hnext hclose),
        fun log => Vocabulary.Step.advance_eq (.closed hnext (hlog log)), .closed hnext h⟩
    | error e =>
      exact ⟨_, u', events, Vocabulary.Step.advance_eq (.notClosed hnext hclose),
        fun log => Vocabulary.Step.advance_eq (.notClosed hnext (hlog log)), .notClosed hnext h⟩

/-- A step with a log adds to it what the step has called. -/
lemma exists_move_of_advance {p : Position} {r : Except Failure (Option Position)}
    {log log' : List Event}
    (h : L.recorded.vocabulary.advance p (u, log) = (r, u', log')) :
    ∃ events, log' = log ++ events ∧ L.Move p u r u' events := by
  obtain ⟨r₁, u₁, events, -, hlog, hmove⟩ := L.exists_move p u
  rw [hlog log] at h
  cases h
  exact ⟨events, rfl, hmove⟩

/-- **Keeping a log changes nothing.** The run has the same result and leaves the same state, and
what it adds to the log does not depend on the log.

**Proof sketch.** Strong induction on what is left to be read; each step is the same with a log
(`exists_move`). -/
lemma exists_events_runFrom (L : Language σ) (p : Position) (u : σ) :
    ∃ events, ∀ log, L.recorded.vocabulary.runFrom p (u, log) =
      ((L.vocabulary.runFrom p u).1, (L.vocabulary.runFrom p u).2, log ++ events) := by
  induction hn : p.size using Nat.strongRecOn generalizing p u with
  | ind n ih =>
    obtain ⟨r, u', events, hplain, hlog, -⟩ := L.exists_move p u
    -- both runs take the same branch, because the step has one result
    match r with
    | .ok (some q) =>
      obtain ⟨hq, -⟩ := Vocabulary.exists_step_eq_of_next hplain
      obtain ⟨more, hrun⟩ := ih q.size (hn ▸ hq) q u' rfl
      refine ⟨events ++ more, fun log => ?_⟩
      rw [Vocabulary.runFrom_of_next hplain, Vocabulary.runFrom_of_next (hlog log), hrun,
        List.append_assoc]
    | .ok none =>
      refine ⟨events, fun log => ?_⟩
      rw [Vocabulary.runFrom_of_finished hplain, Vocabulary.runFrom_of_finished (hlog log)]
    | .error e =>
      refine ⟨events, fun log => ?_⟩
      rw [Vocabulary.runFrom_of_failure hplain, Vocabulary.runFrom_of_failure (hlog log)]

lemma runFrom_recorded (L : Language σ) (p : Position) (u : σ) (log : List Event) :
    ∃ events, L.recorded.vocabulary.runFrom p (u, log) =
      ((L.vocabulary.runFrom p u).1, (L.vocabulary.runFrom p u).2, log ++ events) := by
  obtain ⟨events, h⟩ := L.exists_events_runFrom p u
  exact ⟨events, h log⟩

end Language

end BracketScript
