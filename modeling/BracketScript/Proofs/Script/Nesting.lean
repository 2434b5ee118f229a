import BracketScript.Proofs.Script.Recording

set_option autoImplicit false

/-!
# Blocks are closed as they were opened

A run keeps the names of the open blocks in one stack and their arguments in another, and different
parts of it push and pop the two at different moments. Still they stay in step, on every script and
whatever the code of the commands does: the code for the end of a block is called for the innermost
open block, with the name, the arguments and the depth that its start was called with.

## Main definitions

* `BracketScript.Position.calls` — the calls of the open blocks.
* `BracketScript.leftOpen` — the calls that a log leaves open, if it closes only innermost ones.
* `BracketScript.Language.Ran` — the code in a log was called in that order, and it succeeded.
* `BracketScript.Language.Nested` — what holds whenever a run asks for a token.

## Main results

* `BracketScript.Language.Nested.move` — every step of a run keeps it.
* `BracketScript.Language.disciplined_run` — what follows for runs.
-/

namespace BracketScript

/-! ## The calls of the open blocks -/

/-- The calls of blocks with these names and arguments, innermost first. -/
def callsOf : List String → List Args → List Call
  | name :: stack, args :: frames => ⟨name, args, stack.length + 1⟩ :: callsOf stack frames
  | _, _ => []

/-- Whether a call is that of a command; a conditional has no code of its own. -/
def Call.isOfCommand (call : Call) : Bool :=
  call.command != Conditional.name

namespace Position

/-- The calls of the open blocks, innermost first. -/
def calls (p : Position) : List Call :=
  callsOf p.scanner.stack p.frames

variable {p : Position} {s : Scanner} {name : String}

/-- A block that is opened comes first. -/
lemma calls_opened (h : p.scanner.next = (.ok (some (.opened name)), s)) (args : Args)
    (skips : List Nat) :
    (p.opened s name args skips).calls = ⟨name, args, s.depth + 1⟩ :: p.calls := by
  have hstack := Scanner.stack_of_next_opened h
  rw [calls, opened, Scanner.stack_enter, callsOf, calls, Scanner.depth, hstack]

/-- A block that is closed came first, with the arguments it is closed with. -/
lemma calls_closed (h : p.scanner.next = (.ok (some (.closed name)), s))
    (hlen : p.frames.length = p.scanner.stack.length) :
    p.calls = ⟨name, p.frames.headD {}, s.depth + 1⟩ :: (p.closed s).calls := by
  have hstack := Scanner.stack_of_next_closed h
  cases hframes : p.frames with
  | nil =>
    rw [hframes, hstack] at hlen
    cases hlen
  | cons args frames =>
    rw [calls, hstack, hframes, callsOf, calls, closed, hframes]
    rfl

/-- The name and the arguments of a block that is opened are pushed together. -/
lemma frames_length_opened (h : p.scanner.next = (.ok (some (.opened name)), s))
    (hlen : p.frames.length = p.scanner.stack.length) (args : Args) (skips : List Nat) :
    (p.opened s name args skips).frames.length =
      (p.opened s name args skips).scanner.stack.length := by
  have hstack := Scanner.stack_of_next_opened h
  rw [opened, Scanner.stack_enter, hstack, List.length_cons, List.length_cons, hlen]

/-- The name and the arguments of a block that is closed are popped together. -/
lemma frames_length_closed (h : p.scanner.next = (.ok (some (.closed name)), s))
    (hlen : p.frames.length = p.scanner.stack.length) :
    (p.closed s).frames.length = (p.closed s).scanner.stack.length := by
  rw [Scanner.stack_of_next_closed h, List.length_cons] at hlen
  rw [closed, List.length_tail, hlen, Nat.add_sub_cancel]

end Position

namespace Vocabulary

variable {σ : Type} {v : Vocabulary σ} {p q : Position} {w w' u : σ}

/-- A step pushes and pops names and arguments together. -/
lemma Step.frames_length (hp : p.frames.length = p.scanner.stack.length)
    (h : v.Step p w (.ok (some q)) w') : q.frames.length = q.scanner.stack.length := by
  cases h with
  | opened hnext hopen => exact Position.frames_length_opened hnext hp _ _
  | closed hnext hclose => exact Position.frames_length_closed hnext hp

/-- Whenever a run of a script asks for a token, there are as many lists of arguments as open
blocks. -/
lemma Visits.frames_length {script : String} (h : v.Visits (Position.start script) w q u) :
    q.frames.length = q.scanner.stack.length :=
  h.invariant (P := fun p _ => p.frames.length = p.scanner.stack.length)
    (fun _ _ _ _ => Step.frames_length) rfl

end Vocabulary

/-! ## Logs -/

/-- The calls that an event leaves open, innermost first. Only the innermost can be closed, and with
the name, the arguments and the depth that it was opened with. -/
def Event.leaves? (calls : List Call) : Event → Option (List Call)
  | .tested .. => some calls
  | .opened call => some (call :: calls)
  | .closed call => if calls.head? = some call then some calls.tail else none

/-- The calls that a log leaves open, innermost first. -/
def leftOpen (log : List Event) : Option (List Call) :=
  log.foldlM Event.leaves? []

/-- What one more event leaves open. -/
lemma leftOpen_append_singleton {log : List Event} {calls : List Call}
    (h : leftOpen log = some calls) (event : Event) :
    leftOpen (log ++ [event]) = event.leaves? calls := by
  rw [leftOpen] at h
  rw [leftOpen, List.foldlM_append, h]
  simp

/-- The innermost call can be closed. -/
lemma leftOpen_append_closed {log : List Event} {call : Call} {calls : List Call}
    (h : leftOpen log = some (call :: calls)) : leftOpen (log ++ [.closed call]) = some calls := by
  rw [leftOpen_append_singleton h]
  exact if_pos rfl

namespace Language

variable {σ : Type} {L : Language σ} {w u u' : σ} {p q : Position} {log events : List Event}

/-- The code in a log was called in that order, and each piece of it succeeded. -/
inductive Ran (L : Language σ) (w : σ) : List Event → σ → Prop
  | nil : Ran L w [] w
  | snoc {log : List Event} {event : Event} {u u' : σ} (h : Ran L w log u)
    (hcode : L.perform event u = (.ok (), u')) : Ran L w (log ++ [event]) u'

/-- The code in a log was called in that order, and the last piece of it failed. -/
inductive Broke (L : Language σ) (w : σ) : List Event → σ → Failure → Prop
  | opened {log : List Event} {call : Call} {reason : String} {u u' : σ} (h : Ran L w log u)
    (hcode : L.perform (.opened call) u = (.error reason, u')) :
    Broke L w (log ++ [.opened call]) u' (.commandFailed call.command reason)
  | closed {log : List Event} {call : Call} {reason : String} {u u' : σ} (h : Ran L w log u)
    (hcode : L.perform (.closed call) u = (.error reason, u')) :
    Broke L w (log ++ [.closed call]) u' (.commandFailed call.command reason)

/-! ## One step -/

/-- What holds whenever a run asks for a token. -/
structure Nested (L : Language σ) (w : σ) (p : Position) (u : σ) (log : List Event) : Prop where
  /-- There are as many lists of arguments as open blocks. -/
  frames_length : p.frames.length = p.scanner.stack.length
  /-- Every open block is a conditional or a command. -/
  known : ∀ name ∈ p.scanner.stack,
    name = Conditional.name ∨ ∃ command, L.command? name = some command
  /-- The calls that the log leaves open are those of the open blocks. -/
  leftOpen_eq : leftOpen log = some (p.calls.filter Call.isOfCommand)
  /-- All code that was called succeeded. -/
  ran : L.Ran w log u

lemma nested_start (L : Language σ) (script : String) (w : σ) :
    L.Nested w (Position.start script) w [] where
  frames_length := rfl
  known := fun _ hname => nomatch hname
  leftOpen_eq := rfl
  ran := .nil

/-- A conditional is not counted among the calls. -/
lemma filter_conditional {call : Call} (h : call.command = Conditional.name) (calls : List Call) :
    (call :: calls).filter Call.isOfCommand = calls.filter Call.isOfCommand :=
  List.filter_cons_of_neg (by simp [Call.isOfCommand, h])

lemma filter_command {call : Call} (h : call.command ≠ Conditional.name) (calls : List Call) :
    (call :: calls).filter Call.isOfCommand = call :: calls.filter Call.isOfCommand :=
  List.filter_cons_of_pos (by simp [Call.isOfCommand, h])

/-- What opening a block adds to the log leaves the call of the block open, and it was known. -/
lemma Opening.nested {name text : String} {depth : Nat} {args : Args} {skips : List Nat}
    (h : L.Opening name text depth u (.ok (args, skips)) u' events) {calls : List Call}
    (hopen : leftOpen log = some (calls.filter Call.isOfCommand)) (hran : L.Ran w log u) :
    (name = Conditional.name ∨ ∃ command, L.command? name = some command) ∧
      leftOpen (log ++ events) =
        some ((⟨name, args, depth⟩ :: calls).filter Call.isOfCommand) ∧
      L.Ran w (log ++ events) u' := by
  cases h with
  | untested hname =>
    rw [filter_conditional hname, List.append_nil]
    exact ⟨.inl hname, hopen, hran⟩
  | tested hname hcode =>
    rw [filter_conditional hname, leftOpen_append_singleton hopen]
    exact ⟨.inl hname, rfl, .snoc hran hcode⟩
  | opened hname hcommand hbind hcode =>
    rw [filter_command hname, leftOpen_append_singleton hopen]
    exact ⟨.inr ⟨_, hcommand⟩, rfl, .snoc hran hcode⟩

/-- What closing a block adds to the log closes the call of the block. -/
lemma Closing.nested {call : Call} (h : L.Closing call u (.ok ()) u' events)
    (hknown : call.command = Conditional.name ∨ ∃ command, L.command? call.command = some command)
    {calls : List Call} (hopen : leftOpen log = some ((call :: calls).filter Call.isOfCommand))
    (hran : L.Ran w log u) :
    leftOpen (log ++ events) = some (calls.filter Call.isOfCommand) ∧
      L.Ran w (log ++ events) u' := by
  cases h with
  | conditional hname =>
    rw [filter_conditional hname] at hopen
    rw [List.append_nil]
    exact ⟨hopen, hran⟩
  | unknown hnone =>
    -- the call was opened, so its name is known
    rcases hknown with hname | ⟨command, hcommand⟩
    · rw [filter_conditional hname] at hopen
      rw [List.append_nil]
      exact ⟨hopen, hran⟩
    · rw [hnone] at hcommand
      cases hcommand
  | closed hname hcode =>
    rw [filter_command hname] at hopen
    exact ⟨leftOpen_append_closed hopen, .snoc hran hcode⟩

/-- **Every step keeps names, arguments and log together.**

**Proof sketch.** By the cases of `Move`. A step that opens a block puts its call in front, and the
log has it if the block is that of a command. A step that closes a block takes off the call in
front, which is the one that the code is called with because there are as many lists of arguments as
names. -/
lemma Nested.move (hp : L.Nested w p u log) (h : L.Move p u (.ok (some q)) u' events) :
    L.Nested w q u' (log ++ events) := by
  cases h with
  | @opened s name args skips _ _ hnext hopening =>
    obtain ⟨hknown, hopen, hran⟩ := hopening.nested hp.leftOpen_eq hp.ran
    have hstack : (p.opened s name args skips).scanner.stack = name :: p.scanner.stack := by
      rw [Position.opened, Scanner.stack_enter, Scanner.stack_of_next_opened hnext]
    refine ⟨Position.frames_length_opened hnext hp.frames_length args skips, ?_, ?_, hran⟩
    · rw [hstack]
      intro other hother
      rcases List.mem_cons.1 hother with rfl | hother
      · exact hknown
      · exact hp.known other hother
    · rw [hopen, Position.calls_opened hnext]
  | @closed s name _ _ hnext hclosing =>
    have hstack := Scanner.stack_of_next_closed hnext
    have hcalls := Position.calls_closed hnext hp.frames_length
    have hopen := hp.leftOpen_eq
    rw [hcalls] at hopen
    obtain ⟨hopen, hran⟩ := hclosing.nested (hp.known name (by simp [hstack])) hopen hp.ran
    refine ⟨Position.frames_length_closed hnext hp.frames_length, ?_, hopen, hran⟩
    intro other hother
    refine hp.known other ?_
    rw [hstack]
    exact List.mem_cons_of_mem _ hother

/-- A step calls at most one piece of code, and for the end of a block only that of the innermost
one. -/
lemma Nested.calls_of_move (hp : L.Nested w p u log) {r : Except Failure (Option Position)}
    (h : L.Move p u r u' events) :
    events.length ≤ 1 ∧ ∀ call, .closed call ∈ events → p.calls.head? = some call := by
  have hopening {name text : String} {depth : Nat} {result : Except Failure (Args × List Nat)}
      (h : L.Opening name text depth u result u' events) :
      events.length ≤ 1 ∧ ∀ call, .closed call ∈ events → p.calls.head? = some call := by
    cases h <;> simp
  have hclosing {s : Scanner} {name : String} {result : Except Failure Unit}
      (hnext : p.scanner.next = (.ok (some (.closed name)), s))
      (h : L.Closing ⟨name, p.frames.headD {}, s.depth + 1⟩ u result u' events) :
      events.length ≤ 1 ∧ ∀ call, .closed call ∈ events → p.calls.head? = some call := by
    rw [Position.calls_closed hnext hp.frames_length]
    cases h <;> simp
  cases h with
  | finished hs => simp
  | unmatched e => simp
  | opened hnext h => exact hopening h
  | notOpened hnext h => exact hopening h
  | closed hnext h => exact hclosing hnext h
  | notClosed hnext h => exact hclosing hnext h

/-- A step that fails has called no code, or the code that failed; and the log is still one that
closes only innermost calls. -/
lemma Nested.fails (hp : L.Nested w p u log) {e : Failure} (h : L.Move p u (.error e) u' events) :
    (∃ calls, leftOpen (log ++ events) = some calls) ∧
      (L.Ran w (log ++ events) u' ∨ L.Broke w (log ++ events) u' e) := by
  have hidle : (∃ calls, leftOpen (log ++ []) = some calls) ∧
      (L.Ran w (log ++ []) u ∨ L.Broke w (log ++ []) u e) := by
    rw [List.append_nil]
    exact ⟨⟨_, hp.leftOpen_eq⟩, .inl hp.ran⟩
  cases h with
  | unmatched e => exact hidle
  | notOpened hnext h =>
    cases h with
    | unknown => exact hidle
    | unbound => exact hidle
    | unread => exact hidle
    | failed hname hcommand hbind hcode =>
      exact ⟨⟨_, leftOpen_append_singleton hp.leftOpen_eq _⟩, .inr (.opened hp.ran hcode)⟩
  | notClosed hnext h =>
    cases h with
    | failed hname hcode =>
      have hopen := hp.leftOpen_eq
      rw [Position.calls_closed hnext hp.frames_length, filter_command hname] at hopen
      exact ⟨⟨_, leftOpen_append_closed hopen⟩, .inr (.closed hp.ran hcode)⟩

/-! ## Runs -/

/-- What holds wherever a run of a script comes. -/
lemma nested_of_visits {script : String}
    (h : L.recorded.vocabulary.Visits (Position.start script) (w, []) p (u, log)) :
    L.Nested w p u log := by
  refine h.invariant (P := fun p x => L.Nested w p x.1 x.2) ?_ (L.nested_start script w)
  rintro p ⟨u, log⟩ q ⟨u', log'⟩ hp hstep
  obtain ⟨events, rfl, hmove⟩ := exists_move_of_advance hstep.advance_eq
  exact hp.move hmove

/-- How a run ends, by its log.

**Proof sketch.** At the last position that the run visits the invariant holds. Either the script is
over there, with no block open, or the step fails (`Nested.fails`). -/
lemma nested_run {script : String} {r : Except Failure Unit}
    (h : L.recorded.run script (w, []) = (r, u, log)) :
    (L.Ran w log u ∨ ∃ e, r = .error e ∧ L.Broke w log u e) ∧
      ∃ calls, leftOpen log = some calls ∧ (r = .ok () → calls = []) := by
  obtain ⟨p, ⟨u₁, log₁⟩, hvisits, hlast⟩ :=
    L.recorded.vocabulary.exists_last (Position.start script) (w, [])
  have hnested := nested_of_visits hvisits
  rw [run, Vocabulary.run] at h
  rw [h] at hlast
  rcases hlast with ⟨hstep, hr⟩ | ⟨e, hstep, hr⟩
  · obtain ⟨events, rfl, hmove⟩ := exists_move_of_advance hstep
    cases hmove with
    | finished hs =>
      have hopen := hnested.leftOpen_eq
      -- no block is open where the script is over, so no call is
      have hcalls : p.calls = [] := by
        rw [Position.calls, hs, callsOf]
        simp
      rw [hcalls] at hopen
      rw [List.append_nil]
      exact ⟨.inl hnested.ran, [], hopen, fun _ => rfl⟩
  · obtain ⟨events, rfl, hmove⟩ := exists_move_of_advance hstep
    obtain ⟨⟨calls, hopen⟩, hcode⟩ := hnested.fails hmove
    obtain rfl : r = .error e := hr
    refine ⟨?_, calls, hopen, fun hok => nomatch hok⟩
    rcases hcode with hran | hbroke
    · exact .inl hran
    · exact .inr ⟨e, rfl, hbroke⟩

/-- The argument text does not suit the name of its block: a conditional finds no word in it, or the
arguments of a command do not bind. -/
def Unbound (L : Language σ) (name text : String) : Prop :=
  if name = Conditional.name then ∀ words, Word.texts? text = some words → words = []
  else ∃ command e, L.command? name = some command ∧ command.template.bind text = .error e

/-- Such a block is not opened, and nothing is called for it. -/
lemma Unbound.openBlock_eq {name text : String} (h : L.Unbound name text) (depth : Nat) (u : σ)
    (log : List Event) :
    ∃ reason, L.recorded.vocabulary.openBlock name text depth (u, log) =
      (.error (.badArguments name reason), u, log) := by
  unfold Unbound at h
  split at h
  · next hname =>
    subst hname
    match ht : Word.texts? text with
    | none =>
      rw [openBlock_conditional_of_openQuote ht]
      exact ⟨_, rfl⟩
    | some [] =>
      rw [openBlock_conditional_of_nil ht]
      exact ⟨_, rfl⟩
    | some (word :: words) => cases h _ ht
  · next hname =>
    obtain ⟨command, e, hcommand, hbind⟩ := h
    rw [openBlock_of_unbound hname (command?_recorded hcommand) hbind]
    exact ⟨_, rfl⟩

/-- What can be said of every run of a script from a state, by the log that it keeps. -/
structure Disciplined (L : Language σ) (script : String) (w : σ) : Prop where
  /-- Whenever the run asks for a token, there are as many lists of arguments as open blocks. -/
  frames_length : ∀ p u, L.vocabulary.Visits (Position.start script) w p u →
    p.frames.length = p.scanner.stack.length
  /-- Keeping a log changes nothing. -/
  log_neutral : (L.recorded.run script (w, [])).1 = (L.run script w).1 ∧
    (L.recorded.run script (w, [])).2.1 = (L.run script w).2
  /-- Whenever the run asks for a token, all code that was called has succeeded, and the calls that
  were opened and are not closed are those of the open blocks of commands. -/
  calls_open : ∀ p u log,
    L.recorded.vocabulary.Visits (Position.start script) (w, []) p (u, log) →
    L.Ran w log u ∧ leftOpen log = some (p.calls.filter Call.isOfCommand)
  /-- In one step at most one piece of code is called, and the code for the end of a block only for
  the innermost open block, by its name, with its arguments and at its depth. -/
  closes_innermost : ∀ p u log r u' log',
    L.recorded.vocabulary.Visits (Position.start script) (w, []) p (u, log) →
    L.recorded.vocabulary.advance p (u, log) = (r, u', log') →
    ∃ events, log' = log ++ events ∧ events.length ≤ 1 ∧
      ∀ call, .closed call ∈ events → p.calls.head? = some call
  /-- At a block whose arguments do not bind the run is over, and nothing is called for the block.
  -/
  unbound_silent : ∀ p u log name s,
    L.recorded.vocabulary.Visits (Position.start script) (w, []) p (u, log) →
    p.scanner.next = (.ok (some (.opened name)), s) → L.Unbound name s.argText →
    ∃ reason, L.recorded.run script (w, []) = (.error (.badArguments name reason), u, log)
  /-- At the first step that fails the run is over. -/
  failure_last : ∀ p u log e u' log',
    L.recorded.vocabulary.Visits (Position.start script) (w, []) p (u, log) →
    L.recorded.vocabulary.advance p (u, log) = (.error e, u', log') →
    L.recorded.run script (w, []) = (.error e, u', log')
  /-- All code that was called has succeeded, or the last piece of it has failed, and the run with
  it. -/
  code_last : ∀ r u log, L.recorded.run script (w, []) = (r, u, log) →
    L.Ran w log u ∨ ∃ e, r = .error e ∧ L.Broke w log u e
  /-- Each call that was closed is the innermost one that was open; if the run succeeds, no call is
  left open. -/
  nested : ∀ r u log, L.recorded.run script (w, []) = (r, u, log) →
    ∃ calls, leftOpen log = some calls ∧ (r = .ok () → calls = [])

/-- **Blocks are closed as they were opened**, in every language, on every script and from every
state.

**Proof sketch.** The invariant `Nested` holds wherever the run comes, and `nested_run` reads off it
how the run ends. A run that has come to a position goes on as the run from there, so a failing step
is the last one. -/
theorem disciplined_run (L : Language σ) (script : String) (w : σ) : L.Disciplined script w where
  frames_length p u hvisits := hvisits.frames_length
  log_neutral := by
    obtain ⟨events, h⟩ := L.runFrom_recorded (Position.start script) w []
    rw [run, Vocabulary.run, h]
    exact ⟨rfl, rfl⟩
  calls_open p u log hvisits := by
    have hnested := nested_of_visits hvisits
    exact ⟨hnested.ran, hnested.leftOpen_eq⟩
  closes_innermost p u log r u' log' hvisits hstep := by
    obtain ⟨events, rfl, hmove⟩ := exists_move_of_advance hstep
    exact ⟨events, rfl, (nested_of_visits hvisits).calls_of_move hmove⟩
  unbound_silent p u log name s hvisits hnext hunbound := by
    obtain ⟨reason, hopen⟩ := hunbound.openBlock_eq (s.depth + 1) u log
    refine ⟨reason, ?_⟩
    rw [run, Vocabulary.run, hvisits.runFrom_eq]
    exact Vocabulary.runFrom_of_failure (Vocabulary.Step.advance_eq (.notOpened hnext hopen))
  failure_last p u log e u' log' hvisits hstep := by
    rw [run, Vocabulary.run, hvisits.runFrom_eq]
    exact Vocabulary.runFrom_of_failure hstep
  code_last r u log h := (nested_run h).1
  nested r u log h := (nested_run h).2

end Language

end BracketScript
