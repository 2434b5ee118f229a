import BracketScript.Proofs.Effect
import BracketScript.Script.Run

set_option autoImplicit false

/-!
# Runs step by step

A run of a script asks for one token after the other. This file says once what a single step can do,
and how a run is made of its steps, so that a property of runs needs no more than a property of
steps.

## Main definitions

* `BracketScript.Vocabulary.advance` — one step of a run, as a function of the state.
* `BracketScript.Vocabulary.Step` — all that one step can do.
* `BracketScript.Vocabulary.Visits` — a run that asks for a token at a position comes to ask for one
  at another.

## Main results

* `BracketScript.Vocabulary.runFrom_of_opened`, `BracketScript.Vocabulary.runFrom_of_closed`,
  `BracketScript.Vocabulary.runFrom_of_end` — a run as its first step and the rest.
* `BracketScript.Vocabulary.step_advance` — there are no other steps.
* `BracketScript.Vocabulary.Visits.invariant` — what every step keeps holds wherever a run comes.
* `BracketScript.Vocabulary.exists_last` — a run ends as the step at the last position it visits.
-/

namespace BracketScript

namespace Vocabulary

variable {σ : Type} {v : Vocabulary σ} {p q : Position} {s : Scanner} {name : String} {w w' : σ}

/-! ## The first step of a run -/

lemma step_of_error {offset : Nat} (h : p.scanner.next = (.error offset, s)) :
    v.step p = throw (.unmatchedClose offset) := by
  unfold step
  split <;> rename_i heq <;> cases h.symm.trans heq
  rfl

lemma step_of_end (h : p.scanner.next = (.ok none, s)) :
    v.step p = if s.stack.isEmpty then pure none else throw (.unmatchedOpen s.openNames) := by
  unfold step
  split <;> rename_i heq <;> cases h.symm.trans heq
  rfl

lemma step_of_opened (h : p.scanner.next = (.ok (some (.opened name)), s)) :
    v.step p = (do
      let (args, skips) ← v.openBlock name s.argText (s.depth + 1)
      return some ⟨p.opened s name args skips, Position.size_opened h name args skips⟩) := by
  unfold step
  split <;> rename_i heq <;> cases h.symm.trans heq
  rfl

lemma step_of_closed (h : p.scanner.next = (.ok (some (.closed name)), s)) :
    v.step p = (do
      v.closeBlock ⟨name, p.frames.headD {}, s.depth + 1⟩
      return some ⟨p.closed s, Position.size_closed h⟩) := by
  unfold step
  split <;> rename_i heq <;> cases h.symm.trans heq
  rfl

/-- A block is opened, and the run goes on inside it. -/
lemma runFrom_of_opened (h : p.scanner.next = (.ok (some (.opened name)), s)) :
    v.runFrom p = (do
      let (args, skips) ← v.openBlock name s.argText (s.depth + 1)
      v.runFrom (p.opened s name args skips)) := by
  rw [runFrom, step_of_opened h]
  simp only [bind_assoc, pure_bind]

/-- A block is closed, and the run goes on behind it. -/
lemma runFrom_of_closed (h : p.scanner.next = (.ok (some (.closed name)), s)) :
    v.runFrom p = (do
      v.closeBlock ⟨name, p.frames.headD {}, s.depth + 1⟩
      v.runFrom (p.closed s)) := by
  rw [runFrom, step_of_closed h]
  simp only [bind_assoc, pure_bind]

/-- At the end of the script the run is over, unless a block is open. -/
lemma runFrom_of_end (h : p.scanner.next = (.ok none, s)) :
    v.runFrom p = if s.stack.isEmpty then pure () else throw (.unmatchedOpen s.openNames) := by
  rw [runFrom, step_of_end h]
  split <;> rfl

/-- A closing bracket without partner ends the run. -/
lemma runFrom_of_error {offset : Nat} (h : p.scanner.next = (.error offset, s)) :
    v.runFrom p = throw (.unmatchedClose offset) := by
  rw [runFrom, step_of_error h, Effect.throw_bind]

/-- A run knows the scanner by its next token only. -/
lemma runFrom_congr {t : Scanner} (h : s.next = t.next) (frames : List Args) :
    v.runFrom ⟨s, frames⟩ = v.runFrom ⟨t, frames⟩ := by
  match ht : t.next with
  | (.error offset, u) =>
    rw [runFrom_of_error (p := ⟨s, frames⟩) (h.trans ht), runFrom_of_error (p := ⟨t, frames⟩) ht]
  | (.ok none, u) =>
    rw [runFrom_of_end (p := ⟨s, frames⟩) (h.trans ht), runFrom_of_end (p := ⟨t, frames⟩) ht]
  | (.ok (some (.opened name)), u) =>
    rw [runFrom_of_opened (p := ⟨s, frames⟩) (h.trans ht), runFrom_of_opened (p := ⟨t, frames⟩) ht]
    rfl
  | (.ok (some (.closed name)), u) =>
    rw [runFrom_of_closed (p := ⟨s, frames⟩) (h.trans ht), runFrom_of_closed (p := ⟨t, frames⟩) ht]
    rfl

/-! ## All that a step can do -/

/-- One step of a run from a state: a failure, the end of the script, or the next position. -/
def advance (v : Vocabulary σ) (p : Position) (w : σ) : Except Failure (Option Position) × σ :=
  ((v.step p w).1.map (Option.map Subtype.val), (v.step p w).2)

/-- All that one step can do, by the next token and what comes of it. -/
inductive Step (v : Vocabulary σ) (p : Position) (w : σ) :
    Except Failure (Option Position) → σ → Prop
  | stray {offset : Nat} {s : Scanner} (h : p.scanner.next = (.error offset, s)) :
    Step v p w (.error (.unmatchedClose offset)) w
  | finished {s : Scanner} (h : p.scanner.next = (.ok none, s)) (hs : s.stack = []) :
    Step v p w (.ok none) w
  | unclosed {s : Scanner} (h : p.scanner.next = (.ok none, s)) (hs : s.stack ≠ []) :
    Step v p w (.error (.unmatchedOpen s.openNames)) w
  | opened {s : Scanner} {name : String} {args : Args} {skips : List Nat} {w' : σ}
    (h : p.scanner.next = (.ok (some (.opened name)), s))
    (hopen : v.openBlock name s.argText (s.depth + 1) w = (.ok (args, skips), w')) :
    Step v p w (.ok (some (p.opened s name args skips))) w'
  | notOpened {s : Scanner} {name : String} {e : Failure} {w' : σ}
    (h : p.scanner.next = (.ok (some (.opened name)), s))
    (hopen : v.openBlock name s.argText (s.depth + 1) w = (.error e, w')) :
    Step v p w (.error e) w'
  | closed {s : Scanner} {name : String} {w' : σ}
    (h : p.scanner.next = (.ok (some (.closed name)), s))
    (hclose : v.closeBlock ⟨name, p.frames.headD {}, s.depth + 1⟩ w = (.ok (), w')) :
    Step v p w (.ok (some (p.closed s))) w'
  | notClosed {s : Scanner} {name : String} {e : Failure} {w' : σ}
    (h : p.scanner.next = (.ok (some (.closed name)), s))
    (hclose : v.closeBlock ⟨name, p.frames.headD {}, s.depth + 1⟩ w = (.error e, w')) :
    Step v p w (.error e) w'

/-- From a state there is one step. -/
lemma Step.advance_eq {r : Except Failure (Option Position)} (h : v.Step p w r w') :
    v.advance p w = (r, w') := by
  cases h with
  | stray h =>
    rw [advance, step_of_error h]
    rfl
  | finished h hs =>
    rw [advance, step_of_end h, if_pos (by simp [hs])]
    rfl
  | unclosed h hs =>
    rw [advance, step_of_end h, if_neg (by simpa using hs)]
    rfl
  | opened h hopen =>
    rw [advance, step_of_opened h, Effect.bind_of_ok hopen]
    rfl
  | notOpened h hopen =>
    rw [advance, step_of_opened h, Effect.bind_of_error hopen]
    rfl
  | closed h hclose =>
    rw [advance, step_of_closed h, Effect.bind_of_ok hclose]
    rfl
  | notClosed h hclose =>
    rw [advance, step_of_closed h, Effect.bind_of_error hclose]
    rfl

/-- There are no other steps. -/
lemma step_advance (v : Vocabulary σ) (p : Position) (w : σ) :
    v.Step p w (v.advance p w).1 (v.advance p w).2 := by
  have hcases : ∃ r w', v.Step p w r w' := by
    match h : p.scanner.next with
    | (.error offset, s) => exact ⟨_, _, .stray h⟩
    | (.ok none, s) =>
      by_cases hs : s.stack = []
      · exact ⟨_, _, .finished h hs⟩
      · exact ⟨_, _, .unclosed h hs⟩
    | (.ok (some (.opened name)), s) =>
      match hopen : v.openBlock name s.argText (s.depth + 1) w with
      | (.ok (args, skips), w') => exact ⟨_, _, .opened h hopen⟩
      | (.error e, w') => exact ⟨_, _, .notOpened h hopen⟩
    | (.ok (some (.closed name)), s) =>
      match hclose : v.closeBlock ⟨name, p.frames.headD {}, s.depth + 1⟩ w with
      | (.ok (), w') => exact ⟨_, _, .closed h hclose⟩
      | (.error e, w') => exact ⟨_, _, .notClosed h hclose⟩
  obtain ⟨r, w', h⟩ := hcases
  rw [h.advance_eq]
  exact h

lemma step_of_advance_eq {r : Except Failure (Option Position)} (h : v.advance p w = (r, w')) :
    v.Step p w r w' := by
  have hstep := v.step_advance p w
  rw [h] at hstep
  exact hstep

/-! ## Runs as chains of steps -/

/-- The next position comes with the proof that less is left to be read. -/
lemma exists_step_eq_of_next (h : v.advance p w = (.ok (some q), w')) :
    ∃ hq : q.size < p.size, v.step p w = (.ok (some ⟨q, hq⟩), w') := by
  match hstep : v.step p w with
  | (.ok (some ⟨q', hq⟩), u) =>
    simp only [advance, hstep] at h
    cases h
    exact ⟨hq, rfl⟩
  | (.ok none, u) => simp [advance, hstep, Except.map] at h
  | (.error e, u) => simp [advance, hstep, Except.map] at h

lemma step_eq_of_finished (h : v.advance p w = (.ok none, w')) : v.step p w = (.ok none, w') := by
  match hstep : v.step p w with
  | (.ok (some ⟨q', hq⟩), u) => simp [advance, hstep, Except.map] at h
  | (.ok none, u) =>
    simp only [advance, hstep] at h
    cases h
    rfl
  | (.error e, u) => simp [advance, hstep, Except.map] at h

lemma step_eq_of_failure {e : Failure} (h : v.advance p w = (.error e, w')) :
    v.step p w = (.error e, w') := by
  match hstep : v.step p w with
  | (.ok r, u) => simp [advance, hstep, Except.map] at h
  | (.error e', u) =>
    simp only [advance, hstep] at h
    cases h
    rfl

/-- A run goes on at the next position. -/
lemma runFrom_of_next (h : v.advance p w = (.ok (some q), w')) :
    v.runFrom p w = v.runFrom q w' := by
  obtain ⟨hq, hstep⟩ := exists_step_eq_of_next h
  rw [runFrom, Effect.bind_of_ok hstep]

/-- A run ends with the script. -/
lemma runFrom_of_finished (h : v.advance p w = (.ok none, w')) : v.runFrom p w = (.ok (), w') := by
  rw [runFrom, Effect.bind_of_ok (step_eq_of_finished h)]
  rfl

/-- A run ends with its first failure. -/
lemma runFrom_of_failure {e : Failure} (h : v.advance p w = (.error e, w')) :
    v.runFrom p w = (.error e, w') := by
  rw [runFrom, Effect.bind_of_error (step_eq_of_failure h)]

/-- A run that asks for a token at the first position and state comes to ask for one at the second.
The positions are those of the loop: each is where the step from the one before has led. -/
inductive Visits (v : Vocabulary σ) : Position → σ → Position → σ → Prop
  | here (p : Position) (w : σ) : Visits v p w p w
  | next {p q r : Position} {w w' u : σ} (h : v.advance p w = (.ok (some q), w'))
    (hq : Visits v q w' r u) : Visits v p w r u

/-- The rest of a run is a run. -/
lemma Visits.runFrom_eq {u : σ} (h : v.Visits p w q u) : v.runFrom p w = v.runFrom q u := by
  induction h with
  | here => rfl
  | next h _ ih => rw [runFrom_of_next h, ih]

/-- What every step keeps holds wherever a run comes. -/
lemma Visits.invariant {P : Position → σ → Prop}
    (hstep : ∀ p w q w', P p w → v.Step p w (.ok (some q)) w' → P q w') {u : σ}
    (h : v.Visits p w q u) (hp : P p w) : P q u := by
  induction h with
  | here => exact hp
  | next h _ ih => exact ih (hstep _ _ _ _ hp (step_of_advance_eq h))

/-- One more step of a run. -/
lemma Visits.snoc {r : Position} {u u' : σ} (h : v.Visits p w q u)
    (hstep : v.Step q u (.ok (some r)) u') : v.Visits p w r u' := by
  induction h with
  | here => exact .next hstep.advance_eq (.here r u')
  | next hadvance _ ih => exact .next hadvance (ih hstep)

/-- A run ends, and it ends as the step at the last position it visits. -/
lemma exists_last (v : Vocabulary σ) (p : Position) (w : σ) :
    ∃ q u, v.Visits p w q u ∧
      (v.advance q u = (.ok none, (v.runFrom p w).2) ∧ (v.runFrom p w).1 = .ok () ∨
        ∃ e, v.advance q u = (.error e, (v.runFrom p w).2) ∧ (v.runFrom p w).1 = .error e) := by
  induction hn : p.size using Nat.strongRecOn generalizing p w with
  | ind n ih =>
    match h : v.advance p w with
    | (.ok (some q), w') =>
      obtain ⟨hq, -⟩ := exists_step_eq_of_next h
      obtain ⟨r, u, hr, hlast⟩ := ih q.size (hn ▸ hq) q w' rfl
      rw [← runFrom_of_next h] at hlast
      exact ⟨r, u, .next h hr, hlast⟩
    | (.ok none, w') =>
      rw [runFrom_of_finished h]
      exact ⟨p, w, .here p w, .inl ⟨h, rfl⟩⟩
    | (.error e, w') =>
      rw [runFrom_of_failure h]
      exact ⟨p, w, .here p w, .inr ⟨e, h, rfl⟩⟩

end Vocabulary

end BracketScript
