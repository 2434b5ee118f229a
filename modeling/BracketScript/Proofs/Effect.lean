import Mathlib.Tactic.Lemma

set_option autoImplicit false

/-!
# Code that acts on a state and may fail

Everything that runs in a script is of type `ExceptT ε (StateM σ) α`: from a state it gives a result
or a failure, and the state that it leaves in either case. These lemmas take such code apart at a
given state.

## Main results

* `BracketScript.Effect.bind_of_ok`, `BracketScript.Effect.bind_of_error` — what comes after code
  runs on what it leaves, and only if it succeeds.
* `BracketScript.Effect.bind_of_eq` — the same for code that cannot fail.
* `BracketScript.Effect.lift_of_eq` — code that cannot fail succeeds.
* `BracketScript.Effect.adapt_of_ok`, `BracketScript.Effect.adapt_of_error` — renaming a failure
  changes neither the success nor the state.
* `BracketScript.Effect.ok_bind`, `BracketScript.Effect.bind_eq_ok_iff` — when a chain of computations
  without a state succeeds.
-/

namespace BracketScript.Effect

variable {ε ε' σ α β : Type} {x : ExceptT ε (StateM σ) α} {w w' : σ}

/-- After a success the next code runs on the result and on the state. -/
lemma bind_of_ok {a : α} (h : x w = (.ok a, w')) (f : α → ExceptT ε (StateM σ) β) :
    (x >>= f) w = f a w' := by
  change (match x w with | (r, u) => ExceptT.bindCont f r u) = f a w'
  rw [h]
  rfl

/-- After a failure nothing runs. -/
lemma bind_of_error {e : ε} (h : x w = (.error e, w')) (f : α → ExceptT ε (StateM σ) β) :
    (x >>= f) w = (.error e, w') := by
  change (match x w with | (r, u) => ExceptT.bindCont f r u) = (.error e, w')
  rw [h]
  rfl

/-- After code that cannot fail the next code runs on what it leaves. -/
lemma bind_of_eq {y : StateM σ α} {a : α} (h : y w = (a, w')) (f : α → StateM σ β) :
    (y >>= f) w = f a w' := by
  change (match y w with | (b, u) => f b u) = f a w'
  rw [h]

/-- Code that reads the state first. -/
lemma get_bind (f : σ → StateM σ β) (w : σ) : (get >>= f) w = f w w := rfl

/-- Nothing runs after a failure that is raised. -/
lemma throw_bind (e : ε) (f : α → ExceptT ε (StateM σ) β) :
    (throw e : ExceptT ε (StateM σ) α) >>= f = throw e := rfl

/-- Code that cannot fail succeeds. -/
lemma lift_of_eq {y : StateM σ α} {a : α} (h : y w = (a, w')) :
    (y : ExceptT ε (StateM σ) α) w = (.ok a, w') := by
  change (match y w with | (r, u) => (Except.ok r, u)) = (.ok a, w')
  rw [h]

/-- A success is not renamed. -/
lemma adapt_of_ok {a : α} (h : x w = (.ok a, w')) (f : ε → ε') : x.adapt f w = (.ok a, w') := by
  change (match x w with | (r, u) => (Except.mapError f r, u)) = (.ok a, w')
  rw [h]
  rfl

/-- A failure is renamed, and the state is as the code left it. -/
lemma adapt_of_error {e : ε} (h : x w = (.error e, w')) (f : ε → ε') :
    x.adapt f w = (.error (f e), w') := by
  change (match x w with | (r, u) => (Except.mapError f r, u)) = (.error (f e), w')
  rw [h]
  rfl

/-- Code whose failure is renamed and whose result is replaced. -/
lemma adapt_bind_pure {r : Except ε α} (h : x w = (r, w')) (f : ε → ε') (b : β) :
    (x.adapt f >>= fun _ => pure b) w = ((r.mapError f).map fun _ => b, w') := by
  cases r with
  | ok a =>
    rw [bind_of_ok (adapt_of_ok h f)]
    rfl
  | error e =>
    rw [bind_of_error (adapt_of_error h f)]
    rfl

/-- A failure under a new name is a failure. -/
lemma exists_of_adapt_error {f : ε → ε'} {e' : ε'} (h : x.adapt f w = (.error e', w')) :
    ∃ e, x w = (.error e, w') ∧ e' = f e := by
  match hx : x w with
  | (.ok a, u) =>
    rw [adapt_of_ok hx] at h
    cases h
  | (.error e, u) =>
    rw [adapt_of_error hx] at h
    cases h
    exact ⟨e, rfl, rfl⟩

/-- Giving a result cannot fail, so the failure is that of the code before. -/
lemma of_bind_pure_error {g : α → β} {e : ε} (h : (x >>= fun a => pure (g a)) w = (.error e, w')) :
    x w = (.error e, w') := by
  match hx : x w with
  | (.ok a, u) =>
    rw [bind_of_ok hx] at h
    cases h
  | (.error e', u) =>
    rw [bind_of_error hx] at h
    cases h
    rfl

/-- After a success the next computation runs on the result. -/
@[simp]
lemma ok_bind (a : α) (f : α → Except ε β) : (Except.ok a >>= f) = f a := rfl

/-- A chain of two computations that may fail succeeds if both do. -/
lemma bind_eq_ok_iff {x : Except ε α} {f : α → Except ε β} {b : β} :
    (x >>= f) = .ok b ↔ ∃ a, x = .ok a ∧ f a = .ok b := by
  cases x <;> simp [bind, Except.bind]

end BracketScript.Effect
