import BracketScript.World
import Mathlib.Tactic.Lemma

set_option autoImplicit false

/-!
# What changes of a world change

The instances of a world stand in cells. Overwriting an instance leaves the others as they are, and a
new instance gets a cell that nobody has seen before. No cell is ever given up, and none of this changes
how an instance is in use.

## Main definitions

* `BracketScript.World.place` — a world with one more instance.

## Main results

* `BracketScript.World.inst_setInst`, `BracketScript.World.inst_setInst_of_ne` — what overwriting an
  instance does.
* `BracketScript.World.inst_onInstance`, `BracketScript.World.inst_onInstance_of_ne` — what code on an
  instance does.
* `BracketScript.World.inst_place`, `BracketScript.World.isIdle_place_next` — what a new instance does.
-/

namespace BracketScript

namespace World

variable {κ ω α : Type} {w : World κ ω} {ref s : Ref}

/-- Whether an instance is idle is known from its usage. -/
lemma isIdle_of_usage_eq {u : World κ ω} (h : (u.cell s).usage = (w.cell s).usage) :
    u.isIdle s = w.isIdle s := by
  rw [isIdle, isIdle, h]

/-! ## Overwriting an instance -/

/-- Overwriting an instance leaves the others. -/
lemma inst_setInst_of_ne (h : ref ≠ s) (i : Instance κ) : (w.setInst ref i).inst s = w.inst s := by
  simp only [inst, cell, get?_setInst, if_neg h]

/-- What is overwritten reads as what was written. -/
lemma inst_setInst (h : ref < w.cells.next) (i : Instance κ) : (w.setInst ref i).inst ref = i := by
  obtain ⟨c, hc⟩ := Option.isSome_iff_exists.1 ((w.cells.get?_isSome_iff ref).2 h)
  simp [inst, cell, get?_setInst, hc]

/-! ## Code on an instance -/

lemma inst_setUsage (w : World κ ω) (ref : Ref) (usage : Usage) (s : Ref) :
    (w.setUsage ref usage).inst s = w.inst s := by
  simp only [inst, cell, setUsage, Pool.get?_modify]
  by_cases h : ref = s
  · cases hs : w.cells.get? s <;> simp [h]
  · simp [h]

section OnInstance

variable {code : Instance κ → Visit κ ω (α × Instance κ)}

/-- An instance is what the code on it gives back. -/
lemma inst_onInstance (h : ref < w.cells.next) : ((onInstance ref code).run w).2.inst ref =
    ((code (w.inst ref)).run (w.setUsage ref .taken)).1.2 := by
  refine inst_setInst ?_ _
  rwa [next_setUsage, (code _).next_run, next_setUsage]

/-- The others are what the code makes of them. -/
lemma inst_onInstance_of_ne (h : ref ≠ s) : ((onInstance ref code).run w).2.inst s =
    ((code (w.inst ref)).run (w.setUsage ref .taken)).2.inst s :=
  (inst_setInst_of_ne h _).trans (inst_setUsage ..)

end OnInstance

end World

/-! ## Code that visits the world -/

namespace Visit

variable {κ ω α : Type} {v : Visit κ ω α} {w w' : World κ ω} {a : α}

lemma next_eq (h : v.run w = (a, w')) : w'.cells.next = w.cells.next := by
  simpa [h] using v.next_run w

lemma usage_eq (h : v.run w = (a, w')) (ref : Ref) : (w'.cell ref).usage = (w.cell ref).usage := by
  simpa [h] using v.usage_run w ref

end Visit

namespace World

variable {κ ω : Type} {w : World κ ω} {s : Ref}

/-! ## New instances -/

/-- The world with an instance in a cell of its own, which is the next one. -/
def place (w : World κ ω) (i : Instance κ) : World κ ω :=
  { w with cells := w.cells.add { inst := i } }

@[simp]
lemma next_place (w : World κ ω) (i : Instance κ) : (w.place i).cells.next = w.cells.next + 1 :=
  w.cells.next_add _

lemma memory_place (w : World κ ω) (i : Instance κ) : (w.place i).memory = w.memory := rfl

/-- A new instance is what stands in its cell, and the others are as before. -/
lemma inst_place (w : World κ ω) (i : Instance κ) (s : Ref) :
    (w.place i).inst s = if s = w.cells.next then i else w.inst s := by
  simp only [inst, cell, place, Pool.get?_add]
  split <;> simp

/-- Nobody uses a new instance. -/
lemma isIdle_place_next (w : World κ ω) (i : Instance κ) :
    (w.place i).isIdle w.cells.next = true := by
  have h : ((w.place i).cell w.cells.next).usage = .idle := by
    simp [cell, place, Pool.get?_add]
  rw [isIdle, h]
  rfl

/-- The others are in use as before. -/
lemma usage_place_of_ne (h : s ≠ w.cells.next) (i : Instance κ) :
    ((w.place i).cell s).usage = (w.cell s).usage := by
  simp [cell, place, Pool.get?_add, h]

end World

end BracketScript
