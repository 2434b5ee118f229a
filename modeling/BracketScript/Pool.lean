set_option autoImplicit false

/-!
# Pools of shared objects

Objects that several holders share are kept in a pool and referred to by their place in it. Places
are never reused, so a reference always means the same object.

## Main definitions

* `BracketScript.Ref` — a place in a pool.
* `BracketScript.Pool` — the objects so far, in the order in which they were made.
* `BracketScript.Pool.add`, `BracketScript.Pool.get?`, `BracketScript.Pool.set` — make, read and
  overwrite an object.

## Main results

* `BracketScript.Pool.get?_add`, `BracketScript.Pool.get?_set`, `BracketScript.Pool.get?_modify` — what
  making, overwriting or changing an object does to every reference.
-/

namespace BracketScript

/-- A reference to a shared object. -/
abbrev Ref := Nat

/-- Shared objects in the order in which they were made. -/
structure Pool (α : Type) where
  /-- The objects, each at its place. -/
  objects : Array α := #[]

namespace Pool

variable {α : Type}

instance : Inhabited (Pool α) := ⟨{}⟩

/-- The place of the next object. -/
def next (p : Pool α) : Ref :=
  p.objects.size

/-- The pool with one more object, which stands at `p.next`. -/
def add (p : Pool α) (a : α) : Pool α :=
  ⟨p.objects.push a⟩

/-- The object at a place. -/
def get? (p : Pool α) (r : Ref) : Option α :=
  p.objects[r]?

/-- Overwrites the object at a place; a place that is not taken stays so. -/
def set (p : Pool α) (r : Ref) (a : α) : Pool α :=
  ⟨p.objects.setIfInBounds r a⟩

/-- Changes the object at a place. -/
def modify (p : Pool α) (r : Ref) (f : α → α) : Pool α :=
  match p.get? r with
  | some a => p.set r (f a)
  | none => p

@[simp]
theorem next_add (p : Pool α) (a : α) : (p.add a).next = p.next + 1 := by
  simp [next, add]

@[simp]
theorem next_set (p : Pool α) (r : Ref) (a : α) : (p.set r a).next = p.next := by
  simp [next, set]

@[simp]
theorem next_modify (p : Pool α) (r : Ref) (f : α → α) : (p.modify r f).next = p.next := by
  unfold modify
  split <;> simp

/-- A new object stands at the next place, and all others are as before. -/
theorem get?_add (p : Pool α) (a : α) (r : Ref) :
    (p.add a).get? r = if r = p.next then some a else p.get? r := by
  simp only [get?, add, next]
  exact Array.getElem?_push

/-- Overwriting changes the object at the place alone. -/
theorem get?_set (p : Pool α) (r s : Ref) (a : α) :
    (p.set r a).get? s = if r = s then (p.get? s).map fun _ => a else p.get? s := by
  simp only [get?, set]
  by_cases h : r = s
  · subst h
    by_cases hr : r < p.objects.size
    · simp [hr]
    · simp [hr]
  · simp [h]

/-- Changing an object leaves all others as before. -/
theorem get?_modify (p : Pool α) (r s : Ref) (f : α → α) :
    (p.modify r f).get? s = if r = s then (p.get? s).map f else p.get? s := by
  unfold modify
  split
  · next a h =>
    rw [get?_set]
    by_cases hrs : r = s
    · subst hrs
      simp [h]
    · simp [hrs]
  · next h =>
    by_cases hrs : r = s
    · subst hrs
      simp [h]
    · simp [hrs]

/-- An object is found exactly at the places that are taken. -/
theorem get?_isSome_iff (p : Pool α) (r : Ref) : (p.get? r).isSome ↔ r < p.next := by
  simp [get?, next]

end Pool

end BracketScript
