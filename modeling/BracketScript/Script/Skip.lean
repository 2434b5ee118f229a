set_option autoImplicit false

/-!
# Blocks to be skipped

A conditional decides, when it is opened, which of the blocks directly inside it must not run. It
leaves a *skip*: the depth of the conditional and the number of blocks until the one to be skipped.
Conditionals nest, so there is a stack of skips, of which the innermost is active.

## Main definitions

* `BracketScript.Skip` — one skip.
* `BracketScript.Skip.hits` — whether the next block at a depth is the one to be skipped.
* `BracketScript.Skip.blockEnded` — the effect of the end of a block.
* `BracketScript.Skip.settle` — the same on the whole stack.

## Main results

* `BracketScript.Skip.settle_suffix` — only the innermost skip that is left can have changed.
-/

namespace BracketScript

/-- A block to be skipped: the `remaining`-th block from now on that stands right inside the command
at `depth`. -/
structure Skip where
  /-- The depth of the conditional. -/
  depth : Nat
  /-- The blocks to go, the skipped one included. -/
  remaining : Nat
deriving DecidableEq, Repr, Inhabited

namespace Skip

/-- Whether a block that starts with the call stack at `depth` is the one to be skipped. -/
def hits (s : Skip) (depth : Nat) : Bool :=
  s.remaining == 1 && s.depth == depth

/-- What is left of a skip when a block ends and leaves the call stack at `depth`. A block right
inside the conditional counts; the skip is over when the count runs out, or when the conditional
itself has ended. -/
def blockEnded (s : Skip) (depth : Nat) : Option Skip :=
  if depth = s.depth then
    if s.remaining ≤ 1 then none else some { s with remaining := s.remaining - 1 }
  else if depth < s.depth then none
  else some s

/-- What is left of a stack of skips, innermost first. When the innermost skip is over, the one
around it sees the same end of a block. -/
def settle (depth : Nat) : List Skip → List Skip
  | [] => []
  | s :: outer =>
    match s.blockEnded depth with
    | some s => s :: outer
    | none => settle depth outer

/-- A skip that goes on stays at its depth. -/
theorem depth_of_blockEnded {s t : Skip} {depth : Nat} (h : s.blockEnded depth = some t) :
    t.depth = s.depth := by
  simp only [blockEnded] at h
  split at h
  · split at h
    · cases h
    · cases h; rfl
  · split at h
    · cases h
    · cases h; rfl

/-- Only the innermost skip that is left can have changed. -/
theorem settle_suffix {depth : Nat} {skips outer : List Skip} {s : Skip}
    (h : settle depth skips = s :: outer) : ∃ t, t :: outer <:+ skips ∧ t.depth = s.depth := by
  induction skips with
  | nil => cases h
  | cons t rest ih =>
    rw [settle] at h
    split at h
    · next u hu =>
      cases h
      exact ⟨t, List.suffix_refl _, (depth_of_blockEnded hu).symm⟩
    · obtain ⟨u, hu, hd⟩ := ih h
      exact ⟨u, hu.trans (List.suffix_cons t rest), hd⟩

end Skip

end BracketScript
