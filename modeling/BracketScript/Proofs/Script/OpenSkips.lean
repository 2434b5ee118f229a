import BracketScript.Proofs.Script.ForestScan
import BracketScript.Proofs.Script.Recording
import BracketScript.Proofs.Script.Suspension

set_option autoImplicit false

/-!
# Skips of open conditionals

Every skip that a run has left is that of a conditional which is still open, no conditional has left
more than one, and the active one is that of the innermost conditional that has left any. So the end
of a block counts for the conditional right around it and for no other, and a skip is over when its
conditional is closed, also in a script that ends early or has brackets without partner.

## Main definitions

* `BracketScript.OpenSkips` — the skips that open blocks can have left, block by block.
* `BracketScript.Skip.BelongsTo` — a skip is that of an open conditional.
* `BracketScript.SuspendingScan.WellFormed` — what holds of the active and the suspended states.

## Main results

* `BracketScript.OpenSkips.settle`, `BracketScript.OpenSkips.settle_tail` — the end of a block that
  was passed over, and of one that was open.
* `BracketScript.OpenSkips.step` — every step of a run keeps the skips those of open conditionals.
* `BracketScript.Language.asks_wellFormed` — what follows wherever a run asks for a token.
-/

namespace BracketScript

/-! ## The skips that open blocks can have left -/

/-- The skips that open blocks can have left; blocks and skips are listed from the innermost one
outwards. Only a conditional can have left a skip, and then it is the next block inside it or the one
after that which is to be skipped. -/
inductive OpenSkips : List String → List Skip → Prop
  /-- Outside all blocks. -/
  | nil : OpenSkips [] []
  /-- A block that has left no skip. -/
  | block {name : String} {stack : List String} {skips : List Skip} (h : OpenSkips stack skips) :
    OpenSkips (name :: stack) skips
  /-- A conditional that has left a skip. -/
  | conditional {remaining : Nat} {stack : List String} {skips : List Skip}
    (h : OpenSkips stack skips) (hremaining : remaining = 1 ∨ remaining = 2) :
    OpenSkips (Conditional.name :: stack) (⟨stack.length + 1, remaining⟩ :: skips)

/-- A skip is that of an open conditional, where the open blocks have these names, outermost
first. -/
structure Skip.BelongsTo (skip : Skip) (openNames : List String) : Prop where
  /-- It is not left outside all blocks. -/
  one_le_depth : 1 ≤ skip.depth
  /-- The block that left it is open. -/
  depth_le : skip.depth ≤ openNames.length
  /-- It is the next block or the one after it that is to be skipped. -/
  remaining_eq : skip.remaining = 1 ∨ skip.remaining = 2
  /-- The block that left it is a conditional. -/
  name_eq : openNames[skip.depth - 1]? = some Conditional.name

/-- A skip stays that of its conditional when more blocks are entered. -/
lemma Skip.BelongsTo.append {skip : Skip} {openNames : List String} (h : skip.BelongsTo openNames)
    (names : List String) : skip.BelongsTo (openNames ++ names) where
  one_le_depth := h.one_le_depth
  depth_le := by
    rw [List.length_append]
    exact Nat.le_add_right_of_le h.depth_le
  remaining_eq := h.remaining_eq
  name_eq := by
    have hlt : skip.depth - 1 < openNames.length := by
      have hpos := h.one_le_depth
      have hle := h.depth_le
      omega
    rw [List.getElem?_append_left hlt, h.name_eq]

namespace OpenSkips

variable {stack : List String} {skips : List Skip} {name : String}

/-- Each skip is that of a conditional among the open blocks. -/
lemma belongsTo (h : OpenSkips stack skips) : ∀ skip ∈ skips, skip.BelongsTo stack.reverse := by
  induction h with
  | nil => simp
  | block _ ih =>
    intro skip hskip
    rw [List.reverse_cons]
    exact (ih skip hskip).append _
  | @conditional remaining stack skips _ hremaining ih =>
    intro skip hskip
    rw [List.reverse_cons]
    rcases List.mem_cons.1 hskip with rfl | hskip
    · exact
        { one_le_depth := Nat.le_add_left 1 _
          depth_le := by simp
          remaining_eq := hremaining
          name_eq := by simp }
    · exact (ih skip hskip).append _

/-- A block that is entered is further inside than all skips. -/
lemma depth_lt (h : OpenSkips stack skips) : ∀ skip ∈ skips, skip.depth < stack.length + 1 := by
  intro skip hskip
  have hle := (h.belongsTo skip hskip).depth_le
  rw [List.length_reverse] at hle
  exact Nat.lt_succ_of_le hle

/-- Skips further in front are those of conditionals further inside. -/
lemma pairwise (h : OpenSkips stack skips) :
    skips.Pairwise fun inner outer => outer.depth < inner.depth := by
  induction h with
  | nil => exact .nil
  | block _ ih => exact ih
  | conditional h _ ih => exact .cons h.depth_lt ih

/-! ## Steps of a scan -/

/-- **A block has ended right inside the innermost open one.** It counts for that one if it is a
conditional with a skip, and for no other.

**Proof sketch.** By the innermost open block. If it has left no skip, all skips are further outside
(`Skip.settle_of_below`). If it is a conditional with a skip, the count of the skip goes down, or the
skip is over and the ones behind it are further outside (`Skip.settle_due_append`). -/
lemma settle (h : OpenSkips stack skips) : OpenSkips stack (Skip.settle stack.length skips) := by
  cases h with
  | nil => exact .nil
  | block h =>
    rw [List.length_cons, Skip.settle_of_below h.depth_lt]
    exact .block h
  | @conditional remaining stack skips h hremaining =>
    have hsettle := Skip.settle_due_append h.depth_lt (some remaining)
    rw [List.length_cons]
    rcases hremaining with rfl | rfl
    · exact hsettle ▸ .block h
    · exact hsettle ▸ .conditional h (.inl rfl)

/-- **The innermost open block has ended.** Its own skip is over, and its end counts for the block
around it. -/
lemma settle_tail (h : OpenSkips (name :: stack) skips) :
    OpenSkips stack (Skip.settle stack.length skips) := by
  cases h with
  | block h => exact h.settle
  | @conditional remaining _ skips h _ =>
    have hsettle := Skip.settle_due_succ_append stack.length (some remaining) skips
    exact hsettle ▸ h.settle

variable {s s' : Scanner}

/-- Blocks that are passed over end inside the same block. -/
lemma passSkipped (h : OpenSkips s.stack s.skips) :
    OpenSkips s.passSkipped.stack s.passSkipped.skips := by
  fun_induction Scanner.passSkipped s with
  | case1 s hskip rest _ ih => exact ih h.settle
  | case2 s hskip _ => exact h
  | case3 s hskip => exact h

lemma next_opened (h : OpenSkips s.stack s.skips)
    (hnext : s.next = (.ok (some (.opened name)), s')) : OpenSkips s'.stack s'.skips := by
  obtain ⟨rest, -, -, rfl⟩ := Scanner.exists_of_next_opened hnext
  exact h.passSkipped

lemma next_closed (h : OpenSkips s.stack s.skips)
    (hnext : s.next = (.ok (some (.closed name)), s')) : OpenSkips s'.stack s'.skips := by
  obtain ⟨rest, outer, -, hstack, rfl⟩ := Scanner.exists_of_next_closed hnext
  have hpass := h.passSkipped
  rw [Scanner.stack_passSkipped, hstack] at hpass
  exact hpass.settle_tail

end OpenSkips

/-! ## Steps of a run -/

section Run

variable {σ : Type} {L : Language σ} {script : String} {w w' u : σ} {p q : Position}

/-- A conditional asks for one skip, of the first or the second block inside it; a command asks for
none. -/
lemma Language.skips_of_openBlock {name text : String} {depth : Nat} {args : Args}
    {skips : List Nat} (h : L.vocabulary.openBlock name text depth w = (.ok (args, skips), w')) :
    (name = Conditional.name ∧ ∃ holds : Bool, skips = [if holds then 2 else 1]) ∨ skips = [] := by
  by_cases hname : name = Conditional.name
  · subst hname
    match ht : Word.texts? text with
    | none =>
      rw [openBlock_conditional_of_openQuote ht] at h
      cases h
    | some [] =>
      rw [openBlock_conditional_of_nil ht] at h
      cases h
    | some (test :: words) =>
      match hask : L.ask test words w with
      | (holds, u) =>
        rw [openBlock_conditional ht, Effect.bind_of_ok (Effect.lift_of_eq hask)] at h
        cases h
        exact .inl ⟨rfl, holds, rfl⟩
  · obtain ⟨r, u, events, hopen, -, hopening⟩ := L.exists_opening name text depth w
    cases h.symm.trans hopen
    cases hopening with
    | untested hif => exact absurd hif hname
    | tested hif => exact absurd hif hname
    | opened => exact .inr rfl

/-- **Every step keeps the skips those of open conditionals.** -/
lemma OpenSkips.step (hp : OpenSkips p.scanner.stack p.scanner.skips)
    (h : L.vocabulary.Step p w (.ok (some q)) w') :
    OpenSkips q.scanner.stack q.scanner.skips := by
  cases h with
  | opened hnext hopen =>
    have hs := hp.next_opened hnext
    rcases L.skips_of_openBlock hopen with ⟨rfl, holds, rfl⟩ | rfl
    · exact .conditional hs (by cases holds <;> simp)
    · exact .block hs
  | closed hnext _ => exact hp.next_closed hnext

/-- Wherever a run comes, the skips are those of open conditionals. -/
lemma openSkips_of_visits (h : L.vocabulary.Visits (Position.start script) w p u) :
    OpenSkips p.scanner.stack p.scanner.skips :=
  h.invariant (P := fun p _ => OpenSkips p.scanner.stack p.scanner.skips)
    (fun _ _ _ _ => OpenSkips.step) .nil

end Run

/-! ## Active and suspended states -/

/-- The states of skipping of a scan are those of open conditionals. -/
structure SuspendingScan.WellFormed (s : SuspendingScan) : Prop where
  /-- While nothing is to be skipped, nothing is suspended. -/
  suspended_eq_nil : s.active = .normal → s.suspended = []
  /-- While a block is to be skipped, all states are states of skipping. From the state that was
  suspended first up to the active one their depths increase, and each is that of an open
  conditional. -/
  exists_skips : s.active ≠ .normal → ∃ skips : List Skip,
    s.suspended.reverse ++ [s.active] = skips.map .skipping ∧
      skips.Pairwise (fun outer inner => outer.depth < inner.depth) ∧
      ∀ skip ∈ skips, skip.BelongsTo s.openNames

lemma OpenSkips.wellFormed {s : Scanner} (h : OpenSkips s.stack s.skips) :
    s.toSuspending.WellFormed where
  suspended_eq_nil hactive := by
    rw [Scanner.toSuspending, SkipState.ofSkips_eq_normal_iff.1 hactive, List.tail_nil,
      List.map_nil]
  exists_skips hactive := by
    have hstates := SkipState.ofSkips_cons_tail (mt SkipState.ofSkips_eq_normal_iff.2 hactive)
    refine ⟨s.skips.reverse, ?_, List.pairwise_reverse.2 h.pairwise, ?_⟩
    · rw [List.map_reverse, ← hstates, List.reverse_cons]
      rfl
    · intro skip hskip
      exact h.belongsTo skip (List.mem_reverse.1 hskip)

namespace Language

/-- **States of skipping are nested as the open conditionals are**, in every language, on every
script and from every state. Runs on scans that suspend skips are the runs of the language, and
whenever one asks for a token, the active and the suspended states are those of open conditionals.

**Proof sketch.** The skips of the scanner are those of open conditionals at the start and after
every step (`OpenSkips.step`), and the scan that is asked stands for the scanner
(`Vocabulary.asks_iff`). -/
theorem asks_wellFormed {σ : Type} (L : Language σ) (script : String) (w : σ) :
    (∀ s frames u, L.vocabulary.Asks script w s frames u ↔
      ∃ p, L.vocabulary.Visits (Position.start script) w p u ∧
        p.scanner.toSuspending = s ∧ p.frames = frames) ∧
    ∀ s frames u, L.vocabulary.Asks script w s frames u → s.WellFormed := by
  refine ⟨fun s frames u => Vocabulary.asks_iff, fun s frames u h => ?_⟩
  obtain ⟨p, hp, rfl, -⟩ := Vocabulary.asks_iff.1 h
  exact (openSkips_of_visits hp).wellFormed

/-- A language in which every test holds and every name is a command that does nothing. -/
def willing : Language Unit where
  test? _ := some fun _ => pure true
  command? _ := some
    { template := {}
      onOpen := fun _ => pure ()
      onClose := fun _ => pure () }

/-- A script with a conditional in the first block of another one. -/
def twoConditionals : String := "(if x (a (if y (b) (c))) (d))"

/-- A scan of that script. -/
def twoConditionalsAt (rest : String) (stack : List String) (active : SkipState)
    (suspended : List SkipState) : SuspendingScan where
  text := twoConditionals.toList
  rest := rest.toList
  stack := stack
  active := active
  suspended := suspended

/-- Behind the second `if` the skip of the first is suspended. -/
theorem asks_wellFormed_twoConditionals :
    willing.vocabulary.Asks twoConditionals ()
      (twoConditionalsAt " y (b) (c))) (d))" ["if", "a", "if"] (.skipping ⟨3, 2⟩)
        [.skipping ⟨1, 2⟩]) [{}, {}, {}] () ∧
    (twoConditionalsAt " y (b) (c))) (d))" ["if", "a", "if"] (.skipping ⟨3, 2⟩)
      [.skipping ⟨1, 2⟩]).WellFormed := by
  have hstart : willing.vocabulary.Asks twoConditionals () (.start twoConditionals) [] () := .start
  have hfirst : willing.vocabulary.Asks twoConditionals ()
      (twoConditionalsAt " x (a (if y (b) (c))) (d))" ["if"] (.skipping ⟨1, 2⟩) []) [{}] () := by
    have hnext : (SuspendingScan.start twoConditionals).next = (.ok (some (.opened "if")),
        twoConditionalsAt " x (a (if y (b) (c))) (d))" [] .normal []) := by
      with_unfolding_all rfl
    exact .opened hstart hnext (by with_unfolding_all rfl)
  have hblock : willing.vocabulary.Asks twoConditionals ()
      (twoConditionalsAt " (if y (b) (c))) (d))" ["a", "if"] (.skipping ⟨1, 2⟩) []) [{}, {}] () := by
    have hnext : (twoConditionalsAt " x (a (if y (b) (c))) (d))" ["if"] (.skipping ⟨1, 2⟩) []).next =
        (.ok (some (.opened "a")),
          twoConditionalsAt " (if y (b) (c))) (d))" ["if"] (.skipping ⟨1, 2⟩) []) := by
      with_unfolding_all rfl
    exact .opened hfirst hnext (by with_unfolding_all rfl)
  have hsecond : willing.vocabulary.Asks twoConditionals ()
      (twoConditionalsAt " y (b) (c))) (d))" ["if", "a", "if"] (.skipping ⟨3, 2⟩)
        [.skipping ⟨1, 2⟩]) [{}, {}, {}] () := by
    have hnext : (twoConditionalsAt " (if y (b) (c))) (d))" ["a", "if"] (.skipping ⟨1, 2⟩) []).next =
        (.ok (some (.opened "if")),
          twoConditionalsAt " y (b) (c))) (d))" ["a", "if"] (.skipping ⟨1, 2⟩) []) := by
      with_unfolding_all rfl
    exact .opened hblock hnext (by with_unfolding_all rfl)
  exact ⟨hsecond, (willing.asks_wellFormed twoConditionals ()).2 _ _ _ hsecond⟩

end Language

end BracketScript
