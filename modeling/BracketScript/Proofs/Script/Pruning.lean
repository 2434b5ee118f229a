import BracketScript.Proofs.Script.ForestScan

set_option autoImplicit false

/-!
# What a scan with skips reports

A reader of a scan may answer every opened block by asking that one of the blocks right inside it be
skipped, and it may make that depend on everything it has seen. What it then sees of the text of a
forest is the plain tour of a smaller forest, from which just the blocks asked for are gone. The
counts are arbitrary, and any number of them can be pending at different depths.

## Main definitions

* `BracketScript.Seen` — what a reader sees of a token.
* `BracketScript.Scanner.follow` — the scan of a reader that asks for skips by a rule.
* `BracketScript.Forest.tour` — the openings and closings of a forest, depth first.
* `BracketScript.Forest.prune` — a forest without the blocks that a rule asks to skip.

## Main results

* `BracketScript.Script.follow_written` — a reader sees the tour of the pruned forest, and nothing
  is pending when it is over. -/

namespace BracketScript

/-- What a reader sees of a token. With an opened block it gets the argument text. -/
inductive Seen where
  /-- A block was opened. -/
  | opened (name args : String)
  /-- A block was closed. -/
  | closed (name : String)
deriving DecidableEq, Repr

/-! ## Readers -/

namespace Scanner

/-- Scans to the end for a reader that has seen `seen`. It enters every opened block, and the rule
says, from all that was seen, whether it asks for a skip in it and with which number. The result is
all that was seen, how the scan ended, and where. -/
def follow (rule : List Seen → Option Nat) (seen : List Seen) (s : Scanner) :
    List Seen × Except Nat Unit × Scanner :=
  match _ : s.next with
  | (.error offset, t) => (seen, .error offset, t)
  | (.ok none, t) => (seen, .ok (), t)
  | (.ok (some (.opened name)), t) =>
    let seen := seen ++ [.opened name t.argText]
    follow rule seen (t.enter name (rule seen).toList)
  | (.ok (some (.closed name)), t) => follow rule (seen ++ [.closed name]) t
termination_by s.rest.length
decreasing_by
  · rw [rest_enter]
    exact length_next ‹_›
  · exact length_next ‹_›

variable {rule : List Seen → Option Nat} {seen : List Seen} {s t : Scanner} {name : String}

lemma follow_of_error {offset : Nat} (h : s.next = (.error offset, t)) :
    s.follow rule seen = (seen, .error offset, t) := by
  rw [follow]
  split <;> simp_all

lemma follow_of_end (h : s.next = (.ok none, t)) : s.follow rule seen = (seen, .ok (), t) := by
  rw [follow]
  split <;> simp_all

lemma follow_of_opened (h : s.next = (.ok (some (.opened name)), t)) :
    s.follow rule seen = (t.enter name (rule (seen ++ [.opened name t.argText])).toList).follow rule
      (seen ++ [.opened name t.argText]) := by
  rw [follow]
  split <;> simp_all

lemma follow_of_closed (h : s.next = (.ok (some (.closed name)), t)) :
    s.follow rule seen = t.follow rule (seen ++ [.closed name]) := by
  rw [follow]
  split <;> simp_all

/-- A reader knows a scanner by its next token only. -/
lemma follow_congr (h : s.next = t.next) : s.follow rule seen = t.follow rule seen := by
  match ht : t.next with
  | (.error offset, u) => rw [follow_of_error (h.trans ht), follow_of_error ht]
  | (.ok none, u) => rw [follow_of_end (h.trans ht), follow_of_end ht]
  | (.ok (some (.opened name)), u) => rw [follow_of_opened (h.trans ht), follow_of_opened ht]
  | (.ok (some (.closed name)), u) => rw [follow_of_closed (h.trans ht), follow_of_closed ht]

end Scanner

/-! ## Pruned forests -/

namespace Forest

/-- The openings and closings of the blocks of a forest, depth first. -/
def tour : Forest → List Seen
  | nil => []
  | cons head children _ siblings =>
    .opened head.name head.argText :: (children.tour ++ .closed head.name :: siblings.tour)

/-- The forest without the blocks that a reader does not get to see, if it has seen `seen` before it
and asks for skips by the rule. -/
def prune (rule : List Seen → Option Nat) (seen : List Seen) : Forest → Forest
  | nil => nil
  | cons head children after siblings =>
    let inside := seen ++ [.opened head.name head.argText]
    let kept := prune rule inside (children.skipping (rule inside))
    cons head kept after (prune rule (inside ++ kept.tour ++ [.closed head.name]) siblings)
termination_by f => f.size
decreasing_by
  · have := children.size_skipping_le (rule (seen ++ [.opened head.name head.argText]))
    simp only [size]
    omega
  · simp only [size]
    omega

/-- The tour of a pruned row: into its first block, then through the others. -/
lemma tour_prune_cons (rule : List Seen → Option Nat) (seen : List Seen) (head : Head)
    (children : Forest) (after : Gap) (siblings : Forest) :
    seen ++ ((cons head children after siblings).prune rule seen).tour =
      let inside := seen ++ [.opened head.name head.argText]
      let past := inside ++ ((children.skipping (rule inside)).prune rule inside).tour ++
        [.closed head.name]
      past ++ (siblings.prune rule past).tour := by
  rw [prune]
  simp [tour]

/-- **A reader passes over a row of blocks.** From before the row it comes to behind it, has seen
the tour of what is left of the row, and the skips of the blocks around are as they were.

**Proof sketch.** Induction on the row. A block with the number one is passed over like a gap
(`Scanner.next_skipped`), and no number is left. Any other block is opened; inside it the skips
pending so far are those of blocks around, so that the row inside is covered by the induction
hypothesis with the number that the rule gave. The end of the block drops that number
(`Skip.settle_due_succ_append`) and counts once for the row itself (`Skip.settle_due_append`). -/
lemma follow_text (rule : List Seen → Option Nat) (text : List Char) (f : Forest) :
    ∀ (stack : List String) (n? : Option Nat) (outer : List Skip) (gap : Gap) (rest : List Char)
      (seen : List Seen), (∀ k ∈ outer, k.depth < stack.length) →
      ∃ (gap' : Gap) (m? : Option Nat), (n? = none → m? = none) ∧
        Scanner.follow rule seen
            (Scanner.place text stack n? outer (gap.chars ++ (f.text ++ rest))) =
          Scanner.follow rule (seen ++ ((f.skipping n?).prune rule seen).tour)
            (Scanner.place text stack m? outer (gap'.chars ++ rest)) := by
  induction f with
  | nil =>
    intro stack n? outer gap rest seen _
    have hnil : (nil.skipping n?).prune rule seen = nil := by
      cases n? <;> simp [skipping, without, prune]
    refine ⟨gap, n?, id, ?_⟩
    rw [hnil, tour, List.append_nil, Forest.text, List.nil_append]
  | cons head children after siblings ihc ihs =>
    intro stack n? outer gap rest seen hbelow
    simp only [Forest.text, List.cons_append, List.append_assoc]
    by_cases hn : n? = some 1
    · subst hn
      -- the first block is skipped, and with it the number is used up
      rw [Scanner.follow_congr (Scanner.next_skipped hbelow gap head children)]
      obtain ⟨gap', m?, -, h⟩ := ihs stack none outer after rest seen hbelow
      exact ⟨gap', m?, by simp, h⟩
    · -- the first block is opened, toured and closed
      rw [Scanner.follow_of_opened (Scanner.next_opened hbelow hn gap head children),
        Scanner.argText_place, Scanner.enter_place, skipping_cons_of_ne_one hn, tour_prune_cons]
      generalize seen ++ [Seen.opened head.name head.argText] = inside
      obtain ⟨gap₁, m₁, -, h₁⟩ := ihc (head.name :: stack) (rule inside)
        (Skip.due stack.length n? ++ outer) head.args
        (')' :: (after.chars ++ (siblings.text ++ rest))) inside (Scanner.below_due_append hbelow)
      rw [h₁, Scanner.follow_of_closed (Scanner.next_closed hbelow gap₁)]
      obtain ⟨gap₂, m₂, hm₂, h₂⟩ := ihs stack (Skip.countdown n?) outer after rest
        (inside ++ ((children.skipping (rule inside)).prune rule inside).tour ++
          [Seen.closed head.name]) hbelow
      refine ⟨gap₂, m₂, fun h => hm₂ (by rw [h, Skip.countdown_none]), h₂⟩

end Forest

/-- **A reader sees the tour of the pruned forest.** For every script and every rule, the scan
reports just the openings and closings of the blocks that are left, each opening with the argument
text of its own block. It comes to the end of the text, where no block is open and no skip is
pending.

**Proof sketch.** From the start to behind the last block (`Forest.follow_text`), with no number for
the row of outermost blocks; then the text ends. -/
theorem Script.follow_written (script : Script) (rule : List Seen → Option Nat) :
    (Scanner.start script.written).follow rule [] =
      ((script.blocks.prune rule []).tour, .ok (),
        { text := script.text, rest := [], stack := [], skips := [] }) := by
  obtain ⟨gap, m?, hm, h⟩ :=
    script.blocks.follow_text rule script.text [] none [] script.before [] [] (by simp)
  rw [List.append_nil, List.append_nil] at h
  rw [script.start_written_eq_place, h, hm rfl, Scanner.follow_of_end (Scanner.next_end gap)]
  rfl

end BracketScript
