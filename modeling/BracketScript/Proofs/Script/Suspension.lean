import BracketScript.Proofs.Script.Scanning
import BracketScript.Proofs.Script.Steps

set_option autoImplicit false

/-!
# Scans that suspend skips

The scanner keeps all skips in one stack. Here the active one is kept apart: there is a state of
skipping, which may be that nothing is to be skipped, and a stack of states that were suspended when
a conditional inside another one began a skip of its own. When the active skip is over, suspended
states are resumed one after the other until one of them goes on. Nothing in this says that no state
is suspended while nothing is to be skipped, or that a suspended state is one of skipping. Still the
two scans do the same on every script, and so do the runs that are made on them.

## Main definitions

* `BracketScript.SkipState`, `BracketScript.SkipState.resume` — a state of skipping, and how suspended
  states are resumed.
* `BracketScript.SuspendingScan` — a scan with an active and with suspended states, and
  `BracketScript.SuspendingScan.next`, its next token.
* `BracketScript.Vocabulary.Asks` — a run made on such a scan comes to ask it for a token.
* `BracketScript.Scanner.toSuspending` — the states that stand for a stack of skips.

## Main results

* `BracketScript.Scanner.next_toSuspending` — both scans find the same token.
* `BracketScript.Vocabulary.asks_iff` — runs ask the scans that stand for those of the scanner.
-/

namespace BracketScript

open Scanner (isBracket isNameChar toBracket afterBlock byteSize)

/-! ## States of skipping -/

/-- Whether a block is to be skipped, and which one. -/
inductive SkipState where
  /-- Nothing is to be skipped. -/
  | normal
  /-- A block is to be skipped. -/
  | skipping (skip : Skip)
deriving DecidableEq, Repr

namespace SkipState

/-- Whether a block that starts with the call stack at `depth` is the one to be skipped. -/
def hits : SkipState → Nat → Bool
  | normal, _ => false
  | skipping skip, depth => skip.hits depth

/-- The state after a block has ended and left the call stack at `depth`. -/
def blockEnded : SkipState → Nat → SkipState
  | normal, _ => normal
  | skipping skip, depth =>
    match skip.blockEnded depth with
    | some skip => skipping skip
    | none => normal

/-- Resumes suspended states, latest first, while nothing is to be skipped. Each one that is resumed
sees the same end of a block. -/
def resume (depth : Nat) : SkipState → List SkipState → SkipState × List SkipState
  | skipping skip, suspended => (skipping skip, suspended)
  | normal, [] => (normal, [])
  | normal, outer :: suspended => resume depth (outer.blockEnded depth) suspended

lemma resume_skipping (depth : Nat) (skip : Skip) (suspended : List SkipState) :
    resume depth (skipping skip) suspended = (skipping skip, suspended) := by
  rw [resume]

end SkipState

/-! ## The scan -/

/-- A scan with its active state of skipping apart from those that it has suspended. -/
structure SuspendingScan where
  /-- The whole script, its line breaks unified. -/
  text : List Char
  /-- The part that is still to be read. -/
  rest : List Char
  /-- The names of the open blocks, innermost first. -/
  stack : List String := []
  /-- The state that decides whether the next block is skipped. -/
  active : SkipState := .normal
  /-- The states to be resumed, latest first. -/
  suspended : List SkipState := []
deriving DecidableEq, Repr

namespace SuspendingScan

/-- The scan of a script from its start. -/
def start (script : String) : SuspendingScan :=
  let text := Text.unifyBreaks script.toList
  { text, rest := text }

/-- The number of open blocks. -/
def depth (s : SuspendingScan) : Nat :=
  s.stack.length

/-- The names of the open blocks, outermost first. -/
def openNames (s : SuspendingScan) : List String :=
  s.stack.reverse

/-- Enters a block. -/
def push (s : SuspendingScan) (name : String) : SuspendingScan :=
  { s with stack := name :: s.stack }

/-- Asks that the `remaining`-th block from now on right inside the current one be skipped. A state
of skipping that is active is suspended. -/
def beginSkip (s : SuspendingScan) (remaining : Nat) : SuspendingScan where
  text := s.text
  rest := s.rest
  stack := s.stack
  active := .skipping ⟨s.depth, remaining⟩
  suspended := if s.active = .normal then s.suspended else s.active :: s.suspended

/-- Enters a block whose opening asked for these skips. -/
def enter (s : SuspendingScan) (name : String) (skips : List Nat) : SuspendingScan :=
  skips.foldl beginSkip (s.push name)

/-- Tells the active state that a block has ended, and resumes others if it is over. -/
def endBlock (s : SuspendingScan) : SuspendingScan :=
  let (active, suspended) := SkipState.resume s.depth (s.active.blockEnded s.depth) s.suspended
  { s with active, suspended }

/-- The text up to the next bracket. -/
def argText (s : SuspendingScan) : String :=
  String.ofList (s.rest.takeWhile (! isBracket ·))

/-- Passes over the blocks to be skipped that come next. -/
def passSkipped (s : SuspendingScan) : SuspendingScan :=
  if s.active.hits s.depth then
    match _ : toBracket s.rest with
    | '(' :: rest => passSkipped { s with rest := afterBlock 0 rest }.endBlock
    | rest => { s with rest }
  else s
termination_by s.rest.length
decreasing_by
  rename_i h
  have hrest := (Scanner.afterBlock_suffix 0 rest).length_le
  have hbracket := (Scanner.toBracket_suffix s.rest).length_le
  simp only [endBlock, h, List.length_cons] at hbracket ⊢
  omega

/-- Reads the next bracket, nothing being skipped before it. -/
def read (s : SuspendingScan) : Except Nat (Option Token) × SuspendingScan :=
  match toBracket s.rest with
  | [] => (.ok none, { s with rest := [] })
  | c :: rest =>
    if c = '(' then
      (.ok (some (.opened (String.ofList (rest.takeWhile isNameChar)))),
        { s with rest := rest.dropWhile isNameChar })
    else
      match s.stack with
      | [] => (.error (byteSize s.text - byteSize (c :: rest)), s)
      | name :: outer => (.ok (some (.closed name)), { s with rest, stack := outer }.endBlock)

/-- The next token, or nothing at the end of the script. -/
def next (s : SuspendingScan) : Except Nat (Option Token) × SuspendingScan :=
  s.passSkipped.read

end SuspendingScan

/-! ## Runs -/

namespace Vocabulary

variable {σ : Type}

/-- A run of a script from a state, made on a scan that suspends skips, comes to ask the scan for a
token, with these arguments of the open blocks and in this state. -/
inductive Asks (v : Vocabulary σ) (script : String) (w : σ) :
    SuspendingScan → List Args → σ → Prop
  /-- A run starts by asking for a token. -/
  | start : Asks v script w (.start script) [] w
  /-- A block was opened, and the next token is that behind its opening bracket. -/
  | opened {s s' : SuspendingScan} {frames : List Args} {u u' : σ} {name : String} {args : Args}
    {skips : List Nat} (h : Asks v script w s frames u)
    (hnext : s.next = (.ok (some (.opened name)), s'))
    (hopen : v.openBlock name s'.argText (s'.depth + 1) u = (.ok (args, skips), u')) :
    Asks v script w (s'.enter name skips) (args :: frames) u'
  /-- A block was closed, and the next token is that behind it. -/
  | closed {s s' : SuspendingScan} {frames : List Args} {u u' : σ} {name : String}
    (h : Asks v script w s frames u) (hnext : s.next = (.ok (some (.closed name)), s'))
    (hclose : v.closeBlock ⟨name, frames.headD {}, s'.depth + 1⟩ u = (.ok (), u')) :
    Asks v script w s' frames.tail u'

end Vocabulary

/-! ## Agreement -/

namespace SkipState

/-- The active state that stands for a stack of skips. -/
def ofSkips : List Skip → SkipState
  | [] => normal
  | skip :: _ => skipping skip

/-- Resuming states is settling the skips that they stand for. -/
lemma resume_ofSkips (depth : Nat) (skips : List Skip) :
    resume depth ((ofSkips skips).blockEnded depth) (skips.tail.map skipping) =
      (ofSkips (Skip.settle depth skips), (Skip.settle depth skips).tail.map skipping) := by
  induction skips with
  | nil => rfl
  | cons skip outer ih =>
    rw [Skip.settle, ofSkips, blockEnded]
    cases skip.blockEnded depth with
    | some skip => exact resume_skipping depth skip _
    | none =>
      -- the next state is resumed, which is what settling the skips around does
      cases outer with
      | nil => rfl
      | cons skip outer => exact ih

/-- Without a skip nothing is to be skipped, and only then. -/
lemma ofSkips_eq_normal_iff {skips : List Skip} : ofSkips skips = normal ↔ skips = [] := by
  cases skips <;> simp [ofSkips]

/-- The active state and the suspended ones stand for all skips. -/
lemma ofSkips_cons_tail {skips : List Skip} (h : skips ≠ []) :
    ofSkips skips :: skips.tail.map skipping = skips.map skipping := by
  cases skips with
  | nil => exact absurd rfl h
  | cons skip outer => rfl

lemma hits_ofSkips (skips : List Skip) (depth : Nat) :
    (ofSkips skips).hits depth = skips.head?.any (·.hits depth) := by
  cases skips <;> rfl

end SkipState

namespace Scanner

/-- The scan with the innermost skip active and the others suspended. -/
def toSuspending (s : Scanner) : SuspendingScan where
  text := s.text
  rest := s.rest
  stack := s.stack
  active := .ofSkips s.skips
  suspended := s.skips.tail.map .skipping

variable {s : Scanner}

lemma toSuspending_start (script : String) :
    (start script).toSuspending = SuspendingScan.start script := rfl

/-- A skip that is begun suspends the one that was active. -/
lemma toSuspending_beginSkip (s : Scanner) (remaining : Nat) :
    (s.beginSkip remaining).toSuspending = s.toSuspending.beginSkip remaining := by
  have hsuspended : s.skips.map .skipping = (s.toSuspending.beginSkip remaining).suspended := by
    rw [SuspendingScan.beginSkip, toSuspending]
    split
    · next hactive => rw [SkipState.ofSkips_eq_normal_iff.1 hactive, List.tail_nil]
    · next hactive =>
      rw [SkipState.ofSkips_cons_tail (mt SkipState.ofSkips_eq_normal_iff.2 hactive)]
  rw [toSuspending, beginSkip, List.tail_cons, hsuspended]
  rfl

lemma toSuspending_enter (s : Scanner) (name : String) (skips : List Nat) :
    (s.enter name skips).toSuspending = s.toSuspending.enter name skips := by
  have hfold (t : Scanner) : (skips.foldl beginSkip t).toSuspending =
      skips.foldl SuspendingScan.beginSkip t.toSuspending := by
    induction skips generalizing t with
    | nil => rfl
    | cons n skips ih => rw [List.foldl_cons, List.foldl_cons, ih, toSuspending_beginSkip]
  exact hfold (s.push name)

lemma toSuspending_endBlock (s : Scanner) : s.endBlock.toSuspending = s.toSuspending.endBlock := by
  have hresume := SkipState.resume_ofSkips s.depth s.skips
  rw [SuspendingScan.endBlock]
  simp only [toSuspending, SuspendingScan.depth, depth] at hresume ⊢
  rw [hresume]
  rfl

lemma skipsHere_toSuspending (s : Scanner) :
    s.toSuspending.active.hits s.toSuspending.depth = s.skipsHere :=
  SkipState.hits_ofSkips s.skips s.depth

lemma passSkipped_toSuspending (s : Scanner) :
    s.toSuspending.passSkipped = s.passSkipped.toSuspending := by
  fun_induction passSkipped s with
  | case1 s hskip rest hrest ih =>
    rw [SuspendingScan.passSkipped, if_pos (s.skipsHere_toSuspending.trans hskip)]
    split
    · next rest' heq =>
      obtain rfl : rest = rest' := (List.cons.inj (hrest.symm.trans heq)).2
      rw [← ih, toSuspending_endBlock]
      rfl
    · next hne => exact absurd hrest (hne rest)
  | case2 s hskip hne =>
    rw [SuspendingScan.passSkipped, if_pos (s.skipsHere_toSuspending.trans hskip)]
    split
    · next rest heq => exact absurd heq (hne rest)
    · rfl
  | case3 s hskip =>
    rw [SuspendingScan.passSkipped, if_neg (s.skipsHere_toSuspending ▸ hskip)]

lemma read_toSuspending (s : Scanner) :
    s.toSuspending.read = (s.read.1, s.read.2.toSuspending) := by
  have hrest : s.toSuspending.rest = s.rest := rfl
  have hstack : s.toSuspending.stack = s.stack := rfl
  rw [SuspendingScan.read, read, hrest, hstack]
  cases toBracket s.rest with
  | nil => rfl
  | cons c rest =>
    by_cases hc : c = '('
    · simp only [hc, ↓reduceIte]
      rfl
    · simp only [hc, ↓reduceIte]
      cases s.stack with
      | nil => rfl
      | cons name outer =>
        simp only [toSuspending_endBlock]
        rfl

/-- **Both scans find the same token.** -/
lemma next_toSuspending (s : Scanner) :
    s.toSuspending.next = (s.next.1, s.next.2.toSuspending) := by
  rw [SuspendingScan.next, passSkipped_toSuspending, read_toSuspending]
  rfl

lemma exists_of_next_toSuspending {answer : Except Nat (Option Token)} {s' : SuspendingScan}
    (h : s.toSuspending.next = (answer, s')) :
    ∃ t, s.next = (answer, t) ∧ t.toSuspending = s' := by
  rw [next_toSuspending] at h
  cases h
  exact ⟨s.next.2, rfl, rfl⟩

end Scanner

namespace Vocabulary

variable {σ : Type} {v : Vocabulary σ} {w u : σ}

/-- **Runs ask the scans that stand for those of the scanner**, and no others.

**Proof sketch.** Induction on the run, from either side. The two scans find the same token
(`Scanner.next_toSuspending`), so the block is opened or closed with the same arguments, and entering
it leaves scans of which one stands for the other. -/
theorem asks_iff {script : String} {s : SuspendingScan} {frames : List Args} :
    v.Asks script w s frames u ↔
      ∃ p, v.Visits (Position.start script) w p u ∧ p.scanner.toSuspending = s ∧
        p.frames = frames := by
  constructor
  · intro h
    induction h with
    | start => exact ⟨Position.start script, .here _ w, Scanner.toSuspending_start script, rfl⟩
    | @opened s s' frames u u' name args skips _ hnext hopen ih =>
      obtain ⟨p, hp, rfl, rfl⟩ := ih
      obtain ⟨t, ht, rfl⟩ := Scanner.exists_of_next_toSuspending hnext
      exact ⟨p.opened t name args skips, hp.snoc (.opened ht hopen),
        Scanner.toSuspending_enter t name skips, rfl⟩
    | @closed s s' frames u u' name _ hnext hclose ih =>
      obtain ⟨p, hp, rfl, rfl⟩ := ih
      obtain ⟨t, ht, rfl⟩ := Scanner.exists_of_next_toSuspending hnext
      exact ⟨p.closed t, hp.snoc (.closed ht hclose), rfl, rfl⟩
  · rintro ⟨p, hp, rfl, rfl⟩
    refine hp.invariant
      (P := fun p u => v.Asks script w p.scanner.toSuspending p.frames u) ?_ .start
    intro p u q u' hasks hstep
    have hnext := Scanner.next_toSuspending p.scanner
    cases hstep with
    | opened h hopen =>
      rw [h] at hnext
      rw [Position.opened, Scanner.toSuspending_enter]
      exact .opened hasks hnext hopen
    | closed h hclose =>
      rw [h] at hnext
      exact .closed hasks hnext hclose

end Vocabulary

end BracketScript
