import BracketScript.Proofs.Script.Brackets
import BracketScript.Proofs.Script.Scanning
import BracketScript.Proofs.Script.Steps

set_option autoImplicit false

/-!
# The verdict on the brackets of a script

A run reports brackets without partner as it comes upon them, and it passes over skipped blocks with
a count of its own. Its verdict is nevertheless that of the grammar, on any text and whatever the
tests of its conditionals answer. The names of the blocks that are still open are the only thing
that depends on the blocks that were skipped.

## Main definitions

* `BracketScript.Scanner.passesBlock` — the next token stands behind a skipped block.
* `BracketScript.Verdict` — balanced, a closing bracket without partner, or blocks left open.

## Main results

* `BracketScript.Scanner.unpaired_passSkipped` — passing over blocks does not change which brackets
  are without partner, unless an unclosed block swallows the rest of the text.
* `BracketScript.run_brackets` — the verdict of every run.
-/

namespace BracketScript

/-! ## Skips -/

/-- Every skip that is left was there, at the same depth. -/
lemma Skip.exists_mem_of_mem_settle {depth : Nat} {skips : List Skip} {k : Skip}
    (h : k ∈ settle depth skips) : ∃ l ∈ skips, l.depth = k.depth := by
  cases hs : settle depth skips with
  | nil =>
    rw [hs] at h
    cases h
  | cons s outer =>
    obtain ⟨t, ht, hd⟩ := settle_suffix hs
    rw [hs] at h
    rcases List.mem_cons.1 h with rfl | h
    · exact ⟨t, ht.subset (by simp), hd⟩
    · exact ⟨k, ht.subset (by simp [h]), rfl⟩

namespace Scanner

/-- Whether the next token stands behind a block that is skipped. -/
def passesBlock (s : Scanner) : Bool :=
  s.skipsHere && (toBracket s.rest).head? == some '('

/-- All skips belong to blocks that are open; none is left outside all blocks. -/
def SkipsInside (s : Scanner) : Prop :=
  ∀ k ∈ s.skips, 0 < k.depth

lemma SkipsInside.endBlock {s : Scanner} (h : s.SkipsInside) : s.endBlock.SkipsInside := by
  intro k hk
  obtain ⟨l, hl, hd⟩ := Skip.exists_mem_of_mem_settle hk
  exact hd ▸ h l hl

/-- Outside all blocks nothing is skipped. -/
lemma SkipsInside.stack_ne_nil {s : Scanner} (h : s.SkipsInside) (hs : s.skipsHere = true) :
    s.stack ≠ [] := by
  intro hnil
  rw [skipsHere, skip?, Option.any_eq_true] at hs
  obtain ⟨k, hk, hits⟩ := hs
  have hpos := h k (List.mem_of_mem_head? hk)
  simp only [Skip.hits, Bool.and_eq_true, beq_iff_eq, depth, hnil, List.length_nil] at hits
  omega

lemma SkipsInside.passSkipped {s : Scanner} (h : s.SkipsInside) : s.passSkipped.SkipsInside := by
  fun_induction Scanner.passSkipped s with
  | case1 s hs rest _ ih => exact ih (SkipsInside.endBlock h)
  | case2 s hs _ => exact h
  | case3 s hs => exact h

/-! ## Counting brackets and pairing them -/

/-- The text before a bracket has no brackets. -/
lemma unpaired_toBracket (names : List String) (cs : List Char) :
    unpaired names (toBracket cs) = unpaired names cs := by
  induction cs with
  | nil => rfl
  | cons c cs ih =>
    by_cases hc : isBracket c = true
    · rw [toBracket, List.dropWhile_cons_of_neg (by simp [hc])]
    · have hplain : isBracket c = false := by simpa using hc
      rw [toBracket, List.dropWhile_cons_of_pos (by simp [hplain]), unpaired_plain hplain]
      exact ih

/-- A name has no brackets. -/
lemma unpaired_dropWhile_isNameChar (names : List String) (cs : List Char) :
    unpaired names (cs.dropWhile isNameChar) = unpaired names cs := by
  induction cs with
  | nil => rfl
  | cons c cs ih =>
    by_cases hc : isNameChar c = true
    · rw [List.dropWhile_cons_of_pos hc, ih, unpaired_plain (isBracket_of_isNameChar hc)]
    · rw [List.dropWhile_cons_of_neg hc]

/-- Behind a block that is passed over the same brackets are without partner; or the block is not
closed, and all the text goes with it.

**Proof sketch.** Induction on the text. The count of open blocks inside the one passed over is one
less than the number of names that pairing has on top of the outer ones. -/
lemma unpaired_afterBlock (names : List String) (cs : List Char) :
    ∀ (inner : Nat) (opened : List String), opened.length = inner + 1 →
      unpaired (opened ++ names) cs = unpaired names (afterBlock inner cs) ∨
        afterBlock inner cs = [] ∧
          ∃ more, more ≠ [] ∧ unpaired (opened ++ names) cs = .ok (more ++ names) := by
  induction cs with
  | nil =>
    intro inner opened hlen
    refine .inr ⟨by simp [afterBlock], opened, ?_, unpaired_nil _⟩
    intro h
    simp [h] at hlen
  | cons c cs ih =>
    intro inner opened hlen
    by_cases hopen : c = '('
    · subst hopen
      have h := ih (inner + 1) (nameBehind cs :: opened) (by simp [hlen])
      rw [unpaired_open, afterBlock_open]
      exact h
    · by_cases hclose : c = ')'
      · subst hclose
        obtain ⟨name, opened, rfl⟩ : ∃ name rest, opened = name :: rest := by
          cases opened with
          | nil => simp at hlen
          | cons name rest => exact ⟨name, rest, rfl⟩
        rw [List.cons_append, unpaired_close_cons]
        cases inner with
        | zero =>
          obtain rfl : opened = [] := by simpa using hlen
          exact .inl (by rw [afterBlock_close_zero, List.nil_append])
        | succ inner =>
          rw [afterBlock_close_succ]
          exact ih inner opened (by simpa using hlen)
      · have hplain : isBracket c = false := by simp [isBracket, hopen, hclose]
        rw [unpaired_plain hplain, afterBlock_plain hplain]
        exact ih inner opened hlen

/-- Passing over blocks does not change which brackets are without partner; or the last block that
is passed over is not closed, and nothing is left to be read.

**Proof sketch.** Induction along the blocks that are passed over, by `unpaired_afterBlock`. The
second case comes up inside some block only, because outside all blocks nothing is skipped. -/
lemma unpaired_passSkipped {s : Scanner} (hs : s.SkipsInside) :
    unpaired s.stack s.rest = unpaired s.stack s.passSkipped.rest ∨
      s.passSkipped.rest = [] ∧ s.passesBlock = true ∧ s.stack ≠ [] ∧
        ∃ more, unpaired s.stack s.rest = .ok (more ++ s.stack) := by
  fun_induction Scanner.passSkipped s with
  | case1 s hskip rest hrest ih =>
    have hpasses : s.passesBlock = true := by simp [passesBlock, hskip, hrest]
    have hstart : unpaired s.stack s.rest = unpaired (nameBehind rest :: s.stack) rest := by
      rw [← unpaired_toBracket, hrest, unpaired_open]
    have hinside : ({ s with rest := afterBlock 0 rest } : Scanner).endBlock.SkipsInside :=
      SkipsInside.endBlock hs
    rcases unpaired_afterBlock s.stack rest 0 [nameBehind rest] rfl with h | ⟨hnil, more, -, h⟩
    · rcases ih hinside with ih | ⟨hend, -, -, more, ih⟩
      · exact .inl (hstart.trans (h.trans ih))
      · exact .inr ⟨hend, hpasses, hs.stack_ne_nil hskip, more, hstart.trans (h.trans ih)⟩
    · -- the block is not closed, and there is nothing behind it
      refine .inr ⟨?_, hpasses, hs.stack_ne_nil hskip, more, hstart.trans h⟩
      rw [← List.suffix_nil, ← hnil]
      exact passSkipped_suffix _
  | case2 s hskip hne => exact .inl (unpaired_toBracket _ _).symm
  | case3 s hskip => exact .inl rfl

/-- If a bracket is left to be read, passing over blocks has changed nothing. -/
lemma unpaired_of_toBracket {s : Scanner} (hs : s.SkipsInside) {c : Char} {rest : List Char}
    (h : toBracket s.passSkipped.rest = c :: rest) :
    unpaired s.stack s.rest = unpaired s.stack (c :: rest) := by
  rcases unpaired_passSkipped hs with heq | ⟨hnil, -⟩
  · rw [heq, ← unpaired_toBracket, h]
  · rw [hnil] at h
    cases h

/-! ## The next token -/

section Next

variable {s u : Scanner} {name : String}

/-- A block that is opened waits for its partner. -/
lemma unpaired_of_next_opened (hs : s.SkipsInside) (h : s.next = (.ok (some (.opened name)), u)) :
    unpaired (name :: u.stack) u.rest = unpaired s.stack s.rest := by
  obtain ⟨rest, hrest, rfl, rfl⟩ := exists_of_next_opened h
  rw [unpaired_of_toBracket hs hrest, unpaired_open, unpaired_dropWhile_isNameChar,
    stack_passSkipped, nameBehind]

/-- A block that is closed has found it. -/
lemma unpaired_of_next_closed (hs : s.SkipsInside) (h : s.next = (.ok (some (.closed name)), u)) :
    unpaired u.stack u.rest = unpaired s.stack s.rest := by
  obtain ⟨rest, outer, hrest, hstack, rfl⟩ := exists_of_next_closed h
  rw [unpaired_of_toBracket hs hrest, hstack, unpaired_close_cons]
  rfl

/-- A closing bracket that is reported has no partner. -/
lemma unpaired_of_next_error (hs : s.SkipsInside) {offset : Nat} (h : s.next = (.error offset, u)) :
    ∃ rest, unpaired s.stack s.rest = .error rest ∧ offset = byteSize s.text - byteSize rest := by
  obtain ⟨hstack, rest, hrest, hoffset⟩ := exists_of_next_error h
  refine ⟨')' :: rest, ?_, hoffset⟩
  rw [unpaired_of_toBracket hs hrest, hstack, unpaired_close_nil]

/-- At the end the blocks that are open have no partner, and neither have those that were not seen
because they stand in a block that was passed over. -/
lemma unpaired_of_next_end (hs : s.SkipsInside) (h : s.next = (.ok none, u)) :
    ∃ more, unpaired s.stack s.rest = .ok (more ++ u.stack) ∧
      (more = [] ∨ s.passesBlock = true ∧ u.stack ≠ []) := by
  obtain ⟨hrest, rfl⟩ := of_next_end h
  rw [stack_passSkipped]
  rcases unpaired_passSkipped hs with heq | ⟨-, hpasses, hstack, more, heq⟩
  · refine ⟨[], ?_, .inl rfl⟩
    rw [heq, ← unpaired_toBracket, hrest, unpaired_nil, List.nil_append]
  · exact ⟨more, heq, .inr ⟨hpasses, hstack⟩⟩

lemma SkipsInside.of_next_opened (hs : s.SkipsInside)
    (h : s.next = (.ok (some (.opened name)), u)) : u.SkipsInside := by
  obtain ⟨rest, -, -, rfl⟩ := exists_of_next_opened h
  exact hs.passSkipped

lemma SkipsInside.of_next_closed (hs : s.SkipsInside)
    (h : s.next = (.ok (some (.closed name)), u)) : u.SkipsInside := by
  obtain ⟨rest, outer, -, -, rfl⟩ := exists_of_next_closed h
  exact SkipsInside.endBlock hs.passSkipped

/-- A block that is entered asks for skips inside itself. -/
lemma SkipsInside.enter (hs : s.SkipsInside) (name : String) (skips : List Nat) :
    (s.enter name skips).SkipsInside := by
  have hfold : ∀ (ns : List Nat) (t : Scanner), 0 < t.depth → t.SkipsInside →
      (ns.foldl beginSkip t).SkipsInside := by
    intro ns
    induction ns with
    | nil => exact fun t _ ht => ht
    | cons n ns ih =>
      intro t hdepth ht
      refine ih (t.beginSkip n) hdepth ?_
      intro k hk
      rcases List.mem_cons.1 hk with rfl | hk
      · exact hdepth
      · exact ht k hk
  exact hfold skips (s.push name) (Nat.succ_pos _) hs

end Next

lemma byteSize_append (cs ds : List Char) : byteSize (cs ++ ds) = byteSize cs + byteSize ds := by
  induction cs with
  | nil => simp [byteSize]
  | cons c cs ih =>
    simp only [byteSize, List.cons_append, List.foldr_cons] at ih ⊢
    omega

/-- The brackets without partner are those of a whole text, wherever the scan has come. -/
structure Tracks (s : Scanner) (text : List Char) : Prop where
  /-- It is the text that is scanned. -/
  text_eq : s.text = text
  /-- All skips belong to blocks that are open. -/
  inside : s.SkipsInside
  /-- The open blocks and the rest have the brackets without partner of the whole text. -/
  unpaired_eq : unpaired s.stack s.rest = unpaired [] text

lemma tracks_start (script : String) : (start script).Tracks (Text.unifyBreaks script.toList) where
  text_eq := rfl
  inside := fun _ hk => nomatch hk
  unpaired_eq := rfl

end Scanner

/-! ## Runs -/

/-- Whether a failure is about the name, the arguments or the code of a block. -/
def Failure.isOfBlock : Failure → Bool
  | noCommand _ | badArguments .. | commandFailed .. => true
  | _ => false

namespace Vocabulary

variable {σ : Type} {v : Vocabulary σ} {w w' : σ}

/-- Only the name, the arguments or the code can keep a block from being opened. -/
lemma isOfBlock_of_openBlock {name text : String} {depth : Nat} {e : Failure}
    (h : v.openBlock name text depth w = (.error e, w')) : e.isOfBlock = true := by
  unfold openBlock at h
  cases hi : v.intrinsic? name with
  | some code =>
    simp only [hi, openIntrinsic] at h
    match ht : Word.texts? text with
    | none =>
      rw [ht] at h
      cases h
      rfl
    | some [] =>
      rw [ht] at h
      cases h
      rfl
    | some (word :: words) =>
      rw [ht] at h
      obtain ⟨reason, -, rfl⟩ := Effect.exists_of_adapt_error (Effect.of_bind_pure_error h)
      rfl
  | none =>
    cases hc : v.command? name with
    | none =>
      simp only [hi, hc] at h
      cases h
      rfl
    | some command =>
      simp only [hi, hc, openCommand] at h
      cases hb : command.template.bind text with
      | error e' =>
        rw [hb] at h
        cases h
        rfl
      | ok args =>
        rw [hb] at h
        obtain ⟨reason, -, rfl⟩ := Effect.exists_of_adapt_error (Effect.of_bind_pure_error h)
        rfl

/-- Only the code can keep a block from being closed. -/
lemma isOfBlock_of_closeBlock {call : Call} {e : Failure}
    (h : v.closeBlock call w = (.error e, w')) : e.isOfBlock = true := by
  unfold closeBlock at h
  match hi : v.intrinsic? call.command, hc : v.command? call.command with
  | none, some command =>
    simp only [hi, hc] at h
    obtain ⟨reason, -, rfl⟩ := Effect.exists_of_adapt_error h
    rfl
  | none, none =>
    simp only [hi, hc] at h
    cases h
  | some code, _ =>
    simp only [hi] at h
    cases h

/-- No step of a run leads the scan away from the brackets of the text. -/
lemma Step.tracks {p q : Position} {text : List Char} (hp : p.scanner.Tracks text)
    (h : v.Step p w (.ok (some q)) w') : q.scanner.Tracks text := by
  cases h with
  | @opened s name args skips _ hnext hopen =>
    refine ⟨?_, (hp.inside.of_next_opened hnext).enter name skips, ?_⟩
    · obtain ⟨rest, -, -, rfl⟩ := Scanner.exists_of_next_opened hnext
      rw [Position.opened, Scanner.text_enter, Scanner.text_passSkipped, hp.text_eq]
    · rw [Position.opened, Scanner.stack_enter, Scanner.rest_enter,
        Scanner.unpaired_of_next_opened hp.inside hnext, hp.unpaired_eq]
  | @closed s name _ hnext hclose =>
    refine ⟨?_, hp.inside.of_next_closed hnext, ?_⟩
    · obtain ⟨rest, outer, -, -, rfl⟩ := Scanner.exists_of_next_closed hnext
      exact (Scanner.text_passSkipped _).trans hp.text_eq
    · exact (Scanner.unpaired_of_next_closed hp.inside hnext).trans hp.unpaired_eq

/-- A run of a script from a state passes over no block. -/
def PassesNone (v : Vocabulary σ) (script : String) (w : σ) : Prop :=
  ∀ p u, v.Visits (Position.start script) w p u → p.scanner.passesBlock = false

/-- How a run can end, in terms of the brackets without partner. -/
inductive Ending (v : Vocabulary σ) (script : String) (w : σ) (text : List Char) :
    Except Failure Unit → Prop
  | balanced (h : unpaired [] text = .ok []) : Ending v script w text (.ok ())
  | stray {rest : List Char} (h : unpaired [] text = .error rest) :
    Ending v script w text
      (.error (.unmatchedClose (Scanner.byteSize text - Scanner.byteSize rest)))
  | unclosed {more stack : List String} (h : unpaired [] text = .ok (more ++ stack))
    (hstack : stack ≠ []) (hmore : v.PassesNone script w → more = []) :
    Ending v script w text (.error (.unmatchedOpen stack.reverse))
  | stopped {e : Failure} (h : e.isOfBlock = true) : Ending v script w text (.error e)

/-- A run ends in one of these ways.

**Proof sketch.** The scan tracks the brackets of the text at every position that the run visits, by
`Step.tracks`; the step at the last of them says how the run ends (`exists_last`). -/
lemma ending_run (v : Vocabulary σ) (script : String) (w : σ) :
    v.Ending script w (Text.unifyBreaks script.toList) (v.run script w).1 := by
  obtain ⟨p, u, hvisits, hlast⟩ := v.exists_last (Position.start script) w
  have htracks : p.scanner.Tracks (Text.unifyBreaks script.toList) :=
    hvisits.invariant (P := fun p _ => p.scanner.Tracks (Text.unifyBreaks script.toList))
      (fun _ _ _ _ => Step.tracks) (Scanner.tracks_start script)
  rw [run]
  rcases hlast with ⟨hstep, hrun⟩ | ⟨e, hstep, hrun⟩
  · rw [hrun]
    cases step_of_advance_eq hstep with
    | finished hnext hs =>
      obtain ⟨more, heq, hmore⟩ := Scanner.unpaired_of_next_end htracks.inside hnext
      -- a block that swallows the rest of the text stands inside another
      obtain rfl : more = [] := hmore.resolve_right fun h => h.2 hs
      rw [htracks.unpaired_eq, hs] at heq
      exact .balanced heq
  · rw [hrun]
    cases step_of_advance_eq hstep with
    | stray hnext =>
      obtain ⟨rest, heq, rfl⟩ := Scanner.unpaired_of_next_error htracks.inside hnext
      rw [htracks.text_eq]
      exact .stray (htracks.unpaired_eq.symm.trans heq)
    | unclosed hnext hs =>
      obtain ⟨more, heq, hmore⟩ := Scanner.unpaired_of_next_end htracks.inside hnext
      refine .unclosed (htracks.unpaired_eq.symm.trans heq) hs fun hnone => ?_
      refine hmore.resolve_right fun h => ?_
      rw [hnone _ _ hvisits] at h
      exact Bool.noConfusion h.1
    | notOpened hnext hopen => exact .stopped (isOfBlock_of_openBlock hopen)
    | notClosed hnext hclose => exact .stopped (isOfBlock_of_closeBlock hclose)

end Vocabulary

/-- What a run says about the brackets of a script, the names of the open blocks apart. -/
inductive Verdict where
  /-- Every bracket has a partner. -/
  | balanced
  /-- The closing bracket at a byte offset has none. -/
  | stray (offset : Nat)
  /-- Some opening bracket has none. -/
  | unclosed
deriving DecidableEq, Repr

namespace Verdict

/-- The verdict of a run; there is none if it has stopped at a block. -/
def ofResult? : Except Failure Unit → Option Verdict
  | .ok () => some balanced
  | .error (.unmatchedClose offset) => some (stray offset)
  | .error (.unmatchedOpen _) => some unclosed
  | .error _ => none

/-- The verdict on a text. -/
def ofText (text : List Char) : Verdict :=
  match unpaired [] text with
  | .error rest => stray (Scanner.byteSize text - Scanner.byteSize rest)
  | .ok [] => balanced
  | .ok (_ :: _) => unclosed

/-- A run that does not stop at a block has the verdict on the text. -/
lemma ofResult?_of_ending {σ : Type} {v : Vocabulary σ} {script : String} {w : σ} {text : List Char}
    {r : Except Failure Unit} (h : v.Ending script w text r) :
    (∃ e, r = .error e ∧ e.isOfBlock = true) ∨ ofResult? r = some (ofText text) := by
  cases h with
  | balanced h => exact .inr (by rw [ofText, h]; rfl)
  | stray h => exact .inr (by rw [ofText, h]; rfl)
  | @unclosed more stack h hstack hmore =>
    obtain ⟨name, names, hcons⟩ : ∃ name names, more ++ stack = name :: names :=
      List.exists_cons_of_ne_nil (by simp [hstack])
    exact .inr (by rw [ofText, h, hcons]; rfl)
  | stopped h => exact .inl ⟨_, rfl, h⟩

end Verdict

/-- **The verdict on the brackets is exact and does not depend on the branches taken.** Let `text`
be a script with its line breaks unified, and take any run of it.

If the run succeeds, the text is balanced. If it reports a closing bracket, that is the first one
without partner, at its byte offset. If it reports open blocks, then every closing bracket has a
partner, and the names reported are a non-empty prefix of the names behind the opening brackets
without one, outermost first; they are all of them if no block was passed over. All runs that do not
stop at the name, the arguments or the code of a block have the same verdict. -/
theorem run_brackets (script : String) :
    let text := Text.unifyBreaks script.toList
    (∀ {σ : Type} (v : Vocabulary σ) (w : σ),
      ((v.run script w).1 = .ok () → Balanced text) ∧
      (∀ offset, (v.run script w).1 = .error (.unmatchedClose offset) →
        ∃ before after, Balanced before ∧ text = before ++ ')' :: after ∧
          offset = Scanner.byteSize before) ∧
      (∀ names, (v.run script w).1 = .error (.unmatchedOpen names) →
        ∃ all, Unclosed text all ∧ names ≠ [] ∧ names <+: all ∧
          (v.PassesNone script w → names = all))) ∧
    ∃ verdict, ∀ {σ : Type} (v : Vocabulary σ) (w : σ),
      (∃ e, (v.run script w).1 = .error e ∧ e.isOfBlock = true) ∨
        Verdict.ofResult? (v.run script w).1 = some verdict := by
  intro text
  refine ⟨fun v w => ⟨fun hr => ?_, fun offset hr => ?_, fun names hr => ?_⟩, Verdict.ofText text,
    fun v w => Verdict.ofResult?_of_ending (v.ending_run script w)⟩
  all_goals
    have hending := v.ending_run script w
    rw [hr] at hending
  · cases hending with
    | balanced h => exact balanced_of_unpaired h
  · cases hending with
    | stray h =>
      obtain ⟨before, after, hb, htext, rfl⟩ := stray_of_unpaired h
      refine ⟨before, after, hb, htext, ?_⟩
      have hsize := congrArg Scanner.byteSize htext
      rw [Scanner.byteSize_append] at hsize
      omega
    | stopped h => cases h
  · cases hending with
    | @unclosed more stack h hstack hmore =>
      refine ⟨(more ++ stack).reverse, unclosed_of_unpaired h, by simpa using hstack, ?_, ?_⟩
      · rw [List.reverse_append]
        exact List.prefix_append _ _
      · intro hnone
        rw [hmore hnone, List.nil_append]
    | stopped h => cases h

end BracketScript
