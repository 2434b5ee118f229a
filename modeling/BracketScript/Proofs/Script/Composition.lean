import BracketScript.Proofs.Script.Recording
import BracketScript.Proofs.Script.TreeWalk
import BracketScript.Proofs.Script.Verdict

set_option autoImplicit false

/-!
# Scripts one after the other

A script that runs to its end leaves nothing behind in the scanner: no open block, no arguments, no
skip of a conditional, no text that is half read. Whatever is written behind it therefore runs as a
script of its own, on the state that the first one has left.

## Main definitions

* `BracketScript.Gap.toHead` — a text without brackets as the head of a block.
* `BracketScript.Failure.behind` — a failure seen from the start of a text that is longer in front.
* `BracketScript.Language.log` — what a run of a script calls.

## Main results

* `BracketScript.Balanced.exists_script` — every balanced text is the text of a tree.
* `BracketScript.Vocabulary.runFrom_behind` — a longer text in front moves the place of a closing
  bracket without partner, and nothing else.
* `BracketScript.Language.run_append` — a script and what is written behind it.
-/

namespace BracketScript

/-! ## Balanced texts are texts of trees -/

/-- A text without brackets, read as the name and the argument text of a block. -/
def Gap.toHead (g : Gap) : Head where
  nameChars := g.chars.takeWhile Scanner.isNameChar
  args :=
    { chars := g.chars.dropWhile Scanner.isNameChar
      plain := fun c hc => g.plain c ((List.dropWhile_suffix _).subset hc)
      unified := fun hc => g.unified ((List.dropWhile_suffix _).subset hc) }
  named := List.all_eq_true.1 List.all_takeWhile
  parted := by
    intro c hc
    have hname : Scanner.isNameChar c = false := by
      have hhead := List.head?_dropWhile_not Scanner.isNameChar g.chars
      rw [Option.mem_def.1 hc] at hhead
      simpa using hhead
    have hplain := g.plain c ((List.dropWhile_suffix _).subset (List.mem_of_mem_head? hc))
    simpa [Scanner.isNameChar, hplain] using hname

lemma Gap.nameChars_append_args (g : Gap) : g.toHead.nameChars ++ g.toHead.args.chars = g.chars :=
  List.takeWhile_append_dropWhile

/-- **Every balanced text is the text of a tree**, if its line breaks are unified.

**Proof sketch.** Induction on the grammar. A character that is no bracket goes to the text before
the first block. In a pair of brackets the text before the first block is the head of a new block,
the blocks are its children, and the text before the first block behind the pair comes after it. -/
lemma Balanced.exists_script {cs : List Char} (h : Balanced cs) (hcs : '\r' ∉ cs) :
    ∃ s : Script, s.text = cs := by
  induction h with
  | nil => exact ⟨⟨⟨[], by simp, by simp⟩, .nil⟩, rfl⟩
  | @plain c cs hc _ ih =>
    simp only [List.mem_cons, not_or] at hcs
    obtain ⟨⟨before, blocks⟩, rfl⟩ := ih hcs.2
    have hplain : ∀ d ∈ c :: before.chars, Scanner.isBracket d = false := by
      intro d hd
      rcases List.mem_cons.1 hd with rfl | hd
      · exact hc
      · exact before.plain d hd
    have hunified : '\r' ∉ c :: before.chars := by
      simp [hcs.1, before.unified]
    exact ⟨⟨⟨c :: before.chars, hplain, hunified⟩, blocks⟩, rfl⟩
  | @block inner rest _ _ ihi ihr =>
    simp only [List.mem_cons, List.mem_append, not_or] at hcs
    obtain ⟨⟨head, children⟩, rfl⟩ := ihi hcs.2.1
    obtain ⟨⟨after, siblings⟩, rfl⟩ := ihr hcs.2.2.2
    refine ⟨⟨⟨[], by simp, by simp⟩, .cons head.toHead children after siblings⟩, ?_⟩
    simp only [Script.text, Forest.text, List.nil_append, List.append_assoc,
      ← head.nameChars_append_args]

/-! ## More text in front -/

namespace Scanner

/-- The scanner at the same place of a text that is longer in front. -/
def behind (before : List Char) (s : Scanner) : Scanner :=
  { s with text := before ++ s.text }

variable {before : List Char} {s : Scanner}

lemma passSkipped_behind (before : List Char) (s : Scanner) :
    (s.behind before).passSkipped = s.passSkipped.behind before := by
  fun_induction passSkipped s with
  | case1 s hskip rest hrest ih =>
    rw [← ih]
    exact passSkipped_open (s := s.behind before) hskip hrest
  | case2 s hskip hne =>
    rw [passSkipped, if_pos (show (s.behind before).skipsHere = true from hskip)]
    split
    · next rest heq => exact absurd heq (hne rest)
    · rfl
  | case3 s hskip =>
    have hfalse : s.skipsHere = false := by
      simpa using hskip
    exact passSkipped_of_not_skipsHere (s := s.behind before) hfalse

/-- A bracket is read in the same way; only its place counts from the start of the text. -/
lemma read_behind (hs : s.rest <:+ s.text) :
    (s.behind before).read =
      (s.read.1.mapError (byteSize before + ·), s.read.2.behind before) := by
  unfold read
  have hrest : (s.behind before).rest = s.rest := rfl
  rw [hrest]
  split
  · rfl
  · next c rest hbracket =>
    split
    · rfl
    · cases hstack : s.stack with
      | nil =>
        have hle : byteSize (c :: rest) ≤ byteSize s.text := by
          obtain ⟨front, hfront⟩ := (hbracket ▸ toBracket_suffix s.rest).trans hs
          rw [← hfront, byteSize_append]
          omega
        have hsize : byteSize (before ++ s.text) - byteSize (c :: rest) =
            byteSize before + (byteSize s.text - byteSize (c :: rest)) := by
          rw [byteSize_append]
          omega
        simp only [behind, hstack, hsize]
        rfl
      | cons name outer =>
        simp only [behind, hstack, endBlock, depth]
        rfl

lemma next_behind (before : List Char) (hs : s.rest <:+ s.text) :
    (s.behind before).next =
      (s.next.1.mapError (byteSize before + ·), s.next.2.behind before) := by
  have hpass : s.passSkipped.rest <:+ s.passSkipped.text := by
    rw [text_passSkipped]
    exact (passSkipped_suffix s).trans hs
  rw [next, passSkipped_behind, read_behind hpass]
  rfl

lemma text_next (s : Scanner) : s.next.2.text = s.text := by
  rw [← text_passSkipped s, next, read]
  split
  · rfl
  · split
    · rfl
    · split <;> rfl

lemma enter_behind (before : List Char) (s : Scanner) (name : String) (skips : List Nat) :
    (s.behind before).enter name skips = (s.enter name skips).behind before := by
  have hfold : ∀ (ns : List Nat) (t : Scanner),
      ns.foldl beginSkip (t.behind before) = (ns.foldl beginSkip t).behind before := by
    intro ns
    induction ns with
    | nil => exact fun _ => rfl
    | cons n ns ih => exact fun t => ih (t.beginSkip n)
  exact hfold skips (s.push name)

end Scanner

/-- The position at the same place of a script that is longer in front. -/
def Position.behind (before : List Char) (p : Position) : Position :=
  { p with scanner := p.scanner.behind before }

/-- A failure of a script with a number of bytes in front of it. The place of a closing bracket
counts from the start of the text; no other failure has a place. -/
def Failure.behind (bytes : Nat) : Failure → Failure
  | unmatchedClose offset => unmatchedClose (bytes + offset)
  | e => e

lemma Failure.behind_of_isOfBlock {e : Failure} (h : e.isOfBlock = true) (bytes : Nat) :
    e.behind bytes = e := by
  cases e with
  | unmatchedClose offset => cases h
  | _ => rfl

namespace Vocabulary

variable {σ : Type} {v : Vocabulary σ} {p : Position} {w w' : σ} {before : List Char}

/-- The step of a run at the same place of a script that is longer in front. -/
lemma Step.behind {r : Except Failure (Option Position)}
    (hp : p.scanner.rest <:+ p.scanner.text) (h : v.Step p w r w') :
    v.Step (p.behind before) w
      ((r.map (Option.map (Position.behind before))).mapError
        (Failure.behind (Scanner.byteSize before))) w' := by
  have hbehind := Scanner.next_behind before hp
  cases h with
  | stray hnext =>
    rw [hnext] at hbehind
    exact .stray hbehind
  | finished hnext hs =>
    rw [hnext] at hbehind
    exact .finished hbehind hs
  | @unclosed s hnext hs =>
    rw [hnext] at hbehind
    exact .unclosed (s := s.behind before) hbehind hs
  | @opened s name args skips _ hnext hopen =>
    rw [hnext] at hbehind
    have hposition : (p.opened s name args skips).behind before =
        (p.behind before).opened (s.behind before) name args skips := by
      simp only [Position.behind, Position.opened, Scanner.enter_behind]
    have hstep := Step.opened (p := p.behind before) hbehind hopen
    rw [← hposition] at hstep
    exact hstep
  | notOpened hnext hopen =>
    rw [hnext] at hbehind
    have hstep := Step.notOpened (p := p.behind before) hbehind hopen
    rw [← Failure.behind_of_isOfBlock (isOfBlock_of_openBlock hopen) (Scanner.byteSize before)]
      at hstep
    exact hstep
  | closed hnext hclose =>
    rw [hnext] at hbehind
    exact .closed (p := p.behind before) hbehind hclose
  | notClosed hnext hclose =>
    rw [hnext] at hbehind
    have hstep := Step.notClosed (p := p.behind before) hbehind hclose
    rw [← Failure.behind_of_isOfBlock (isOfBlock_of_closeBlock hclose) (Scanner.byteSize before)]
      at hstep
    exact hstep

/-- Wherever a step leads, what is left to be read is the end of the text. -/
lemma Step.rest_suffix {q : Position} (hp : p.scanner.rest <:+ p.scanner.text)
    (h : v.Step p w (.ok (some q)) w') : q.scanner.rest <:+ q.scanner.text := by
  have hnext : p.scanner.next.2.rest <:+ p.scanner.next.2.text := by
    rw [Scanner.text_next]
    exact (Scanner.next_suffix _).trans hp
  cases h with
  | opened h _ =>
    rw [h] at hnext
    simpa [Position.opened] using hnext
  | closed h _ =>
    rw [h] at hnext
    exact hnext

/-- **A longer text in front moves the place of a closing bracket without partner, and nothing
else.** The run calls the same code on the same states.

**Proof sketch.** Strong induction on what is left to be read; each step is the same with more text
in front (`Step.behind`). -/
lemma runFrom_behind (before : List Char) (p : Position) (w : σ)
    (hp : p.scanner.rest <:+ p.scanner.text) :
    v.runFrom (p.behind before) w =
      ((v.runFrom p w).1.mapError (Failure.behind (Scanner.byteSize before)),
        (v.runFrom p w).2) := by
  induction hn : p.size using Nat.strongRecOn generalizing p w with
  | ind n ih =>
    match hadvance : v.advance p w with
    | (.ok (some q), u) =>
      have hstep := step_of_advance_eq hadvance
      obtain ⟨hq, -⟩ := exists_step_eq_of_next hadvance
      rw [runFrom_of_next hadvance, runFrom_of_next (hstep.behind hp).advance_eq]
      exact ih q.size (hn ▸ hq) q u (hstep.rest_suffix hp) rfl
    | (.ok none, u) =>
      have hstep := step_of_advance_eq hadvance
      rw [runFrom_of_finished hadvance, runFrom_of_finished (hstep.behind hp).advance_eq]
      rfl
    | (.error e, u) =>
      have hstep := step_of_advance_eq hadvance
      rw [runFrom_of_failure hadvance, runFrom_of_failure (hstep.behind hp).advance_eq]
      rfl

/-- Outside all blocks a text without brackets does nothing. -/
lemma runFrom_gap (v : Vocabulary σ) (text : List Char) (gap : Gap) (cs : List Char) :
    v.runFrom ⟨Scanner.place text [] none [] (gap.chars ++ cs), []⟩ =
      v.runFrom ⟨Scanner.place text [] none [] cs, []⟩ := by
  have hnext (ds : List Char) : (Scanner.place text [] none [] ds).next =
      (Scanner.place text [] none [] ds).read := by
    rw [Scanner.next, Scanner.passSkipped_of_not_skipsHere rfl]
  have hgap := gap.toBracket_append cs
  cases hcs : Scanner.toBracket cs with
  | nil =>
    refine runFrom_congr ?_ []
    rw [hnext, hnext]
    simp only [Scanner.read, Scanner.place, hgap, hcs]
  | cons c rest =>
    by_cases hc : c = '('
    · refine runFrom_congr ?_ []
      rw [hnext, hnext]
      simp only [Scanner.read, Scanner.place, hgap, hcs, hc, ↓reduceIte]
    · -- the scan stays where it is, so the two do not end in the same place
      have herror (ds : List Char) (hds : Scanner.toBracket ds = c :: rest) :
          v.runFrom ⟨Scanner.place text [] none [] ds, []⟩ =
            throw (.unmatchedClose (Scanner.byteSize text - Scanner.byteSize (c :: rest))) := by
        refine runFrom_of_error (s := Scanner.place text [] none [] ds) ?_
        rw [hnext]
        simp only [Scanner.read, Scanner.place, hds, hc, ↓reduceIte]
      rw [herror _ (hgap.trans hcs), herror _ hcs]

end Vocabulary

/-! ## Scripts that succeed -/

namespace Language

variable {σ : Type}

/-- A script without carriage returns is scanned as it is written. -/
lemma run_eq_runFrom_place (L : Language σ) {script : String} (h : '\r' ∉ script.toList) :
    L.run script =
      L.vocabulary.runFrom ⟨Scanner.place script.toList [] none [] script.toList, []⟩ := by
  rw [run, Vocabulary.run, Position.start, Scanner.start, Text.unifyBreaks_eq_self h]
  rfl

/-- A script that succeeds is balanced. -/
lemma balanced_of_run (L : Language σ) {script : String} (h : '\r' ∉ script.toList) {w u : σ}
    (hrun : L.run script w = (.ok (), u)) : Balanced script.toList := by
  have hending := L.vocabulary.ending_run script w
  rw [run] at hrun
  rw [hrun, Text.unifyBreaks_eq_self h] at hending
  cases hending with
  | balanced h => exact balanced_of_unpaired h

/-- What is written behind a script that succeeds runs on the state that the script has left.

**Proof sketch.** The script is balanced, so it is the text of a tree, and a run over the blocks of
a tree comes to behind them with nothing pending (`Forest.runFrom_text`), whatever follows. The last
gap of the script does nothing, and the rest of the run is that of the second script with the first
one in front of it. -/
lemma run_append_of_ok (L : Language σ) {first second : String} (hfirst : '\r' ∉ first.toList)
    (hsecond : '\r' ∉ second.toList) {w u : σ} (h : L.run first w = (.ok (), u)) :
    L.run (first ++ second) w =
      ((L.run second u).1.mapError (Failure.behind (Scanner.byteSize first.toList)),
        (L.run second u).2) := by
  obtain ⟨script, hscript⟩ := (L.balanced_of_run hfirst h).exists_script hfirst
  have hboth : '\r' ∉ (first ++ second).toList := by
    simp [hfirst, hsecond]
  have hwalk : script.blocks.walk L 0 w = (.ok (), u) := by
    rw [← Script.walk, ← script.run_eq_walk L, Script.written, hscript, String.ofList_toList]
    exact h
  obtain ⟨gap, m?, hm, hrun⟩ := script.blocks.runFrom_text L (first ++ second).toList [] [] none []
    script.before second.toList (by simp)
  have htext : (first ++ second).toList =
      script.before.chars ++ (script.blocks.text ++ second.toList) := by
    rw [String.toList_append, ← hscript, Script.text, List.append_assoc]
  rw [hm rfl, ← htext, Vocabulary.runFrom_gap] at hrun
  rw [L.run_eq_runFrom_place hboth, hrun, L.run_eq_runFrom_place hsecond]
  have hbehind := Vocabulary.runFrom_behind (v := L.vocabulary) first.toList
    ⟨Scanner.place second.toList [] none [] second.toList, []⟩ u (List.suffix_refl _)
  rw [← hbehind, Forest.skipping_none, List.length_nil, Effect.bind_of_ok hwalk,
    String.toList_append]
  rfl

/-- What a run of a script calls: the tests that it asks for and the code of commands. -/
def log (L : Language σ) (script : String) (w : σ) : List Event :=
  (L.recorded.run script (w, [])).2.2

/-- A run with a log ends as the run without one, and adds what it calls. -/
lemma run_recorded (L : Language σ) (script : String) (w : σ) (log : List Event) :
    L.recorded.run script (w, log) =
      ((L.run script w).1, (L.run script w).2, log ++ L.log script w) := by
  obtain ⟨events, h⟩ := L.exists_events_runFrom (Position.start script) w
  have hlog : L.log script w = events := by
    rw [Language.log, run, Vocabulary.run, h, List.nil_append]
  rw [hlog]
  exact h log

/-- **Scripts compose.** For every language, every state and all scripts without carriage returns,
the second written behind the first: if the first succeeds, then the run of the two calls what the
first calls and then what the second calls on the state that the first has left. It ends in the
state and with the result of the second; only the place of a closing bracket without partner is
further on, by the bytes of the first.

**Proof sketch.** `run_append_of_ok` for the language and for the language that keeps a log. -/
theorem run_append (L : Language σ) (first second : String) (hfirst : '\r' ∉ first.toList)
    (hsecond : '\r' ∉ second.toList) {w u : σ} (h : L.run first w = (.ok (), u)) :
    L.run (first ++ second) w =
        ((L.run second u).1.mapError (Failure.behind (Scanner.byteSize first.toList)),
          (L.run second u).2) ∧
      L.log (first ++ second) w = L.log first w ++ L.log second u := by
  refine ⟨L.run_append_of_ok hfirst hsecond h, ?_⟩
  have hrecorded : L.recorded.run first (w, []) = (.ok (), u, L.log first w) := by
    rw [L.run_recorded, h, List.nil_append]
  have hboth := L.recorded.run_append_of_ok hfirst hsecond hrecorded
  rw [L.run_recorded second] at hboth
  rw [log, hboth]

/-- A language in which every name is a command, and each command counts its blocks. No test is
known. -/
def counting : Language Nat where
  test? _ := none
  command? _ := some
    { template := {}
      onOpen := fun _ => modify (· + 1)
      onClose := fun _ => pure () }

/-- The first script skips a block of a conditional and ends with a text of its own; behind it the
second runs its block and finds its own closing bracket without partner. -/
theorem run_append_counting :
    counting.run "(if x (a) (b)) é" 0 = (.ok (), 1) ∧
      counting.run ("(if x (a) (b)) é" ++ "(c) )") 0 = (.error (.unmatchedClose 21), 2) ∧
      counting.log ("(if x (a) (b)) é" ++ "(c) )") 0 =
        [.opened ⟨"b", {}, 2⟩, .closed ⟨"b", {}, 2⟩, .opened ⟨"c", {}, 1⟩,
          .closed ⟨"c", {}, 1⟩] := by
  have hfirst : counting.run "(if x (a) (b)) é" 0 = (.ok (), 1) := by
    with_unfolding_all rfl
  obtain ⟨hrun, hlog⟩ :=
    counting.run_append "(if x (a) (b)) é" "(c) )" (by decide) (by decide) hfirst
  refine ⟨hfirst, hrun.trans ?_, hlog.trans ?_⟩
  · with_unfolding_all rfl
  · with_unfolding_all rfl

end Language

end BracketScript
