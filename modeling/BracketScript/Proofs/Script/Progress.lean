import BracketScript.Proofs.Script.Bytes
import BracketScript.Proofs.Script.Composition
import Mathlib.Data.List.DropRight

set_option autoImplicit false

/-!
# Progress of a scan

Whoever reads a script asks for tokens, enters blocks and leaves skips, in any order. Whatever is done,
the scan stays inside its text and only moves forward, each token costs a bracket, and after the end of
the script, or a closing bracket without partner, nothing changes any more until a block is entered or a
skip is left.

## Main definitions

* `BracketScript.Scanner.Move` — what can be done with a scan.
* `BracketScript.Scanner.moves`, `BracketScript.ByteScan.moves` — moves made one after the other, on the
  scanner and on the scanner on bytes.

## Main results

* `BracketScript.Scanner.next_next` — an answer that is no token is final.
* `BracketScript.Scanner.countP_isToken_add_brackets_moves` — tokens are paid for with brackets.
* `BracketScript.Scanner.moves_toByteScan` — the scanner on bytes makes the same moves.
* `BracketScript.Scanner.moves_progress` — every scan always gets on and stays inside its text.
-/

namespace BracketScript

/-! ## Moves -/

namespace Scanner

/-- What the scanner answers: a token, or nothing at the end of the script, or the place of a closing
bracket without partner. -/
abbrev Answer := Except Nat (Option Token)

/-- Whether an answer is a token. -/
def isToken : Answer → Bool
  | .ok (some _) => true
  | _ => false

/-- What can be done with a scan. -/
inductive Move where
  /-- The next token is asked for. -/
  | next
  /-- A block is entered. -/
  | push (name : String)
  /-- A block is to be skipped. -/
  | beginSkip (remaining : Nat)
deriving DecidableEq, Repr

/-- Makes a move. There is an answer if a token is asked for. -/
def move (s : Scanner) : Move → List Answer × Scanner
  | .next => ([s.next.1], s.next.2)
  | .push name => ([], s.push name)
  | .beginSkip remaining => ([], s.beginSkip remaining)

/-- Makes moves one after the other, and lists the answers. -/
def moves (s : Scanner) : List Move → List Answer × Scanner
  | [] => ([], s)
  | m :: ms => ((s.move m).1 ++ ((s.move m).2.moves ms).1, ((s.move m).2.moves ms).2)

end Scanner

namespace ByteScan

open Scanner (Answer Move)

/-- Makes a move, with a bound on the rounds of a search. -/
def move (rounds : Nat) (b : ByteScan) : Move → Option (List Answer × ByteScan)
  | .next => (b.next rounds).map fun (answer, b) => ([answer], b)
  | .push name => some ([], b.push name)
  | .beginSkip remaining => some ([], b.beginSkip remaining)

/-- Makes moves one after the other, and lists the answers. -/
def moves (rounds : Nat) (b : ByteScan) : List Move → Option (List Answer × ByteScan)
  | [] => some ([], b)
  | m :: ms => do
    let (answers, b) ← b.move rounds m
    let (more, b) ← b.moves rounds ms
    return (answers ++ more, b)

end ByteScan

namespace Scanner

variable {s s' : Scanner}

/-! ## What a token costs -/

lemma brackets_append (cs ds : List Char) : brackets (cs ++ ds) = brackets cs + brackets ds :=
  List.countP_append

/-- Line breaks are no brackets. -/
lemma brackets_unifyBreaks (cs : List Char) : brackets (Text.unifyBreaks cs) = brackets cs := by
  fun_induction Text.unifyBreaks cs with
  | case1 => rfl
  | case2 rest ih => simpa [brackets, List.countP_cons, isBracket] using ih
  | case3 c rest hne ih =>
    by_cases hc : c = '\r'
    · simpa [brackets, List.countP_cons, isBracket, hc] using ih
    · simpa [brackets, List.countP_cons, hc] using ih

/-- **A token is found behind a bracket.** -/
lemma exists_passed_of_next {t : Token} (h : s.next = (.ok (some t), s')) :
    ∃ passed, s.rest = passed ++ s'.rest ∧ 0 < brackets passed := by
  have hpassed {c : Char} {rest : List Char} (hc : isBracket c = true)
      (hrest : toBracket s.passSkipped.rest = c :: rest) (hs' : s'.rest <:+ rest) :
      ∃ passed, s.rest = passed ++ s'.rest ∧ 0 < brackets passed := by
    obtain ⟨front, hfront⟩ :=
      (hrest ▸ toBracket_suffix s.passSkipped.rest).trans (passSkipped_suffix s)
    obtain ⟨name, hname⟩ := hs'
    refine ⟨front ++ c :: name, by simp [← hfront, ← hname], ?_⟩
    rw [brackets_append]
    exact Nat.add_pos_right _ (List.countP_pos_iff.2 ⟨c, by simp, hc⟩)
  cases t with
  | opened name =>
    obtain ⟨rest, hrest, -, rfl⟩ := exists_of_next_opened h
    exact hpassed rfl hrest (List.dropWhile_suffix _)
  | closed name =>
    obtain ⟨rest, outer, hrest, -, rfl⟩ := exists_of_next_closed h
    exact hpassed rfl hrest (List.suffix_refl _)

/-- **There is a bracket between the places** before and after a token. -/
lemma exists_passed_in_text (hs : s.rest <:+ s.text) {t : Token} (h : s.next = (.ok (some t), s')) :
    ∃ before passed behind, s.text = before ++ passed ++ behind ∧ s.cursor = byteSize before ∧
      s'.cursor = byteSize (before ++ passed) ∧ 0 < brackets passed := by
  obtain ⟨before, hcut⟩ := exists_cutAt_cursor hs
  obtain ⟨htext, hcursor⟩ := ByteScan.cutAt_eq_some_iff.1 hcut
  obtain ⟨passed, hpassed, hpos⟩ := exists_passed_of_next h
  have htext' : s'.text = s.text := by
    rw [← text_next s, h]
  refine ⟨before, passed, s'.rest, ?_, hcursor, ?_, hpos⟩
  · rw [List.append_assoc, ← hpassed, htext]
  · rw [byteSize_append, ← hcursor, cursor_add_passed hs hpassed, ← htext', cursor]

/-! ## The end of a scan -/

/-- Once everything is passed over that is to be skipped, nothing more is. -/
lemma passSkipped_passSkipped (s : Scanner) : s.passSkipped.passSkipped = s.passSkipped := by
  fun_induction passSkipped s with
  | case1 s hskip rest hrest ih => exact ih
  | case2 s hskip hne =>
    have hidem : toBracket (toBracket s.rest) = toBracket s.rest :=
      List.dropWhile_idempotent _ _
    have hrest (rest : List Char) : toBracket (toBracket s.rest) ≠ '(' :: rest := by
      rw [hidem]
      exact hne rest
    rcases passSkipped_of_no_open (s := { s with rest := toBracket s.rest }) hrest with h | h
    · exact h
    · rw [h, hidem]
  | case3 s hskip => exact passSkipped_of_not_skipsHere (by simpa using hskip)

/-- A closing bracket without partner is not read. -/
lemma eq_of_read_error {offset : Nat} (h : s.read = (.error offset, s')) : s' = s := by
  rw [read] at h
  split at h
  · cases h
  · split at h
    · cases h
    · split at h <;> cases h
      rfl

/-- At the end of the text no block is passed over. -/
lemma passSkipped_of_rest_eq_nil (h : s.rest = []) : s.passSkipped = s := by
  rcases passSkipped_of_no_open (s := s) (fun rest hrest => by rw [h] at hrest; cases hrest)
    with hpass | hpass
  · exact hpass
  · rw [hpass, h, toBracket_nil, ← h]

/-- **An answer that is no token is final**: it is given again, and the scan stays as it is. -/
theorem next_next (h : isToken s.next.1 = false) : s.next.2.next = s.next := by
  match hnext : s.next with
  | (.ok none, u) =>
    obtain ⟨-, rfl⟩ := of_next_end hnext
    show read (passSkipped { s.passSkipped with rest := [] }) = _
    rw [passSkipped_of_rest_eq_nil rfl]
    rfl
  | (.error offset, u) =>
    obtain rfl : u = s.passSkipped := eq_of_read_error hnext
    show read (passSkipped s.passSkipped) = _
    rw [passSkipped_passSkipped]
    exact hnext
  | (.ok (some t), u) =>
    rw [hnext] at h
    cases h

/-- A final answer is given as often as it is asked for. -/
lemma moves_replicate_next {answer : Answer} (h : s.next = (answer, s')) (hfinal : isToken answer = false)
    (n : Nat) : s'.moves (List.replicate n .next) = (List.replicate n answer, s') := by
  have hagain : s'.next = (answer, s') := by
    have hsame := next_next (s := s) (by rwa [h])
    rwa [h] at hsame
  induction n with
  | zero => rfl
  | succ n ih =>
    rw [List.replicate_succ, moves, move, hagain, ih]
    rfl

/-! ## Single moves -/

section Move

variable (s : Scanner) (m : Move)

lemma text_move : (s.move m).2.text = s.text := by
  cases m with
  | next => exact text_next s
  | push name => rfl
  | beginSkip remaining => rfl

lemma move_suffix : (s.move m).2.rest <:+ s.rest := by
  cases m with
  | next => exact next_suffix s
  | push name => exact List.suffix_refl _
  | beginSkip remaining => exact List.suffix_refl _

/-- A token is paid for with a bracket. -/
lemma countP_isToken_add_brackets_move :
    (s.move m).1.countP isToken + brackets (s.move m).2.rest ≤ brackets s.rest := by
  cases m with
  | next =>
    match hnext : s.next with
    | (.ok (some t), s') =>
      obtain ⟨passed, hpassed, hpos⟩ := exists_passed_of_next hnext
      rw [move, hnext, hpassed, brackets_append]
      exact Nat.add_le_add_right hpos _
    | (.ok none, s') =>
      have hle := brackets_le_of_suffix (next_suffix s)
      rw [hnext] at hle
      rw [move, hnext]
      simpa [isToken] using hle
    | (.error offset, s') =>
      have hle := brackets_le_of_suffix (next_suffix s)
      rw [hnext] at hle
      rw [move, hnext]
      simpa [isToken] using hle
  | push name => simp [move]
  | beginSkip remaining => simp [move]

end Move

lemma start_toByteScan (script : String) : (start script).toByteScan = ByteScan.start script := by
  rw [toByteScan, cursor]
  simp [start, ByteScan.start]

/-- The scanner on bytes makes the same move. -/
lemma move_toByteScan (hs : s.rest <:+ s.text) {rounds : Nat} (hrounds : brackets s.rest < rounds)
    (m : Move) : s.toByteScan.move rounds m = some ((s.move m).1, (s.move m).2.toByteScan) := by
  cases m with
  | next => rw [ByteScan.move, next_toByteScan hs hrounds]; rfl
  | push name => rfl
  | beginSkip remaining => rfl

/-! ## Moves one after the other -/

lemma text_moves (s : Scanner) (ms : List Move) : (s.moves ms).2.text = s.text := by
  induction ms generalizing s with
  | nil => rfl
  | cons m ms ih => exact (ih _).trans (text_move s m)

/-- Moves never go back. -/
lemma moves_suffix (s : Scanner) (ms : List Move) : (s.moves ms).2.rest <:+ s.rest := by
  induction ms generalizing s with
  | nil => exact List.suffix_refl _
  | cons m ms ih => exact (ih _).trans (move_suffix s m)

/-- **The cursor never goes back.** -/
lemma cursor_le_moves (s : Scanner) (ms : List Move) : s.cursor ≤ (s.moves ms).2.cursor := by
  obtain ⟨passed, hpassed⟩ := moves_suffix s ms
  have hsize := congrArg byteSize hpassed
  rw [byteSize_append] at hsize
  rw [cursor, cursor, text_moves]
  omega

/-- **Tokens are paid for with brackets.** -/
lemma countP_isToken_add_brackets_moves (s : Scanner) (ms : List Move) :
    (s.moves ms).1.countP isToken + brackets (s.moves ms).2.rest ≤ brackets s.rest := by
  induction ms generalizing s with
  | nil => simp [moves]
  | cons m ms ih =>
    have hmove := countP_isToken_add_brackets_move s m
    have hmoves := ih (s.move m).2
    simp only [moves, List.countP_append]
    omega

/-- **The scanner on bytes makes the same moves** and gets the same answers. -/
lemma moves_toByteScan (hs : s.rest <:+ s.text) {rounds : Nat} (hrounds : brackets s.rest < rounds)
    (ms : List Move) :
    s.toByteScan.moves rounds ms = some ((s.moves ms).1, (s.moves ms).2.toByteScan) := by
  induction ms generalizing s with
  | nil => rfl
  | cons m ms ih =>
    have hs' : (s.move m).2.rest <:+ (s.move m).2.text := by
      rw [text_move]
      exact (move_suffix s m).trans hs
    have hrounds' := Nat.lt_of_le_of_lt (brackets_le_of_suffix (move_suffix s m)) hrounds
    rw [ByteScan.moves, move_toByteScan hs hrounds, Option.bind_eq_bind, Option.bind_some]
    simp only [ih hs' hrounds', Option.bind_some]
    rfl

/-- **A scan always gets on and stays inside its text**, whatever is asked of it before.

No step on bytes goes wrong, and a token is found in at most one round more than the script has
brackets. The cursor is where a character starts or the text ends, and never goes back. Between the
places before and after a token there is a bracket, so there are no more tokens than brackets. An answer
that is no token is given again and again, and the scan stays as it is. -/
theorem moves_progress (script : String) (ms : List Move) :
    let s := ((start script).moves ms).2
    let answers := ((start script).moves ms).1
    let rounds := brackets script.toList + 1
    (ByteScan.start script).moves rounds ms = some (answers, s.toByteScan) ∧
    s.toByteScan.argText = some s.argText ∧
    s.text = Text.unifyBreaks script.toList ∧
    s.cursor ≤ byteSize s.text ∧
    String.Pos.Raw.IsValid (String.ofList s.text) ⟨s.cursor⟩ ∧
    (∀ ms', s.cursor ≤ (s.moves ms').2.cursor) ∧
    (∀ t s', s.next = (.ok (some t), s') →
      ∃ before passed behind, s.text = before ++ passed ++ behind ∧ s.cursor = byteSize before ∧
        s'.cursor = byteSize (before ++ passed) ∧ 0 < brackets passed) ∧
    answers.countP isToken ≤ brackets script.toList ∧
    ∀ answer s', s.next = (answer, s') → isToken answer = false →
      ∀ n, s'.moves (List.replicate n .next) = (List.replicate n answer, s') := by
  intro s answers rounds
  have hstart : (start script).rest <:+ (start script).text := List.suffix_refl _
  have hbrackets : brackets (start script).rest = brackets script.toList := brackets_unifyBreaks _
  have htext : s.text = Text.unifyBreaks script.toList := text_moves (start script) ms
  have hs : s.rest <:+ s.text := by
    rw [htext]
    exact moves_suffix (start script) ms
  obtain ⟨before, hbefore⟩ := exists_cutAt_cursor hs
  have hrounds : brackets (start script).rest < rounds := hbrackets ▸ Nat.lt_succ_self _
  have hcount := countP_isToken_add_brackets_moves (start script) ms
  rw [hbrackets] at hcount
  exact ⟨start_toByteScan script ▸ moves_toByteScan hstart hrounds ms, argText_toByteScan hs, htext,
    Nat.sub_le _ _, ByteScan.isSome_cutAt_iff.1 (Option.isSome_of_eq_some hbefore), s.cursor_le_moves,
    fun t s' hnext => exists_passed_in_text hs hnext, Nat.le_of_add_right_le hcount,
    fun answer s' hnext hfinal n => moves_replicate_next hnext hfinal n⟩

-- the first block is skipped; some of its letters have two bytes
example :
    (ByteScan.start "é (ü (ß)) (a)").moves 7
        [.push "x", .beginSkip 1, .next, .push "a", .next, .next] =
      some ([.ok (some (.opened "a")), .ok (some (.closed "a")), .ok none],
        { text := "é (ü (ß)) (a)".toList, cursor := 16, stack := ["x"] }) := by
  decide +kernel

end Scanner

end BracketScript
