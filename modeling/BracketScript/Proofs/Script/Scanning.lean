import BracketScript.Script.Run
import Mathlib.Tactic.Lemma

set_option autoImplicit false

/-!
# The scanner on any text

What holds of the scanner whatever the text is, well-bracketed or not: how it counts brackets to
pass over a block, what it leaves alone when it does, and which text and which stack it must have
had to report what it reports.

## Main results

* `BracketScript.Scanner.passSkipped_open`, `BracketScript.Scanner.passSkipped_of_no_open` — how
  blocks are passed over.
* `BracketScript.Scanner.exists_of_next_opened`, `BracketScript.Scanner.exists_of_next_closed`,
  `BracketScript.Scanner.of_next_end`, `BracketScript.Scanner.exists_of_next_error` — what is known
  when each token, the end, or a closing bracket without partner is reported. -/

namespace BracketScript.Scanner

/-! ## Characters -/

/-- A bracket is not part of a name. -/
lemma isNameChar_of_isBracket {c : Char} (h : isBracket c = true) : isNameChar c = false := by
  simp [isNameChar, h]

/-- A blank is not part of a name. -/
lemma isNameChar_of_isBlank {c : Char} (h : Text.isBlank c = true) : isNameChar c = false := by
  simp [isNameChar, h]

/-- A character of a name is no bracket. -/
lemma isBracket_of_isNameChar {c : Char} (h : isNameChar c = true) : isBracket c = false := by
  simp only [isNameChar, Bool.and_eq_true, Bool.not_eq_true'] at h
  exact h.2

/-- There are two brackets. -/
lemma eq_close_of_isBracket {c : Char} (h : isBracket c = true) (hc : c ≠ '(') : c = ')' := by
  simp only [isBracket, Bool.or_eq_true, beq_iff_eq] at h
  exact h.resolve_left hc

@[simp]
lemma toBracket_cons_open (cs : List Char) : toBracket ('(' :: cs) = '(' :: cs := rfl

@[simp]
lemma toBracket_cons_close (cs : List Char) : toBracket (')' :: cs) = ')' :: cs := rfl

@[simp]
lemma toBracket_nil : toBracket [] = [] := rfl

/-- The text from its first bracket on starts with a bracket. -/
lemma isBracket_of_toBracket {cs ds : List Char} {d : Char} (h : toBracket cs = d :: ds) :
    isBracket d = true := by
  have hhead := List.head?_dropWhile_not (! isBracket ·) cs
  rw [← toBracket, h] at hhead
  simpa using hhead

/-! ## Counting brackets -/

/-- A character that is no bracket does not count. -/
lemma afterBlock_plain {c : Char} (h : isBracket c = false) (inner : Nat) (rest : List Char) :
    afterBlock inner (c :: rest) = afterBlock inner rest := by
  simp only [isBracket, Bool.or_eq_false_iff, beq_eq_false_iff_ne] at h
  cases inner <;> simp [afterBlock, h]

lemma afterBlock_append_plain {cs : List Char} (h : ∀ c ∈ cs, isBracket c = false) (inner : Nat)
    (rest : List Char) : afterBlock inner (cs ++ rest) = afterBlock inner rest := by
  induction cs with
  | nil => rfl
  | cons c cs ih =>
    rw [List.cons_append, afterBlock_plain (h c (by simp))]
    exact ih fun d hd => h d (by simp [hd])

lemma afterBlock_open (inner : Nat) (rest : List Char) :
    afterBlock inner ('(' :: rest) = afterBlock (inner + 1) rest := by
  simp [afterBlock]

lemma afterBlock_close_zero (rest : List Char) : afterBlock 0 (')' :: rest) = rest := by
  simp [afterBlock]

lemma afterBlock_close_succ (inner : Nat) (rest : List Char) :
    afterBlock (inner + 1) (')' :: rest) = afterBlock inner rest := by
  simp [afterBlock]

/-! ## Passing over blocks -/

section PassSkipped

variable {s : Scanner}

/-- Without a skip that hits, nothing is passed over. -/
lemma passSkipped_of_not_skipsHere (h : s.skipsHere = false) : s.passSkipped = s := by
  rw [passSkipped, if_neg (by simp [h])]

/-- A block that is to be skipped is passed over, and its end is counted. -/
lemma passSkipped_open {rest : List Char} (h : s.skipsHere = true)
    (hrest : toBracket s.rest = '(' :: rest) :
    s.passSkipped = ({ s with rest := afterBlock 0 rest }.endBlock).passSkipped := by
  rw [passSkipped, if_pos h]
  split
  · next rest' heq =>
    rw [hrest, List.cons.injEq] at heq
    rw [heq.2]
  · next hne => exact absurd hrest (hne rest)

/-- If the next block is to be skipped but there is none, the scan stops before the bracket that comes. -/
lemma passSkipped_of_skipsHere (h : s.skipsHere = true)
    (hrest : ∀ rest, toBracket s.rest ≠ '(' :: rest) :
    s.passSkipped = { s with rest := toBracket s.rest } := by
  rw [passSkipped, if_pos h]
  split
  · next rest heq => exact absurd heq (hrest rest)
  · rfl

/-- Where no block comes next, only the text before the next bracket can be passed over. -/
lemma passSkipped_of_no_open (hrest : ∀ rest, toBracket s.rest ≠ '(' :: rest) :
    s.passSkipped = s ∨ s.passSkipped = { s with rest := toBracket s.rest } := by
  by_cases h : s.skipsHere = true
  · exact .inr (passSkipped_of_skipsHere h hrest)
  · exact .inl (passSkipped_of_not_skipsHere (by simpa using h))

/-- No block is opened or closed by passing over one. -/
@[simp]
lemma stack_passSkipped (s : Scanner) : s.passSkipped.stack = s.stack := by
  fun_induction passSkipped s with
  | case1 s hs rest h ih => exact ih
  | case2 s hs h => rfl
  | case3 s hs => rfl

@[simp]
lemma text_passSkipped (s : Scanner) : s.passSkipped.text = s.text := by
  fun_induction passSkipped s with
  | case1 s hs rest h ih => exact ih
  | case2 s hs h => rfl
  | case3 s hs => rfl

end PassSkipped

/-! ## What a report says about the scan -/

section Next

variable {s u : Scanner} {name : String}

/-- A block that is opened starts with the first bracket that is not skipped. -/
lemma exists_of_next_opened (h : s.next = (.ok (some (.opened name)), u)) :
    ∃ rest, toBracket s.passSkipped.rest = '(' :: rest ∧
      name = String.ofList (rest.takeWhile isNameChar) ∧
      u = { s.passSkipped with rest := rest.dropWhile isNameChar } := by
  rw [next, read] at h
  split at h
  · cases h
  · next c rest hrest =>
    split at h
    · next hc =>
      cases h
      exact ⟨rest, hc ▸ hrest, rfl, rfl⟩
    · split at h <;> cases h

/-- A block that is closed was the innermost one. -/
lemma exists_of_next_closed (h : s.next = (.ok (some (.closed name)), u)) :
    ∃ rest outer, toBracket s.passSkipped.rest = ')' :: rest ∧ s.stack = name :: outer ∧
      u = { s.passSkipped with rest := rest, stack := outer }.endBlock := by
  rw [next, read] at h
  split at h
  · cases h
  · next c rest hrest =>
    split at h
    · cases h
    · next hc =>
      split at h
      · cases h
      · next name' outer hstack =>
        cases h
        obtain rfl := eq_close_of_isBracket (isBracket_of_toBracket hrest) hc
        exact ⟨rest, outer, hrest, by rw [← hstack, stack_passSkipped], rfl⟩

/-- A block that is reported as opened is not on the stack yet. -/
lemma stack_of_next_opened (h : s.next = (.ok (some (.opened name)), u)) : u.stack = s.stack := by
  obtain ⟨rest, -, -, rfl⟩ := exists_of_next_opened h
  exact stack_passSkipped s

/-- A block that is reported as closed is taken off the stack. -/
lemma stack_of_next_closed (h : s.next = (.ok (some (.closed name)), u)) :
    s.stack = name :: u.stack := by
  obtain ⟨rest, outer, -, hstack, rfl⟩ := exists_of_next_closed h
  exact hstack

/-- At the end no bracket is left. -/
lemma of_next_end (h : s.next = (.ok none, u)) :
    toBracket s.passSkipped.rest = [] ∧ u = { s.passSkipped with rest := [] } := by
  rw [next, read] at h
  split at h
  · next hrest =>
    cases h
    exact ⟨hrest, rfl⟩
  · split at h
    · cases h
    · split at h <;> cases h

/-- A closing bracket is reported where no block is open, by its place in the text. -/
lemma exists_of_next_error {offset : Nat} (h : s.next = (.error offset, u)) :
    s.stack = [] ∧ ∃ rest, toBracket s.passSkipped.rest = ')' :: rest ∧
      offset = byteSize s.text - byteSize (')' :: rest) := by
  rw [next, read] at h
  split at h
  · cases h
  · next c rest hrest =>
    split at h
    · cases h
    · next hc =>
      split at h
      · next hstack =>
        cases h
        obtain rfl := eq_close_of_isBracket (isBracket_of_toBracket hrest) hc
        rw [stack_passSkipped] at hstack
        rw [text_passSkipped]
        exact ⟨hstack, rest, hrest, rfl⟩
      · cases h

end Next

/-! ## Entering a block -/

lemma stack_foldl_beginSkip (skips : List Nat) (s : Scanner) :
    (skips.foldl beginSkip s).stack = s.stack := by
  induction skips generalizing s with
  | nil => rfl
  | cons n skips ih => exact ih (s.beginSkip n)

lemma text_foldl_beginSkip (skips : List Nat) (s : Scanner) :
    (skips.foldl beginSkip s).text = s.text := by
  induction skips generalizing s with
  | nil => rfl
  | cons n skips ih => exact ih (s.beginSkip n)

@[simp]
lemma stack_enter (s : Scanner) (name : String) (skips : List Nat) :
    (s.enter name skips).stack = name :: s.stack :=
  stack_foldl_beginSkip skips (s.push name)

@[simp]
lemma text_enter (s : Scanner) (name : String) (skips : List Nat) :
    (s.enter name skips).text = s.text :=
  text_foldl_beginSkip skips (s.push name)

end BracketScript.Scanner
