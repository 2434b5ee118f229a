import BracketScript.Proofs.Script.Scanning

set_option autoImplicit false

/-!
# Forests of blocks

A scanner never sees the tree that a well-bracketed script is the text of. Here that tree is a
datatype: a *forest* is a row of blocks, each with a head (its name and its argument text), a forest
of blocks inside it, and the text between its closing bracket and whatever comes next. What makes
such a tree readable, and nothing else, is part of the types: no stray brackets, a blank between the
name and the argument text, line breaks that are unified.

## Main definitions

* `BracketScript.Gap` — a text between two brackets.
* `BracketScript.Head` — the name and the argument text of a block.
* `BracketScript.Forest`, `BracketScript.Script` — rows of blocks, and a whole script.
* `BracketScript.Forest.text`, `BracketScript.Script.text` — how they are written.
* `BracketScript.Forest.without` — a row of blocks without one of them.

## Main results

* `BracketScript.Forest.afterBlock_text` — counting brackets passes over exactly one block.
* `BracketScript.Head.takeWhile_isNameChar`, `BracketScript.Head.takeWhile_args` — a head is read
  back as it was written.
* `BracketScript.Script.start_written` — a script is scanned as it is written.
-/

namespace BracketScript

/-! ## Texts between brackets -/

/-- A text without brackets and with unified line breaks. -/
structure Gap where
  /-- The characters. -/
  chars : List Char
  /-- There is no bracket among them. -/
  plain : ∀ c ∈ chars, Scanner.isBracket c = false
  /-- There is no carriage return among them. -/
  unified : '\r' ∉ chars

/-- What stands between the opening bracket of a block and the next bracket. -/
structure Head where
  /-- The characters of the name. -/
  nameChars : List Char
  /-- The argument text. -/
  args : Gap
  /-- No blank and no bracket is part of a name. -/
  named : ∀ c ∈ nameChars, Scanner.isNameChar c = true
  /-- An argument text is set off from the name by a blank. -/
  parted : ∀ c ∈ args.chars.head?, Text.isBlank c = true

namespace Gap

/-- The first bracket after a gap is the first bracket of what follows. -/
lemma toBracket_append (g : Gap) (cs : List Char) :
    Scanner.toBracket (g.chars ++ cs) = Scanner.toBracket cs := by
  refine List.dropWhile_append_of_pos fun c hc => ?_
  simp [g.plain c hc]

/-- A gap goes up to the bracket that follows it. -/
lemma takeWhile_append (g : Gap) {c : Char} (hc : Scanner.isBracket c = true) (cs : List Char) :
    (g.chars ++ c :: cs).takeWhile (! Scanner.isBracket ·) = g.chars := by
  rw [List.takeWhile_append_of_pos fun d hd => by simp [g.plain d hd]]
  simp [hc]

end Gap

namespace Head

/-- The name as the scanner reports it. -/
def name (h : Head) : String :=
  String.ofList h.nameChars

/-- The argument text as the scanner reports it. -/
def argText (h : Head) : String :=
  String.ofList h.args.chars

/-- What follows a name in the text of a block does not go on with it. -/
lemma head_args_not_isNameChar (h : Head) {c d : Char} {cs ds : List Char}
    (hc : Scanner.isBracket c = true) (heq : h.args.chars ++ c :: cs = d :: ds) :
    Scanner.isNameChar d = false := by
  cases hargs : h.args.chars with
  | nil =>
    rw [hargs, List.nil_append, List.cons.injEq] at heq
    exact Scanner.isNameChar_of_isBracket (heq.1 ▸ hc)
  | cons a as =>
    rw [hargs, List.cons_append, List.cons.injEq] at heq
    have hblank := h.parted a (by simp [hargs])
    exact Scanner.isNameChar_of_isBlank (heq.1 ▸ hblank)

/-- The name is read back. -/
lemma takeWhile_isNameChar (h : Head) {c : Char} (hc : Scanner.isBracket c = true)
    (cs : List Char) :
    (h.nameChars ++ (h.args.chars ++ c :: cs)).takeWhile Scanner.isNameChar = h.nameChars := by
  rw [List.takeWhile_append_of_pos h.named]
  cases heq : h.args.chars ++ c :: cs with
  | nil => simp
  | cons d ds => simp [h.head_args_not_isNameChar hc heq]

/-- Behind the name the argument text begins. -/
lemma dropWhile_isNameChar (h : Head) {c : Char} (hc : Scanner.isBracket c = true)
    (cs : List Char) :
    (h.nameChars ++ (h.args.chars ++ c :: cs)).dropWhile Scanner.isNameChar =
      h.args.chars ++ c :: cs := by
  rw [List.dropWhile_append_of_pos h.named]
  cases heq : h.args.chars ++ c :: cs with
  | nil => simp
  | cons d ds => simp [h.head_args_not_isNameChar hc heq]

/-- A head has no bracket in it. -/
lemma plain (h : Head) : ∀ c ∈ h.nameChars ++ h.args.chars, Scanner.isBracket c = false := by
  intro c hc
  rcases List.mem_append.1 hc with hc | hc
  · exact Scanner.isBracket_of_isNameChar (h.named c hc)
  · exact h.args.plain c hc

/-- A head has no carriage return in it. -/
lemma unified (h : Head) : '\r' ∉ h.nameChars ++ h.args.chars := by
  intro hc
  rcases List.mem_append.1 hc with hc | hc
  · exact absurd (h.named _ hc) (by decide)
  · exact h.args.unified hc

end Head

/-! ## Forests -/

/-- A row of blocks. Each has the blocks inside it and the text after it. -/
inductive Forest where
  /-- No block. -/
  | nil
  /-- A block, and the row after it. -/
  | cons (head : Head) (children : Forest) (after : Gap) (siblings : Forest)

namespace Forest

/-- The text of a row of blocks. -/
def text : Forest → List Char
  | nil => []
  | cons head children after siblings =>
    '(' :: (head.nameChars ++ (head.args.chars ++
      (children.text ++ ')' :: (after.chars ++ siblings.text))))

/-- The number of blocks, inner ones included. -/
def size : Forest → Nat
  | nil => 0
  | cons _ children _ siblings => children.size + siblings.size + 1

/-- The row without its `n`-th block, counted from one; the blocks inside that one go with it. -/
def without : Forest → Nat → Forest
  | nil, _ => nil
  | cons _ _ _ siblings, 1 => siblings
  | cons head children after siblings, n => cons head children after (siblings.without (n - 1))

/-- The row without the block of a given number, or the whole row. -/
def skipping (f : Forest) (n? : Option Nat) : Forest :=
  n?.elim f f.without

/-- No block has the number zero. -/
@[simp]
lemma without_zero (f : Forest) : f.without 0 = f := by
  induction f with
  | nil => rfl
  | cons head children after siblings _ ih => simp [without, ih]

@[simp]
lemma without_cons_one (head : Head) (children : Forest) (after : Gap) (siblings : Forest) :
    (cons head children after siblings).without 1 = siblings := rfl

lemma without_cons_of_ne_one {n : Nat} (hn : n ≠ 1) (head : Head) (children : Forest)
    (after : Gap) (siblings : Forest) :
    (cons head children after siblings).without n =
      cons head children after (siblings.without (n - 1)) := by
  rw [without]
  exact fun h => hn h

@[simp]
lemma skipping_none (f : Forest) : f.skipping none = f := rfl

@[simp]
lemma skipping_some (f : Forest) (n : Nat) : f.skipping (some n) = f.without n := rfl

/-- Leaving a block out does not make more blocks. -/
lemma size_without_le (f : Forest) (n : Nat) : (f.without n).size ≤ f.size := by
  induction f generalizing n with
  | nil => exact Nat.le_refl _
  | cons head children after siblings _ ih =>
    by_cases hn : n = 1
    · subst hn
      simp only [without_cons_one, size]
      omega
    · have := ih (n - 1)
      simp only [without_cons_of_ne_one hn, size]
      omega

lemma size_skipping_le (f : Forest) (n? : Option Nat) : (f.skipping n?).size ≤ f.size := by
  cases n? with
  | none => exact Nat.le_refl _
  | some n => exact f.size_without_le n

/-- The text of a row starts with a bracket, or it is the next thing's bracket that comes. -/
lemma exists_text_append (f : Forest) {c : Char} (hc : Scanner.isBracket c = true)
    (cs : List Char) :
    ∃ d ds, Scanner.isBracket d = true ∧ f.text ++ c :: cs = d :: ds := by
  cases f with
  | nil => exact ⟨c, cs, hc, rfl⟩
  | cons head children after siblings => exact ⟨'(', _, by decide, rfl⟩

/-- The text of a row has unified line breaks. -/
lemma unified_text (f : Forest) : '\r' ∉ f.text := by
  induction f with
  | nil => simp [text]
  | cons head children after siblings ihc ihs =>
    have hhead := head.unified
    have hafter := after.unified
    simp only [List.mem_append, not_or] at hhead
    simp [text, hhead, hafter, ihc, ihs]

/-! ### Passing over blocks -/

/-- A row of whole blocks changes no bracket count.

**Proof sketch.** Induction on the row. The opening bracket of the first block raises the count, its
head does not matter, the row inside it leaves the count alone, and its closing bracket lowers it
again; the count cannot have been at zero there. -/
lemma afterBlock_text_append (f : Forest) (inner : Nat) (rest : List Char) :
    Scanner.afterBlock inner (f.text ++ rest) = Scanner.afterBlock inner rest := by
  induction f generalizing inner rest with
  | nil => rfl
  | cons head children after siblings ihc ihs =>
    simp only [text, List.cons_append, List.append_assoc]
    rw [Scanner.afterBlock_open, ← List.append_assoc, Scanner.afterBlock_append_plain head.plain,
      ihc, Scanner.afterBlock_close_succ, Scanner.afterBlock_append_plain after.plain, ihs]

/-- Counting brackets from inside a block leads behind its closing bracket. -/
lemma afterBlock_text (head : Head) (children : Forest) (rest : List Char) :
    Scanner.afterBlock 0 (head.nameChars ++ (head.args.chars ++ (children.text ++ ')' :: rest))) =
      rest := by
  rw [← List.append_assoc, Scanner.afterBlock_append_plain head.plain, afterBlock_text_append,
    Scanner.afterBlock_close_zero]

end Forest

/-! ## Scripts -/

/-- A script: the text before the first block, and the blocks. -/
structure Script where
  /-- The text before the first block. -/
  before : Gap
  /-- The blocks. -/
  blocks : Forest

namespace Script

/-- The characters of a script. -/
def text (s : Script) : List Char :=
  s.before.chars ++ s.blocks.text

/-- A script as it is run. -/
def written (s : Script) : String :=
  String.ofList s.text

/-- A script is scanned as it is written. -/
lemma start_written (s : Script) :
    Scanner.start s.written = { text := s.text, rest := s.text } := by
  have hunified : '\r' ∉ s.text := by
    simp [text, s.before.unified, s.blocks.unified_text]
  simp only [Scanner.start, written, String.toList_ofList, Text.unifyBreaks_eq_self hunified]

end Script

end BracketScript
