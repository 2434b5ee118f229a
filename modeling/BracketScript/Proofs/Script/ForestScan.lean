import BracketScript.Proofs.Script.Forest

set_option autoImplicit false

/-!
# Scanning the text of a forest

What the scanner does at each place of the text of a forest: before a block, before a block that is
to be skipped, before the bracket that ends the current block, and at the end of the text. At such a
place the stack of skips has a fixed shape. There is at most one skip for the current block, in
front, and all others belong to blocks around it.

## Main definitions

* `BracketScript.Skip.due`, `BracketScript.Skip.countdown` — the skip that a block has left, and how
  the blocks inside it use it up.
* `BracketScript.Scanner.place` — a scanner whose stack of skips has that shape.

## Main results

* `BracketScript.Skip.settle_due_append` — the end of a block inside the current one counts for the
  current one, and for no other.
* `BracketScript.Scanner.next_opened`, `BracketScript.Scanner.next_skipped`,
  `BracketScript.Scanner.next_closed`, `BracketScript.Scanner.next_end` — the next token at each
  place.
-/

namespace BracketScript

/-! ## The stack of skips -/

namespace Skip

/-- The skip that the block at a depth has left, as the front of the stack. -/
def due (depth : Nat) (n? : Option Nat) : List Skip :=
  n?.toList.map fun n => ⟨depth, n⟩

/-- What a block inside leaves of the number of the block to be skipped. -/
def countdown : Option Nat → Option Nat
  | some (n + 2) => some (n + 1)
  | _ => none

@[simp]
lemma due_none (depth : Nat) : due depth none = [] := rfl

@[simp]
lemma due_some (depth n : Nat) : due depth (some n) = [⟨depth, n⟩] := rfl

@[simp]
lemma countdown_none : countdown none = none := rfl

/-- The end of a block inside the current one is nothing to the skips of the blocks around. -/
lemma settle_of_below {depth : Nat} {outer : List Skip} (h : ∀ k ∈ outer, k.depth < depth) :
    settle depth outer = outer := by
  cases outer with
  | nil => rfl
  | cons k outer =>
    have hk := h k (by simp)
    have hne : depth ≠ k.depth := by omega
    have hlt : ¬ depth < k.depth := by omega
    simp [settle, blockEnded, hne, hlt]

/-- The end of a block inside the current one counts for the current one, and for no other.

**Proof sketch.** If the count goes on, the stack is left there. If it runs out, the skip around
sees the same end of a block, but it belongs to a block further out (`settle_of_below`). -/
lemma settle_due_append {depth : Nat} {outer : List Skip} (h : ∀ k ∈ outer, k.depth < depth)
    (n? : Option Nat) :
    settle depth (due depth n? ++ outer) = due depth (countdown n?) ++ outer := by
  match n? with
  | none => exact settle_of_below h
  | some 0 => simpa [settle, blockEnded, countdown] using settle_of_below h
  | some 1 => simpa [settle, blockEnded, countdown] using settle_of_below h
  | some (n + 2) => simp [settle, blockEnded, countdown]

/-- A skip is over with the block that left it. -/
lemma settle_due_succ_append (depth : Nat) (n? : Option Nat) (skips : List Skip) :
    settle depth (due (depth + 1) n? ++ skips) = settle depth skips := by
  cases n? with
  | none => rfl
  | some n => simp [settle, blockEnded]

end Skip

/-- Leaving a later block out of a row leaves the first one in. -/
lemma Forest.skipping_cons_of_ne_one {n? : Option Nat} (hn : n? ≠ some 1) (head : Head)
    (children : Forest) (after : Gap) (siblings : Forest) :
    (cons head children after siblings).skipping n? =
      cons head children after (siblings.skipping (Skip.countdown n?)) := by
  match n? with
  | none => rfl
  | some 0 => simp [Skip.countdown]
  | some 1 => exact absurd rfl hn
  | some (n + 2) => exact without_cons_of_ne_one (by omega) head children after siblings

namespace Scanner

/-- A scanner in the text of a forest: the blocks that are open, the number of the block to be
skipped in the current one, the skips of the blocks around, and the text ahead. -/
def place (text : List Char) (stack : List String) (n? : Option Nat) (outer : List Skip)
    (rest : List Char) : Scanner where
  text := text
  rest := rest
  stack := stack
  skips := Skip.due stack.length n? ++ outer

variable {text rest : List Char} {stack : List String} {n? m? : Option Nat} {outer : List Skip}
  {name : String}

/-- Inside a block that is entered its own number, if it has one, comes to the front. -/
lemma enter_place :
    (place text stack n? outer rest).enter name m?.toList =
      place text (name :: stack) m? (Skip.due stack.length n? ++ outer) rest := by
  cases m? <;> rfl

/-- The skip of a block belongs to a block around those inside it. -/
lemma below_due_append (h : ∀ k ∈ outer, k.depth < stack.length) :
    ∀ k ∈ Skip.due stack.length n? ++ outer, k.depth < (name :: stack).length := by
  intro k hk
  rw [List.length_cons]
  rcases List.mem_append.1 hk with hk | hk
  · cases n? with
    | none => simp at hk
    | some n =>
      obtain rfl : k = ⟨stack.length, n⟩ := by simpa using hk
      exact Nat.lt_succ_self _
  · exact Nat.lt_succ_of_lt (h k hk)

/-- The next block is skipped exactly if the number for the current block is one. -/
lemma skipsHere_place_iff (h : ∀ k ∈ outer, k.depth < stack.length) :
    (place text stack n? outer rest).skipsHere = true ↔ n? = some 1 := by
  cases n? with
  | some n => simp [skipsHere, skip?, place, depth, Skip.hits]
  | none =>
    cases outer with
    | nil => simp [skipsHere, skip?, place]
    | cons k outer =>
      have hk := h k (by simp)
      have hne : k.depth ≠ stack.length := by omega
      simp [skipsHere, skip?, place, depth, Skip.hits, hne]

/-! ## Places in the text of a forest -/

/-- Before a block that is not skipped its opening is reported. -/
lemma next_opened (hbelow : ∀ k ∈ outer, k.depth < stack.length) (hn : n? ≠ some 1) (gap : Gap)
    (head : Head) (children : Forest) :
    (place text stack n? outer (gap.chars ++
        '(' :: (head.nameChars ++ (head.args.chars ++ (children.text ++ ')' :: rest))))).next =
      (.ok (some (.opened head.name)),
        place text stack n? outer (head.args.chars ++ (children.text ++ ')' :: rest))) := by
  have hskip (cs : List Char) : (place text stack n? outer cs).skipsHere = false := by
    rw [← Bool.not_eq_true, skipsHere_place_iff hbelow]
    exact hn
  obtain ⟨c, cs, hc, hcs⟩ := children.exists_text_append (c := ')') (by decide) rest
  rw [next, passSkipped_of_not_skipsHere (hskip _), read]
  simp only [place, gap.toBracket_append, toBracket_cons_open, ↓reduceIte, hcs,
    head.takeWhile_isNameChar hc, head.dropWhile_isNameChar hc, Head.name]

/-- Inside a block that was just opened the argument text is that of its head. -/
lemma argText_place (head : Head) (children : Forest) :
    (place text stack n? outer (head.args.chars ++ (children.text ++ ')' :: rest))).argText =
      head.argText := by
  obtain ⟨c, cs, hc, hcs⟩ := children.exists_text_append (c := ')') (by decide) rest
  rw [argText, place, hcs, head.args.takeWhile_append hc, Head.argText]

/-- A block that is to be skipped might as well not be there. -/
lemma next_skipped (hbelow : ∀ k ∈ outer, k.depth < stack.length) (gap : Gap) (head : Head)
    (children : Forest) :
    (place text stack (some 1) outer (gap.chars ++
        '(' :: (head.nameChars ++ (head.args.chars ++ (children.text ++ ')' :: rest))))).next =
      (place text stack none outer rest).next := by
  have hopen : toBracket (gap.chars ++
      '(' :: (head.nameChars ++ (head.args.chars ++ (children.text ++ ')' :: rest)))) =
      '(' :: (head.nameChars ++ (head.args.chars ++ (children.text ++ ')' :: rest))) := by
    rw [gap.toBracket_append, toBracket_cons_open]
  have hskips : Skip.settle stack.length (Skip.due stack.length (some 1) ++ outer) = outer :=
    Skip.settle_due_append hbelow (some 1)
  rw [next, passSkipped_open ((skipsHere_place_iff hbelow).2 rfl) hopen, Forest.afterBlock_text,
    next]
  simp only [place, endBlock, depth, hskips, Skip.due_none, List.nil_append]

/-- Before the bracket that ends the current block its end is reported. The skip of that block is
dropped, and the end counts once for the block around it. -/
lemma next_closed (hbelow : ∀ k ∈ outer, k.depth < stack.length) (gap : Gap) :
    (place text (name :: stack) m? (Skip.due stack.length n? ++ outer)
        (gap.chars ++ ')' :: rest)).next =
      (.ok (some (.closed name)), place text stack (Skip.countdown n?) outer rest) := by
  have hclose : toBracket (gap.chars ++ ')' :: rest) = ')' :: rest := by
    rw [gap.toBracket_append, toBracket_cons_close]
  have hskips : Skip.settle stack.length
      (Skip.due (stack.length + 1) m? ++ (Skip.due stack.length n? ++ outer)) =
      Skip.due stack.length (Skip.countdown n?) ++ outer := by
    rw [Skip.settle_due_succ_append, Skip.settle_due_append hbelow]
  have hpass := passSkipped_of_no_open (s := place text (name :: stack) m?
    (Skip.due stack.length n? ++ outer) (gap.chars ++ ')' :: rest)) (by simp [place, hclose])
  rw [next]
  rcases hpass with hpass | hpass <;> rw [hpass, read] <;>
    simp [place, hclose, endBlock, depth, hskips]

/-- At the end of the text there is no token. -/
lemma next_end (gap : Gap) :
    (place text stack n? outer gap.chars).next = (.ok none, place text stack n? outer []) := by
  have hnil : toBracket gap.chars = [] := by
    rw [← List.append_nil gap.chars, gap.toBracket_append, toBracket_nil]
  have hpass := passSkipped_of_no_open (s := place text stack n? outer gap.chars)
    (by simp [place, hnil])
  rw [next]
  rcases hpass with hpass | hpass <;> rw [hpass, read] <;> simp [place, hnil]

end Scanner

/-- A whole script is scanned from its start, with nothing open and nothing to be skipped. -/
lemma Script.start_written_eq_place (s : Script) :
    Scanner.start s.written =
      Scanner.place s.text [] none [] (s.before.chars ++ s.blocks.text) :=
  s.start_written

end BracketScript
