import BracketScript.Text.Blank

set_option autoImplicit false

/-!
# Words of an argument text

An argument text is cut into words at blanks and equals signs. Double quotes group: between two of
them nothing separates, and the quotes themselves are dropped. There is no escape character, and
quotes may open and close inside a word.

## Main definitions

* `BracketScript.Word` — a word, with the mark whether any part of it was quoted.
* `BracketScript.Word.split?` — the words of a text, if its quotes are closed.

## Main results

* `BracketScript.Word.scan_append_plain` — characters that neither separate nor quote extend the
  word they follow.
-/

namespace BracketScript

/-- A word of an argument text. -/
structure Word where
  /-- The characters, without quotes. -/
  text : String
  /-- Whether any part of the word was between quotes. -/
  quoted : Bool
deriving DecidableEq, Repr, Inhabited

namespace Word

/-- The characters that end a word outside quotes. -/
def isSeparator (c : Char) : Bool :=
  Text.isBlank c || c == '='

/-- Puts a finished word in front of the words after it; without characters and quotes there is no
word. -/
def finish (word : List Char) (quoted : Bool) (words : List Word) : List Word :=
  if word.isEmpty && !quoted then words else ⟨String.ofList word, quoted⟩ :: words

@[simp]
theorem finish_nil : finish [] false = id := rfl

@[simp]
theorem finish_quoted (word : List Char) :
    finish word true = (⟨String.ofList word, true⟩ :: ·) := by
  funext words
  simp [finish]

theorem finish_of_ne_nil {word : List Char} (h : word ≠ []) (quoted : Bool) :
    finish word quoted = (⟨String.ofList word, quoted⟩ :: ·) := by
  funext words
  simp [finish, h]

/-- The words of a text that is read with `word` begun, inside quotes if `inside` holds, and with a
quote in the word so far if `quoted` holds. There are none if the last quote is left open. -/
def scan (inside quoted : Bool) (word : List Char) : List Char → Option (List Word)
  | [] => if inside then none else some (finish word quoted [])
  | c :: rest =>
    if c = '"' then scan (!inside) true word rest
    else if !inside && isSeparator c then (scan false false [] rest).map (finish word quoted)
    else scan inside quoted (word ++ [c]) rest

/-- The words of an argument text. -/
def split? (text : String) : Option (List Word) :=
  scan false false [] text.toList

/-- The texts of the words of an argument text. -/
def texts? (text : String) : Option (List String) :=
  (split? text).map fun words => words.map Word.text

/-- Characters that neither separate nor quote extend the word they follow. -/
theorem scan_append_plain {inside quoted : Bool} {word plain rest : List Char}
    (h : ∀ c ∈ plain, c ≠ '"' ∧ (inside = true ∨ isSeparator c = false)) :
    scan inside quoted word (plain ++ rest) = scan inside quoted (word ++ plain) rest := by
  induction plain generalizing word with
  | nil => simp
  | cons c plain ih =>
    obtain ⟨hq, hs⟩ := h c (by simp)
    have hsep : (!inside && isSeparator c) = false := by
      rcases hs with hs | hs <;> simp [hs]
    rw [List.cons_append, scan, if_neg hq, if_neg (by simp [hsep]),
      ih fun d hd => h d (by simp [hd])]
    simp

end Word

end BracketScript
