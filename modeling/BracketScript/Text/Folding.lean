set_option autoImplicit false

/-!
# ASCII letter case

Names of template fields and their modifiers are compared without regard to the case of ASCII
letters; every other character has to agree exactly.

## Main definitions

* `BracketScript.Text.fold` — a text with its ASCII letters in lower case.
* `BracketScript.Text.sameFolded` — whether two texts agree up to the case of ASCII letters.
* `BracketScript.Text.upper` — a text with its ASCII letters in upper case.

## Main results

* `BracketScript.Text.sameFolded_iff` — agreement is equality of the folded texts.
-/

namespace BracketScript.Text

/-- The characters with ASCII letters in lower case. -/
def fold (s : String) : List Char :=
  s.toList.map Char.toLower

/-- Whether two texts agree up to the case of ASCII letters. -/
def sameFolded (s t : String) : Bool :=
  fold s == fold t

/-- The characters with ASCII letters in upper case. -/
def upper (cs : List Char) : List Char :=
  cs.map Char.toUpper

/-- Agreement is equality of the folded texts. -/
theorem sameFolded_iff {s t : String} : sameFolded s t = true ↔ fold s = fold t := by
  simp [sameFolded]

/-- A text agrees with itself. -/
@[simp]
theorem sameFolded_self (s : String) : sameFolded s s = true := by
  simp [sameFolded]

end BracketScript.Text
