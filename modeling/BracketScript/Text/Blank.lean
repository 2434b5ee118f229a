set_option autoImplicit false

/-!
# Blanks and white space

Two classes of characters separate words. Scripts and argument texts are cut at the five ASCII
*blanks*; values and lines lose the *white space* of the Unicode property at both ends.

## Main definitions

* `BracketScript.Text.isBlank` — space, tab, line feed, form feed and carriage return.
* `BracketScript.Text.isSpace` — the Unicode property `White_Space`.
* `BracketScript.Text.trim` — a text without the white space at its two ends.

## Main results

* `BracketScript.Text.isSpace_of_isBlank` — every blank is white space.
* `BracketScript.Text.trimmed_append` — trimming takes a stretch of white space off either end.
-/

namespace BracketScript.Text

/-- The ASCII blanks; the vertical tab is not one of them. -/
def isBlank (c : Char) : Bool :=
  c == ' ' || c == '\t' || c == '\n' || c == '\x0c' || c == '\r'

/-- The characters of the Unicode property `White_Space`, as ranges of code points. -/
def spaceRanges : List (Nat × Nat) :=
  [(0x09, 0x0d), (0x20, 0x20), (0x85, 0x85), (0xa0, 0xa0), (0x1680, 0x1680), (0x2000, 0x200a),
    (0x2028, 0x2029), (0x202f, 0x202f), (0x205f, 0x205f), (0x3000, 0x3000)]

/-- Whether a character has the Unicode property `White_Space`. -/
def isSpace (c : Char) : Bool :=
  spaceRanges.any fun (lo, hi) => lo ≤ c.toNat && c.toNat ≤ hi

/-- Every blank is white space. -/
theorem isSpace_of_isBlank {c : Char} (h : isBlank c = true) : isSpace c = true := by
  simp only [isBlank, Bool.or_eq_true, beq_iff_eq] at h
  rcases h with (((rfl | rfl) | rfl) | rfl) | rfl <;> decide

/-- The characters left when white space is taken off both ends. -/
def trimmed (cs : List Char) : List Char :=
  ((cs.dropWhile isSpace).reverse.dropWhile isSpace).reverse

/-- A text without the white space at its two ends. -/
def trim (s : String) : String :=
  String.ofList (trimmed s.toList)

/-- Trimming takes a stretch of white space off either end. -/
theorem trimmed_append {before cs after : List Char} (hb : ∀ c ∈ before, isSpace c = true)
    (ha : ∀ c ∈ after, isSpace c = true) (hne : cs ≠ []) (hfirst : isSpace (cs.head hne) = false)
    (hlast : isSpace (cs.getLast hne) = false) : trimmed (before ++ cs ++ after) = cs := by
  have hdrop : (before ++ cs ++ after).dropWhile isSpace = cs ++ after := by
    rw [List.append_assoc, List.dropWhile_append_of_pos hb]
    cases cs with
    | nil => exact absurd rfl hne
    | cons c r => simp_all
  have hrev : (cs ++ after).reverse.dropWhile isSpace = cs.reverse := by
    rw [List.reverse_append, List.dropWhile_append_of_pos (by simpa using ha)]
    have hhead : cs.reverse ≠ [] := by simpa using hne
    cases hr : cs.reverse with
    | nil => exact absurd hr hhead
    | cons c r =>
      have hc : cs.getLast hne = c := by
        simp [← List.head_reverse hhead, hr]
      rw [List.dropWhile_cons_of_neg (by simp [← hc, hlast])]
  rw [trimmed, hdrop, hrev, List.reverse_reverse]

end BracketScript.Text
