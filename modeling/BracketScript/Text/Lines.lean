set_option autoImplicit false

/-!
# Lines

## Main definitions

* `BracketScript.Text.unifyBreaks` — every line break (`CR LF`, `CR` or `LF`) becomes one `LF`.
* `BracketScript.Text.lines` — the lines of a text; a `CR` before the `LF` belongs to the break.

## Main results

* `BracketScript.Text.unifyBreaks_eq_self` — a text without `CR` is left alone.
-/

namespace BracketScript.Text

/-- Writes every line break as a single line feed. -/
def unifyBreaks : List Char → List Char
  | [] => []
  | '\r' :: '\n' :: rest => '\n' :: unifyBreaks rest
  | c :: rest => (if c = '\r' then '\n' else c) :: unifyBreaks rest

/-- A text without carriage returns is left alone. -/
theorem unifyBreaks_eq_self {cs : List Char} (h : '\r' ∉ cs) : unifyBreaks cs = cs := by
  fun_induction unifyBreaks cs with
  | case1 => rfl
  | case2 rest ih => simp at h
  | case3 c rest hne ih =>
    simp only [List.mem_cons, not_or] at h
    rw [ih h.2, if_neg (fun hc => h.1 hc.symm)]

/-- The lines of a text. A line ends with a line feed or with the text, a carriage return right
before the line feed is part of the break, and a last line feed opens no further line. -/
def lines : List Char → List (List Char)
  | [] => []
  | '\n' :: rest => [] :: lines rest
  | '\r' :: '\n' :: rest => [] :: lines rest
  | c :: rest =>
    match lines rest with
    | [] => [[c]]
    | line :: others => (c :: line) :: others

end BracketScript.Text
