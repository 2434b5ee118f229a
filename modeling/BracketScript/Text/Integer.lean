set_option autoImplicit false

/-!
# Decimal integers

A literal is an optional single sign followed by one or more ASCII digits, and it has to fit into a
signed word of 64 bits. A word is written with as few digits as possible and with a sign only below
zero.

## Main definitions

* `BracketScript.Text.digits?` — the number written by a non-empty run of digits.
* `BracketScript.Text.int64?` — the word written by a literal.
* `BracketScript.Text.decimal` — the decimal text of a word.

## Main results

* `BracketScript.Text.int64?_decimal` — a word is read back from its decimal text.
-/

namespace BracketScript.Text

/-- The number written by one or more ASCII digits. -/
def digits? (cs : List Char) : Option Nat :=
  if cs ≠ [] ∧ cs.all Char.isDigit then some (Nat.ofDigitChars 10 cs 0) else none

/-- The integer written by an optional sign and one or more digits. -/
def integer? : List Char → Option Int
  | '-' :: cs => (digits? cs).map fun (n : Nat) => -(n : Int)
  | '+' :: cs => (digits? cs).map fun (n : Nat) => (n : Int)
  | cs => (digits? cs).map fun (n : Nat) => (n : Int)

/-- The word written by a literal; a number outside the range of words has none. -/
def int64? (s : String) : Option Int64 :=
  (integer? s.toList).bind fun n =>
    if -9223372036854775808 ≤ n ∧ n < 9223372036854775808 then some (Int64.ofInt n) else none

/-- The decimal digits of an integer, with a sign only below zero. -/
def integer (n : Int) : List Char :=
  if n < 0 then '-' :: Nat.toDigits 10 n.natAbs else Nat.toDigits 10 n.natAbs

/-- The decimal text of a word. -/
def decimal (n : Int64) : String :=
  String.ofList (integer n.toInt)

/-! ## Reading back -/

/-- A number is read back from its digits. -/
theorem digits?_toDigits (n : Nat) : digits? (Nat.toDigits 10 n) = some n := by
  have hall : (Nat.toDigits 10 n).all Char.isDigit = true := by
    rw [List.all_eq_true]
    intro c hc
    exact Nat.isDigit_of_mem_toDigits (by decide) (by decide) hc
  rw [digits?, if_pos ⟨Nat.toDigits_ne_nil, hall⟩, Nat.ofDigitChars_toDigits (by decide) (by decide)]

/-- Without a sign in front, an integer is a run of digits. -/
theorem integer?_of_isDigit {cs : List Char} (h : ∀ c ∈ cs, c.isDigit = true) :
    integer? cs = (digits? cs).map fun (n : Nat) => (n : Int) := by
  unfold integer?
  split
  · exact absurd (h '-' (by simp)) (by decide)
  · exact absurd (h '+' (by simp)) (by decide)
  · rfl

/-- An integer is read back from its decimal digits. -/
theorem integer?_integer (n : Int) : integer? (integer n) = some n := by
  unfold integer
  split
  · next hneg =>
    have habs : -(n.natAbs : Int) = n := by omega
    rw [integer?, digits?_toDigits, Option.map_some, habs]
  · next hneg =>
    have habs : (n.natAbs : Int) = n := by omega
    rw [integer?_of_isDigit fun c hc => Nat.isDigit_of_mem_toDigits (by decide) (by decide) hc]
    rw [digits?_toDigits, Option.map_some, habs]

/-- A word is read back from its decimal text. -/
theorem int64?_decimal (n : Int64) : int64? (decimal n) = some n := by
  have hlo : -9223372036854775808 ≤ n.toInt := Int64.le_toInt n
  have hhi : n.toInt < 9223372036854775808 := Int64.toInt_lt n
  simp [int64?, decimal, integer?_integer, hlo, hhi]

/-- A word that is read has the value that the literal writes. -/
theorem integer?_of_int64?_eq_some {s : String} {n : Int64} (h : int64? s = some n) :
    integer? s.toList = some n.toInt := by
  simp only [int64?, Option.bind_eq_some_iff] at h
  obtain ⟨m, hm, hn⟩ := h
  split at hn
  · next hrange =>
    cases hn
    rw [hm, Int64.toInt_ofInt_of_le hrange.1 hrange.2]
  · cases hn

end BracketScript.Text
