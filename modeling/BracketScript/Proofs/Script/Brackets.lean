import BracketScript.Script.Scanner
import Mathlib.Tactic.Lemma

set_option autoImplicit false

/-!
# Brackets with and without partners

Which brackets of a text have a partner is a matter of the text alone. It is said here by a grammar,
without a scanner and without runs: a text is balanced, or it is a balanced text followed by a
closing bracket that has no partner, or it falls into balanced texts with opening brackets between
them that have none.

## Main definitions

* `BracketScript.Balanced` — every bracket has a partner.
* `BracketScript.Unclosed` — the names behind the opening brackets that have no partner, where every
  closing bracket has one.
* `BracketScript.unpaired` — the brackets without partner, computed with a stack of names.

## Main results

* `BracketScript.balanced_or_stray_or_unclosed` — there is no other case.
* `BracketScript.balanced_of_unpaired`, `BracketScript.stray_of_unpaired`,
  `BracketScript.unclosed_of_unpaired` — what is computed with the stack is right.
-/

namespace BracketScript

open Scanner (isBracket isNameChar)

/-! ## The grammar -/

/-- The name that stands behind an opening bracket. -/
def nameBehind (cs : List Char) : String :=
  String.ofList (cs.takeWhile isNameChar)

/-- Every bracket has a partner. -/
inductive Balanced : List Char → Prop
  /-- The empty text. -/
  | nil : Balanced []
  /-- A character that is no bracket. -/
  | plain {c : Char} {cs : List Char} (hc : isBracket c = false) (h : Balanced cs) :
    Balanced (c :: cs)
  /-- A pair of brackets. -/
  | block {inner rest : List Char} (hi : Balanced inner) (hr : Balanced rest) :
    Balanced ('(' :: (inner ++ ')' :: rest))

/-- Every closing bracket has a partner, and these are the names behind the opening brackets that
have none, outermost first. -/
inductive Unclosed : List Char → List String → Prop
  /-- Every bracket has a partner. -/
  | nil {cs : List Char} (h : Balanced cs) : Unclosed cs []
  /-- The first opening bracket without partner, and what comes behind it. -/
  | cons {before rest : List Char} {names : List String} (hb : Balanced before)
    (hr : Unclosed rest names) : Unclosed (before ++ '(' :: rest) (nameBehind rest :: names)

lemma Balanced.append {cs ds : List Char} (hc : Balanced cs) (hd : Balanced ds) :
    Balanced (cs ++ ds) := by
  induction hc with
  | nil => exact hd
  | plain hc _ ih => exact .plain hc ih
  | block hi _ _ ih =>
    rw [List.cons_append, List.append_assoc, List.cons_append]
    exact .block hi ih

/-- A balanced text in front changes nothing. -/
lemma Unclosed.append_left {cs ds : List Char} {names : List String} (hc : Balanced cs)
    (hd : Unclosed ds names) : Unclosed (cs ++ ds) names := by
  cases hd with
  | nil hd => exact .nil (hc.append hd)
  | cons hb hr =>
    rw [← List.append_assoc]
    exact .cons (hc.append hb) hr

/-- A text is balanced, or it has a first closing bracket without partner, or it has only opening
brackets without partner. -/
def Classified (cs : List Char) : Prop :=
  Balanced cs ∨ (∃ before after, Balanced before ∧ cs = before ++ ')' :: after) ∨
    ∃ name names, Unclosed cs (name :: names)

/-- A balanced text in front changes nothing. -/
lemma Classified.append_left {cs ds : List Char} (hc : Balanced cs) (hd : Classified ds) :
    Classified (cs ++ ds) := by
  rcases hd with hd | ⟨before, after, hb, rfl⟩ | ⟨name, names, hd⟩
  · exact .inl (hc.append hd)
  · exact .inr (.inl ⟨cs ++ before, after, hc.append hb, by rw [List.append_assoc]⟩)
  · exact .inr (.inr ⟨name, names, hd.append_left hc⟩)

/-- **There is no other case.**

**Proof sketch.** Strong induction on the length. Behind an opening bracket the rest of the text is
classified by the induction hypothesis. If it is balanced or only has opening brackets without
partner, then the bracket has no partner either. If its first closing bracket without partner is
found, then that one is the partner, and the induction hypothesis applies again behind it. -/
lemma balanced_or_stray_or_unclosed (cs : List Char) : Classified cs := by
  induction hn : cs.length using Nat.strongRecOn generalizing cs with
  | ind n ih =>
    cases cs with
    | nil => exact .inl .nil
    | cons c cs =>
      have hcs : Classified cs := ih cs.length (by simp [← hn]) cs rfl
      by_cases hopen : c = '('
      · subst hopen
        rcases hcs with hb | ⟨inner, after, hi, rfl⟩ | ⟨name, names, hu⟩
        · exact .inr (.inr ⟨nameBehind cs, [], .cons .nil (.nil hb)⟩)
        · -- the bracket found is the partner, and the search goes on behind it
          have hafter : Classified after := by
            refine ih after.length ?_ after rfl
            simp only [List.length_cons, List.length_append] at hn
            omega
          have hblock : Balanced ('(' :: (inner ++ [')'])) := .block hi .nil
          simpa using hafter.append_left hblock
        · exact .inr (.inr ⟨nameBehind cs, name :: names, .cons .nil hu⟩)
      · by_cases hclose : c = ')'
        · subst hclose
          exact .inr (.inl ⟨[], cs, .nil, rfl⟩)
        · have hplain : isBracket c = false := by simp [Scanner.isBracket, hopen, hclose]
          exact hcs.append_left (.plain hplain .nil)

/-! ## The brackets without partner, computed -/

/-- Reads a text with some blocks open, whose names are given innermost first. The result is the
text from the first closing bracket without partner on, or the names of the blocks that are open in
the end. -/
def unpaired : List String → List Char → Except (List Char) (List String)
  | names, [] => .ok names
  | names, c :: cs =>
    if c = '(' then unpaired (nameBehind cs :: names) cs
    else if c = ')' then
      match names with
      | [] => .error (c :: cs)
      | _ :: names => unpaired names cs
    else unpaired names cs

@[simp]
lemma unpaired_nil (names : List String) : unpaired names [] = .ok names := by
  simp [unpaired]

lemma unpaired_open (names : List String) (cs : List Char) :
    unpaired names ('(' :: cs) = unpaired (nameBehind cs :: names) cs := by
  simp [unpaired]

lemma unpaired_close_nil (cs : List Char) : unpaired [] (')' :: cs) = .error (')' :: cs) := by
  simp [unpaired]

lemma unpaired_close_cons (name : String) (names : List String) (cs : List Char) :
    unpaired (name :: names) (')' :: cs) = unpaired names cs := by
  simp [unpaired]

lemma unpaired_plain {c : Char} (h : isBracket c = false) (names : List String) (cs : List Char) :
    unpaired names (c :: cs) = unpaired names cs := by
  simp only [Scanner.isBracket, Bool.or_eq_false_iff, beq_eq_false_iff_ne] at h
  simp [unpaired, h]

/-- A balanced text has no brackets without partner. -/
lemma Balanced.unpaired_append {cs : List Char} (h : Balanced cs) (names : List String)
    (rest : List Char) : unpaired names (cs ++ rest) = unpaired names rest := by
  induction h generalizing names rest with
  | nil => rfl
  | plain hc _ ih => rw [List.cons_append, unpaired_plain hc, ih]
  | block _ _ ihi ihr =>
    rw [List.cons_append, List.append_assoc, List.cons_append, unpaired_open, ihi,
      unpaired_close_cons, ihr]

lemma Balanced.unpaired {cs : List Char} (h : Balanced cs) (names : List String) :
    unpaired names cs = .ok names := by
  rw [← List.append_nil cs, h.unpaired_append, unpaired_nil]

lemma Unclosed.unpaired {cs : List Char} {names : List String} (h : Unclosed cs names)
    (outer : List String) : BracketScript.unpaired outer cs = .ok (names.reverse ++ outer) := by
  induction h generalizing outer with
  | nil h => exact h.unpaired outer
  | cons hb _ ih => rw [hb.unpaired_append, unpaired_open, ih]; simp

/-- If nothing is without partner, the text is balanced. -/
lemma balanced_of_unpaired {cs : List Char} (h : unpaired [] cs = .ok []) : Balanced cs := by
  rcases balanced_or_stray_or_unclosed cs with hb | ⟨before, after, hb, rfl⟩ | ⟨name, names, hu⟩
  · exact hb
  · rw [hb.unpaired_append, unpaired_close_nil] at h
    cases h
  · rw [hu.unpaired] at h
    simp at h

/-- The first closing bracket without partner is found. -/
lemma stray_of_unpaired {cs rest : List Char} (h : unpaired [] cs = .error rest) :
    ∃ before after, Balanced before ∧ cs = before ++ rest ∧ rest = ')' :: after := by
  rcases balanced_or_stray_or_unclosed cs with hb | ⟨before, after, hb, rfl⟩ | ⟨name, names, hu⟩
  · rw [hb.unpaired] at h
    cases h
  · rw [hb.unpaired_append, unpaired_close_nil] at h
    cases h
    exact ⟨before, after, hb, rfl, rfl⟩
  · rw [hu.unpaired] at h
    cases h

/-- The opening brackets without partner are found. -/
lemma unclosed_of_unpaired {cs : List Char} {names : List String} (h : unpaired [] cs = .ok names) :
    Unclosed cs names.reverse := by
  rcases balanced_or_stray_or_unclosed cs with hb | ⟨before, after, hb, rfl⟩ | ⟨name, names', hu⟩
  · rw [hb.unpaired] at h
    cases h
    exact .nil hb
  · rw [hb.unpaired_append, unpaired_close_nil] at h
    cases h
  · rw [hu.unpaired] at h
    cases h
    simpa using hu

end BracketScript
