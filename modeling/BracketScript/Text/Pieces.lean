set_option autoImplicit false

/-!
# Pieces between separators

## Main definitions

* `BracketScript.Text.pieces` — the stretches of a text between its separators, empty ones
  included.
* `BracketScript.Text.cut` — the first piece and, if there is a separator, what follows it.

## Main results

* `BracketScript.Text.pieces_ne_nil` — there is always a first piece.
* `BracketScript.Text.not_mem_of_mem_pieces` — no separator is inside a piece.
* `BracketScript.Text.pieces_append_cons` — a separator cuts a text in two.
* `BracketScript.Text.pieces_intercalate` — pieces are read back from the text that joins them.
-/

namespace BracketScript.Text

/-- The stretches of a text between its separators. Two neighbouring separators, and one at an end
of the text, have an empty piece beside them. -/
def pieces (isSeparator : Char → Bool) : List Char → List (List Char)
  | [] => [[]]
  | c :: rest =>
    if isSeparator c then
      [] :: pieces isSeparator rest
    else
      match pieces isSeparator rest with
      | [] => [[c]]
      | piece :: others => (c :: piece) :: others

/-- There is always a first piece. -/
theorem pieces_ne_nil (p : Char → Bool) (cs : List Char) : pieces p cs ≠ [] := by
  cases cs with
  | nil => simp [pieces]
  | cons c rest =>
    rw [pieces]
    split
    · simp
    · split <;> simp

/-- No separator is inside a piece. -/
theorem not_mem_of_mem_pieces {p : Char → Bool} {cs piece : List Char} (h : piece ∈ pieces p cs)
    {c : Char} (hc : c ∈ piece) : p c = false := by
  induction cs generalizing piece with
  | nil => simp_all [pieces]
  | cons d rest ih =>
    rw [pieces] at h
    split at h
    · rcases List.mem_cons.1 h with rfl | h
      · simp at hc
      · exact ih h hc
    · next hd =>
      have hd : p d = false := by simpa using hd
      split at h
      · next hnil => exact absurd hnil (pieces_ne_nil p rest)
      · next first others heq =>
        rcases List.mem_cons.1 h with rfl | h
        · rcases List.mem_cons.1 hc with rfl | hc
          · exact hd
          · exact ih (by simp [heq]) hc
        · exact ih (by simp [heq, h]) hc

/-- Cutting a text at its separators is what the library calls splitting a list. -/
theorem pieces_eq_splitOnP (p : Char → Bool) (cs : List Char) : pieces p cs = cs.splitOnP p := by
  induction cs with
  | nil => simp [pieces]
  | cons c rest ih =>
    obtain ⟨piece, others, h⟩ := List.exists_cons_of_ne_nil (List.splitOnP_ne_nil p rest)
    simp [pieces, List.splitOnP_cons_eq_if_modifyHead, ih, h]

/-- A separator cuts a text in two. -/
theorem pieces_append_cons {p : Char → Bool} {c : Char} (hc : p c = true) (cs ds : List Char) :
    pieces p (cs ++ c :: ds) = pieces p cs ++ pieces p ds := by
  simp only [pieces_eq_splitOnP, List.splitOnP_append_cons cs ds hc]

/-- A text without separators is one piece. -/
theorem pieces_of_plain {p : Char → Bool} {cs : List Char} (h : ∀ c ∈ cs, p c = false) :
    pieces p cs = [cs] := by
  rw [pieces_eq_splitOnP, List.splitOnP_eq_singleton h]

/-- Pieces are read back from the text that joins them. -/
theorem pieces_intercalate {p : Char → Bool} {c : Char} (hc : p c = true)
    {parts : List (List Char)} (hne : parts ≠ [])
    (h : ∀ part ∈ parts, ∀ d ∈ part, p d = false) : pieces p ([c].intercalate parts) = parts := by
  induction parts with
  | nil => exact absurd rfl hne
  | cons part parts ih =>
    have hpart : pieces p part = [part] := pieces_of_plain (h part (by simp))
    cases parts with
    | nil => simpa using hpart
    | cons next parts =>
      have hrest := ih (by simp) fun q hq => h q (by simp [hq])
      rw [List.intercalate_cons_cons, List.append_assoc, List.singleton_append,
        pieces_append_cons hc, hpart, hrest, List.singleton_append]

/-- A text that joins pieces has no other characters than theirs and the separator. -/
theorem mem_intercalate_singleton {c d : Char} {parts : List (List Char)}
    (h : d ∈ [c].intercalate parts) : d = c ∨ ∃ part ∈ parts, d ∈ part := by
  induction parts with
  | nil => simp at h
  | cons part parts ih =>
    cases parts with
    | nil => exact .inr ⟨part, by simp, by simpa using h⟩
    | cons next parts =>
      rw [List.intercalate_cons_cons, List.append_assoc, List.mem_append, List.mem_append,
        List.mem_singleton] at h
      rcases h with h | h | h
      · exact .inr ⟨part, by simp, h⟩
      · exact .inl h
      · obtain h | ⟨other, hother, h⟩ := ih h
        · exact .inl h
        · exact .inr ⟨other, List.mem_cons_of_mem part hother, h⟩

/-- A piece has only characters of the text. -/
theorem mem_of_mem_pieces {p : Char → Bool} {cs piece : List Char} (h : piece ∈ pieces p cs)
    {c : Char} (hc : c ∈ piece) : c ∈ cs := by
  induction cs generalizing piece with
  | nil => simp_all [pieces]
  | cons d rest ih =>
    rw [pieces] at h
    split at h
    · rcases List.mem_cons.1 h with rfl | h
      · simp at hc
      · exact List.mem_cons_of_mem d (ih h hc)
    · split at h
      · next hnil => exact absurd hnil (pieces_ne_nil p rest)
      · next first others heq =>
        rcases List.mem_cons.1 h with rfl | h
        · rcases List.mem_cons.1 hc with rfl | hc
          · simp
          · exact List.mem_cons_of_mem d (ih (by simp [heq]) hc)
        · exact List.mem_cons_of_mem d (ih (by simp [heq, h]) hc)

/-- The text before the first separator, and the text after it if there is one. -/
def cut (isSeparator : Char → Bool) (cs : List Char) : List Char × Option (List Char) :=
  (cs.takeWhile (! isSeparator ·),
    match cs.dropWhile (! isSeparator ·) with
    | [] => none
    | _ :: rest => some rest)

end BracketScript.Text
