import BracketScript.Template.Word
import Mathlib.Algebra.Ring.Parity
import Mathlib.Tactic.Lemma

set_option autoImplicit false

/-!
# Words and texts

Which words a text has is said here in two ways that do not follow the scan. Words that are written
down, with separators between them, are read back as they were. And every text is cut at the
separators that stand outside quotes: what is left between two cuts is one word, with its quotes
dropped. Nothing else is lost, and only a quote that is left open keeps a text from being read.

## Main definitions

* `BracketScript.Word.written`, `BracketScript.Word.Layout` — how a word is written down, and words
  with separators around them.
* `BracketScript.Word.inside`, `BracketScript.Word.separates` — the places of a text inside quotes,
  and those of the separators outside.
* `BracketScript.Word.IsRun` — the longest stretches of a text without such a separator.
* `BracketScript.Word.Covers` — words that are just what a text says.

## Main results

* `BracketScript.Word.scan_plain`, `BracketScript.Word.scan_quoted` — how one word is read.
* `BracketScript.Word.split?_eq_none_iff` — a text has words unless a quote is left open.
* `BracketScript.Word.split?_layout` — words are read back from every text that they are laid out in.
* `BracketScript.Word.split?_covers` — the words of a text are its runs.
-/

namespace BracketScript.Word

/-! ## Reading one word -/

lemma ne_quote_of_isSeparator {c : Char} (h : isSeparator c = true) : c ≠ '"' := by
  rintro rfl
  exact absurd h (by decide)

/-- A separator before a word is passed over. -/
lemma scan_separator {c : Char} (h : isSeparator c = true) (rest : List Char) :
    scan false false [] (c :: rest) = scan false false [] rest := by
  simp [scan, ne_quote_of_isSeparator h, h]

/-- The text is over or goes on with a character that ends a word. -/
def Ends (rest : List Char) : Prop :=
  ∀ c ∈ rest.head?, isSeparator c = true

/-- Where a word ends, what follows is read afresh. -/
lemma scan_of_ends {rest : List Char} (h : Ends rest) (quoted : Bool) (word : List Char) :
    scan false quoted word rest = (scan false false [] rest).map (finish word quoted) := by
  cases rest with
  | nil => simp [scan]
  | cons c rest =>
    have hsep : isSeparator c = true := h c (by simp)
    rw [scan_separator hsep, scan, if_neg (ne_quote_of_isSeparator hsep), if_pos (by simp [hsep])]

/-- A word without separators and quotes is read as it stands. -/
lemma scan_plain {text : String} (hne : text ≠ "")
    (h : ∀ c ∈ text.toList, c ≠ '"' ∧ isSeparator c = false) {rest : List Char}
    (hrest : Ends rest) :
    scan false false [] (text.toList ++ rest) =
      (scan false false [] rest).map (⟨text, false⟩ :: ·) := by
  have hplain : ∀ c ∈ text.toList, c ≠ '"' ∧ (false = true ∨ isSeparator c = false) :=
    fun c hc => ⟨(h c hc).1, .inr (h c hc).2⟩
  rw [scan_append_plain hplain, List.nil_append, scan_of_ends hrest,
    finish_of_ne_nil (by simpa using hne), String.ofList_toList]

/-- Between quotes anything but a quote is one word, also nothing at all. -/
lemma scan_quoted {text : String} (h : '"' ∉ text.toList) {rest : List Char} (hrest : Ends rest) :
    scan false false [] ('"' :: (text.toList ++ '"' :: rest)) =
      (scan false false [] rest).map (⟨text, true⟩ :: ·) := by
  have hplain : ∀ c ∈ text.toList, c ≠ '"' ∧ (true = true ∨ isSeparator c = false) :=
    fun c hc => ⟨fun heq => h (heq ▸ hc), .inl rfl⟩
  calc scan false false [] ('"' :: (text.toList ++ '"' :: rest))
      = scan true true [] (text.toList ++ '"' :: rest) := by
        rw [scan, if_pos rfl]
        rfl
    _ = scan false true text.toList rest := by
        rw [scan_append_plain hplain, scan, if_pos rfl]
        rfl
    _ = (scan false false [] rest).map (⟨text, true⟩ :: ·) := by
        rw [scan_of_ends hrest, finish_quoted, String.ofList_toList]

/-! ## Open quotes -/

/-- A scan fails if the last quote is left open, the one included inside which it began. -/
lemma scan_eq_none_iff (inside quoted : Bool) (word cs : List Char) :
    scan inside quoted word cs = none ↔ Odd (cs.count '"' + inside.toNat) := by
  induction cs generalizing inside quoted word with
  | nil => cases inside <;> simp [scan]
  | cons c cs ih =>
    rw [scan]
    by_cases hquote : c = '"'
    · subst hquote
      rw [if_pos rfl, ih, List.count_cons_self, Nat.odd_iff, Nat.odd_iff]
      cases inside with
      | false => rfl
      | true =>
        change (cs.count '"' + 0) % 2 = 1 ↔ (cs.count '"' + 1 + 1) % 2 = 1
        omega
    · rw [if_neg hquote, List.count_cons_of_ne hquote]
      split
      · next hsep =>
        have hinside : inside = false := by
          simp_all
        rw [Option.map_eq_none_iff, ih, hinside]
      · exact ih _ _ _

/-- **A text can be cut into words unless the number of its quotes is odd.** -/
lemma split?_eq_none_iff (text : String) : split? text = none ↔ Odd (text.toList.count '"') :=
  scan_eq_none_iff false false [] text.toList

/-! ## Words that are written down -/

/-- Words that can be written down. Between quotes there may be anything but a quote; a word without
quotes is not empty, and nothing in it ends it early. -/
@[mk_iff]
structure Writable (word : Word) : Prop where
  unquoted : '"' ∉ word.text.toList
  nonempty : word.quoted = false → word.text ≠ ""
  plain : word.quoted = false → ∀ c ∈ word.text.toList, isSeparator c = false

/-- A word as it is written down, between quotes if it is a quoted one. -/
def written (word : Word) : List Char :=
  if word.quoted then '"' :: (word.text.toList ++ ['"']) else word.text.toList

/-- Words with separators before, between and behind them. Only between two words there has to be
one. -/
structure Layout where
  /-- The separators before the first word. -/
  lead : List Char
  /-- The words, each with the separators behind it. -/
  items : List (Word × List Char)
  lead_separates : ∀ c ∈ lead, isSeparator c = true
  gap_separates : ∀ item ∈ items, ∀ c ∈ item.2, isSeparator c = true
  gap_ne : ∀ item ∈ items.dropLast, item.2 ≠ []
  writable : ∀ item ∈ items, item.1.Writable

namespace Layout

/-- The words that are laid out. -/
def words (l : Layout) : List Word :=
  l.items.map Prod.fst

/-- The text in which they are. -/
def text (l : Layout) : String :=
  String.ofList (l.lead ++ l.items.flatMap fun (word, gap) => word.written ++ gap)

end Layout

/-- Separators before a word are passed over. -/
lemma scan_gap {gap : List Char} (h : ∀ c ∈ gap, isSeparator c = true) (rest : List Char) :
    scan false false [] (gap ++ rest) = scan false false [] rest := by
  induction gap with
  | nil => rfl
  | cons c gap ih =>
    rw [List.cons_append, scan_separator (h c (by simp)), ih fun d hd => h d (by simp [hd])]

/-- A word that is written down is read back, whatever comes behind its end. -/
lemma scan_written {word : Word} (h : word.Writable) {rest : List Char} (hrest : Ends rest) :
    scan false false [] (word.written ++ rest) =
      (scan false false [] rest).map (word :: ·) := by
  obtain ⟨text, quoted⟩ := word
  cases quoted with
  | true =>
    simpa [written] using scan_quoted h.unquoted hrest
  | false =>
    refine scan_plain (h.nonempty rfl) (fun c hc => ⟨?_, h.plain rfl c hc⟩) hrest
    rintro rfl
    exact h.unquoted hc

/-- Words that are written down one after the other are read back. -/
lemma scan_items {items : List (Word × List Char)}
    (hgap : ∀ item ∈ items, ∀ c ∈ item.2, isSeparator c = true)
    (hne : ∀ item ∈ items.dropLast, item.2 ≠ []) (hword : ∀ item ∈ items, item.1.Writable) :
    scan false false [] (items.flatMap fun (word, gap) => word.written ++ gap) =
      some (items.map Prod.fst) := by
  induction items with
  | nil => rfl
  | cons item items ih =>
    obtain ⟨word, gap⟩ := item
    have hsep : ∀ c ∈ gap, isSeparator c = true := hgap (word, gap) (by simp)
    -- only the last word may have nothing behind it, and there the text is over
    have hends : Ends (gap ++ items.flatMap fun (word, gap) => word.written ++ gap) := by
      intro c hc
      cases gap with
      | nil =>
        cases items with
        | nil => simp at hc
        | cons next items => exact absurd rfl (hne (word, []) (by simp))
      | cons d gap =>
        obtain rfl : d = c := by simpa using hc
        exact hsep d (by simp)
    have hrest := ih (fun other hother => hgap other (by simp [hother]))
      (fun other hother => hne other (by cases items <;> simp_all))
      fun other hother => hword other (by simp [hother])
    rw [List.flatMap_cons, List.append_assoc, scan_written (hword (word, gap) (by simp)) hends,
      scan_gap hsep, hrest]
    rfl

/-- **Words are read back from every text that they are laid out in**, quoted or not as they were
written. -/
theorem split?_layout (l : Layout) : split? l.text = some l.words := by
  rw [split?, Layout.text, String.toList_ofList, scan_gap l.lead_separates]
  exact scan_items l.gap_separates l.gap_ne l.writable

/-- Three words, of which the first is empty and the last has separators in it, with blanks and equals
signs around them. -/
def strewn : Layout where
  lead := [' ', '=', ' ']
  items := [(⟨"", true⟩, ['\t', '=', ' ']), (⟨"a", false⟩, ['=']), (⟨"b = c", true⟩, [])]
  lead_separates := by simp [isSeparator, Text.isBlank]
  gap_separates := by simp [isSeparator, Text.isBlank]
  gap_ne := by decide
  writable := by simp [Word.writable_iff, isSeparator, Text.isBlank]

theorem split?_layout_strewn :
    strewn.text = " = \"\"\t= a=\"b = c\"" ∧
      split? " = \"\"\t= a=\"b = c\"" = some [⟨"", true⟩, ⟨"a", false⟩, ⟨"b = c", true⟩] :=
  ⟨rfl, split?_layout strewn⟩

/-! ## Runs of a text -/

/-- Whether a place of a text is inside quotes: an odd number of them stands before it. -/
def inside (cs : List Char) (i : Nat) : Bool :=
  (cs.take i).count '"' % 2 == 1

/-- Whether there is a separator at a place of a text, and the place is outside quotes. -/
def separates (cs : List Char) (i : Nat) : Bool :=
  !inside cs i && cs[i]?.any isSeparator

/-- The characters from the place `i` to the one before `j`. -/
def stretch (cs : List Char) (i j : Nat) : List Char :=
  (cs.take j).drop i

/-- The characters from the place `i` to the one before `j` are a longest stretch of a text in which
nothing separates. -/
structure IsRun (cs : List Char) (i j : Nat) : Prop where
  /-- It is not empty. -/
  lt : i < j
  /-- It ends with the text at the latest. -/
  le : j ≤ cs.length
  /-- Nothing in it separates. -/
  whole : ∀ k, i ≤ k → k < j → separates cs k = false
  /-- It cannot be longer at its beginning. -/
  left : i = 0 ∨ separates cs (i - 1) = true
  /-- It cannot be longer at its end. -/
  right : j = cs.length ∨ separates cs j = true

/-- The word that a stretch of a text gives: its characters without the quotes, with the mark whether
there were any. -/
def ofStretch (stretch : List Char) : Word where
  text := String.ofList (stretch.filter (· ≠ '"'))
  quoted := '"' ∈ stretch

/-- The words of some stretches of a text, each from its first place to the one behind its last. -/
def ofRuns (cs : List Char) (runs : List (Nat × Nat)) : List Word :=
  runs.map fun (i, j) => ofStretch (stretch cs i j)

/-- What is left of a text without its quotes and without the separators outside them. -/
def kept (cs : List Char) : List Char :=
  (cs.zipIdx.filter fun (c, i) => c ≠ '"' ∧ separates cs i = false).map Prod.fst

/-- These words are just what a text says. -/
structure Covers (cs : List Char) (words : List Word) : Prop where
  /-- Nothing is lost but quotes and the separators outside them. -/
  kept_eq : words.flatMap (·.text.toList) = kept cs
  /-- Each run gives one word, in order. -/
  runs : ∃ runs : List (Nat × Nat), runs.Pairwise (fun p q => p.2 < q.1) ∧
    (∀ i j, (i, j) ∈ runs ↔ IsRun cs i j) ∧ words = ofRuns cs runs
  /-- A word without quotes is not empty, and no separator is in it. -/
  bare : ∀ word ∈ words, word.quoted = false →
    word.text ≠ "" ∧ ∀ c ∈ word.text.toList, isSeparator c = false

variable {cs : List Char} {i n : Nat} {c : Char} {quoted : Bool} {word : List Char}
  {words : List Word}

/-- Behind a quote it is inside where it was outside before, and the other way round. -/
lemma inside_succ (hc : cs[n]? = some c) :
    inside cs (n + 1) = if c = '"' then !inside cs n else inside cs n := by
  have htake : cs.take (n + 1) = cs.take n ++ [c] := by
    rw [List.take_add_one, hc]
    rfl
  rw [inside, inside, htake, List.count_append]
  by_cases hquote : c = '"'
  · rw [if_pos hquote, hquote, List.count_singleton_self, Bool.eq_iff_iff]
    simp only [beq_iff_eq, Bool.not_eq_true', beq_eq_false_iff_ne]
    omega
  · rw [if_neg hquote, List.count_singleton]
    simp [hquote]

/-- A quote does not separate. -/
lemma separates_of_quote (hc : cs[n]? = some '"') : separates cs n = false := by
  simp [separates, hc, isSeparator, Text.isBlank]

/-- **One step of the scan**, by the place at which it is. -/
lemma scan_place (hc : cs[n]? = some c) :
    scan (inside cs n) quoted word (cs.drop n) =
      if c = '"' then scan (inside cs (n + 1)) true word (cs.drop (n + 1))
      else if separates cs n = true then
        (scan (inside cs (n + 1)) false [] (cs.drop (n + 1))).map (finish word quoted)
      else scan (inside cs (n + 1)) quoted (word ++ [c]) (cs.drop (n + 1)) := by
  obtain ⟨hn, rfl⟩ := List.getElem?_eq_some_iff.1 hc
  have hsep : separates cs n = (!inside cs n && isSeparator cs[n]) := by
    simp [separates, hn]
  rw [List.drop_eq_getElem_cons hn, scan, inside_succ hc, hsep]
  by_cases hquote : cs[n] = '"'
  · simp only [hquote, if_true]
  · simp only [hquote, if_false]
    cases inside cs n <;> simp

/-! ### Nothing is lost -/

lemma flatMap_finish (word : List Char) (quoted : Bool) (words : List Word) :
    (finish word quoted words).flatMap (·.text.toList) =
      word ++ words.flatMap (·.text.toList) := by
  unfold finish
  split
  · next h =>
    obtain rfl : word = [] := by simp_all
    rfl
  · rw [List.flatMap_cons, String.toList_ofList]

/-- From some place on, nothing is lost but quotes and the separators outside them. -/
lemma flatMap_scan {k : Nat} (hk : n + k = cs.length)
    (h : scan (inside cs n) quoted word (cs.drop n) = some words) :
    words.flatMap (·.text.toList) = word ++
      (((cs.drop n).zipIdx n).filter fun (c, i) => c ≠ '"' ∧ separates cs i = false).map Prod.fst := by
  induction k generalizing n quoted word words with
  | zero =>
    rw [List.drop_eq_nil_of_le (by omega), scan] at h
    split at h
    · cases h
    · cases h
      rw [flatMap_finish, List.drop_eq_nil_of_le (by omega)]
      rfl
  | succ k ih =>
    have hn : n < cs.length := by omega
    have hc : cs[n]? = some cs[n] := List.getElem?_eq_getElem hn
    rw [scan_place hc] at h
    rw [List.drop_eq_getElem_cons hn, List.zipIdx_cons]
    split at h
    · next hquote =>
      rw [List.filter_cons_of_neg (by simp [hquote])]
      exact ih (by omega) h
    · next hquote =>
      split at h
      · next hcut =>
        obtain ⟨rest, hrest, rfl⟩ := Option.map_eq_some_iff.1 h
        rw [List.filter_cons_of_neg (by simp [hcut]), flatMap_finish, ih (by omega) hrest,
          List.nil_append]
      · next hcut =>
        rw [List.filter_cons_of_pos (by simp [hquote, hcut]), ih (by omega) h]
        simp

/-! ### Each run gives one word -/

lemma stretch_succ (hc : cs[n]? = some c) (hi : i ≤ n) :
    stretch cs i (n + 1) = stretch cs i n ++ [c] := by
  obtain ⟨hn, -⟩ := List.getElem?_eq_some_iff.1 hc
  rw [stretch, stretch, List.take_add_one, hc, List.drop_append_of_le_length (by simp; omega)]
  rfl

lemma stretch_eq_nil_iff (hn : n ≤ cs.length) : stretch cs i n = [] ↔ n ≤ i := by
  rw [stretch, List.drop_eq_nil_iff, List.length_take]
  omega

/-- A stretch gives a word unless it is empty. -/
lemma finish_stretch (s : List Char) (words : List Word) :
    finish (s.filter (· ≠ '"')) ('"' ∈ s) words = if s = [] then words else ofStretch s :: words := by
  unfold finish
  by_cases hs : s = []
  · simp [hs]
  · rw [if_neg hs, if_neg]
    · rfl
    · -- a character of the stretch is a quote or it is kept
      obtain ⟨c, hc⟩ := List.exists_mem_of_ne_nil s hs
      intro h
      simp only [Bool.and_eq_true, List.isEmpty_iff, List.filter_eq_nil_iff, Bool.not_eq_true',
        decide_eq_false_iff_not, decide_eq_true_eq, not_not] at h
      exact h.2 (h.1 c hc ▸ hc)

/-- The stretch from `i` to `n` is the beginning of a run. -/
structure Begins (cs : List Char) (i n : Nat) : Prop where
  le : i ≤ n
  le_length : n ≤ cs.length
  whole : ∀ k, i ≤ k → k < n → separates cs k = false
  left : i = 0 ∨ separates cs (i - 1) = true

namespace Begins

lemma succ (h : Begins cs i n) (hn : n < cs.length) (hsep : separates cs n = false) :
    Begins cs i (n + 1) where
  le := Nat.le_succ_of_le h.le
  le_length := hn
  whole := by
    intro k hik hkn
    by_cases hk : k = n
    · rw [hk, hsep]
    · exact h.whole k hik (by omega)
  left := h.left

/-- Where something separates, or the text is over, the run is over, and the next one is behind.

**Proof sketch.** A run from `i` on cannot end before `n`, because nothing separates there, and not
behind `n`, because something does. A run that begins behind `i` begins behind a separator, and
there is none before `n`. -/
lemma isRun_iff (h : Begins cs i n) (hend : n = cs.length ∨ separates cs n = true) {a b : Nat} :
    i ≤ a ∧ IsRun cs a b ↔ (i < n ∧ a = i ∧ b = n) ∨ (n + 1 ≤ a ∧ IsRun cs a b) := by
  constructor
  · rintro ⟨hia, hrun⟩
    have hlt := hrun.lt
    have hle := hrun.le
    rcases Nat.eq_or_lt_of_le hia with rfl | hia
    · left
      have hnb : ¬ b < n := by
        intro hbn
        rcases hrun.right with hb | hb
        · have := h.le_length
          omega
        · rw [h.whole b (by omega) hbn] at hb
          cases hb
      have hbn : ¬ n < b := by
        intro hnb
        rcases hend with hn | hn
        · omega
        · rw [hrun.whole n h.le hnb] at hn
          cases hn
      omega
    · right
      refine ⟨?_, hrun⟩
      rcases hrun.left with ha | ha
      · omega
      · by_contra hna
        rw [h.whole (a - 1) (by omega) (by omega)] at ha
        cases ha
  · rintro (⟨hin, rfl, rfl⟩ | ⟨hna, hrun⟩)
    · exact ⟨Nat.le_refl _, hin, h.le_length, h.whole, h.left, hend⟩
    · exact ⟨by have := h.le; omega, hrun⟩

end Begins

/-- These are the runs of a text that begin at the place `i` or behind it, in order. -/
structure RunsFrom (cs : List Char) (i : Nat) (runs : List (Nat × Nat)) : Prop where
  apart : runs.Pairwise fun p q => p.2 < q.1
  mem_iff : ∀ a b, (a, b) ∈ runs ↔ i ≤ a ∧ IsRun cs a b

/-- Where a run is over, it comes before those behind it, if it is not empty. -/
lemma Begins.runsFrom (h : Begins cs i n) (hend : n = cs.length ∨ separates cs n = true)
    {runs : List (Nat × Nat)} (hruns : RunsFrom cs (n + 1) runs) :
    ∃ all, RunsFrom cs i all ∧ ofRuns cs all =
      finish ((stretch cs i n).filter (· ≠ '"')) ('"' ∈ stretch cs i n) (ofRuns cs runs) := by
  by_cases hin : i < n
  · refine ⟨(i, n) :: runs, ⟨List.pairwise_cons.2 ⟨?_, hruns.apart⟩, ?_⟩, ?_⟩
    · rintro ⟨a, b⟩ hab
      exact ((hruns.mem_iff a b).1 hab).1
    · intro a b
      rw [List.mem_cons, Prod.mk.injEq, hruns.mem_iff, h.isRun_iff hend]
      simp [hin]
    · rw [finish_stretch, if_neg (by rw [stretch_eq_nil_iff h.le_length]; omega)]
      rfl
  · refine ⟨runs, ⟨hruns.apart, ?_⟩, ?_⟩
    · intro a b
      rw [hruns.mem_iff, h.isRun_iff hend]
      simp [hin]
    · rw [finish_stretch, if_pos ((stretch_eq_nil_iff h.le_length).2 (by omega))]

/-- There is no run behind the end of a text. -/
lemma runsFrom_length : RunsFrom cs (cs.length + 1) [] where
  apart := List.Pairwise.nil
  mem_iff := by
    intro a b
    refine iff_of_false (by simp) ?_
    rintro ⟨ha, hrun⟩
    have hlt := hrun.lt
    have hle := hrun.le
    omega

/-- **From the beginning of a run on, the scan gives one word for each run.**

**Proof sketch.** Induction on what is left of the text. The run grows by every character that does not
separate, and the word that has been begun is that of the run so far. At a separator outside quotes, and
at the end of the text, the run is over. -/
lemma exists_runsFrom {k : Nat} (hk : n + k = cs.length) (hb : Begins cs i n)
    (h : scan (inside cs n) ('"' ∈ stretch cs i n) ((stretch cs i n).filter (· ≠ '"')) (cs.drop n) =
      some words) : ∃ runs, RunsFrom cs i runs ∧ words = ofRuns cs runs := by
  induction k generalizing i n words with
  | zero =>
    have hn : n = cs.length := by omega
    rw [List.drop_eq_nil_of_le (by omega), scan] at h
    split at h
    · cases h
    · cases h
      obtain ⟨runs, hruns, heq⟩ := hb.runsFrom (.inl hn) (by rw [hn]; exact runsFrom_length)
      exact ⟨runs, hruns, heq.symm⟩
  | succ k ih =>
    have hn : n < cs.length := by omega
    have hc : cs[n]? = some cs[n] := List.getElem?_eq_getElem hn
    have hstretch := stretch_succ hc hb.le
    rw [scan_place hc] at h
    split at h
    · next hquote =>
      refine ih (by omega) (hb.succ hn (separates_of_quote (by rw [hc, hquote]))) ?_
      simpa [hstretch, hquote] using h
    · next hquote =>
      split at h
      · next hcut =>
        obtain ⟨rest, hrest, rfl⟩ := Option.map_eq_some_iff.1 h
        have hnext : Begins cs (n + 1) (n + 1) :=
          ⟨Nat.le_refl _, hn, fun k _ _ => by omega, .inr hcut⟩
        have hnil : stretch cs (n + 1) (n + 1) = [] :=
          (stretch_eq_nil_iff hn).2 (Nat.le_refl _)
        obtain ⟨runs, hruns, rfl⟩ := ih (by omega) hnext (by simpa [hnil] using hrest)
        obtain ⟨all, hall, heq⟩ := hb.runsFrom (.inr hcut) hruns
        exact ⟨all, hall, heq.symm⟩
      · next hcut =>
        refine ih (by omega) (hb.succ hn (by simpa using hcut)) ?_
        simpa [hstretch, hquote, Ne.symm hquote] using h

/-! ### Words without quotes -/

/-- The characters of a stretch are those at its places. -/
lemma mem_stretch_iff {j : Nat} :
    c ∈ stretch cs i j ↔ ∃ k, i ≤ k ∧ k < j ∧ cs[k]? = some c := by
  rw [stretch, List.mem_iff_getElem?]
  constructor
  · rintro ⟨m, hm⟩
    rw [List.getElem?_drop, List.getElem?_take] at hm
    split at hm
    · exact ⟨i + m, by omega, by omega, hm⟩
    · cases hm
  · rintro ⟨k, hik, hkj, hk⟩
    refine ⟨k - i, ?_⟩
    rw [List.getElem?_drop, List.getElem?_take, if_pos (by omega), ← hk]
    congr 1
    omega

/-- A run begins outside quotes. -/
lemma IsRun.inside_left {j : Nat} (h : IsRun cs i j) : inside cs i = false := by
  rcases h.left with rfl | hsep
  · simp [inside]
  · by_cases hi : i = 0
    · simp [inside, hi]
    · obtain ⟨m, rfl⟩ : ∃ m, i = m + 1 := ⟨i - 1, by omega⟩
      simp only [Nat.add_sub_cancel, separates, Bool.and_eq_true, Bool.not_eq_true',
        Option.any_eq_true] at hsep
      obtain ⟨hout, c, hc, hc'⟩ := hsep
      rw [inside_succ hc, if_neg (ne_quote_of_isSeparator hc'), hout]

/-- A run without quotes is outside quotes as a whole. -/
lemma IsRun.inside_eq {j k : Nat} (h : IsRun cs i j) (hquote : '"' ∉ stretch cs i j) (hik : i ≤ k)
    (hkj : k ≤ j) : inside cs k = false := by
  induction k, hik using Nat.le_induction with
  | base => exact h.inside_left
  | succ k hik ih =>
    have hk : k < cs.length := by
      have := h.le
      omega
    have hc : cs[k]? = some cs[k] := List.getElem?_eq_getElem hk
    have hne : cs[k] ≠ '"' := by
      intro heq
      exact hquote (mem_stretch_iff.2 ⟨k, hik, by omega, by rw [hc, heq]⟩)
    rw [inside_succ hc, if_neg hne, ih (by omega)]

/-- No separator is in a run without quotes. -/
lemma IsRun.isSeparator_eq {j : Nat} (h : IsRun cs i j) (hquote : '"' ∉ stretch cs i j)
    (hc : c ∈ stretch cs i j) : isSeparator c = false := by
  obtain ⟨k, hik, hkj, hk⟩ := mem_stretch_iff.1 hc
  have hsep := h.whole k hik hkj
  simpa [separates, h.inside_eq hquote hik (by omega), hk] using hsep

/-- The word of a run without quotes is not empty, and no separator is in it. -/
lemma IsRun.bare {j : Nat} (h : IsRun cs i j) (hquoted : (ofStretch (stretch cs i j)).quoted = false) :
    (ofStretch (stretch cs i j)).text ≠ "" ∧
      ∀ c ∈ (ofStretch (stretch cs i j)).text.toList, isSeparator c = false := by
  have hquote : '"' ∉ stretch cs i j := by
    simpa [ofStretch] using hquoted
  have htext : (ofStretch (stretch cs i j)).text = String.ofList (stretch cs i j) := by
    have hall : (stretch cs i j).filter (· ≠ '"') = stretch cs i j := by
      refine List.filter_eq_self.2 fun c hc => ?_
      simpa using fun heq : c = '"' => hquote (heq ▸ hc)
    rw [ofStretch, hall]
  rw [htext, String.toList_ofList]
  refine ⟨?_, fun c hc => h.isSeparator_eq hquote hc⟩
  have hne : stretch cs i j ≠ [] := by
    have hlt := h.lt
    rw [Ne, stretch_eq_nil_iff h.le]
    omega
  simpa using hne

/-- **The words of a text are its runs.** A text is read unless the number of its quotes is odd. It is
cut at the separators outside quotes, every longest stretch between them is one word, quoted if there
is a quote in it, and but for these separators and the quotes no character is lost. -/
theorem split?_covers (text : String) :
    (split? text = none ↔ Odd (text.toList.count '"')) ∧
      ∀ words, split? text = some words → Covers text.toList words := by
  refine ⟨split?_eq_none_iff text, fun words h => ?_⟩
  have hbegins : Begins text.toList 0 0 :=
    ⟨Nat.le_refl 0, Nat.zero_le _, fun k _ hk => absurd hk (Nat.not_lt_zero k), .inl rfl⟩
  obtain ⟨runs, hruns, rfl⟩ := exists_runsFrom (Nat.zero_add _) hbegins h
  refine ⟨?_, ⟨runs, hruns.apart, fun i j => ?_, rfl⟩, ?_⟩
  · exact flatMap_scan (Nat.zero_add _) h
  · rw [hruns.mem_iff]
    exact and_iff_right (Nat.zero_le i)
  · intro word hword
    obtain ⟨⟨i, j⟩, hmem, rfl⟩ := List.mem_map.1 hword
    exact ((hruns.mem_iff i j).1 hmem).2.bare

-- quotes open and close inside the first word, and between them nothing separates
theorem split?_covers_joined :
    split? "a\"b =\"\"\" \"\"" = some [⟨"ab =", true⟩, ⟨"", true⟩] ∧
      Covers "a\"b =\"\"\" \"\"".toList [⟨"ab =", true⟩, ⟨"", true⟩] := by
  have hsplit : split? "a\"b =\"\"\" \"\"" = some [⟨"ab =", true⟩, ⟨"", true⟩] := by
    with_unfolding_all rfl
  exact ⟨hsplit, (split?_covers _).2 _ hsplit⟩

end BracketScript.Word
