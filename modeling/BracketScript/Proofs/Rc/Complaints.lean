import BracketScript.Rc.Settings
import Mathlib.Data.List.Basic
import Mathlib.Data.Nat.Init
import Mathlib.Tactic.Lemma

set_option autoImplicit false

/-!
# Bad lines of an rc file

A line that is reported has no effect but the complaint about it: the file says the same with an empty
line in its place. There is at most one complaint about a line, and the complaints come in the order of
the lines.

## Main definitions

* `BracketScript.Text.lineAt`, `BracketScript.Text.emptied` — the line of a number, and a text in which
  some lines are empty.
* `BracketScript.Settings.after` — settings and complaints after so many lines.
* `BracketScript.Settings.complaint?` — the complaint about a line, if there is one.

## Main results

* `BracketScript.Text.lineAt_emptied` — the lines of a text in which some are empty.
* `BracketScript.Settings.addNamed_of_error`, `BracketScript.Settings.addLine_of_error` — a directive
  that is refused, and so a line that is, leaves the settings as they are.
* `BracketScript.Settings.read_eq_after` — reading a text is taking in its lines one by one.
* `BracketScript.Settings.complaints_after` — the complaints are those about single lines.
* `BracketScript.Settings.read_emptied` — bad lines may as well be empty.
-/

namespace BracketScript

/-! ## Lines -/

namespace Text

/-- The line of a number, counted from zero. Behind the last line there are only empty ones. -/
def lineAt (cs : List Char) (n : Nat) : List Char :=
  (lines cs).getD n []

/-- A text without what stands in the lines for which `blank` holds; the breaks between the lines stay.
Lines are counted from `number` on. -/
def emptied (blank : Nat → Bool) (number : Nat) : List Char → List Char
  | [] => []
  | '\n' :: rest => '\n' :: emptied blank (number + 1) rest
  | '\r' :: '\n' :: rest => '\r' :: '\n' :: emptied blank (number + 1) rest
  | c :: rest =>
    if blank number then emptied blank number rest else c :: emptied blank number rest

variable {blank : Nat → Bool} {number : Nat} {c : Char} {rest : List Char}

/-- Where the line is not to be empty, the text begins as before. -/
lemma head?_emptied (h : blank number = false) (cs : List Char) :
    (emptied blank number cs).head? = cs.head? := by
  fun_cases emptied blank number cs <;> simp_all

/-- A character that ends no line stands at the beginning of the first one. -/
lemma lineAt_cons (hn : c ≠ '\n') (hr : c = '\r' → rest.head? ≠ some '\n') (n : Nat) :
    lineAt (c :: rest) n = if n = 0 then c :: lineAt rest 0 else lineAt rest n := by
  rw [lineAt, lineAt, lineAt, lines.eq_def]
  split
  · next h => cases h
  · next h =>
    cases h
    exact absurd rfl hn
  · next h =>
    cases h
    exact absurd rfl (hr rfl)
  · next h =>
    cases h
    cases lines rest <;> cases n <;> simp

/-- A carriage return that does not belong to a break has no line feed behind it. -/
lemma head?_ne_newline (h : ∀ rest', c = '\r' → rest = '\n' :: rest' → False) :
    c = '\r' → rest.head? ≠ some '\n' := by
  intro hc hhead
  obtain ⟨rest', rfl⟩ := List.head?_eq_some_iff.1 hhead
  exact h rest' hc rfl

/-- **The lines of a text in which some are empty** are those of the text, but for these. -/
lemma lineAt_emptied (blank : Nat → Bool) (number : Nat) (cs : List Char) (n : Nat) :
    lineAt (emptied blank number cs) n = if blank (number + n) then [] else lineAt cs n := by
  fun_induction emptied blank number cs generalizing n with
  | case1 number => simp [lineAt, lines]
  | case2 number rest ih | case3 number rest ih =>
    cases n with
    | zero => simp [lineAt, lines]
    | succ n => simpa [lineAt, lines, Nat.add_assoc, Nat.add_comm 1 n] using ih n
  | case4 number c rest hn hr hblank ih =>
    rw [ih, lineAt_cons hn (head?_ne_newline hr)]
    cases n with
    | zero => simp [hblank]
    | succ n => simp
  | case5 number c rest hn hr hblank ih =>
    have hhead : (emptied blank number rest).head? = rest.head? :=
      head?_emptied (by simpa using hblank) rest
    rw [lineAt_cons hn (by rw [hhead]; exact head?_ne_newline hr), ih, ih,
      lineAt_cons hn (head?_ne_newline hr)]
    cases n with
    | zero => simp [hblank]
    | succ n => simp

end Text

namespace Settings

/-! ## Lines that fail -/

section Refused

variable {s s' : Settings} {number : Nat} {words : List String} {e : RcError}

/-- A `/path` that is refused names no directory, and none is added. -/
lemma addPath_of_error (h : s.addPath words = (.error e, s')) : s' = s := by
  cases words with
  | nil => exact (Prod.mk.inj h).2.symm
  | cons dir dirs => cases h

/-- A `/load` is refused before the module is listed, be it for the number of its words or because the
name is listed already. -/
lemma addModule_of_error (h : s.addModule number words = (.error e, s')) : s' = s := by
  unfold addModule at h
  split at h
  · split at h
    · exact (Prod.mk.inj h).2.symm
    · cases h
  · exact (Prod.mk.inj h).2.symm

/-- The template is replaced only by one that can be read. -/
lemma setTemplate_of_error {spec : String} (h : s.setTemplate spec = (.error e, s')) : s' = s := by
  unfold setTemplate at h
  split at h
  · exact (Prod.mk.inj h).2.symm
  · cases h

/-- No variable without a name gets a value. -/
lemma setVariable_of_error {name value : String} (h : s.setVariable name value = (.error e, s')) :
    s' = s := by
  unfold setVariable at h
  split at h
  · exact (Prod.mk.inj h).2.symm
  · cases h

/-- A `/set` is refused before a variable gets its value. -/
lemma addSet_of_error (h : s.addSet words = (.error e, s')) : s' = s := by
  unfold addSet at h
  split at h
  · exact (Prod.mk.inj h).2.symm
  · split at h
    · exact setVariable_of_error h
    · exact (Prod.mk.inj h).2.symm
    · exact setVariable_of_error h

/-- **A directive that is refused leaves the settings as they are.** -/
lemma addNamed_of_error {name : String} {text : List Char}
    (h : s.addNamed number name text = (.error e, s')) : s' = s := by
  unfold addNamed at h
  split at h
  · exact addPath_of_error h
  · exact addModule_of_error h
  · exact setTemplate_of_error h
  · exact addSet_of_error h
  · exact (Prod.mk.inj h).2.symm

/-- **A line that is refused leaves the settings as they are.** -/
lemma addLine_of_error {line : List Char} (h : s.addLine number line = (.error e, s')) : s' = s := by
  unfold addLine at h
  split at h
  · cases h
  · cases h
  · cases h
  · exact addNamed_of_error h
  · exact (Prod.mk.inj h).2.symm

end Refused

/-! ## Line by line -/

variable {line line' : Nat → List Char} {n : Nat}

/-- Settings and complaints after so many lines. -/
def after (line : Nat → List Char) : Nat → Settings × List (Complaint RcError)
  | 0 => ({}, [])
  | n + 1 => step (after line n) (line n, n + 1)

/-- The complaint about a line, if there is one. -/
def complaint? (line : Nat → List Char) (n : Nat) : Option (Complaint RcError) :=
  match (after line n).1.addLine (n + 1) (line n) with
  | (.ok (), _) => none
  | (.error e, _) => some ⟨n + 1, e⟩

/-- An empty line changes nothing. -/
lemma step_nil (state : Settings × List (Complaint RcError)) (number : Nat) :
    step state ([], number) = state := rfl

/-- **Reading a text is taking in its lines one by one**, and as many empty ones behind the last as one
likes. -/
lemma read_eq_after (text : String) (hn : (Text.lines text.toList).length ≤ n) :
    read text = after (Text.lineAt text.toList) n := by
  have htake : ∀ k ≤ (Text.lines text.toList).length,
      (((Text.lines text.toList).take k).zipIdx 1).foldl step ({}, []) =
        after (Text.lineAt text.toList) k := by
    intro k hk
    induction k with
    | zero => rfl
    | succ k ih =>
      have hline : (Text.lines text.toList)[k]? = some (Text.lineAt text.toList k) := by
        rw [Text.lineAt, List.getD_eq_getElem?_getD, List.getElem?_eq_getElem (by omega)]
        rfl
      rw [List.take_add_one, hline, List.zipIdx_append, List.foldl_append, ih (by omega), after,
        List.length_take_of_le (by omega), Nat.add_comm 1 k]
      rfl
  induction n, hn using Nat.le_induction with
  | base =>
    rw [← htake _ (Nat.le_refl _), List.take_length]
    rfl
  | succ n hn ih =>
    have hnil : Text.lineAt text.toList n = [] := by
      simp [Text.lineAt, hn]
    rw [after, hnil, step_nil, ih]

section Step

variable {state : Settings × List (Complaint RcError)} {text : List Char} {number : Nat} {s : Settings}

lemma step_of_ok (h : state.1.addLine number text = (.ok (), s)) :
    step state (text, number) = (s, state.2) := by
  simp only [step, h]

lemma step_of_error {e : RcError} (h : state.1.addLine number text = (.error e, s)) :
    step state (text, number) = (s, state.2 ++ [⟨number, e⟩]) := by
  simp only [step, h]

end Step

/-- A line that is complained about leaves the settings as they are. -/
lemma after_succ_of_some {c : Complaint RcError} (h : complaint? line n = some c) :
    after line (n + 1) = ((after line n).1, (after line n).2 ++ [c]) := by
  unfold complaint? at h
  split at h
  · cases h
  · next e s hs =>
    cases h
    rw [after, step_of_error hs, addLine_of_error hs]

/-- Any other line is taken in without a complaint. -/
lemma after_succ_of_none (h : complaint? line n = none) :
    ∃ s, (after line n).1.addLine (n + 1) (line n) = (.ok (), s) ∧
      after line (n + 1) = (s, (after line n).2) := by
  unfold complaint? at h
  split at h
  · next s hs => exact ⟨s, hs, step_of_ok hs⟩
  · cases h

lemma line_of_complaint? {c : Complaint RcError} (h : complaint? line n = some c) :
    c.line = n + 1 := by
  unfold complaint? at h
  split at h <;> cases h
  rfl

/-- **The complaints are those about single lines**, in their order. -/
lemma complaints_after (line : Nat → List Char) (n : Nat) :
    (after line n).2 = (List.range n).filterMap (complaint? line) := by
  induction n with
  | zero => rfl
  | succ n ih =>
    rw [List.range_succ, List.filterMap_append, ← ih]
    cases h : complaint? line n with
    | none =>
      obtain ⟨s, -, hafter⟩ := after_succ_of_none h
      simp [hafter, h]
    | some c => simp [after_succ_of_some h, h]

/-- The numbers of the lines that are complained about increase. -/
lemma lines_increase (line : Nat → List Char) (n : Nat) :
    ((after line n).2.map Complaint.line).Pairwise (· < ·) := by
  rw [complaints_after, List.pairwise_map]
  refine List.pairwise_lt_range.filterMap _ ?_
  intro a b hab c hc d hd
  rw [line_of_complaint? hc, line_of_complaint? hd]
  omega

/-- They are the numbers of the lines about which there is a complaint, counted from one. -/
lemma mem_lines_after {number : Nat} :
    number ∈ (after line n).2.map Complaint.line ↔
      ∃ k < n, number = k + 1 ∧ (complaint? line k).isSome = true := by
  rw [complaints_after, List.mem_map]
  constructor
  · rintro ⟨c, hc, rfl⟩
    obtain ⟨k, hk, hcomplaint⟩ := List.mem_filterMap.1 hc
    exact ⟨k, List.mem_range.1 hk, line_of_complaint? hcomplaint, by rw [hcomplaint]; rfl⟩
  · rintro ⟨k, hk, rfl, hsome⟩
    obtain ⟨c, hc⟩ := Option.isSome_iff_exists.1 hsome
    exact ⟨c, List.mem_filterMap.2 ⟨k, List.mem_range.2 hk, hc⟩, line_of_complaint? hc⟩

/-- **With empty lines in place of the bad ones the settings are the same**, and there is no complaint.

**Proof sketch.** Induction on the number of lines. A line that is complained about does not change the
settings, and neither does an empty line. Any other line is the same in both texts and comes upon the
same settings. -/
lemma after_emptied (h : ∀ k < n, line' k = if (complaint? line k).isSome then [] else line k) :
    after line' n = ((after line n).1, []) := by
  induction n with
  | zero => rfl
  | succ n ih =>
    have hbefore := ih fun k hk => h k (by omega)
    have hline := h n (Nat.lt_succ_self n)
    cases hc : complaint? line n with
    | some c =>
      rw [after, hline, hc, Option.isSome_some, if_pos rfl, step_nil, hbefore,
        after_succ_of_some hc]
    | none =>
      obtain ⟨s, hs, hafter⟩ := after_succ_of_none hc
      rw [hc, Option.isSome_none, if_neg Bool.false_ne_true] at hline
      have hok : (after line' n).1.addLine (n + 1) (line' n) = (.ok (), s) := by
        rw [hbefore, hline]
        exact hs
      rw [after, step_of_ok hok, hbefore, hafter]

/-- The numbers of the lines that are complained about when a text is read. -/
def reported (text : String) : List Nat :=
  (read text).2.map Complaint.line

/-- Of two texts the second has empty lines in place of the reported ones of the first, and the same
lines otherwise. -/
def Mends (text text' : String) : Prop :=
  ∀ n, Text.lineAt text'.toList n =
    if n + 1 ∈ reported text then [] else Text.lineAt text.toList n

lemma read_of_mends {text text' : String} (h : Mends text text') :
    read text' = ((read text).1, []) := by
  -- enough lines for both texts
  have hread := read_eq_after text (Nat.le_max_left _ (Text.lines text'.toList).length)
  have hread' := read_eq_after text' (Nat.le_max_right (Text.lines text.toList).length _)
  rw [hread', hread]
  refine after_emptied fun k hk => ?_
  rw [h k]
  refine if_congr ?_ rfl rfl
  rw [reported, hread, mem_lines_after]
  constructor
  · rintro ⟨j, -, hj, hsome⟩
    obtain rfl : k = j := by omega
    exact hsome
  · intro hsome
    exact ⟨k, hk, rfl, hsome⟩

lemma mends_emptied (text : String) :
    Mends text (String.ofList (Text.emptied (· ∈ reported text) 1 text.toList)) := by
  intro n
  rw [String.toList_ofList, Text.lineAt_emptied, Nat.add_comm 1 n]
  simp

/-- **Bad lines may as well be empty.** There is at most one complaint about each line of a text, in the
order of the lines. Every text that has empty lines in their place says the same without a complaint,
and one gets such a text by taking out what stands in these lines. -/
theorem read_emptied (text : String) :
    (reported text).Pairwise (· < ·) ∧
      (∀ n ∈ reported text, 1 ≤ n ∧ n ≤ (Text.lines text.toList).length) ∧
      (∀ text', Mends text text' → read text' = ((read text).1, [])) ∧
      read (String.ofList (Text.emptied (· ∈ reported text) 1 text.toList)) = ((read text).1, []) := by
  have hread := read_eq_after text (Nat.le_refl _)
  refine ⟨?_, ?_, fun text' => read_of_mends, read_of_mends (mends_emptied text)⟩
  · rw [reported, hread]
    exact lines_increase _ _
  · intro n hn
    rw [reported, hread] at hn
    obtain ⟨k, hk, rfl, -⟩ := mem_lines_after.1 hn
    omega

/-- A file in which a name is loaded twice. -/
def stumbling : String :=
  "/load a x.so\r\n/set\n/load a y.so\n/set v=1"

/-- The same file without what is wrong with it, broken into lines in another way. -/
def mended : String :=
  "/load a x.so\n\n\r\n/set v=1\n\n"

-- the second line sets nothing, and the third loads a name again
theorem read_emptied_stumbling :
    reported stumbling = [2, 3] ∧ Mends stumbling mended ∧
      read mended = ((read stumbling).1, []) := by
  have hreported : reported stumbling = [2, 3] := by decide +kernel
  have hlines : Text.lines stumbling.toList =
      ["/load a x.so".toList, "/set".toList, "/load a y.so".toList, "/set v=1".toList] := by
    decide +kernel
  have hlines' : Text.lines mended.toList =
      ["/load a x.so".toList, [], [], "/set v=1".toList, []] := by
    decide +kernel
  have hmends : Mends stumbling mended := by
    intro n
    rw [hreported, Text.lineAt, Text.lineAt, hlines, hlines']
    match n with
    | 0 | 1 | 2 | 3 => rfl
    | n + 4 => cases n <;> simp
  exact ⟨hreported, hmends, (read_emptied stumbling).2.2.1 mended hmends⟩

end Settings

end BracketScript
