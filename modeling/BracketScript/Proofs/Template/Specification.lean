import BracketScript.Proofs.Template.Formation

set_option autoImplicit false

/-!
# Specifications and the templates they stand for

A template has a text, and reading that text gives the template back. The text is the plainest of
the specifications that stand for the template: the items of the others may be set apart by other
blanks and commas, and may have their marks in another order, in small letters or more than once.

## Main definitions

* `BracketScript.Field.Readable` — a field that can be written as an item of a specification.
* `BracketScript.Field.marked` — a field with further marks, by their letters.
* `BracketScript.Field.Alike`, `BracketScript.Template.Alike` — two items, and two specifications,
  that differ only in how they are written.

## Main results

* `BracketScript.Field.parse_eq_ok_iff` — which items are accepted, and for which field.
* `BracketScript.Field.parse_display`, `BracketScript.Template.parse_display` — fields and templates
  are read back from their texts.
* `BracketScript.Template.reading_laws` — specifications, texts and putting together.
-/

namespace BracketScript

namespace Field

variable {f g : Field} {item : List Char}

/-! ## Marks -/

/-- The marks that there are, as letters. -/
def markLetters : List (List Char) :=
  [['A'], ['K'], ['N'], ['S'], ['M']]

/-- The field with the marks that some letters stand for, besides its own. -/
def marked (f : Field) (letters : List (List Char)) : Field :=
  { f with
    required := f.required || letters.contains ['A']
    keyword := f.keyword || letters.contains ['K']
    numeric := f.numeric || letters.contains ['N']
    switch := f.switch || letters.contains ['S']
    multi := f.multi || letters.contains ['M'] }

@[simp]
lemma marked_nil (f : Field) : f.marked [] = f := by
  simp [marked]

lemma marked_cons (f : Field) (letter : List Char) (letters : List (List Char)) :
    f.marked (letter :: letters) = (f.marked [letter]).marked letters := by
  simp [marked, Bool.or_assoc]

/-- Neither the order of letters nor their number matters. -/
lemma marked_congr {letters letters' : List (List Char)}
    (h : ∀ l, l ∈ letters ↔ l ∈ letters') (f : Field) : f.marked letters = f.marked letters' := by
  have hcontains (l : List Char) : letters.contains l = letters'.contains l := by
    rw [Bool.eq_iff_iff, List.contains_iff_mem, List.contains_iff_mem, h]
  simp only [marked, hcontains]

lemma mark_eq_ok_iff {letter : List Char} :
    f.mark letter = .ok g ↔ Text.upper letter ∈ markLetters ∧ g = f.marked [Text.upper letter] := by
  unfold mark
  split
  case h_6 letter' hA hK hN hS hM => simp_all [markLetters]
  all_goals
    next h => simp [h, markLetters, marked, eq_comm]

/-- Letters are accepted if each of them is a mark. -/
lemma foldlM_mark_eq_ok_iff {letters : List (List Char)} :
    letters.foldlM mark f = .ok g ↔
      (∀ l ∈ letters, Text.upper l ∈ markLetters) ∧ g = f.marked (letters.map Text.upper) := by
  induction letters generalizing f with
  | nil => simp [pure, Except.pure, eq_comm]
  | cons letter letters ih =>
    simp only [List.foldlM_cons, Effect.bind_eq_ok_iff, mark_eq_ok_iff, ih, List.forall_mem_cons,
      List.map_cons]
    constructor
    · rintro ⟨f', ⟨hletter, rfl⟩, hletters, rfl⟩
      exact ⟨⟨hletter, hletters⟩, (marked_cons _ _ _).symm⟩
    · rintro ⟨⟨hletter, hletters⟩, rfl⟩
      exact ⟨_, ⟨hletter, rfl⟩, hletters, marked_cons _ _ _⟩

/-- The marks of a field make it what it is. -/
lemma marked_marks (f : Field) :
    marked { name := f.name, aliases := f.aliases } ((f.marks.map ([·])).map Text.upper) = f := by
  obtain ⟨name, aliases, required, keyword, numeric, switch, multi⟩ := f
  cases required <;> cases keyword <;> cases numeric <;> cases switch <;> cases multi <;> rfl

/-- There are five marks. -/
lemma mem_of_mem_marks {m : Char} (h : m ∈ f.marks) : m ∈ ['A', 'K', 'N', 'S', 'M'] := by
  obtain ⟨⟨set, letter⟩, hmem, hm⟩ := List.mem_filterMap.1 h
  obtain ⟨-, rfl⟩ : set = true ∧ letter = m := by
    simpa using hm
  simp only [List.mem_cons, Prod.mk.injEq, List.not_mem_nil, or_false] at hmem ⊢
  rcases hmem with hmem | hmem | hmem | hmem | hmem <;> simp [hmem.2]

/-- The marks of a field are marks. -/
lemma upper_mem_markLetters (f : Field) :
    ∀ l ∈ f.marks.map ([·]), Text.upper l ∈ markLetters := by
  have hall : ∀ m ∈ ['A', 'K', 'N', 'S', 'M'], Text.upper [m] ∈ markLetters := by
    simp [Text.upper, markLetters]
  intro l hl
  obtain ⟨m, hm, rfl⟩ := List.mem_map.1 hl
  exact hall m (mem_of_mem_marks hm)

/-! ## Items -/

/-- An item is accepted if it starts with a name, its letters are marks, and the field is not a
switch that holds a value. -/
lemma parse_eq_ok_iff :
    Field.parse item = .ok f ↔
      ∃ first letters name aliases, Text.pieces (· == '/') item = first :: letters ∧
        names first = name :: aliases ∧ name ≠ "" ∧
        (∀ l ∈ letters, Text.upper l ∈ markLetters) ∧
        f = marked { name, aliases } (letters.map Text.upper) ∧ f.switchHoldsValue = false := by
  unfold Field.parse
  cases Text.pieces (· == '/') item with
  | nil => simp
  | cons first letters =>
    cases hnames : names first with
    | nil => simp [hnames]
    | cons name aliases =>
      by_cases hname : name = ""
      · simp [hnames, hname]
      · have hswitch (f' : Field) :
            (if f'.switchHoldsValue then .error (.switchWithValue f'.name) else .ok f' :
              Except SpecError Field) = .ok f ↔ f = f' ∧ f.switchHoldsValue = false := by
          split
          · next hf' =>
            refine ⟨(fun h => nomatch h), ?_⟩
            rintro ⟨rfl, hf⟩
            rw [hf'] at hf
            cases hf
          · next hf' =>
            refine ⟨fun h => ?_, fun h => by rw [h.1]⟩
            cases h
            exact ⟨rfl, by simpa using hf'⟩
        simp only [hnames, hname, ↓reduceIte, Effect.bind_eq_ok_iff, foldlM_mark_eq_ok_iff, hswitch]
        constructor
        · rintro ⟨f', ⟨hletters, rfl⟩, rfl, hf⟩
          exact ⟨first, letters, name, aliases, rfl, hnames, hname, hletters, rfl, hf⟩
        · rintro ⟨_, _, _, _, hpieces, hnames', _, hletters, rfl, hf⟩
          cases hpieces
          rw [hnames] at hnames'
          cases hnames'
          exact ⟨_, ⟨hletters, rfl⟩, rfl, hf⟩

/-- Two items with the same names and the same marks, whatever the order, the case and the number of
their letters. -/
def Alike (item item' : List Char) : Prop :=
  ∃ first letters letters', Text.pieces (· == '/') item = first :: letters ∧
    Text.pieces (· == '/') item' = first :: letters' ∧
    ∀ l, l ∈ letters.map Text.upper ↔ l ∈ letters'.map Text.upper

lemma Alike.symm {item' : List Char} (h : Alike item item') : Alike item' item := by
  obtain ⟨first, letters, letters', hitem, hitem', hletters⟩ := h
  exact ⟨first, letters', letters, hitem', hitem, fun l => (hletters l).symm⟩

/-- Such items are read as the same field. -/
lemma Alike.parse_eq {item' : List Char} (h : Alike item item')
    (hparse : Field.parse item = .ok f) : Field.parse item' = .ok f := by
  obtain ⟨first, letters, letters', hitem, hitem', hletters⟩ := h
  obtain ⟨_, _, name, aliases, hpieces, hnames, hname, hmarks, rfl, hf⟩ := parse_eq_ok_iff.1 hparse
  rw [hitem] at hpieces
  cases hpieces
  refine parse_eq_ok_iff.2 ⟨first, letters', name, aliases, hitem', hnames, hname, fun l hl => ?_,
    marked_congr hletters _, hf⟩
  obtain ⟨l', hl', heq⟩ := List.mem_map.1 ((hletters _).2 (List.mem_map_of_mem hl))
  exact heq ▸ hmarks l' hl'

/-! ## Fields and their texts -/

/-- The characters that a name in a specification can have. -/
def isNameChar (c : Char) : Bool :=
  !Template.isItemEnd c && c != '=' && c != '/'

/-- A field that can be written as an item of a specification. -/
structure Readable (f : Field) : Prop where
  /-- The field has a name. -/
  name_ne : f.name ≠ ""
  /-- Nothing in the names separates items, names or marks. -/
  plain : ∀ name ∈ f.name :: f.aliases, ∀ c ∈ name.toList, isNameChar c = true
  /-- A switch holds no value. -/
  holds_no_value : f.switchHoldsValue = false

/-- What is read from an item can be written as one. -/
lemma readable_of_parse (hitem : ∀ c ∈ item, Template.isItemEnd c = false)
    (h : Field.parse item = .ok f) : f.Readable := by
  obtain ⟨first, letters, name, aliases, hpieces, hnames, hname, -, rfl, hf⟩ := parse_eq_ok_iff.1 h
  refine ⟨hname, ?_, hf⟩
  intro other hother c hc
  obtain ⟨piece, hpiece, rfl⟩ :
      ∃ piece ∈ Text.pieces (· == '=') first, String.ofList piece = other := by
    rw [← List.mem_map, ← names, hnames]
    exact hother
  rw [String.toList_ofList] at hc
  have hfirst : first ∈ Text.pieces (· == '/') item := by
    simp [hpieces]
  have hmem := Text.mem_of_mem_pieces hpiece hc
  have hequals := Text.not_mem_of_mem_pieces hpiece hc
  have hslash := Text.not_mem_of_mem_pieces hfirst hmem
  have hend := hitem c (Text.mem_of_mem_pieces hfirst hmem)
  simp_all [isNameChar]

/-- The characters of the text of a field. -/
lemma toList_display (f : Field) :
    f.display.toList = ['='].intercalate ((f.name :: f.aliases).map String.toList) ++
      f.marks.flatMap fun m => ['/', m] := by
  simp [display]

/-- Marks behind a text without slashes. -/
lemma pieces_append_marks {cs : List Char} (h : ∀ c ∈ cs, (c == '/') = false) {ms : List Char}
    (hms : ∀ m ∈ ms, (m == '/') = false) :
    Text.pieces (· == '/') (cs ++ ms.flatMap fun m => ['/', m]) = cs :: ms.map ([·]) := by
  induction ms generalizing cs with
  | nil => simpa using Text.pieces_of_plain h
  | cons m ms ih =>
    have hm : ∀ c ∈ [m], (c == '/') = false := by
      simpa using hms m (by simp)
    have hrest := ih hm fun m' hm' => hms m' (by simp [hm'])
    rw [List.flatMap_cons, List.cons_append, Text.pieces_append_cons (by decide),
      Text.pieces_of_plain h, hrest]
    rfl

/-- The characters of the names of a field in its text. -/
lemma Readable.of_mem_names (h : f.Readable) {c : Char}
    (hc : c ∈ ['='].intercalate ((f.name :: f.aliases).map String.toList)) :
    c = '=' ∨ isNameChar c = true := by
  obtain rfl | ⟨part, hpart, hc⟩ := Text.mem_intercalate_singleton hc
  · exact .inl rfl
  · obtain ⟨name, hname, rfl⟩ := List.mem_map.1 hpart
    exact .inr (h.plain name hname c hc)

/-- Nothing in the text of a field separates items. -/
lemma Readable.of_mem_display (h : f.Readable) {c : Char} (hc : c ∈ f.display.toList) :
    Template.isItemEnd c = false := by
  rw [toList_display, List.mem_append, List.mem_flatMap] at hc
  rcases hc with hc | ⟨m, hm, hc⟩
  · rcases h.of_mem_names hc with rfl | hc
    · decide
    · simp_all [isNameChar]
  · have hmarks : ∀ m ∈ ['A', 'K', 'N', 'S', 'M'], ∀ c ∈ ['/', m],
        Template.isItemEnd c = false := by
      simp [Template.isItemEnd, Text.isBlank]
    exact hmarks m (mem_of_mem_marks hm) c hc

/-- The text of a field is not empty. -/
lemma Readable.display_ne_nil (h : f.Readable) : f.display.toList ≠ [] := by
  have hname : f.name.toList ≠ [] := by
    simpa using h.name_ne
  rw [toList_display]
  cases ha : f.aliases with
  | nil => simp [hname]
  | cons a as => simp [hname]

/-- **A field is read back from its text.**

**Proof sketch.** The slashes in the text stand before the marks, and the equals signs before them
stand between the names. -/
lemma parse_display (h : f.Readable) : Field.parse f.display.toList = .ok f := by
  have hslash : ∀ c ∈ ['='].intercalate ((f.name :: f.aliases).map String.toList),
      (c == '/') = false := by
    intro c hc
    rcases h.of_mem_names hc with rfl | hc
    · decide
    · simp_all [isNameChar]
  have hnames : names (['='].intercalate ((f.name :: f.aliases).map String.toList)) =
      f.name :: f.aliases := by
    rw [names, Text.pieces_intercalate (by decide) (by simp)]
    · simp [Function.comp_def]
    · intro part hpart d hd
      obtain ⟨name, hname, rfl⟩ := List.mem_map.1 hpart
      have hchar := h.plain name hname d hd
      simp_all [isNameChar]
  refine parse_eq_ok_iff.2 ⟨_, f.marks.map ([·]), f.name, f.aliases, ?_, hnames, h.name_ne,
    f.upper_mem_markLetters, f.marked_marks.symm, h.holds_no_value⟩
  rw [toList_display]
  have hmarks : ∀ m ∈ ['A', 'K', 'N', 'S', 'M'], (m == '/') = false := by
    simp
  exact pieces_append_marks hslash fun m hm => hmarks m (mem_of_mem_marks hm)

end Field

namespace Template

variable {t : Template}

/-- Two specifications with the same items, whatever separates them, up to the order, the case and
the number of the marks. -/
def Alike (a b : String) : Prop :=
  List.Forall₂ Field.Alike (items a) (items b)

/-- Such specifications stand for the same template. -/
lemma Alike.parse_eq {a b : String} (h : Alike a b) (ha : parse a = .ok t) : parse b = .ok t := by
  rw [parse_eq_ok_iff] at ha ⊢
  refine ⟨?_, ha.2⟩
  have hread : ∀ {xs ys : List (List Char)} {fs : List Field}, List.Forall₂ Field.Alike xs ys →
      List.Forall₂ (fun item f => Field.parse item = .ok f) xs fs →
      List.Forall₂ (fun item f => Field.parse item = .ok f) ys fs := by
    intro xs ys fs hxy
    induction hxy generalizing fs with
    | nil => exact id
    | cons hitem _ ih =>
      rintro (_ | ⟨hparse, hrest⟩)
      exact .cons (hitem.parse_eq hparse) (ih hrest)
  exact hread h ha.1

lemma Alike.symm {a b : String} (h : Alike a b) : Alike b a :=
  List.Forall₂.flip (h.imp fun _ _ hitem => hitem.symm)

/-- Every field of a template that can come up can be written. -/
lemma Made.readable (h : t.Made) : ∀ f ∈ t.fields, f.Readable := by
  refine h.forall_fields fun spec item hitem f hparse => ?_
  refine Field.readable_of_parse (fun c hc => ?_) hparse
  exact Text.not_mem_of_mem_pieces (List.mem_of_mem_filter hitem) hc

/-- The items of the text of a template are the texts of its fields. -/
lemma items_display (h : ∀ f ∈ t.fields, f.Readable) :
    items t.display = t.fields.map fun f => f.display.toList := by
  have htext : t.display.toList =
      [' '].intercalate (t.fields.map fun f => f.display.toList) := by
    simp [display, Function.comp_def]
  rw [items, htext]
  by_cases hfields : t.fields = []
  · rw [hfields]
    decide
  · rw [Text.pieces_intercalate (by decide) (by simpa using hfields)]
    · refine List.filter_eq_self.2 fun part hpart => ?_
      obtain ⟨f, hf, rfl⟩ := List.mem_map.1 hpart
      simpa using (h f hf).display_ne_nil
    · intro part hpart c hc
      obtain ⟨f, hf, rfl⟩ := List.mem_map.1 hpart
      exact (h f hf).of_mem_display hc

/-- **A template is read back from its text.** -/
lemma parse_display (h : t.Made) : parse t.display = .ok t := by
  rw [parse_eq_ok_iff, items_display h.readable]
  refine ⟨?_, h.coherent⟩
  rw [List.forall₂_map_left_iff, List.forall₂_same]
  exact fun f hf => Field.parse_display (h.readable f hf)

/-- **Specifications, texts and putting together.** Every template that can come up is read back
from its text, and specifications that differ only in separators and in the order, the case and the
number of marks stand for the same template. Putting together the templates of two specifications
gives what reading one behind the other gives, or both are refused. Templates can be put together in
any grouping, and the empty template on either side changes nothing. -/
theorem reading_laws :
    (∀ t : Template, t.Made → parse t.display = .ok t) ∧
      (∀ a b : String, Alike a b → ∀ t, parse a = .ok t ↔ parse b = .ok t) ∧
      (∀ (a b : String) (t u : Template), parse a = .ok t → parse b = .ok u →
        ∀ v, t.combine u = .ok v ↔ parse (a ++ " " ++ b) = .ok v) ∧
      (∀ t u v w : Template, (do let s ← t.combine u; s.combine v) = .ok w ↔
        (do let s ← u.combine v; t.combine s) = .ok w) ∧
      ∀ t : Template, t.Made → combine {} t = .ok t ∧ t.combine {} = .ok t := by
  refine ⟨fun t ht => parse_display ht, fun a b hab t => ⟨hab.parse_eq, hab.symm.parse_eq⟩,
    fun a b t u ha hb v => combine_iff_parse ha hb, fun t u v w => combine_assoc_iff,
    fun t ht => ⟨empty_combine ht.coherent, combine_empty t⟩⟩

/-- A template whose text is read back, spelled with other marks and separators, and put together
from its two fields. -/
theorem reading_laws_titled :
    parse "TITLE=T/a/A,W/n" =
        .ok ⟨[{ name := "TITLE", aliases := ["T"], required := true },
          { name := "W", numeric := true }]⟩ ∧
      (do let t ← parse "TITLE=T/A"; t.combine (← parse "W/N")) = parse "TITLE=T/A W/N" := by
  have hplain : parse "TITLE=T/A W/N" =
      .ok ⟨[{ name := "TITLE", aliases := ["T"], required := true },
        { name := "W", numeric := true }]⟩ := by
    with_unfolding_all rfl
  have htitle : parse "TITLE=T/A" =
      .ok ⟨[{ name := "TITLE", aliases := ["T"], required := true }]⟩ := by
    with_unfolding_all rfl
  have hwidth : parse "W/N" = .ok ⟨[{ name := "W", numeric := true }]⟩ := by
    with_unfolding_all rfl
  have hitems : items "TITLE=T/a/A,W/n" = ["TITLE=T/a/A".toList, "W/n".toList] ∧
      items "TITLE=T/A W/N" = ["TITLE=T/A".toList, "W/N".toList] := by
    decide
  have halike : Alike "TITLE=T/a/A,W/n" "TITLE=T/A W/N" := by
    rw [Alike, hitems.1, hitems.2]
    refine .cons ⟨"TITLE=T".toList, [['a'], ['A']], [['A']], by decide, by decide, ?_⟩
      (.cons ⟨['W'], [['n']], [['N']], by decide, by decide, ?_⟩ .nil)
    · simp [Text.upper]
    · simp [Text.upper]
  obtain ⟨-, hspelling, hbehind, -⟩ := reading_laws
  refine ⟨(hspelling _ _ halike _).2 hplain, ?_⟩
  have hcombine := (hbehind _ _ _ _ htitle hwidth _).2 hplain
  rw [htitle, hwidth, hplain]
  exact hcombine

end Template

end BracketScript
