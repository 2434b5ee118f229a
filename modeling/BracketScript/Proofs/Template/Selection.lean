import BracketScript.Proofs.Template.Formation
import BracketScript.Template.Binding

set_option autoImplicit false

/-!
# Which field a keyword selects

A keyword selects the first field that answers to it. A field that is added to a template is checked by
its name alone: an earlier field must not answer to that. Its aliases are not checked, so an earlier
field may answer to one of them, by its own name or by an alias of its own. Then the keyword means two
fields, and it selects the earlier one and never the one that declares it as an alias.

## Main definitions

* `BracketScript.Field.shadows` — a field answers to an alias of another one.
* `BracketScript.Template.Unambiguous` — no keyword means two fields.
* `BracketScript.Template.Unshadowed` — no field shadows one behind it.

## Main results

* `BracketScript.Template.keyword?_eq_some_iff` — a keyword selects the first field that answers to it.
* `BracketScript.Template.Coherent.unambiguous_iff_unshadowed`,
  `BracketScript.Template.Coherent.unambiguous_iff_aliases_select` — keywords are unambiguous exactly if
  no alias is shadowed, and exactly if every alias selects its field.
* `BracketScript.Template.keywords_select_first` — which keywords select their field, in a template that
  was read or put together.
-/

namespace BracketScript

/-- Whether a field answers to an alias of another one. -/
def Field.shadows (f g : Field) : Bool :=
  g.aliases.any f.answersTo

lemma Field.shadows_eq_false_iff {f g : Field} :
    f.shadows g = false ↔ ∀ a ∈ g.aliases, f.answersTo a = false := by
  simp [shadows]

namespace Template

variable {t u v : Template} {i : Nat} {f : Field} {text : String}

/-- No keyword means two different fields. -/
def Unambiguous (t : Template) : Prop :=
  ∀ (text : String) (i j : Nat) (f g : Field), t.fields[i]? = some f → t.fields[j]? = some g →
    f.answersTo text = true → g.answersTo text = true → i = j

/-- No field shadows one behind it. -/
def Unshadowed (t : Template) : Prop :=
  t.fields.Pairwise fun f g => f.shadows g = false

instance (t : Template) : Decidable t.Unshadowed :=
  inferInstanceAs (Decidable (t.fields.Pairwise _))

/-- A keyword selects the first field that answers to it. -/
lemma keyword?_eq_some_iff :
    t.keyword? ⟨text, false⟩ = some (i, f) ↔
      t.fields[i]? = some f ∧ f.answersTo text = true ∧
        ∀ j g, j < i → t.fields[j]? = some g → g.answersTo text = false := by
  have hkeyword : t.keyword? ⟨text, false⟩ = some (i, f) ↔
      t.lookup? text = some i ∧ t.fields[i]? = some f := by
    simp only [keyword?, Bool.false_eq_true, ↓reduceIte]
    cases hlookup : t.lookup? text with
    | none => simp
    | some j => cases hj : t.fields[j]? <;> grind
  rw [hkeyword, lookup?, List.findIdx?_eq_some_iff_getElem]
  constructor
  · rintro ⟨⟨hi, hanswers, hbefore⟩, hf⟩
    obtain ⟨-, rfl⟩ := List.getElem?_eq_some_iff.1 hf
    refine ⟨List.getElem?_eq_getElem hi, hanswers, fun j g hj hg => ?_⟩
    obtain ⟨-, rfl⟩ := List.getElem?_eq_some_iff.1 hg
    simpa using hbefore j hj
  · rintro ⟨hf, hanswers, hbefore⟩
    obtain ⟨hi, rfl⟩ := List.getElem?_eq_some_iff.1 hf
    refine ⟨⟨hi, hanswers, fun j hj => ?_⟩, List.getElem?_eq_getElem hi⟩
    have hlt : j < t.fields.length := by omega
    simp [hbefore j _ hj (List.getElem?_eq_getElem hlt)]

/-- No earlier field answers to an alias of a later one. -/
lemma Unshadowed.shadows_eq (h : t.Unshadowed) {j : Nat} {g : Field} (hij : i < j)
    (hf : t.fields[i]? = some f) (hg : t.fields[j]? = some g) : f.shadows g = false := by
  obtain ⟨hi, rfl⟩ := List.getElem?_eq_some_iff.1 hf
  obtain ⟨hj, rfl⟩ := List.getElem?_eq_some_iff.1 hg
  exact List.pairwise_iff_getElem.1 h i j hi hj hij

namespace Coherent

/-- No field answers to the name of one behind it. -/
lemma answersTo_name (h : t.Coherent) {j : Nat} {g : Field} (hij : i < j)
    (hf : t.fields[i]? = some f) (hg : t.fields[j]? = some g) : f.answersTo g.name = false := by
  obtain ⟨hi, rfl⟩ := List.getElem?_eq_some_iff.1 hf
  obtain ⟨hj, rfl⟩ := List.getElem?_eq_some_iff.1 hg
  exact (List.pairwise_iff_getElem.1 h i j hi hj hij).1

/-- The name of a field selects the field, in any case of letters. -/
lemma keyword?_name (h : t.Coherent) (hf : t.fields[i]? = some f)
    (hname : Text.sameFolded f.name text = true) : t.keyword? ⟨text, false⟩ = some (i, f) := by
  refine keyword?_eq_some_iff.2 ⟨hf, ?_, fun j g hj hg => ?_⟩
  · rw [← f.answersTo_congr hname, Field.answersTo_name]
  · rw [← g.answersTo_congr hname]
    exact h.answersTo_name hj hg hf

end Coherent

/-- An alias selects the field that declares it exactly if no earlier field answers to it. -/
lemma keyword?_alias_iff {a : String} (hf : t.fields[i]? = some f) (ha : a ∈ f.aliases)
    (hsame : Text.sameFolded a text = true) :
    t.keyword? ⟨text, false⟩ = some (i, f) ↔
      ∀ j g, j < i → t.fields[j]? = some g → g.answersTo a = false := by
  have hanswers : f.answersTo text = true := by
    rw [← f.answersTo_congr hsame, Field.answersTo_of_mem_aliases ha]
  constructor
  · intro hkeyword j g hj hg
    rw [g.answersTo_congr hsame]
    exact (keyword?_eq_some_iff.1 hkeyword).2.2 j g hj hg
  · intro hbefore
    refine keyword?_eq_some_iff.2 ⟨hf, hanswers, fun j g hj hg => ?_⟩
    rw [← g.answersTo_congr hsame]
    exact hbefore j g hj hg

/-- A field that answers to a keyword of another one, but not to its name, shadows it. -/
lemma shadows_of_answersTo {g : Field} (hf : f.answersTo text = true) (hg : g.answersTo text = true)
    (hname : f.answersTo g.name = false) : f.shadows g = true := by
  simp only [Field.answersTo, Bool.or_eq_true, List.any_eq_true] at hg
  rcases hg with hsame | ⟨a, ha, hsame⟩
  · rw [f.answersTo_congr hsame, hf] at hname
    cases hname
  · refine List.any_eq_true.2 ⟨a, ha, ?_⟩
    rw [f.answersTo_congr hsame, hf]

/-- **Keywords are unambiguous exactly if no alias is shadowed.**

**Proof sketch.** Of two fields that answer to the same text, the earlier one does not answer to the
name of the later one, so it answers to an alias of it. Conversely a shadowed alias is a keyword of two
fields. -/
lemma Coherent.unambiguous_iff_unshadowed (h : t.Coherent) : t.Unambiguous ↔ t.Unshadowed := by
  constructor
  · intro hunambiguous
    refine List.pairwise_iff_getElem.2 fun i j hi hj hij => ?_
    rw [Field.shadows_eq_false_iff]
    intro a ha
    by_contra hanswers
    have heq := hunambiguous a i j _ _ (List.getElem?_eq_getElem hi) (List.getElem?_eq_getElem hj)
      (Bool.of_not_eq_false hanswers) (Field.answersTo_of_mem_aliases ha)
    omega
  · intro hunshadowed
    -- it is enough to exclude that one of the two fields stands before the other
    have hbefore {text : String} {i j : Nat} {f g : Field} (hf : t.fields[i]? = some f)
        (hg : t.fields[j]? = some g) (hf' : f.answersTo text = true)
        (hg' : g.answersTo text = true) : ¬ i < j := by
      intro hij
      have hshadows := shadows_of_answersTo hf' hg' (h.answersTo_name hij hf hg)
      rw [hunshadowed.shadows_eq hij hf hg] at hshadows
      cases hshadows
    intro text i j f g hf hg hf' hg'
    exact Nat.le_antisymm (Nat.not_lt.1 (hbefore hg hf hg' hf')) (Nat.not_lt.1 (hbefore hf hg hf' hg'))

/-- **Keywords are unambiguous exactly if every alias selects the field that declares it.** -/
lemma Coherent.unambiguous_iff_aliases_select (h : t.Coherent) :
    t.Unambiguous ↔ ∀ i f a, t.fields[i]? = some f → a ∈ f.aliases →
      t.keyword? ⟨a, false⟩ = some (i, f) := by
  rw [h.unambiguous_iff_unshadowed]
  constructor
  · intro hunshadowed i f a hf ha
    refine (keyword?_alias_iff hf ha (Text.sameFolded_self a)).2 fun j g hj hg => ?_
    exact Field.shadows_eq_false_iff.1 (hunshadowed.shadows_eq hj hg hf) a ha
  · intro hselect
    refine List.pairwise_iff_getElem.2 fun i j hi hj hij => Field.shadows_eq_false_iff.2 ?_
    intro a ha
    have hkeyword := hselect j _ a (List.getElem?_eq_getElem hj) ha
    exact (keyword?_eq_some_iff.1 hkeyword).2.2 i _ hij (List.getElem?_eq_getElem hi)

/-- Fields of one template can shadow those of another one that is put behind it. -/
lemma unshadowed_of_combine (h : t.combine u = .ok v) :
    v.Unshadowed ↔ t.Unshadowed ∧ u.Unshadowed ∧
      ∀ f ∈ t.fields, ∀ g ∈ u.fields, f.shadows g = false := by
  obtain ⟨-, -, rfl⟩ := combine_eq_ok_iff.1 h
  exact List.pairwise_append

/-- **A keyword selects the first field that answers to it.** In a template that was read or put
together, the name of a field selects that field, in any case of letters. An alias selects the field
that declares it if and only if no earlier field answers to it. So keywords are unambiguous if and only
if no alias is shadowed, and if and only if every alias selects its field; and where templates are put
together they stay so if and only if no field of the first shadows one of the second. -/
theorem keywords_select_first (ht : t.Made) :
    (∀ i f name, t.fields[i]? = some f → Text.sameFolded f.name name = true →
      t.keyword? ⟨name, false⟩ = some (i, f)) ∧
    (∀ i f a name, t.fields[i]? = some f → a ∈ f.aliases → Text.sameFolded a name = true →
      (t.keyword? ⟨name, false⟩ = some (i, f) ↔
        ∀ j g, j < i → t.fields[j]? = some g → g.answersTo a = false)) ∧
    (t.Unambiguous ↔ t.Unshadowed) ∧
    (t.Unambiguous ↔ ∀ i f a, t.fields[i]? = some f → a ∈ f.aliases →
      t.keyword? ⟨a, false⟩ = some (i, f)) ∧
    ∀ u v, u.Made → t.combine u = .ok v →
      (v.Unambiguous ↔ t.Unambiguous ∧ u.Unambiguous ∧
        ∀ f ∈ t.fields, ∀ g ∈ u.fields, f.shadows g = false) := by
  have h := ht.coherent
  refine ⟨fun i f name hf => h.keyword?_name hf, fun i f a name hf ha => keyword?_alias_iff hf ha,
    h.unambiguous_iff_unshadowed, h.unambiguous_iff_aliases_select, fun u v hu hv => ?_⟩
  have hv' : v.Made := .combine ht hu hv
  rw [hv'.coherent.unambiguous_iff_unshadowed, h.unambiguous_iff_unshadowed,
    hu.coherent.unambiguous_iff_unshadowed, unshadowed_of_combine hv]

/-- A template in which the alias of a field is the name of an earlier one. -/
def doubled : Template where
  fields := [{ name := "A" }, { name := "B", aliases := ["A"] }]

/-- A template for every command, and one for a single command, with the same alias. -/
def everywhere : Template where
  fields := [{ name := "ID", aliases := ["N"], keyword := true }]

/-- The template of a command. -/
def counted : Template where
  fields := [{ name := "NAME" }, { name := "COUNT", aliases := ["N"], numeric := true }]

-- each of the two templates is unambiguous, and together they are not
theorem keywords_select_first_together :
    parse "ID=N/K" = .ok everywhere ∧ parse "NAME COUNT=N/N" = .ok counted ∧
      everywhere.combine counted = .ok ⟨everywhere.fields ++ counted.fields⟩ ∧
      everywhere.Unambiguous ∧ counted.Unambiguous ∧
      ¬ Unambiguous ⟨everywhere.fields ++ counted.fields⟩ ∧
      counted.keyword? ⟨"n", false⟩ =
        some (1, { name := "COUNT", aliases := ["N"], numeric := true }) := by
  have hleft : parse "ID=N/K" = .ok everywhere := by
    with_unfolding_all rfl
  have hright : parse "NAME COUNT=N/N" = .ok counted := by
    with_unfolding_all rfl
  have hboth : everywhere.combine counted = .ok ⟨everywhere.fields ++ counted.fields⟩ := by
    with_unfolding_all rfl
  obtain ⟨-, -, heverywhere, -, htogether⟩ := keywords_select_first (.parse hleft)
  obtain ⟨-, halias, hcounted, -⟩ := keywords_select_first (.parse hright)
  refine ⟨hleft, hright, hboth, heverywhere.2 (by decide), hcounted.2 (by decide), fun h => ?_, ?_⟩
  · have hclear := ((htogether _ _ (.parse hright) hboth).1 h).2.2
    revert hclear
    decide
  · refine (halias 1 _ "N" "n" rfl (by decide) (by decide)).2 fun j g hj hg => ?_
    obtain rfl : j = 0 := by omega
    cases hg
    decide

-- the second field declares the keyword as its alias, and the first one is selected
theorem not_unambiguous_doubled :
    parse "A B=A" = .ok doubled ∧ ¬ doubled.Unambiguous ∧
      doubled.keyword? ⟨"A", false⟩ = some (0, { name := "A" }) := by
  refine ⟨by with_unfolding_all rfl, fun h => ?_, by decide⟩
  have heq := h "A" 0 1 _ _ rfl rfl (by decide) (by decide)
  cases heq

end Template

end BracketScript
