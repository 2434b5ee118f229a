import BracketScript.Proofs.Effect
import BracketScript.Template.Spec
import Mathlib.Data.List.Forall2

set_option autoImplicit false

/-!
# How templates are formed

A template is read from a specification or put together from two templates. The two ways go through
the fields one by one and check the same two things, in a different order and against lists of
fields that were built differently. What they accept is said here once, as a condition on any two
fields of which one stands before the other, and from it follow the laws of putting templates
together.

## Main definitions

* `BracketScript.Field.Precedes` — one field can stand before another.
* `BracketScript.Template.Coherent` — every field can stand before those after it.
* `BracketScript.Template.Made` — a template that was read, or put together from such templates.

## Main results

* `BracketScript.Template.parse_eq_ok_iff`, `BracketScript.Template.combine_eq_ok_iff` — when a
  template is formed, and which one.
* `BracketScript.Template.combine_iff_parse` — putting together the templates of two specifications
  is reading one behind the other.
* `BracketScript.Template.combine_assoc_iff` — templates can be put together in any grouping.
-/

namespace BracketScript

/-- A field can stand before another one: it does not answer to the name of the other, and not both
take all the words left. -/
def Field.Precedes (f g : Field) : Prop :=
  f.answersTo g.name = false ∧ (f.multi && g.multi) = false

instance (f g : Field) : Decidable (f.Precedes g) :=
  inferInstanceAs (Decidable (_ ∧ _))

namespace Template

variable {t u v : Template} {f : Field}

/-- Every field can stand before those after it. -/
def Coherent (t : Template) : Prop :=
  t.fields.Pairwise Field.Precedes

instance (t : Template) : Decidable t.Coherent :=
  inferInstanceAs (Decidable (t.fields.Pairwise Field.Precedes))

/-! ## One more field -/

/-- What is checked of a further field is that every field can stand before it. -/
lemma forall_precedes_iff :
    (∀ g ∈ t.fields, g.Precedes f) ↔ t.knows f.name = false ∧ (f.multi && t.hasMulti) = false := by
  simp only [Field.Precedes, forall₂_and, knows, hasMulti, List.any_eq_false, Bool.not_eq_true,
    Bool.and_eq_false_iff]
  refine and_congr_right fun _ => ?_
  cases hf : f.multi with
  | true => simp
  | false => simp

lemma addField_eq_ok_iff :
    t.addField f = .ok u ↔ (∀ g ∈ t.fields, g.Precedes f) ∧ u = t.push f := by
  rw [forall_precedes_iff, addField]
  cases t.knows f.name with
  | true => simp
  | false =>
    cases f.multi && t.hasMulti with
    | true => simp
    | false => simp [eq_comm]

/-- Reading an item and adding the field checks what adding the field checks, in another order. -/
lemma addItem_eq_ok_iff {item : List Char} :
    t.addItem item = .ok u ↔ ∃ f, Field.parse item = .ok f ∧ t.addField f = .ok u := by
  rw [addItem, Effect.bind_eq_ok_iff]
  refine exists_congr fun f => and_congr_right fun _ => ?_
  rw [addField_eq_ok_iff, forall_precedes_iff]
  cases f.multi && t.hasMulti with
  | true => simp
  | false =>
    cases t.knows f.name with
    | true => simp
    | false => simp [eq_comm]

/-! ## Rows of fields -/

/-- A row of fields is added if every field, old or new, can stand before the new ones after it.

**Proof sketch.** Induction on the row: what is asked of its first field makes it one of the old
fields for the others. -/
lemma foldlM_addField_eq_ok_iff {fs : List Field} :
    fs.foldlM addField t = .ok u ↔
      (∀ g ∈ t.fields, ∀ f ∈ fs, g.Precedes f) ∧ fs.Pairwise Field.Precedes ∧
        u = ⟨t.fields ++ fs⟩ := by
  induction fs generalizing t with
  | nil =>
    have hpure : (pure t : Except SpecError Template) = .ok u ↔ u = ⟨t.fields⟩ := by
      simp [pure, Except.pure, eq_comm]
    simpa using hpure
  | cons f fs ih =>
    simp only [List.foldlM_cons, Effect.bind_eq_ok_iff, addField_eq_ok_iff, ih,
      List.pairwise_cons, List.forall_mem_cons]
    constructor
    · rintro ⟨s, ⟨hf, rfl⟩, hall, hpair, rfl⟩
      obtain ⟨hold, hnew⟩ := List.forall_mem_append.1 hall
      exact ⟨fun g hg => ⟨hf g hg, hold g hg⟩, ⟨hnew f (by simp), hpair⟩, by simp [push]⟩
    · rintro ⟨hall, ⟨hnew, hpair⟩, rfl⟩
      refine ⟨t.push f, ⟨fun g hg => (hall g hg).1, rfl⟩, ?_, hpair, by simp [push]⟩
      exact List.forall_mem_append.2 ⟨fun g hg => (hall g hg).2, by simpa using hnew⟩

/-- Items are read one by one, and their fields added in that order. -/
lemma foldlM_addItem_eq_ok_iff {items : List (List Char)} :
    items.foldlM addItem t = .ok u ↔
      ∃ fs, List.Forall₂ (fun item f => Field.parse item = .ok f) items fs ∧
        fs.foldlM addField t = .ok u := by
  induction items generalizing t with
  | nil => simp
  | cons item items ih =>
    simp only [List.foldlM_cons, Effect.bind_eq_ok_iff, addItem_eq_ok_iff, ih]
    constructor
    · rintro ⟨s, ⟨f, hitem, hf⟩, fs, hitems, hfs⟩
      exact ⟨f :: fs, .cons hitem hitems, Effect.bind_eq_ok_iff.2 ⟨s, hf, hfs⟩⟩
    · rintro ⟨_, hparse, hfold⟩
      cases hparse with
      | cons hitem hitems =>
        obtain ⟨s, hf, hfs⟩ := Effect.bind_eq_ok_iff.1 hfold
        exact ⟨s, ⟨_, hitem, hf⟩, _, hitems, hfs⟩

/-! ## Reading and putting together -/

/-- Every field of a row was read from an item. -/
lemma exists_item_of_mem {items : List (List Char)} {fs : List Field}
    (h : List.Forall₂ (fun item f => Field.parse item = .ok f) items fs) (hf : f ∈ fs) :
    ∃ item ∈ items, Field.parse item = .ok f := by
  induction h with
  | nil => cases hf
  | @cons item g items fs hitem _ ih =>
    rcases List.mem_cons.1 hf with rfl | hf
    · exact ⟨item, by simp, hitem⟩
    · obtain ⟨item', hmem, hparse⟩ := ih hf
      exact ⟨item', by simp [hmem], hparse⟩

/-- A specification is accepted if its items can be read and their fields are coherent. -/
lemma parse_eq_ok_iff {spec : String} :
    parse spec = .ok t ↔
      List.Forall₂ (fun item f => Field.parse item = .ok f) (items spec) t.fields ∧
        t.Coherent := by
  rw [parse, foldlM_addItem_eq_ok_iff]
  simp only [foldlM_addField_eq_ok_iff, List.not_mem_nil, false_imp_iff, implies_true, true_and,
    List.nil_append]
  constructor
  · rintro ⟨fs, hitems, hpair, rfl⟩
    exact ⟨hitems, hpair⟩
  · rintro ⟨hitems, hpair⟩
    exact ⟨t.fields, hitems, hpair, rfl⟩

/-- Two templates can be put together if the second is coherent and every field of the first can
stand before every field of the second. -/
lemma combine_eq_ok_iff :
    t.combine u = .ok v ↔
      (∀ f ∈ t.fields, ∀ g ∈ u.fields, f.Precedes g) ∧ u.Coherent ∧
        v = ⟨t.fields ++ u.fields⟩ :=
  foldlM_addField_eq_ok_iff

/-- The items of one specification behind another. -/
lemma items_append_space_append (a b : String) : items (a ++ " " ++ b) = items a ++ items b := by
  have htext : (a ++ " " ++ b).toList = a.toList ++ ' ' :: b.toList := by simp
  rw [items, htext, Text.pieces_append_cons (by decide), List.filter_append]
  rfl

/-- **Putting together the templates of two specifications is reading one behind the other.**

**Proof sketch.** Each item of the two is read in one way only, so the fields of the joint
specification are those of the first followed by those of the second; that they are coherent is what
putting together asks for. -/
lemma combine_iff_parse {a b : String} (ha : parse a = .ok t) (hb : parse b = .ok u) :
    t.combine u = .ok v ↔ parse (a ++ " " ++ b) = .ok v := by
  rw [parse_eq_ok_iff] at ha hb
  rw [combine_eq_ok_iff, parse_eq_ok_iff, items_append_space_append]
  have hread : List.Forall₂ (fun item f => Field.parse item = .ok f) (items a ++ items b)
      (t.fields ++ u.fields) := List.rel_append ha.1 hb.1
  constructor
  · rintro ⟨hcross, hu, rfl⟩
    exact ⟨hread, List.pairwise_append.2 ⟨ha.2, hu, hcross⟩⟩
  · rintro ⟨hread', hv⟩
    have hfields : v.fields = t.fields ++ u.fields := by
      refine List.right_unique_forall₂' (fun item f g hf hg => ?_) hread' hread
      rw [hf] at hg
      cases hg
      rfl
    rw [Coherent, hfields, List.pairwise_append] at hv
    exact ⟨hv.2.2, hv.2.1, by rw [← hfields]⟩

/-- **Templates can be put together in any grouping**: the same template comes out of both, or none
comes out of either. -/
lemma combine_assoc_iff {w : Template} :
    (do let s ← t.combine u; s.combine v) = .ok w ↔
      (do let s ← u.combine v; t.combine s) = .ok w := by
  simp only [Effect.bind_eq_ok_iff, combine_eq_ok_iff]
  constructor
  · rintro ⟨s, ⟨htu, hu, rfl⟩, hsv, hv, rfl⟩
    rw [List.forall_mem_append] at hsv
    refine ⟨_, ⟨hsv.2, hv, rfl⟩, fun f hf => ?_, List.pairwise_append.2 ⟨hu, hv, hsv.2⟩, by simp⟩
    exact List.forall_mem_append.2 ⟨htu f hf, hsv.1 f hf⟩
  · rintro ⟨s, ⟨huv, hv, rfl⟩, hts, hs, rfl⟩
    obtain ⟨hu, -, -⟩ := List.pairwise_append.1 hs
    have hts' (f : Field) (hf : f ∈ t.fields) := List.forall_mem_append.1 (hts f hf)
    refine ⟨_, ⟨fun f hf => (hts' f hf).1, hu, rfl⟩, ?_, hv, by simp⟩
    exact List.forall_mem_append.2 ⟨fun f hf => (hts' f hf).2, huv⟩

/-- Nothing is lost or refused when a coherent template is put behind the empty one. -/
lemma empty_combine (h : t.Coherent) : combine {} t = .ok t := by
  rw [combine_eq_ok_iff]
  exact ⟨by simp, h, rfl⟩

/-! ## Templates that can come up -/

/-- A template that was read from a specification, or put together from such templates. -/
inductive Made : Template → Prop
  /-- It was read. -/
  | parse {spec : String} {t : Template} (h : parse spec = .ok t) : Made t
  /-- It was put together. -/
  | combine {t u v : Template} (ht : Made t) (hu : Made u) (h : t.combine u = .ok v) : Made v

lemma Made.coherent (h : t.Made) : t.Coherent := by
  induction h with
  | parse h => exact (parse_eq_ok_iff.1 h).2
  | combine _ _ h iht _ =>
    obtain ⟨hcross, hu, rfl⟩ := combine_eq_ok_iff.1 h
    exact List.pairwise_append.2 ⟨iht, hu, hcross⟩

/-- What holds of every field that can be read from an item of a specification holds of every field
of a template that can come up. -/
lemma Made.forall_fields {P : Field → Prop} (h : t.Made)
    (hP : ∀ spec, ∀ item ∈ items spec, ∀ f, Field.parse item = .ok f → P f) :
    ∀ f ∈ t.fields, P f := by
  induction h with
  | @parse spec t h =>
    intro f hf
    obtain ⟨item, hitem, hparse⟩ := exists_item_of_mem (parse_eq_ok_iff.1 h).1 hf
    exact hP spec item hitem f hparse
  | combine _ _ h iht ihu =>
    obtain ⟨-, -, rfl⟩ := combine_eq_ok_iff.1 h
    exact List.forall_mem_append.2 ⟨iht, ihu⟩

end Template

end BracketScript
