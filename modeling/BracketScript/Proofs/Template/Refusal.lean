import BracketScript.Proofs.Template.Dealing
import BracketScript.Proofs.Template.Words

set_option autoImplicit false

/-!
# Texts that cannot be bound

An argument text is refused for one of five reasons, which are checked one after the other while the
slots fill up. They are stated here on their own, for the text as a whole: whether a reason holds does
not depend on whether an earlier one does, because where each word goes is known without binding
anything.

## Main definitions

* `BracketScript.Template.Refuses` — the reasons why a text cannot be bound.

## Main results

* `BracketScript.Template.bind_refuses_iff` — a text is refused for these reasons and for no other.
-/

namespace BracketScript

/-- Only a numeric field can make nothing of a word. -/
lemma Field.reading?_eq_none_iff {f : Field} {word : String} :
    f.reading? word = none ↔ f.numeric = true ∧ Text.int64? (Text.trim word) = none := by
  unfold reading?
  cases f.numeric <;> simp

lemma Slot.isLacking_iff {s : Slot} :
    s.isLacking = true ↔
      s.field.required = true ∧ (s.value = none ∨ s.value = some (.multi [])) := by
  obtain ⟨f, v⟩ := s
  rw [isLacking, Bool.and_eq_true]
  refine and_congr_right fun _ => ?_
  match v with
  | none => simp
  | some (.multi items) => simp
  | some (.str _) => simp
  | some (.int _) => simp
  | some (.switch _) => simp

namespace Template

variable {t : Template}

/-- The reasons why an argument text cannot be bound to the fields of a template. -/
inductive Refuses (t : Template) (text : String) : Prop
  /-- The number of quotes is odd. -/
  | openQuote (h : Odd (text.toList.count '"'))
  /-- The last word is the keyword of a field that is no switch, and nothing follows it. -/
  | needsValue {words : List Word} {word : Word} {place : Nat} (hwords : Word.split? text = some words)
      (h : (t.group words).getLast? = some (.dangling word place))
  /-- A numeric field that does not take many is given a word that is no literal, by keyword, were it
  one of several, or as the loose word that is dealt to it. -/
  | badNumber {words : List Word} {place : Nat} {f : Field} {word : String}
      (hwords : Word.split? text = some words) (hf : t.fields[place]? = some f)
      (numeric : f.numeric = true) (single : f.multi = false)
      (hword : word ∈ valuesFor (t.group words) place ∨ t.wordFor (t.group words) place = some word)
      (h : Text.int64? (Text.trim word) = none)
  /-- No field takes many, and there are more loose words than free fields. -/
  | tooMany {words : List Word} (hwords : Word.split? text = some words)
      (single : ∀ f ∈ t.fields, f.takesMany = false)
      (h : t.freeCount (t.group words) 0 t.fields.length < (looseWords (t.group words)).length)
  /-- A required field ends up unbound or with an empty list. -/
  | missing {words : List Word} {place : Nat} {f : Field} (hwords : Word.split? text = some words)
      (hf : t.fields[place]? = some f) (required : f.required = true)
      (h : (t.finalSlot (t.group words) place f).value = none ∨
        (t.finalSlot (t.group words) place f).value = some (.multi []))

section Words

variable {words : List Word}

/-- If some keyword lacks its value, the last one does. -/
lemma exists_getLast?_of_dangling {item : Item} (h : item ∈ t.group words)
    (hdangling : item.isDangling = true) :
    ∃ word place, (t.group words).getLast? = some (.dangling word place) := by
  obtain ⟨items, last, hgroup, hitems, rfl | ⟨word, place, f, rfl, -⟩⟩ := exists_group_eq t words
  · rw [hgroup, List.append_nil] at h
    rw [(hitems item h).isDangling_eq] at hdangling
    cases hdangling
  · exact ⟨word, place, by simp [hgroup]⟩

lemma surplus_eq_nil_iff {items : List Item} :
    t.surplus items = [] ↔ ((∀ f ∈ t.fields, f.takesMany = false) →
      (looseWords items).length ≤ t.freeCount items 0 t.fields.length) := by
  rw [← many?_eq_none_iff, surplus]
  cases t.many? <;> simp

@[simp]
lemma field_finalSlot (items : List Item) (place : Nat) (f : Field) :
    (t.finalSlot items place f).field = f := by
  unfold finalSlot
  split
  · rfl
  · cases t.wordFor items place <;> rfl

/-- A field that is dealt a word as its only one is free. -/
lemma isFree_of_wordFor {items : List Item} {place : Nat} {word : String}
    (hword : t.wordFor items place = some word) : t.isFree items place = true := by
  by_contra hnot
  rw [wordFor_of_not_free (by simpa using hnot)] at hword
  cases hword

/-- Only a field for one value is dealt a word as its only one. -/
lemma multi_of_wordFor {items : List Item} {place : Nat} {f : Field} {word : String}
    (hf : t.fields[place]? = some f) (hword : t.wordFor items place = some word) :
    f.multi = false := by
  have hfree := isFree_of_wordFor hword
  simp_all [isFree]

/-- Words that are bound give no reason to refuse the text that they are from. -/
lemma not_refuses_of_ok (ht : t.Coherent) {text : String} {r : Args}
    (hwords : Word.split? text = some words) (h : t.bindWords words = .ok r) : ¬ t.Refuses text := by
  obtain ⟨hvalues, hreads, hread, hleft, hlacking, -⟩ := (bindWords_eq_ok_iff_final ht).1 h
  have hsame {words' : List Word} (hwords' : Word.split? text = some words') : words = words' := by
    simpa [hwords] using hwords'
  intro hrefuses
  cases hrefuses with
  | openQuote hodd =>
    rw [← Word.split?_eq_none_iff, hwords] at hodd
    cases hodd
  | needsValue hwords' hlast =>
    obtain rfl := hsame hwords'
    have hdangling := hvalues _ (List.mem_of_getLast? hlast)
    cases hdangling
  | @badNumber _ place f word hwords' hf numeric single hword hbad =>
    obtain rfl := hsame hwords'
    have hnone : f.reading? word = none := Field.reading?_eq_none_iff.2 ⟨numeric, hbad⟩
    rcases hword with hword | hword
    · exact hreads place f hf single word hword hnone
    · exact hread place f hf word hword hnone
  | tooMany hwords' single hmore =>
    obtain rfl := hsame hwords'
    have henough := surplus_eq_nil_iff.1 hleft single
    omega
  | @missing _ place f hwords' hf required hunbound =>
    obtain rfl := hsame hwords'
    have hslot : (t.finalSlot (t.group words) place f).isLacking = true :=
      Slot.isLacking_iff.2 ⟨by simpa using required, hunbound⟩
    rw [hlacking place f hf] at hslot
    cases hslot

/-- Without a reason to refuse the text the words are bound. -/
lemma exists_ok_of_not_refuses (ht : t.Coherent) {text : String}
    (hwords : Word.split? text = some words) (h : ¬ t.Refuses text) :
    ∃ r, t.bindWords words = .ok r := by
  refine ⟨_, (bindWords_eq_ok_iff_final ht).2 ⟨?_, ?_, ?_, ?_, ?_, rfl⟩⟩
  · intro item hitem
    by_contra hdangling
    obtain ⟨word, place, hlast⟩ := exists_getLast?_of_dangling hitem (by simpa using hdangling)
    exact h (.needsValue hwords hlast)
  · intro place f hf single word hword hnone
    obtain ⟨numeric, hbad⟩ := Field.reading?_eq_none_iff.1 hnone
    exact h (.badNumber hwords hf numeric single (.inl hword) hbad)
  · intro place f hf word hword hnone
    obtain ⟨numeric, hbad⟩ := Field.reading?_eq_none_iff.1 hnone
    exact h (.badNumber hwords hf numeric (multi_of_wordFor hf hword) (.inr hword) hbad)
  · rw [surplus_eq_nil_iff]
    intro single
    by_contra hmore
    exact h (.tooMany hwords single (by omega))
  · intro place f hf
    by_contra hslot
    obtain ⟨required, hunbound⟩ := Slot.isLacking_iff.1 (Bool.of_not_eq_false hslot)
    exact h (.missing hwords hf (by simpa using required) hunbound)

end Words

/-- **A text is refused for five reasons and for no other.** A text that is bound gives every field the
value of its final slot, so that the fifth reason is about what the fields end up with. -/
theorem bind_refuses_iff (ht : t.Made) (text : String) :
    ((∃ e, t.bind text = .error e) ↔ t.Refuses text) ∧
      ∀ r, t.bind text = .ok r → ∃ words, Word.split? text = some words ∧
        ∀ place, r.get? place =
          t.fields[place]?.bind fun f => (t.finalSlot (t.group words) place f).value := by
  cases hwords : Word.split? text with
  | none =>
    have hbind : t.bind text = .error .openQuote := by
      rw [bind, hwords]
    refine ⟨?_, fun r hr => ?_⟩
    · exact iff_of_true ⟨_, hbind⟩ (.openQuote ((Word.split?_eq_none_iff text).1 hwords))
    · rw [hbind] at hr
      cases hr
  | some words =>
    have hbind : t.bind text = t.bindWords words := by
      rw [bind, hwords]
    rw [hbind]
    refine ⟨?_, fun r hr => ⟨words, rfl, fun place => ?_⟩⟩
    · constructor
      · rintro ⟨e, he⟩
        by_contra hnot
        obtain ⟨r, hr⟩ := exists_ok_of_not_refuses ht.coherent hwords hnot
        rw [he] at hr
        cases hr
      · intro hrefuses
        cases hr : t.bindWords words with
        | error e => exact ⟨e, rfl⟩
        | ok r => exact absurd hrefuses (not_refuses_of_ok ht.coherent hwords hr)
    · obtain ⟨-, -, -, -, -, rfl⟩ := (bindWords_eq_ok_iff_final ht.coherent).1 hr
      exact get?_args_final

/-- A template in which a list that is required stands before a further field. -/
def listing : Template where
  fields :=
    [{ name := "FROM" }, { name := "FILES", required := true, multi := true }, { name := "TO" }]

-- the list leaves its only word to the field behind it
theorem bind_refuses_iff_listing :
    parse "FROM FILES/A/M TO" = .ok listing ∧ listing.Refuses "a b" ∧
      ∃ e, listing.bind "a b" = .error e := by
  have hparse : parse "FROM FILES/A/M TO" = .ok listing := by
    with_unfolding_all rfl
  have hwords : Word.split? "a b" = some [⟨"a", false⟩, ⟨"b", false⟩] := by
    with_unfolding_all rfl
  have hfiles : listing.fields[1]? =
      some { name := "FILES", required := true, multi := true } := rfl
  have hrefuses : listing.Refuses "a b" :=
    .missing hwords hfiles rfl (.inr (by decide +kernel))
  exact ⟨hparse, hrefuses, (bind_refuses_iff (.parse hparse) "a b").1.2 hrefuses⟩

end Template

end BracketScript
