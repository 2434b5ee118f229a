import BracketScript.Proofs.Template.Refusal
import BracketScript.Proofs.Template.Specification

set_option autoImplicit false

/-!
# What numeric fields hold

A field that is marked numeric and holds one value is given literals only, by keyword or as a loose
word, and holds the number of the last one. A field that takes many words is given them as they are: it
never looks at its mark, so a numeric list can hold texts that are no numbers.

## Main definitions

* `BracketScript.Text.isNumber` — a text that is a literal, white space aside.
* `BracketScript.Template.textsFor` — the texts that are bound to a field.
* `BracketScript.Template.unnumbered` — a template whose lists are not marked numeric.

## Main results

* `BracketScript.Template.value_final_of_single`, `BracketScript.Template.items_final_of_multi` — what a
  field holds, from the texts that are bound to it.
* `BracketScript.Template.bindWords_unnumbered` — the mark of a list has no effect.
* `BracketScript.Template.bind_numbers` — where numeric fields hold numbers, and where they need not.
-/

namespace BracketScript

/-- Whether a text is a literal, white space aside. -/
def Text.isNumber (s : String) : Bool :=
  (Text.int64? (Text.trim s)).isSome

lemma Field.isNumber_of_reading? {f : Field} {word : String} (hnumeric : f.numeric = true)
    (h : f.reading? word ≠ none) : Text.isNumber word = true := by
  rw [ne_eq, reading?_eq_none_iff, not_and] at h
  exact Option.isSome_iff_ne_none.2 (h hnumeric)

namespace Template

variable {t : Template} {items : List Item} {place : Nat} {f : Field}

/-! ## The texts of a field -/

/-- The loose words that are dealt to the field at a place. -/
def dealtTo (t : Template) (items : List Item) (place : Nat) : List String :=
  if t.fields[place]?.any Field.takesMany then
    (t.wordsFrom items place).take (t.manyCount items place)
  else (t.wordFor items place).toList

/-- The texts that are bound to the field at a place: those that come with its keywords, in order, and
then the loose words that are dealt to it. -/
def textsFor (t : Template) (items : List Item) (place : Nat) : List String :=
  valuesFor items place ++ t.dealtTo items place

/-- A field for one value holds what the last of its texts stands for. -/
lemma value_final_of_single (hf : t.fields[place]? = some f) (hswitch : f.switch = false)
    (hmulti : f.multi = false) :
    (t.finalSlot items place f).value = (t.textsFor items place).getLast?.bind f.reading? := by
  have hsingle : f.takesMany = false := by
    simp [Field.takesMany, hmulti]
  rw [finalSlot_of_single hsingle, textsFor, dealtTo, hf, Option.any_some, hsingle,
    if_neg Bool.false_ne_true]
  cases hword : t.wordFor items place with
  | none => simp [Slot.dealt, toldSlot, Field.told, hswitch, hmulti]
  | some word => simp [Slot.dealt, toldSlot]

/-- A list holds all its texts, in order. -/
lemma items_final_of_multi (hf : t.fields[place]? = some f) (hswitch : f.switch = false)
    (hmulti : f.multi = true) : (t.finalSlot items place f).items = t.textsFor items place := by
  cases hmany : f.takesMany with
  | true =>
    rw [finalSlot_of_many hf hmany, textsFor, dealtTo, hf, Option.any_some, hmany, if_pos rfl]
    cases hempty : (t.wordsFrom items place).isEmpty with
    | true =>
      rw [List.isEmpty_iff] at hempty
      rw [if_pos rfl, toldSlot, items_told hswitch hmulti, hempty, List.take_nil, List.append_nil]
    | false =>
      rw [if_neg Bool.false_ne_true]
      rfl
  | false =>
    -- a list that loose words do not reach is given by keyword only
    have hnone : t.wordFor items place = none :=
      wordFor_of_not_free (by simp [isFree, hf, hmulti])
    rw [finalSlot_of_single hmany, textsFor, dealtTo, hf, Option.any_some, hmany,
      if_neg Bool.false_ne_true, hnone, Option.toList_none, List.append_nil]
    exact items_told hswitch hmulti _ _

/-- Every text that is bound to a numeric field for one value is a literal. -/
lemma isNumber_of_mem_textsFor (hreads : t.Reads items)
    (hread : ∀ place f, t.fields[place]? = some f →
      ∀ word ∈ t.wordFor items place, f.reading? word ≠ none)
    (hf : t.fields[place]? = some f) (hnumeric : f.numeric = true) (hmulti : f.multi = false)
    {word : String} (hword : word ∈ t.textsFor items place) : Text.isNumber word = true := by
  have hsingle : f.takesMany = false := by
    simp [Field.takesMany, hmulti]
  rw [textsFor, dealtTo, hf, Option.any_some, hsingle, if_neg Bool.false_ne_true, List.mem_append,
    Option.mem_toList] at hword
  refine Field.isNumber_of_reading? hnumeric ?_
  rcases hword with hword | hword
  · exact hreads place f hf hmulti word hword
  · exact hread place f hf word hword

end Template

/-! ## The mark of a list -/

/-- The field, if it is a list, without its numeric mark. -/
def Field.unnumbered (f : Field) : Field :=
  if f.multi then { f with numeric := false } else f

/-- The slot with such a field. -/
def Slot.unnumbered (s : Slot) : Slot :=
  { s with field := s.field.unnumbered }

namespace Field

variable (f : Field)

lemma unnumbered_of_single {f : Field} (h : f.multi = false) : f.unnumbered = f := by
  simp [unnumbered, h]

@[simp]
lemma name_unnumbered : f.unnumbered.name = f.name := by
  unfold unnumbered
  split <;> rfl

@[simp]
lemma required_unnumbered : f.unnumbered.required = f.required := by
  unfold unnumbered
  split <;> rfl

@[simp]
lemma switch_unnumbered : f.unnumbered.switch = f.switch := by
  unfold unnumbered
  split <;> rfl

@[simp]
lemma multi_unnumbered : f.unnumbered.multi = f.multi := by
  unfold unnumbered
  split <;> rfl

@[simp]
lemma positional_unnumbered : f.unnumbered.positional = f.positional := by
  unfold unnumbered
  split <;> rfl

@[simp]
lemma answersTo_unnumbered (keyword : String) :
    f.unnumbered.answersTo keyword = f.answersTo keyword := by
  unfold unnumbered
  split <;> rfl

end Field

namespace Slot

variable (s : Slot)

@[simp]
lemma value_unnumbered : s.unnumbered.value = s.value := rfl

@[simp]
lemma field_unnumbered : s.unnumbered.field = s.field.unnumbered := rfl

@[simp]
lemma items_unnumbered : s.unnumbered.items = s.items := rfl

@[simp]
lemma isOpen_unnumbered : s.unnumbered.isOpen = s.isOpen := by
  simp [isOpen]

@[simp]
lemma isFree_unnumbered : s.unnumbered.isFree = s.isFree := by
  simp [isFree]

@[simp]
lemma isLacking_unnumbered : s.unnumbered.isLacking = s.isLacking := by
  simp [isLacking]

/-- A value that comes by keyword is converted only where the mark is kept. -/
lemma give_unnumbered (word : String) :
    s.unnumbered.give word = (s.give word).map Slot.unnumbered := by
  cases hmulti : s.field.multi with
  | true =>
    simp only [give, field_unnumbered, Field.multi_unnumbered, hmulti, ↓reduceIte, items_unnumbered]
    rfl
  | false =>
    have hsame : s.unnumbered = s := by
      rw [unnumbered, Field.unnumbered_of_single hmulti]
    rw [hsame, give, hmulti, if_neg Bool.false_ne_true]
    cases s.field.convert word with
    | error e => rfl
    | ok value =>
      change Except.ok _ = Except.ok _
      rw [unnumbered, Field.unnumbered_of_single hmulti]

end Slot

namespace Template

variable {t : Template}

/-- The template whose lists are not marked numeric. -/
def unnumbered (t : Template) : Template :=
  ⟨t.fields.map Field.unnumbered⟩

lemma keyword?_unnumbered (t : Template) (word : Word) :
    t.unnumbered.keyword? word = (t.keyword? word).map fun (i, f) => (i, f.unnumbered) := by
  have hlookup : t.unnumbered.lookup? word.text = t.lookup? word.text := by
    simp [lookup?, unnumbered, List.findIdx?_map, Function.comp_def]
  rw [keyword?, keyword?, hlookup]
  split
  · rfl
  · cases t.lookup? word.text with
    | none => rfl
    | some i =>
      have hfield : t.unnumbered.fields[i]? = t.fields[i]?.map Field.unnumbered :=
        List.getElem?_map
      cases hi : t.fields[i]? <;> simp [hfield, hi]

lemma group_unnumbered (t : Template) (words : List Word) :
    t.unnumbered.group words = t.group words := by
  fun_induction group t words with
  | case1 => rfl
  | case2 word rest hkey ih => simp [group, keyword?_unnumbered, hkey, ih]
  | case3 word rest i f hkey hswitch ih => simp [group, keyword?_unnumbered, hkey, hswitch, ih]
  | case4 word i f hkey hswitch => simp [group, keyword?_unnumbered, hkey, hswitch]
  | case5 word i f hkey hswitch value rest ih =>
    simp [group, keyword?_unnumbered, hkey, hswitch, ih]

lemma slots_unnumbered (t : Template) : t.unnumbered.slots = t.slots.map Slot.unnumbered := by
  simp [slots, unnumbered, Slot.unnumbered, Function.comp_def]

lemma args_unnumbered (slots : List Slot) : args (slots.map Slot.unnumbered) = args slots := by
  simp [args, Function.comp_def]

lemma place_unnumbered (slots : List Slot) (item : Item) :
    place (slots.map Slot.unnumbered) item = (place slots item).map (List.map Slot.unnumbered) := by
  cases item with
  | loose word => rfl
  | switch word i =>
    have hmodify : (slots.map Slot.unnumbered).modify i
          (fun s => { s with value := some (.switch true) }) =
        (slots.modify i fun s => { s with value := some (.switch true) }).map Slot.unnumbered := by
      apply List.ext_getElem?
      intro j
      simp only [List.getElem?_modify, List.getElem?_map]
      by_cases hij : i = j <;> cases slots[j]? <;> simp [hij, Slot.unnumbered]
    exact congrArg Except.ok hmodify
  | pair word i value =>
    simp only [place, List.getElem?_map]
    cases slots[i]? with
    | none => rfl
    | some s =>
      simp only [Option.map_some, Slot.give_unnumbered]
      cases s.give value.text with
      | error e => rfl
      | ok s' => exact congrArg Except.ok List.map_set.symm
  | dangling word i =>
    simp only [place, List.getElem?_map]
    cases slots[i]? with
    | none => rfl
    | some s => exact congrArg (Except.error ∘ BindError.needsValue) (Field.name_unnumbered _)

lemma foldlM_place_unnumbered (items : List Item) (slots : List Slot) :
    items.foldlM place (slots.map Slot.unnumbered) =
      (items.foldlM place slots).map (List.map Slot.unnumbered) := by
  induction items generalizing slots with
  | nil => rfl
  | cons item items ih =>
    rw [List.foldlM_cons, List.foldlM_cons, place_unnumbered]
    cases place slots item with
    | error e => rfl
    | ok slots' => exact ih slots'

/-- Loose words are dealt out in the same way: only a field for one value looks at its mark. -/
lemma deal_unnumbered (slots : List Slot) (words : List String) :
    deal (slots.map Slot.unnumbered) words =
      (deal slots words).map fun (slots, left) => (slots.map Slot.unnumbered, left) := by
  fun_induction deal slots words with
  | case1 slots =>
    rw [deal_nil]
    rfl
  | case2 words =>
    cases words <;> rfl
  | case3 s slots word words hopen ih =>
    rw [List.map_cons, deal, Slot.isOpen_unnumbered, if_pos hopen, ih]
    cases deal slots (word :: words) <;> rfl
  | case4 s slots word words hopen hmulti count s' ih =>
    have hcount : (slots.map Slot.unnumbered).countP Slot.isFree = slots.countP Slot.isFree := by
      simp [List.countP_map, Function.comp_def]
    rw [List.map_cons, deal, Slot.isOpen_unnumbered, if_neg hopen, Slot.field_unnumbered,
      Field.multi_unnumbered, if_pos hmulti, hcount]
    change (deal _ ((word :: words).drop count) >>= _) = _
    rw [ih]
    cases deal slots ((word :: words).drop count) <;> rfl
  | case5 s slots word words hopen hmulti ih =>
    have hsingle : s.field.unnumbered = s.field :=
      Field.unnumbered_of_single (by simpa using hmulti)
    rw [List.map_cons, deal, Slot.isOpen_unnumbered, if_neg hopen, Slot.field_unnumbered,
      hsingle, if_neg hmulti, ih]
    cases s.field.convert word with
    | error e => rfl
    | ok value =>
      cases deal slots words with
      | error e => rfl
      | ok dealt =>
        change Except.ok _ = Except.ok _
        simp [Slot.unnumbered, hsingle]

/-- **The numeric mark of a list has no effect.** -/
theorem bindWords_unnumbered (t : Template) (words : List Word) :
    t.unnumbered.bindWords words = t.bindWords words := by
  rw [bindWords, bindWords, group_unnumbered, slots_unnumbered, foldlM_place_unnumbered]
  cases (t.group words).foldlM place t.slots with
  | error e => rfl
  | ok slots =>
    change (deal (slots.map Slot.unnumbered) _ >>= _) = (deal slots _ >>= _)
    rw [deal_unnumbered]
    cases deal slots ((t.group words).filterMap Item.loose?) with
    | error e => rfl
    | ok dealt =>
      obtain ⟨slots, _ | ⟨word, left⟩⟩ := dealt
      · have hsame : Slot.isLacking ∘ Slot.unnumbered = Slot.isLacking := by
          funext s
          exact s.isLacking_unnumbered
        have hfind : (slots.map Slot.unnumbered).find? Slot.isLacking =
            (slots.find? Slot.isLacking).map Slot.unnumbered := by
          rw [List.find?_map, hsame]
        cases hlacking : slots.find? Slot.isLacking <;>
          simp [Except.map, pure, Except.pure, hfind, hlacking, args_unnumbered]
      · rfl

/-! ## Numeric fields -/

/-- A field that holds numbers or several words is no switch. -/
lemma Made.switch_eq (h : t.Made) {place : Nat} {f : Field} (hf : t.fields[place]? = some f)
    (hvalue : f.numeric = true ∨ f.multi = true) : f.switch = false := by
  have hplain := (h.readable f (List.mem_of_getElem? hf)).holds_no_value
  rcases hvalue with hnumeric | hmulti
  · simpa [Field.switchHoldsValue, hnumeric] using hplain
  · simpa [Field.switchHoldsValue, hmulti] using hplain

/-- **Numeric fields for one value hold numbers, and numeric lists hold any texts.** If a text is bound,
every text that is bound to a numeric field for one value is a literal, also one that a later text
replaces, and the field holds the number of the last. A list holds the texts that are bound to it as
they are, and its mark changes nothing: without it the same texts are bound, to the same arguments, and
the same are refused. -/
theorem bind_numbers (ht : t.Made) (text : String) :
    (∀ r, t.bind text = .ok r → ∃ words, Word.split? text = some words ∧
      (∀ place f, t.fields[place]? = some f → f.numeric = true → f.multi = false →
        (∀ word ∈ t.textsFor (t.group words) place, Text.isNumber word = true) ∧
          r.get? place = (t.textsFor (t.group words) place).getLast?.bind fun word =>
            (Text.int64? (Text.trim word)).map .int) ∧
      ∀ place f, t.fields[place]? = some f → f.multi = true →
        ((r.get? place).bind ArgValue.list?).getD [] = t.textsFor (t.group words) place) ∧
    t.unnumbered.bind text = t.bind text := by
  cases hwords : Word.split? text with
  | none => simp [bind, hwords]
  | some words =>
    rw [bind, bind, hwords]
    refine ⟨fun r hr => ⟨words, rfl, ?_⟩, bindWords_unnumbered t words⟩
    obtain ⟨-, hreads, hread, -, -, rfl⟩ := (bindWords_eq_ok_iff_final ht.coherent).1 hr
    refine ⟨fun place f hf hnumeric hmulti => ⟨fun word hword => ?_, ?_⟩, fun place f hf hmulti => ?_⟩
    · exact isNumber_of_mem_textsFor hreads hread hf hnumeric hmulti hword
    · have hreading : f.reading? = fun word => (Text.int64? (Text.trim word)).map .int := by
        funext word
        rw [Field.reading?, if_pos hnumeric]
      rw [get?_args_final, hf, Option.bind_some,
        value_final_of_single hf (ht.switch_eq hf (.inl hnumeric)) hmulti, hreading]
    · rw [get?_args_final, hf, Option.bind_some]
      exact items_final_of_multi hf (ht.switch_eq hf (.inr hmulti)) hmulti

/-- A template with a numeric list and a numeric field for one value. -/
def sizing : Template where
  fields :=
    [{ name := "W", numeric := true, multi := true },
      { name := "COUNT", keyword := true, numeric := true }]

-- the first number is replaced by the second one
theorem bind_numbers_sizing :
    parse "W/N/M COUNT/K/N" = .ok sizing ∧
      ∃ r, sizing.bind "COUNT=3 wide count 4" = .ok r ∧ r.get? 1 = some (.int 4) ∧
        sizing.unnumbered.bind "COUNT=3 wide count 4" = .ok r := by
  have hparse : parse "W/N/M COUNT/K/N" = .ok sizing := by
    with_unfolding_all rfl
  have hwords : Word.split? "COUNT=3 wide count 4" =
      some [⟨"COUNT", false⟩, ⟨"3", false⟩, ⟨"wide", false⟩, ⟨"count", false⟩, ⟨"4", false⟩] := by
    with_unfolding_all rfl
  have hbind : sizing.bind "COUNT=3 wide count 4" =
      .ok ⟨[("W", some (.multi ["wide"])), ("COUNT", some (.int 4))]⟩ := by
    rw [bind, hwords]
    with_unfolding_all rfl
  obtain ⟨hbound, hsame⟩ := bind_numbers (.parse hparse) "COUNT=3 wide count 4"
  obtain ⟨words, hsplit, hsingle, -⟩ := hbound _ hbind
  obtain rfl := Option.some.inj (hwords.symm.trans hsplit)
  exact ⟨hparse, _, hbind, (hsingle 1 _ rfl rfl rfl).2, hsame.trans hbind⟩

-- a numeric list takes a word that is no number, as a loose word and by keyword
theorem not_isNumber_sizing :
    parse "W/N/M COUNT/K/N" = .ok sizing ∧
      sizing.fields[0]? = some { name := "W", numeric := true, multi := true } ∧
      (∃ r, sizing.bind "wide" = .ok r ∧ r.get? 0 = some (.multi ["wide"])) ∧
      (∃ r, sizing.bind "W=wide" = .ok r ∧ r.get? 0 = some (.multi ["wide"])) ∧
      Text.isNumber "wide" = false := by
  have hloose : Word.split? "wide" = some [⟨"wide", false⟩] := by
    with_unfolding_all rfl
  have hkeyword : Word.split? "W=wide" = some [⟨"W", false⟩, ⟨"wide", false⟩] := by
    with_unfolding_all rfl
  refine ⟨by with_unfolding_all rfl, rfl, ?_, ?_, by with_unfolding_all rfl⟩
  · refine ⟨⟨[("W", some (.multi ["wide"])), ("COUNT", none)]⟩, ?_, rfl⟩
    rw [bind, hloose]
    with_unfolding_all rfl
  · refine ⟨⟨[("W", some (.multi ["wide"])), ("COUNT", none)]⟩, ?_, rfl⟩
    rw [bind, hkeyword]
    with_unfolding_all rfl

end Template

end BracketScript
