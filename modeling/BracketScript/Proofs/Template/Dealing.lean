import BracketScript.Proofs.Template.Formation
import BracketScript.Proofs.Template.Keywords

set_option autoImplicit false

/-!
# Dealing out the loose words

The second pass of binding deals out the words that belong to no keyword. A field is free for one if it
holds one word and no keyword has set it; fields that are not free are passed over. Where no field takes
many words, they go one each to the first free fields. A field that takes many leaves one word for each
free field behind it, as far as there are words, and takes the others after the values that it has
already. What every field ends up with is said here in one step, from the items alone.

## Main definitions

* `BracketScript.Template.share`, `BracketScript.Template.filled` — words dealt out one each to slots.
* `BracketScript.Template.isFree`, `BracketScript.Template.freeCount` — the fields that are free.
* `BracketScript.Template.wordFor` — the loose word for a field that holds one.
* `BracketScript.Template.finalSlot` — the slot of a field after both passes.
* `BracketScript.Template.DealtOut` — arguments in which words were dealt out to a stretch of fields.

## Main results

* `BracketScript.Template.deal_append_eq_ok_iff`, `BracketScript.Template.deal_many_eq_ok_iff` — when the
  second pass succeeds, and with which slots, before a slot that takes many and from it on.
* `BracketScript.Template.deal_told_eq_ok_iff` — the same for the slots of a template.
* `BracketScript.Template.bindWords_eq_ok_iff_final` — when binding succeeds, and with which arguments.
* `BracketScript.Template.bindWords_deals` — loose words are dealt out without loss and in order.
-/

namespace BracketScript

/-- Whether plain words fill a field, and it takes all that are left. -/
def Field.takesMany (f : Field) : Bool :=
  f.positional && f.multi

/-- What a field for one word holds that was dealt a word, or none. -/
inductive Field.Holds (f : Field) : Option String → Option ArgValue → Prop
  /-- It is unbound. -/
  | nothing : f.Holds none none
  /-- It holds what the word stands for. -/
  | word {word : String} {value : ArgValue} (h : f.reading? word = some value) :
    f.Holds (some word) (some value)

/-- The slot with the word that is dealt to it, if there is one. -/
def Slot.dealt (s : Slot) : Option String → Slot
  | none => s
  | some word => { s with value := s.field.reading? word }

namespace Template

variable {t : Template}

/-! ## One word each -/

/-- The word for the slot at a place, when words are dealt out one each to the free slots. -/
def share (slots : List Slot) (words : List String) (place : Nat) : Option String :=
  if slots[place]?.any Slot.isFree then words[(slots.take place).countP Slot.isFree]? else none

/-- Slots to which words are dealt out one each. -/
def filled (slots : List Slot) (words : List String) : List Slot :=
  slots.mapIdx fun place s => s.dealt (share slots words place)

/-- Every word that is dealt out stands for something in its field. -/
def Fits (slots : List Slot) (words : List String) : Prop :=
  ∀ place s, slots[place]? = some s → ∀ word ∈ share slots words place, s.field.reading? word ≠ none

section Cons

variable {s : Slot} (slots : List Slot) (word : String) (words : List String)

lemma share_nil (place : Nat) : share slots [] place = none := by
  simp [share]

lemma share_cons_of_free (h : s.isFree = true) (place : Nat) :
    share (s :: slots) (word :: words) (place + 1) = share slots words place := by
  simp [share, h]

lemma share_cons_of_not_free (h : s.isFree = false) (place : Nat) :
    share (s :: slots) words (place + 1) = share slots words place := by
  simp [share, h]

lemma share_zero_of_free (h : s.isFree = true) :
    share (s :: slots) (word :: words) 0 = some word := by
  simp [share, h]

lemma share_zero_of_not_free (h : s.isFree = false) : share (s :: slots) words 0 = none := by
  simp [share, h]

/-- Without words the slots stay as they are. -/
lemma filled_nil : filled slots [] = slots := by
  apply List.ext_getElem?
  intro place
  simp [filled, share_nil, Slot.dealt]

lemma fits_nil : Fits slots [] := by
  intro place s _ word hword
  simp [share_nil] at hword

/-- The first word goes to the first free slot. -/
lemma filled_cons_of_free (h : s.isFree = true) :
    filled (s :: slots) (word :: words) = s.dealt (some word) :: filled slots words := by
  simp [filled, share_zero_of_free slots word words h, share_cons_of_free slots word words h]

lemma filled_cons_of_not_free (h : s.isFree = false) :
    filled (s :: slots) words = s :: filled slots words := by
  simp [filled, share_zero_of_not_free slots words h, share_cons_of_not_free slots words h,
    Slot.dealt]

lemma fits_cons_of_free (h : s.isFree = true) :
    Fits (s :: slots) (word :: words) ↔ s.field.reading? word ≠ none ∧ Fits slots words := by
  constructor
  · intro hfits
    refine ⟨hfits 0 s rfl word (share_zero_of_free slots word words h), ?_⟩
    intro place s' hs' word' hword'
    exact hfits (place + 1) s' hs' word' (by rwa [share_cons_of_free slots word words h])
  · rintro ⟨hfirst, hrest⟩ (_ | place) s' hs' word' hword'
    · rw [share_zero_of_free slots word words h] at hword'
      cases hs'
      cases hword'
      exact hfirst
    · rw [share_cons_of_free slots word words h] at hword'
      exact hrest place s' hs' word' hword'

lemma fits_cons_of_not_free (h : s.isFree = false) :
    Fits (s :: slots) words ↔ Fits slots words := by
  constructor
  · intro hfits place s' hs' word' hword'
    exact hfits (place + 1) s' hs' word' (by rwa [share_cons_of_not_free slots words h])
  · rintro hrest (_ | place) s' hs' word' hword'
    · rw [share_zero_of_not_free slots words h] at hword'
      cases hword'
    · rw [share_cons_of_not_free slots words h] at hword'
      exact hrest place s' hs' word' hword'

end Cons

/-! ## One slot after another -/

section Steps

variable {s : Slot} {slots slots' : List Slot} {word : String} {words left : List String}

/-- Without words the slots stay as they are. -/
@[simp]
lemma deal_nil (slots : List Slot) : deal slots [] = .ok (slots, []) := by
  cases slots <;> rfl

/-- A slot that is not open is passed over. -/
lemma deal_cons_of_not_open (h : s.isOpen = false) :
    deal (s :: slots) words = .ok (slots', left) ↔
      ∃ rest, deal slots words = .ok (rest, left) ∧ slots' = s :: rest := by
  cases words with
  | nil => simp [eq_comm, and_comm]
  | cons word words =>
    rw [deal, if_pos (by simp [h]), Effect.bind_eq_ok_iff]
    constructor
    · rintro ⟨⟨rest, left'⟩, hdeal, heq⟩
      cases heq
      exact ⟨rest, hdeal, rfl⟩
    · rintro ⟨rest, hdeal, rfl⟩
      exact ⟨(rest, left), hdeal, rfl⟩

/-- A free slot for one word takes the first one, which has to stand for something in its field. -/
lemma deal_cons_of_single (h : s.isFree = true) (hsingle : s.field.multi = false) :
    deal (s :: slots) (word :: words) = .ok (slots', left) ↔
      s.field.reading? word ≠ none ∧
        ∃ rest, deal slots words = .ok (rest, left) ∧ slots' = s.dealt (some word) :: rest := by
  have hopen : s.isOpen = true := by
    simp_all [Slot.isOpen, Slot.isFree]
  rw [deal, if_neg (by simp [hopen]), if_neg (by simp [hsingle]), Effect.bind_eq_ok_iff]
  simp only [Field.convert_eq_ok_iff]
  constructor
  · rintro ⟨value, hvalue, hrest⟩
    obtain ⟨⟨rest, left'⟩, hdeal, heq⟩ := Effect.bind_eq_ok_iff.1 hrest
    cases heq
    exact ⟨by simp [hvalue], rest, hdeal, by rw [Slot.dealt, hvalue]⟩
  · rintro ⟨hread, rest, hdeal, rfl⟩
    obtain ⟨value, hvalue⟩ := Option.ne_none_iff_exists'.1 hread
    refine ⟨value, hvalue, Effect.bind_eq_ok_iff.2 ⟨(rest, left), hdeal, ?_⟩⟩
    rw [Slot.dealt, hvalue]
    rfl

/-- A slot that takes many leaves one word for each free slot behind it, as far as there are words. -/
lemma deal_cons_of_many (h : s.isOpen = true) (hmany : s.field.multi = true) (hwords : words ≠ []) :
    deal (s :: slots) words = .ok (slots', left) ↔
      ∃ rest, deal slots (words.drop (words.length - slots.countP Slot.isFree)) = .ok (rest, left) ∧
        slots' = { s with value := some (.multi
          (s.items ++ words.take (words.length - slots.countP Slot.isFree))) } :: rest := by
  obtain ⟨word, words, rfl⟩ := List.exists_cons_of_ne_nil hwords
  rw [deal, if_neg (by simp [h]), if_pos hmany, Effect.bind_eq_ok_iff]
  constructor
  · rintro ⟨⟨rest, left'⟩, hdeal, heq⟩
    cases heq
    exact ⟨rest, hdeal, rfl⟩
  · rintro ⟨rest, hdeal, rfl⟩
    exact ⟨(rest, left), hdeal, rfl⟩

end Steps

/-- Where nothing takes many, only a free slot is open for a word. -/
lemma isOpen_eq_isFree {s : Slot} (h : s.field.takesMany = false) : s.isOpen = s.isFree := by
  rw [Field.takesMany, Bool.and_eq_false_iff] at h
  rcases h with h | h <;> simp [Slot.isOpen, Slot.isFree, h]

/-- **Words are dealt out one each** to slots of which none takes many, in order, and what is left goes
on to the slots behind them.

**Proof sketch.** Induction on the slots in front. One that is not free is passed over; one that is
free takes the first word, and the others then have one free slot and one word less before them. -/
lemma deal_append_eq_ok_iff {before rest slots : List Slot} {words left : List String}
    (h : ∀ s ∈ before, s.field.takesMany = false) :
    deal (before ++ rest) words = .ok (slots, left) ↔
      Fits before words ∧
        ∃ rest', deal rest (words.drop (before.countP Slot.isFree)) = .ok (rest', left) ∧
          slots = filled before words ++ rest' := by
  induction before generalizing words slots with
  | nil => simp [Fits, filled]
  | cons s before ih =>
    obtain ⟨hs, hbefore⟩ := List.forall_mem_cons.1 h
    cases hfree : s.isFree with
    | false =>
      have hopen : s.isOpen = false := (isOpen_eq_isFree hs).trans hfree
      rw [List.cons_append, deal_cons_of_not_open hopen, fits_cons_of_not_free before _ hfree,
        filled_cons_of_not_free before _ hfree, List.countP_cons_of_neg (by simp [hfree])]
      constructor
      · rintro ⟨slots, hdeal, rfl⟩
        obtain ⟨hfits, rest', hrest, rfl⟩ := (ih hbefore).1 hdeal
        exact ⟨hfits, rest', hrest, rfl⟩
      · rintro ⟨hfits, rest', hrest, rfl⟩
        exact ⟨_, (ih hbefore).2 ⟨hfits, rest', hrest, rfl⟩, rfl⟩
    | true =>
      cases words with
      | nil =>
        rw [List.drop_nil, deal_nil, deal_nil, filled_nil]
        constructor
        · intro hdeal
          cases hdeal
          exact ⟨fits_nil _, rest, rfl, rfl⟩
        · rintro ⟨-, rest', hrest, rfl⟩
          cases hrest
          rfl
      | cons word words =>
        have hsingle : s.field.multi = false := by
          simp_all [Slot.isFree, Field.takesMany]
        rw [List.cons_append, deal_cons_of_single hfree hsingle, fits_cons_of_free before _ _ hfree,
          filled_cons_of_free before _ _ hfree, List.countP_cons_of_pos hfree, List.drop_succ_cons]
        constructor
        · rintro ⟨hread, slots, hdeal, rfl⟩
          obtain ⟨hfits, rest', hrest, rfl⟩ := (ih hbefore).1 hdeal
          exact ⟨⟨hread, hfits⟩, rest', hrest, rfl⟩
        · rintro ⟨⟨hread, hfits⟩, rest', hrest, rfl⟩
          exact ⟨hread, _, (ih hbefore).2 ⟨hfits, rest', hrest, rfl⟩, rfl⟩

/-- Words for slots of which none takes many; one word is left for each that is too many. -/
lemma deal_eq_ok_iff {slots slots' : List Slot} {words left : List String}
    (h : ∀ s ∈ slots, s.field.takesMany = false) :
    deal slots words = .ok (slots', left) ↔
      Fits slots words ∧ slots' = filled slots words ∧
        left = words.drop (slots.countP Slot.isFree) := by
  have hdeal (words : List String) : deal [] words = .ok ([], words) := by
    cases words <;> rfl
  have happend : deal (slots ++ []) words = .ok (slots', left) ↔ _ := deal_append_eq_ok_iff h
  simp only [List.append_nil, hdeal, Except.ok.injEq, Prod.mk.injEq] at happend
  rw [happend]
  constructor
  · rintro ⟨hfits, rest', ⟨rfl, rfl⟩, hslots⟩
    exact ⟨hfits, by simpa using hslots, rfl⟩
  · rintro ⟨hfits, hslots, rfl⟩
    exact ⟨hfits, [], ⟨rfl, rfl⟩, by simpa using hslots⟩

/-- **Words for a slot that takes many and for the slots behind it.** If there are words at all, the
last ones go one each to the free slots behind, and the slot takes the others. No word is left.

**Proof sketch.** The slot leaves as many words as there are free slots behind it, or all of them, so
none of these is too many. -/
lemma deal_many_eq_ok_iff {s : Slot} {slots slots' : List Slot} {words left : List String}
    (hopen : s.isOpen = true) (hmany : s.field.multi = true)
    (h : ∀ s ∈ slots, s.field.takesMany = false) :
    deal (s :: slots) words = .ok (slots', left) ↔
      Fits slots (words.drop (words.length - slots.countP Slot.isFree)) ∧
        slots' = (if words.isEmpty then s else { s with value := some (.multi
            (s.items ++ words.take (words.length - slots.countP Slot.isFree))) }) ::
          filled slots (words.drop (words.length - slots.countP Slot.isFree)) ∧ left = [] := by
  cases words with
  | nil => simp [fits_nil, filled_nil, eq_comm]
  | cons word words =>
    rw [deal_cons_of_many hopen hmany (by simp)]
    simp only [deal_eq_ok_iff h]
    have hleft : ((word :: words).drop ((word :: words).length - slots.countP Slot.isFree)).drop
        (slots.countP Slot.isFree) = [] := by
      rw [List.drop_drop, List.drop_eq_nil_iff]
      omega
    rw [hleft]
    constructor
    · rintro ⟨rest, ⟨hfits, rfl, rfl⟩, rfl⟩
      exact ⟨hfits, rfl, rfl⟩
    · rintro ⟨hfits, rfl, rfl⟩
      exact ⟨_, ⟨hfits, rfl, rfl⟩, rfl⟩

/-! ## Stretches of a list -/

section Extract

variable {α : Type} {l : List α} {first last i m : Nat} {a : α}

lemma getElem?_extract_of_lt (h : first + i < last) : (l.extract first last)[i]? = l[first + i]? := by
  rw [List.extract_eq_take_drop, List.getElem?_take_of_lt (by omega), List.getElem?_drop]

lemma lt_of_getElem?_extract (h : (l.extract first last)[i]? = some a) : first + i < last := by
  obtain ⟨hi, -⟩ := List.getElem?_eq_some_iff.1 h
  rw [List.extract_eq_take_drop, List.length_take] at hi
  omega

lemma take_extract (h : first + i ≤ last) :
    (l.extract first last).take i = l.extract first (first + i) := by
  rw [List.extract_eq_take_drop, List.extract_eq_take_drop, List.take_take]
  congr 1
  omega

lemma extract_of_length (h : l.length = last) : l.extract 0 last = l := by
  subst h
  simp

lemma extract_append_cons (h : l[m]? = some a) :
    l.extract 0 m ++ a :: l.extract (m + 1) l.length = l := by
  obtain ⟨hm, rfl⟩ := List.getElem?_eq_some_iff.1 h
  have hlast : l.extract (m + 1) l.length = l.drop (m + 1) := by
    rw [List.extract_eq_take_drop, ← List.length_drop, List.take_length]
  rw [hlast, ← List.drop_eq_getElem_cons hm, List.extract_eq_take_drop, List.drop_zero, Nat.sub_zero,
    List.take_append_drop]

lemma countP_extract (p : α → Bool) :
    (l.extract first last).countP p =
      (List.range' first (last - first)).countP fun i => l[i]?.any p := by
  rw [List.extract_eq_take_drop]
  generalize last - first = count
  induction count with
  | zero => simp
  | succ count ih =>
    rw [List.take_add_one, List.countP_append, ih, List.range'_1_concat, List.countP_append,
      List.getElem?_drop]
    cases h : l[first + count]? with
    | none => simp [h]
    | some a => simp [List.countP_cons, h]

end Extract

/-! ## Free fields -/

/-- Whether the field at a place is free: it is filled by plain words, by one at most, and no keyword
has set it. -/
def isFree (t : Template) (items : List Item) (place : Nat) : Bool :=
  t.fields[place]?.any (fun f => f.positional && !f.multi) && !isNamed items place

/-- The number of free fields from a place on and before another one. -/
def freeCount (t : Template) (items : List Item) (first last : Nat) : Nat :=
  (List.range' first (last - first)).countP (t.isFree items)

/-- The word for the field at a place, if words are dealt out one each to the free fields from `first`
on. -/
def wordAt (t : Template) (items : List Item) (first : Nat) (words : List String) (place : Nat) :
    Option String :=
  if t.isFree items place then words[t.freeCount items first place]? else none

section Told

variable {items : List Item} {place : Nat} {f : Field}

/-- A field that is no switch was named if it was given a value. -/
lemma isNamed_eq_of_not_switch (hsuits : ∀ item ∈ items, item.Suits t)
    (hf : t.fields[place]? = some f) (hswitch : f.switch = false) :
    isNamed items place = !(valuesFor items place).isEmpty := by
  have hitem (item : Item) (hitem : item ∈ items) :
      item.names place = (item.valueFor? place).isSome := by
    cases hsuits item hitem with
    | @switch word i g hkey on =>
      have hne : i ≠ place := by
        rintro rfl
        have := fields_of_keyword? hkey
        simp_all
      simp [Item.names, Item.valueFor?, hne]
    | @pair word i g value hkey off =>
      by_cases hi : i = place <;> simp [Item.names, Item.valueFor?, hi]
    | loose hkey => rfl
  rw [Bool.eq_iff_iff]
  simp only [isNamed, valuesFor, List.any_eq_true, Bool.not_eq_true', List.isEmpty_eq_false_iff,
    ne_eq, List.filterMap_eq_nil_iff, not_forall, exists_prop]
  refine exists_congr fun item => and_congr_right fun hmem => ?_
  rw [hitem item hmem, Option.isSome_iff_ne_none]

/-- After the first pass a slot is free if no keyword has set its field. -/
lemma isFree_toldSlot (hsuits : ∀ item ∈ items, item.Suits t) (hreads : t.Reads items)
    (hf : t.fields[place]? = some f) (hsingle : f.takesMany = false) :
    (toldSlot items place f).isFree = t.isFree items place := by
  cases hpos : f.positional with
  | false => simp [Slot.isFree, toldSlot, isFree, hf, hpos]
  | true =>
    have hmulti : f.multi = false := by
      simpa [Field.takesMany, hpos] using hsingle
    have hswitch : f.switch = false := by
      simp_all [Field.positional]
    have hvalue : (f.told (isNamed items place) (valuesFor items place)).isNone =
        (valuesFor items place).isEmpty := by
      rw [Field.told, if_neg (by simp [hswitch]), if_neg (by simp [hmulti])]
      cases hlast : (valuesFor items place).getLast? with
      | none => simp_all
      | some word =>
        have hread := hreads place f hf hmulti word (List.mem_of_getLast? hlast)
        obtain ⟨value, hvalue⟩ := Option.ne_none_iff_exists'.1 hread
        have hne : valuesFor items place ≠ [] := by
          rintro hnil
          simp [hnil] at hlast
        simp [hvalue, hne]
    simp only [Slot.isFree, toldSlot, hvalue]
    simp [isFree, hf, hpos, hmulti, isNamed_eq_of_not_switch hsuits hf hswitch]

end Told

/-- No field from a place on and before another one takes many. -/
def SingleBetween (t : Template) (first last : Nat) : Prop :=
  ∀ place f, first ≤ place → place < last → t.fields[place]? = some f → f.takesMany = false

lemma SingleBetween.forall_mem_extract {first last : Nat} (h : t.SingleBetween first last)
    (items : List Item) :
    ∀ s ∈ (t.told items).extract first last, s.field.takesMany = false := by
  intro s hs
  obtain ⟨i, hi⟩ := List.getElem?_of_mem hs
  have hlt := lt_of_getElem?_extract hi
  rw [getElem?_extract_of_lt hlt, getElem?_told] at hi
  obtain ⟨f, hf, rfl⟩ := Option.map_eq_some_iff.1 hi
  exact h (first + i) f (by omega) hlt hf

section Stretch

variable {items : List Item} {place first last : Nat}
  (hsuits : ∀ item ∈ items, item.Suits t) (hreads : t.Reads items)
  (hsingle : t.SingleBetween first last)

include hsuits hreads hsingle

/-- The free slots in a stretch are those of the free fields in it. -/
lemma any_isFree_told (hfirst : first ≤ place) (hlast : place < last) :
    (t.told items)[place]?.any Slot.isFree = t.isFree items place := by
  rw [getElem?_told]
  cases hf : t.fields[place]? with
  | none => simp [isFree, hf]
  | some f => exact isFree_toldSlot hsuits hreads hf (hsingle place f hfirst hlast hf)

lemma countP_isFree_told (hplace : place ≤ last) :
    ((t.told items).extract first place).countP Slot.isFree = t.freeCount items first place := by
  rw [countP_extract, freeCount]
  apply List.countP_congr
  intro i hi
  obtain ⟨hfirst, hlast⟩ := List.mem_range'_1.1 hi
  rw [any_isFree_told hsuits hreads hsingle hfirst (by omega)]

/-- A word goes to each free field of the stretch, as long as there are words. -/
lemma share_told {i : Nat} (hi : first + i < last) (words : List String) :
    share ((t.told items).extract first last) words i =
      t.wordAt items first words (first + i) := by
  rw [share, wordAt, getElem?_extract_of_lt hi, take_extract (by omega),
    any_isFree_told hsuits hreads hsingle (by omega) hi,
    countP_isFree_told hsuits hreads hsingle (by omega)]

lemma fits_told_iff (words : List String) :
    Fits ((t.told items).extract first last) words ↔
      ∀ place f, first ≤ place → place < last → t.fields[place]? = some f →
        ∀ word ∈ t.wordAt items first words place, f.reading? word ≠ none := by
  constructor
  · intro hfits place f hfirst hplace hf word hword
    obtain ⟨i, rfl⟩ := Nat.exists_eq_add_of_le hfirst
    have hslot : ((t.told items).extract first last)[i]? = some (toldSlot items (first + i) f) := by
      rw [getElem?_extract_of_lt hplace, getElem?_told, hf]
      rfl
    exact hfits i _ hslot word (by rwa [share_told hsuits hreads hsingle hplace])
  · intro hread i s hs word hword
    have hi := lt_of_getElem?_extract hs
    rw [getElem?_extract_of_lt hi, getElem?_told] at hs
    obtain ⟨f, hf, rfl⟩ := Option.map_eq_some_iff.1 hs
    rw [share_told hsuits hreads hsingle hi] at hword
    exact hread (first + i) f (by omega) hi hf word hword

/-- The slots of the stretch are filled as any list of slots that agrees with the words dealt out. -/
lemma filled_told (final : Nat → Field → Slot) (words : List String)
    (hfinal : ∀ place f, first ≤ place → place < last → t.fields[place]? = some f →
      final place f = (toldSlot items place f).dealt (t.wordAt items first words place)) :
    filled ((t.told items).extract first last) words =
      (t.fields.mapIdx final).extract first last := by
  apply List.ext_getElem?
  intro i
  rw [filled, List.getElem?_mapIdx]
  by_cases hi : first + i < last
  · rw [getElem?_extract_of_lt hi, getElem?_extract_of_lt hi, getElem?_told, List.getElem?_mapIdx,
      share_told hsuits hreads hsingle hi]
    cases hf : t.fields[first + i]? with
    | none => rfl
    | some f =>
      rw [Option.map_some, Option.map_some, Option.map_some, hfinal _ f (by omega) hi hf]
  · have hnone {α : Type} (l : List α) : (l.extract first last)[i]? = none :=
      Option.eq_none_iff_forall_ne_some.2 fun a ha => hi (lt_of_getElem?_extract ha)
    rw [hnone, hnone, Option.map_none]

end Stretch

/-! ## What every field ends up with -/

/-- The place of the field that takes all the words left. -/
def many? (t : Template) : Option Nat :=
  t.fields.findIdx? Field.takesMany

/-- The words that are left for a field that takes many and the fields behind it. -/
def wordsFrom (t : Template) (items : List Item) (m : Nat) : List String :=
  (looseWords items).drop (t.freeCount items 0 m)

/-- The number of words for a field that takes many: one is left for each free field behind it. -/
def manyCount (t : Template) (items : List Item) (m : Nat) : Nat :=
  (t.wordsFrom items m).length - t.freeCount items (m + 1) t.fields.length

/-- The loose word that is dealt to the field at a place as its only one. -/
def wordFor (t : Template) (items : List Item) (place : Nat) : Option String :=
  match t.many? with
  | none => t.wordAt items 0 (looseWords items) place
  | some m =>
    if place < m then t.wordAt items 0 (looseWords items) place
    else t.wordAt items (m + 1) ((t.wordsFrom items m).drop (t.manyCount items m)) place

/-- The slot of the field at a place after both passes. -/
def finalSlot (t : Template) (items : List Item) (place : Nat) (f : Field) : Slot :=
  if f.takesMany && !(t.wordsFrom items place).isEmpty then
    ⟨f, some (.multi (valuesFor items place ++
      (t.wordsFrom items place).take (t.manyCount items place)))⟩
  else (toldSlot items place f).dealt (t.wordFor items place)

/-- The words for which there is no field. -/
def surplus (t : Template) (items : List Item) : List String :=
  match t.many? with
  | none => (looseWords items).drop (t.freeCount items 0 t.fields.length)
  | some _ => []

/-- Only one field takes many. -/
lemma Coherent.eq_of_takesMany (h : t.Coherent) {i j : Nat} {f g : Field}
    (hf : t.fields[i]? = some f) (hg : t.fields[j]? = some g) (hfmany : f.takesMany = true)
    (hgmany : g.takesMany = true) : i = j := by
  obtain ⟨hi, rfl⟩ := List.getElem?_eq_some_iff.1 hf
  obtain ⟨hj, rfl⟩ := List.getElem?_eq_some_iff.1 hg
  rw [Field.takesMany, Bool.and_eq_true] at hfmany hgmany
  rcases Nat.lt_trichotomy i j with hlt | heq | hlt
  · have := (List.pairwise_iff_getElem.1 h i j hi hj hlt).2
    simp [hfmany.2, hgmany.2] at this
  · exact heq
  · have := (List.pairwise_iff_getElem.1 h j i hj hi hlt).2
    simp [hfmany.2, hgmany.2] at this

lemma many?_eq_none_iff : t.many? = none ↔ ∀ f ∈ t.fields, f.takesMany = false := by
  simp [many?]

/-- In a coherent template the field that takes many is known by its place. -/
lemma many?_eq_some_iff (h : t.Coherent) {m : Nat} :
    t.many? = some m ↔ ∃ f, t.fields[m]? = some f ∧ f.takesMany = true := by
  rw [many?, List.findIdx?_eq_some_iff_getElem]
  constructor
  · rintro ⟨hm, hmany, -⟩
    exact ⟨_, List.getElem?_eq_getElem hm, hmany⟩
  · rintro ⟨f, hf, hmany⟩
    obtain ⟨hm, rfl⟩ := List.getElem?_eq_some_iff.1 hf
    refine ⟨hm, hmany, fun j hj => ?_⟩
    intro hmany'
    have := h.eq_of_takesMany (List.getElem?_eq_getElem (by omega)) hf hmany' hmany
    omega

section Places

variable {items : List Item} {place m : Nat} {f : Field}

lemma wordFor_of_lt (hm : t.many? = some m) (h : place < m) :
    t.wordFor items place = t.wordAt items 0 (looseWords items) place := by
  simp only [wordFor, hm, if_pos h]

lemma wordFor_of_gt (hm : t.many? = some m) (h : m < place) :
    t.wordFor items place =
      t.wordAt items (m + 1) ((t.wordsFrom items m).drop (t.manyCount items m)) place := by
  simp only [wordFor, hm, if_neg (Nat.lt_asymm h)]

/-- Only a free field is dealt a word as its only one. -/
lemma wordFor_of_not_free (h : t.isFree items place = false) : t.wordFor items place = none := by
  unfold wordFor wordAt
  split <;> simp [h]

lemma finalSlot_of_single (h : f.takesMany = false) :
    t.finalSlot items place f = (toldSlot items place f).dealt (t.wordFor items place) := by
  rw [finalSlot, h, Bool.false_and, if_neg (by simp)]

lemma isFree_of_takesMany (hf : t.fields[m]? = some f) (h : f.takesMany = true) :
    t.isFree items m = false := by
  simp_all [isFree, Field.takesMany]

lemma finalSlot_of_many (hf : t.fields[m]? = some f) (h : f.takesMany = true) :
    t.finalSlot items m f =
      if (t.wordsFrom items m).isEmpty then toldSlot items m f
      else ⟨f, some (.multi (valuesFor items m ++
        (t.wordsFrom items m).take (t.manyCount items m)))⟩ := by
  rw [finalSlot, h, wordFor_of_not_free (isFree_of_takesMany hf h), Bool.true_and]
  cases (t.wordsFrom items m).isEmpty <;> rfl

end Places

/-- Slots that are made from the fields can be cut at one of them. -/
lemma mapIdx_extract_append (g : Nat → Field → Slot) {m : Nat} {f : Field}
    (hf : t.fields[m]? = some f) :
    (t.fields.mapIdx g).extract 0 m ++ g m f :: (t.fields.mapIdx g).extract (m + 1) t.fields.length =
      t.fields.mapIdx g := by
  have hslot : (t.fields.mapIdx g)[m]? = some (g m f) := by
    rw [List.getElem?_mapIdx, hf, Option.map_some]
  simpa only [List.length_mapIdx] using extract_append_cons hslot

lemma length_told (items : List Item) : (t.told items).length = t.fields.length := by
  simp [told]

section Final

variable {items : List Item} {slots : List Slot} {left : List String} {m : Nat} {f : Field}
  (hsuits : ∀ item ∈ items, item.Suits t) (hreads : t.Reads items)

include hsuits hreads

/-- The second pass where no field takes many. -/
lemma deal_told_of_single (hmany : t.many? = none) :
    deal (t.told items) (looseWords items) = .ok (slots, left) ↔
      (∀ place f, t.fields[place]? = some f →
        ∀ word ∈ t.wordFor items place, f.reading? word ≠ none) ∧
      slots = t.fields.mapIdx (t.finalSlot items) ∧ left = t.surplus items := by
  have hfields := many?_eq_none_iff.1 hmany
  have hsingle : t.SingleBetween 0 t.fields.length := by
    intro place f _ _ hf
    exact hfields f (List.mem_of_getElem? hf)
  have hword (place : Nat) :
      t.wordFor items place = t.wordAt items 0 (looseWords items) place := by
    simp only [wordFor, hmany]
  have htold := extract_of_length (length_told (t := t) items)
  have hfilled : filled (t.told items) (looseWords items) =
      t.fields.mapIdx (t.finalSlot items) := by
    have hfinal := filled_told hsuits hreads hsingle (t.finalSlot items) (looseWords items) ?_
    · rwa [htold, extract_of_length (by simp)] at hfinal
    · intro place f _ _ hf
      rw [finalSlot_of_single (hfields f (List.mem_of_getElem? hf)), hword]
  have hfits := fits_told_iff hsuits hreads hsingle (looseWords items)
  have hcount := countP_isFree_told hsuits hreads hsingle (Nat.le_refl _)
  rw [htold] at hfits hcount
  rw [deal_eq_ok_iff (htold ▸ hsingle.forall_mem_extract items), hfilled, hfits, hcount]
  refine and_congr ?_ (by simp only [surplus, hmany])
  constructor
  · intro hread place f hf word hw
    obtain ⟨hlt, -⟩ := List.getElem?_eq_some_iff.1 hf
    exact hread place f (Nat.zero_le _) hlt hf word (hword place ▸ hw)
  · intro hread place f _ _ hf word hw
    exact hread place f hf word (hword place ▸ hw)

/-- The slots behind a field that takes many, and its own, after the second pass. -/
lemma deal_behind (hf : t.fields[m]? = some f) (hmany : f.takesMany = true) (hm : t.many? = some m)
    (hbehind : t.SingleBetween (m + 1) t.fields.length) :
    deal (toldSlot items m f :: (t.told items).extract (m + 1) t.fields.length)
        (t.wordsFrom items m) = .ok (slots, left) ↔
      (∀ place g, m + 1 ≤ place → place < t.fields.length → t.fields[place]? = some g →
        ∀ word ∈ t.wordFor items place, g.reading? word ≠ none) ∧
      slots = t.finalSlot items m f ::
        (t.fields.mapIdx (t.finalSlot items)).extract (m + 1) t.fields.length ∧ left = [] := by
  obtain ⟨hpos, hmulti⟩ : f.positional = true ∧ f.multi = true := by
    simpa [Field.takesMany] using hmany
  have hopen : (toldSlot items m f).isOpen = true := by
    simp [Slot.isOpen, toldSlot, hpos, hmulti]
  have hitems : (toldSlot items m f).items = valuesFor items m := by
    apply items_told _ hmulti
    simp_all [Field.positional]
  have hcount : (t.wordsFrom items m).length -
      ((t.told items).extract (m + 1) t.fields.length).countP Slot.isFree = t.manyCount items m := by
    rw [countP_isFree_told hsuits hreads hbehind (Nat.le_refl _), manyCount]
  have hfilled := filled_told hsuits hreads hbehind (t.finalSlot items)
    ((t.wordsFrom items m).drop (t.manyCount items m)) fun place g hle hlt hg => by
      rw [finalSlot_of_single (hbehind place g hle hlt hg), wordFor_of_gt hm (by omega)]
  rw [deal_many_eq_ok_iff hopen hmulti (hbehind.forall_mem_extract items), hcount, hfilled,
    fits_told_iff hsuits hreads hbehind, finalSlot_of_many hf hmany, hitems]
  refine and_congr_left' (forall₃_congr fun place g hle => ?_)
  rw [wordFor_of_gt hm (by omega)]

/-- The second pass where a field takes many.

**Proof sketch.** The slots are cut at that field. Those before it take their words one each, the field
takes what they leave, but for one word for each free slot behind, and those behind take these words
one each. -/
lemma deal_told_of_many (hf : t.fields[m]? = some f) (hmany : f.takesMany = true)
    (hm : t.many? = some m) (hbefore : t.SingleBetween 0 m)
    (hbehind : t.SingleBetween (m + 1) t.fields.length) :
    deal (t.told items) (looseWords items) = .ok (slots, left) ↔
      (∀ place f, t.fields[place]? = some f →
        ∀ word ∈ t.wordFor items place, f.reading? word ≠ none) ∧
      slots = t.fields.mapIdx (t.finalSlot items) ∧ left = t.surplus items := by
  have hfilled := filled_told hsuits hreads hbefore (t.finalSlot items) (looseWords items)
    fun place g hle hlt hg => by
      rw [finalSlot_of_single (hbefore place g hle hlt hg), wordFor_of_lt hm hlt]
  have hfinal := mapIdx_extract_append (t.finalSlot items) hf
  have htold : (t.told items).extract 0 m ++ toldSlot items m f ::
      (t.told items).extract (m + 1) t.fields.length = t.told items :=
    mapIdx_extract_append (toldSlot items) hf
  rw [← htold, deal_append_eq_ok_iff (hbefore.forall_mem_extract items),
    countP_isFree_told hsuits hreads hbefore (Nat.le_refl _), hfilled,
    fits_told_iff hsuits hreads hbefore, surplus, hm]
  constructor
  · rintro ⟨hreadBefore, rest, hdeal, rfl⟩
    obtain ⟨hreadBehind, rfl, rfl⟩ := (deal_behind hsuits hreads hf hmany hm hbehind).1 hdeal
    refine ⟨fun place g hg word hw => ?_, hfinal, rfl⟩
    obtain ⟨hlt, -⟩ := List.getElem?_eq_some_iff.1 hg
    rcases Nat.lt_trichotomy place m with hplace | rfl | hplace
    · rw [wordFor_of_lt hm hplace] at hw
      exact hreadBefore place g (Nat.zero_le _) hplace hg word hw
    · rw [wordFor_of_not_free (isFree_of_takesMany hf hmany)] at hw
      cases hw
    · exact hreadBehind place g hplace hlt hg word hw
  · rintro ⟨hread, rfl, rfl⟩
    refine ⟨fun place g _ hlt hg word hw => ?_, _,
      (deal_behind hsuits hreads hf hmany hm hbehind).2 ⟨fun place g _ _ hg => hread place g hg,
        rfl, rfl⟩, hfinal.symm⟩
    exact hread place g hg word (by rwa [wordFor_of_lt hm hlt])

/-- **When the second pass succeeds, and with which slots**, for a template in which one field at most
takes many. -/
lemma deal_told_eq_ok_iff (h : t.Coherent) :
    deal (t.told items) (looseWords items) = .ok (slots, left) ↔
      (∀ place f, t.fields[place]? = some f →
        ∀ word ∈ t.wordFor items place, f.reading? word ≠ none) ∧
      slots = t.fields.mapIdx (t.finalSlot items) ∧ left = t.surplus items := by
  cases hm : t.many? with
  | none => exact deal_told_of_single hsuits hreads hm
  | some m =>
    obtain ⟨f, hf, hmany⟩ := (many?_eq_some_iff h).1 hm
    have hother {place : Nat} {g : Field} (hg : t.fields[place]? = some g) (hne : place ≠ m) :
        g.takesMany = false := by
      by_contra hgmany
      exact hne (h.eq_of_takesMany hg hf (by simpa using hgmany) hmany)
    exact deal_told_of_many hsuits hreads hf hmany hm (fun place g _ hlt hg => hother hg (by omega))
      fun place g hle _ hg => hother hg (by omega)

end Final

/-- **When binding succeeds, and with which arguments.** -/
lemma bindWords_eq_ok_iff_final (h : t.Coherent) {words : List Word} {r : Args} :
    t.bindWords words = .ok r ↔
      (∀ item ∈ t.group words, item.isDangling = false) ∧ t.Reads (t.group words) ∧
        (∀ place f, t.fields[place]? = some f →
          ∀ word ∈ t.wordFor (t.group words) place, f.reading? word ≠ none) ∧
        t.surplus (t.group words) = [] ∧
        (∀ place f, t.fields[place]? = some f →
          (t.finalSlot (t.group words) place f).isLacking = false) ∧
        r = args (t.fields.mapIdx (t.finalSlot (t.group words))) := by
  rw [bindWords_eq_ok_iff]
  refine and_congr_right fun hvalues => and_congr_right fun hreads => ?_
  have hsuits : ∀ item ∈ t.group words, item.Suits t :=
    fun item hitem => suits_of_mem_group hitem (hvalues item hitem)
  simp only [deal_told_eq_ok_iff hsuits hreads h]
  have hlacking : (∀ s ∈ t.fields.mapIdx (t.finalSlot (t.group words)), s.isLacking = false) ↔
      ∀ place f, t.fields[place]? = some f →
        (t.finalSlot (t.group words) place f).isLacking = false := by
    simp only [List.mem_iff_getElem?, List.getElem?_mapIdx, Option.map_eq_some_iff]
    grind
  rw [← hlacking]
  constructor
  · rintro ⟨_, ⟨hread, rfl, hleft⟩, hnone, rfl⟩
    exact ⟨hread, hleft.symm, hnone, rfl⟩
  · rintro ⟨hread, hleft, hnone, rfl⟩
    exact ⟨_, ⟨hread, rfl, hleft.symm⟩, hnone, rfl⟩

/-! ## Where the loose words go -/

/-- In the arguments `r` the words are dealt out one each, in order, to the first of the free fields
from `first` on and before `last`, and the others of these fields are unbound. -/
structure DealtOut (t : Template) (items : List Item) (r : Args) (first last : Nat)
    (words : List String) : Prop where
  /-- There are fields enough. -/
  enough : words.length ≤ t.freeCount items first last
  /-- A free field holds the word whose number is that of the free fields before it. -/
  holds : ∀ place f, first ≤ place → place < last → t.fields[place]? = some f →
    t.isFree items place = true →
    f.Holds words[t.freeCount items first place]? (r.get? place)

section Bound

variable {items : List Item} {place first last : Nat} {f : Field}

lemma get?_args_final :
    (args (t.fields.mapIdx (t.finalSlot items))).get? place =
      t.fields[place]?.bind fun f => (t.finalSlot items place f).value := by
  rw [Args.get?, args, List.getElem?_map, List.getElem?_mapIdx, Option.map_map, Option.bind_map]
  rfl

/-- A free field takes one word at most. -/
lemma takesMany_of_isFree (hf : t.fields[place]? = some f) (h : t.isFree items place = true) :
    f.takesMany = false := by
  simp_all [isFree, Field.takesMany]

/-- A free field ends up with the word that is dealt to it. -/
lemma holds_final (hsuits : ∀ item ∈ items, item.Suits t) (hreads : t.Reads items)
    (hf : t.fields[place]? = some f) (hfree : t.isFree items place = true)
    (hword : ∀ word ∈ t.wordFor items place, f.reading? word ≠ none) :
    f.Holds (t.wordFor items place) (t.finalSlot items place f).value := by
  have hsingle := takesMany_of_isFree hf hfree
  have hnone : (toldSlot items place f).value = none := by
    have hslot := isFree_toldSlot hsuits hreads hf hsingle
    rw [hfree] at hslot
    simp_all [Slot.isFree]
  rw [finalSlot_of_single hsingle]
  cases hw : t.wordFor items place with
  | none =>
    rw [Slot.dealt, hnone]
    exact .nothing
  | some word =>
    obtain ⟨value, hvalue⟩ := Option.ne_none_iff_exists'.1 (hword word hw)
    have hdealt : ((toldSlot items place f).dealt (some word)).value = some value := hvalue
    rw [hdealt]
    exact .word hvalue

/-- There are more free fields before a place behind a free one. -/
lemma freeCount_lt (hfirst : first ≤ place) (hlast : place < last)
    (hfree : t.isFree items place = true) :
    t.freeCount items first place < t.freeCount items first last := by
  have hsplit : List.range' first (last - first) =
      List.range' first (place - first) ++ List.range' place (last - place) := by
    have happend := List.range'_append_1 (s := first) (m := place - first) (n := last - place)
    rw [show first + (place - first) = place by omega,
      show place - first + (last - place) = last - first by omega] at happend
    exact happend.symm
  have hpos : 0 < (List.range' place (last - place)).countP (t.isFree items) :=
    List.countP_pos_iff.2 ⟨place, by simp; omega, hfree⟩
  rw [freeCount, freeCount, hsplit, List.countP_append]
  omega

/-- What a field that takes many ends up with. -/
lemma value_final_of_many (hf : t.fields[place]? = some f) (hmany : f.takesMany = true) :
    (t.finalSlot items place f).value =
      if t.freeCount items 0 place < (looseWords items).length then
        some (.multi (valuesFor items place ++
          (t.wordsFrom items place).take (t.manyCount items place)))
      else if valuesFor items place = [] then none
      else some (.multi (valuesFor items place)) := by
  have hempty : (t.wordsFrom items place).isEmpty = true ↔
      ¬ t.freeCount items 0 place < (looseWords items).length := by
    rw [wordsFrom, List.isEmpty_iff, List.drop_eq_nil_iff, Nat.not_lt]
  have htold : (toldSlot items place f).value =
      if valuesFor items place = [] then none else some (.multi (valuesFor items place)) := by
    simp_all [toldSlot, Field.told, Field.takesMany, Field.positional]
  rw [finalSlot_of_many hf hmany]
  by_cases hreach : t.freeCount items 0 place < (looseWords items).length
  · rw [if_neg (by simpa [hempty] using hreach), if_pos hreach]
  · rw [if_pos (hempty.2 hreach), if_neg hreach, htold]

end Bound

section Shares

variable {items : List Item} {words : List String}
  (hsuits : ∀ item ∈ items, item.Suits t) (hreads : t.Reads items)
  (hread : ∀ place f, t.fields[place]? = some f →
    ∀ word ∈ t.wordFor items place, f.reading? word ≠ none)

include hsuits hreads hread

/-- Words are dealt out to a stretch of fields if each field in it is dealt the one with its number. -/
lemma dealtOut_of_wordFor {first last : Nat}
    (henough : words.length ≤ t.freeCount items first last)
    (hwords : ∀ place, first ≤ place → place < last → t.isFree items place = true →
      t.wordFor items place = words[t.freeCount items first place]?) :
    t.DealtOut items (args (t.fields.mapIdx (t.finalSlot items))) first last words := by
  refine ⟨henough, fun place f hfirst hlast hf hfree => ?_⟩
  have hholds := holds_final hsuits hreads hf hfree (hread place f hf)
  rw [hwords place hfirst hlast hfree] at hholds
  rwa [get?_args_final, hf, Option.bind_some]

/-- Where no field takes many, all loose words are dealt out one each. -/
lemma dealtOut_of_single (hmany : t.many? = none) (hleft : t.surplus items = []) :
    t.DealtOut items (args (t.fields.mapIdx (t.finalSlot items))) 0 t.fields.length
      (looseWords items) := by
  refine dealtOut_of_wordFor hsuits hreads hread ?_ fun place _ _ hfree => ?_
  · simp only [surplus, hmany, List.drop_eq_nil_iff] at hleft
    exact hleft
  · simp only [wordFor, hmany, wordAt, if_pos hfree]

/-- The first words are dealt out to the fields before the one that takes many. -/
lemma dealtOut_before {m : Nat} (hm : t.many? = some m) :
    t.DealtOut items (args (t.fields.mapIdx (t.finalSlot items))) 0 m
      ((looseWords items).take (t.freeCount items 0 m)) := by
  refine dealtOut_of_wordFor hsuits hreads hread (List.length_take_le _ _)
    fun place hfirst hlast hfree => ?_
  rw [wordFor_of_lt hm hlast, wordAt, if_pos hfree,
    List.getElem?_take_of_lt (freeCount_lt hfirst hlast hfree)]

/-- The last words are dealt out to the fields behind the one that takes many. -/
lemma dealtOut_behind {m : Nat} (hm : t.many? = some m) :
    t.DealtOut items (args (t.fields.mapIdx (t.finalSlot items))) (m + 1) t.fields.length
      ((t.wordsFrom items m).drop (t.manyCount items m)) := by
  refine dealtOut_of_wordFor hsuits hreads hread ?_ fun place hfirst _ hfree => ?_
  · rw [List.length_drop, manyCount]
    omega
  · rw [wordFor_of_gt hm (by omega), wordAt, if_pos hfree]

end Shares

/-- **Loose words are dealt out without loss and in order.** Let the words be bound to `r`. If no field
takes many, the loose words go one each to the first free fields. If there is one, at the place `m`,
with `p` free fields before it and `q` behind, the loose words are cut in three: the first ones, `p` at
most, go one each to the fields before it, the last ones, `q` at most, go one each to the first fields
behind it, and what stands in between goes to the field itself, after what it was given by keyword; it
stays as the keywords left it if the words do not reach it. Every other field holds what the first pass
left in it. -/
theorem bindWords_deals (ht : t.Made) {words : List Word} {r : Args}
    (h : t.bindWords words = .ok r) :
    let items := t.group words
    let loose := looseWords items
    let n := t.fields.length
    ((∀ f ∈ t.fields, f.takesMany = false) → t.DealtOut items r 0 n loose) ∧
    (∀ m f, t.fields[m]? = some f → f.takesMany = true →
      let p := t.freeCount items 0 m
      let q := t.freeCount items (m + 1) n
      ∃ front middle back, loose = front ++ middle ++ back ∧
        front.length = min loose.length p ∧ back.length = min q (loose.length - p) ∧
        t.DealtOut items r 0 m front ∧ t.DealtOut items r (m + 1) n back ∧
        r.get? m =
          if p < loose.length then some (.multi (valuesFor items m ++ middle))
          else if valuesFor items m = [] then none
          else some (.multi (valuesFor items m))) ∧
    ∃ kept, items.foldlM place t.slots = .ok kept ∧
      ∀ place, t.isFree items place = false →
        (∀ f, t.fields[place]? = some f → f.takesMany = false) →
        r.get? place = kept[place]?.bind Slot.value := by
  intro items loose n
  obtain ⟨hvalues, hreads, hread, hleft, -, rfl⟩ := (bindWords_eq_ok_iff_final ht.coherent).1 h
  have hsuits : ∀ item ∈ items, item.Suits t :=
    fun item hitem => suits_of_mem_group hitem (hvalues item hitem)
  refine ⟨fun hsingle => ?_, fun m f hf hmany => ?_, t.told items, ?_, fun place hfree hsingle => ?_⟩
  · exact dealtOut_of_single hsuits hreads hread (many?_eq_none_iff.2 hsingle) hleft
  · intro p q
    have hm : t.many? = some m := (many?_eq_some_iff ht.coherent).2 ⟨f, hf, hmany⟩
    refine ⟨loose.take p, (t.wordsFrom items m).take (t.manyCount items m),
      (t.wordsFrom items m).drop (t.manyCount items m), ?_, ?_, ?_,
      dealtOut_before hsuits hreads hread hm, dealtOut_behind hsuits hreads hread hm, ?_⟩
    · rw [List.append_assoc, List.take_append_drop]
      exact (List.take_append_drop p loose).symm
    · rw [List.length_take, Nat.min_comm]
    · simp only [List.length_drop, manyCount, wordsFrom, p, q, n, loose]
      omega
    · rw [get?_args_final, hf, Option.bind_some, value_final_of_many hf hmany]
  · exact foldlM_place_group_eq_ok_iff.2 ⟨hvalues, hreads, rfl⟩
  · rw [get?_args_final, getElem?_told]
    cases hf : t.fields[place]? with
    | none => rfl
    | some f =>
      rw [Option.bind_some, finalSlot_of_single (hsingle f hf), wordFor_of_not_free hfree]
      rfl

/-- A template with a field that takes many between others. -/
def archiving : Template where
  fields :=
    [{ name := "FROM", required := true },
      { name := "FILES", multi := true },
      { name := "TO", required := true },
      { name := "COUNT", numeric := true },
      { name := "FORCE", switch := true }]

/-- The words of `a FILES=k force one two b 3`. -/
def archivingWords : List Word :=
  ["a", "FILES", "k", "force", "one", "two", "b", "3"].map (⟨·, false⟩)

/-- What the words are bound to. -/
def archivingArgs : Args where
  slots :=
    [("FROM", some (.str "a")), ("FILES", some (.multi ["k", "one", "two"])), ("TO", some (.str "b")),
      ("COUNT", some (.int 3)), ("FORCE", some (.switch true))]

theorem bindWords_deals_archiving :
    parse "FROM/A FILES/M TO/A COUNT/N FORCE/S" = .ok archiving ∧
      archiving.bindWords archivingWords = .ok archivingArgs ∧
      ∃ front middle back, ["a", "one", "two", "b", "3"] = front ++ middle ++ back ∧
        front.length = 1 ∧ back.length = 2 ∧
        archiving.DealtOut (archiving.group archivingWords) archivingArgs 0 1 front ∧
        archiving.DealtOut (archiving.group archivingWords) archivingArgs 2 5 back ∧
        archivingArgs.get? 1 = some (.multi (["k"] ++ middle)) := by
  have hparse : parse "FROM/A FILES/M TO/A COUNT/N FORCE/S" = .ok archiving := by
    with_unfolding_all rfl
  have hbind : archiving.bindWords archivingWords = .ok archivingArgs := by
    with_unfolding_all rfl
  have hloose : looseWords (archiving.group archivingWords) = ["a", "one", "two", "b", "3"] := by
    decide +kernel
  have hgiven : valuesFor (archiving.group archivingWords) 1 = ["k"] := by
    decide +kernel
  have hbefore : archiving.freeCount (archiving.group archivingWords) 0 1 = 1 := by
    decide +kernel
  have hbehind : archiving.freeCount (archiving.group archivingWords) 2 5 = 2 := by
    decide +kernel
  have hlength : archiving.fields.length = 5 := rfl
  have hdeals := (bindWords_deals (.parse hparse) hbind).2.1 1 _ rfl rfl
  refine ⟨hparse, hbind, ?_⟩
  simpa [hloose, hgiven, hbefore, hbehind, hlength] using hdeals

end Template

end BracketScript
