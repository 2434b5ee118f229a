import BracketScript.Proofs.Effect
import BracketScript.Template.Binding
import Mathlib.Data.List.Induction

set_option autoImplicit false

/-!
# The pass over the keywords

The first pass of binding goes through the items of an argument list and sets one slot after the
other. What a field holds at its end is said here in one step, from the items that name the field:
a switch is on if it was named, a list has all its values in order, and of the values of any other
field the last one stays. Nothing else of the order of the items matters, so keywords can be moved
about freely.

## Main definitions

* `BracketScript.Field.reading?` — what a word stands for in a field.
* `BracketScript.Template.Item.Suits` — the items that grouping gives, a missing value aside.
* `BracketScript.Template.valuesFor`, `BracketScript.Template.isNamed` — what items say of a field.
* `BracketScript.Template.told` — the slots after the first pass.
* `BracketScript.Template.Reordered` — other items in an order that keeps loose words in order, and
  the values of each field.

## Main results

* `BracketScript.Template.group_flatMap_words` — items are told apart again in any order.
* `BracketScript.Template.foldlM_place_eq_ok_iff` — when the first pass succeeds, and with which
  slots.
* `BracketScript.Template.bindWords_eq_ok_iff` — when binding succeeds, with the first pass done.
* `BracketScript.Template.bindWords_reordered` — moving keywords about does not change what is bound.
-/

namespace BracketScript

/-- What a word stands for in a field that holds one value: a numeric field takes literals only. -/
def Field.reading? (f : Field) (word : String) : Option ArgValue :=
  if f.numeric then (Text.int64? (Text.trim word)).map .int else some (.str word)

lemma Field.convert_eq_ok_iff {f : Field} {word : String} {value : ArgValue} :
    f.convert word = .ok value ↔ f.reading? word = some value := by
  unfold convert reading?
  cases f.numeric with
  | false => simp
  | true => cases Text.int64? (Text.trim word) <;> simp

/-- What a field holds after the first pass, if `named` says whether one of its keywords was there and
`values` came with them. -/
def Field.told (f : Field) (named : Bool) (values : List String) : Option ArgValue :=
  if f.switch then if named then some (.switch true) else none
  else if f.multi then if values = [] then none else some (.multi values)
  else values.getLast?.bind f.reading?

namespace Template

variable {t : Template}

namespace Item

/-- Whether an item has a keyword of the field at a place. -/
def names (place : Nat) : Item → Bool
  | switch _ i => i == place
  | pair _ i _ => i == place
  | dangling _ i => i == place
  | loose _ => false

/-- The value that an item gives to the field at a place. -/
def valueFor? (place : Nat) : Item → Option String
  | pair _ i value => if i = place then some value.text else none
  | _ => none

/-- Whether an item is a loose word. -/
def isLoose : Item → Bool
  | loose _ => true
  | _ => false

/-- Whether an item is a keyword with a value for the field at a place. -/
def isPairFor (place : Nat) : Item → Bool
  | pair _ i _ => i == place
  | _ => false

/-- Whether an item is a keyword that lacks its value. -/
def isDangling : Item → Bool
  | dangling _ _ => true
  | _ => false

/-- An item that can come up when words are grouped, and that lacks no value. -/
inductive Suits (t : Template) : Item → Prop
  /-- The keyword of a switch. -/
  | switch {word : Word} {i : Nat} {f : Field} (h : t.keyword? word = some (i, f))
      (on : f.switch = true) : Suits t (.switch word i)
  /-- The keyword of another field, with any word behind it. -/
  | pair {word : Word} {i : Nat} {f : Field} (value : Word) (h : t.keyword? word = some (i, f))
      (off : f.switch = false) : Suits t (.pair word i value)
  /-- A word that is no keyword. -/
  | loose {word : Word} (h : t.keyword? word = none) : Suits t (.loose word)

end Item

/-- The values that items give to the field at a place, in order. -/
def valuesFor (items : List Item) (place : Nat) : List String :=
  items.filterMap (Item.valueFor? place)

/-- Whether one of the items has a keyword of the field at a place. -/
def isNamed (items : List Item) (place : Nat) : Bool :=
  items.any (Item.names place)

/-- The loose words among items, in order. -/
def looseWords (items : List Item) : List String :=
  items.filterMap Item.loose?

/-- The slot of the field at a place after the first pass. -/
def toldSlot (items : List Item) (place : Nat) (f : Field) : Slot :=
  ⟨f, f.told (isNamed items place) (valuesFor items place)⟩

/-- The slots after the first pass. -/
def told (t : Template) (items : List Item) : List Slot :=
  t.fields.mapIdx (toldSlot items)

/-- Every value that is given to a field that takes one stands for something there. -/
def Reads (t : Template) (items : List Item) : Prop :=
  ∀ place f, t.fields[place]? = some f → f.multi = false →
    ∀ word ∈ valuesFor items place, f.reading? word ≠ none

/-! ## From words to items and back -/

lemma fields_of_keyword? {word : Word} {i : Nat} {f : Field} (h : t.keyword? word = some (i, f)) :
    t.fields[i]? = some f := by
  unfold keyword? at h
  split at h
  · cases h
  · obtain ⟨j, -, hj⟩ := Option.bind_eq_some_iff.1 h
    obtain ⟨g, hg, hpair⟩ := Option.bind_eq_some_iff.1 hj
    cases hpair
    exact hg

/-- An item is told from what follows it. -/
lemma Item.Suits.group_append {item : Item} (h : item.Suits t) (rest : List Word) :
    t.group (item.words ++ rest) = item :: t.group rest := by
  cases h with
  | switch h on => simp [Item.words, group, h, on]
  | pair value h off => simp [Item.words, group, h, off]
  | loose h => simp [Item.words, group, h]

/-- **Items are told apart again in any order**, if none of them lacks its value. -/
lemma group_flatMap_words {items : List Item} (h : ∀ item ∈ items, item.Suits t) :
    t.group (items.flatMap Item.words) = items := by
  induction items with
  | nil => rfl
  | cons item items ih =>
    have hitem : item.Suits t := h item (by simp)
    have hitems : t.group (items.flatMap Item.words) = items := by
      apply ih
      intro item' hitem'
      exact h item' (by simp [hitem'])
    rw [List.flatMap_cons, hitem.group_append, hitems]

/-- The items that grouping gives suit the template, but for a keyword at the end that lacks its
value. -/
lemma exists_group_eq (t : Template) (words : List Word) :
    ∃ items last, t.group words = items ++ last ∧ (∀ item ∈ items, item.Suits t) ∧
      (last = [] ∨ ∃ word i f, last = [.dangling word i] ∧ t.fields[i]? = some f) := by
  fun_induction group t words with
  | case1 => exact ⟨[], [], rfl, by simp, .inl rfl⟩
  | case2 word rest hkey ih =>
    obtain ⟨items, last, hgroup, hitems, hlast⟩ := ih
    exact ⟨.loose word :: items, last, by rw [hgroup, List.cons_append],
      List.forall_mem_cons.2 ⟨.loose hkey, hitems⟩, hlast⟩
  | case3 word rest i f hkey hswitch ih =>
    obtain ⟨items, last, hgroup, hitems, hlast⟩ := ih
    exact ⟨.switch word i :: items, last, by rw [hgroup, List.cons_append],
      List.forall_mem_cons.2 ⟨.switch hkey hswitch, hitems⟩, hlast⟩
  | case4 word i f hkey hswitch =>
    exact ⟨[], [.dangling word i], rfl, by simp, .inr ⟨word, i, f, rfl, fields_of_keyword? hkey⟩⟩
  | case5 word i f hkey hswitch value rest ih =>
    obtain ⟨items, last, hgroup, hitems, hlast⟩ := ih
    exact ⟨.pair word i value :: items, last, by rw [hgroup, List.cons_append],
      List.forall_mem_cons.2 ⟨.pair value hkey (by simpa using hswitch), hitems⟩, hlast⟩

/-- An item that grouping gives suits the template unless it lacks its value. -/
lemma suits_of_mem_group {words : List Word} {item : Item} (h : item ∈ t.group words)
    (hvalue : item.isDangling = false) : item.Suits t := by
  obtain ⟨items, last, hgroup, hitems, hlast⟩ := exists_group_eq t words
  rcases List.mem_append.1 (hgroup ▸ h) with h | h
  · exact hitems item h
  · obtain rfl | ⟨word, i, f, rfl, -⟩ := hlast
    · cases h
    · obtain rfl : item = .dangling word i := by simpa using h
      cases hvalue

/-- An item that suits the template does not lack its value. -/
lemma Item.Suits.isDangling_eq {item : Item} (h : item.Suits t) : item.isDangling = false := by
  cases h <;> rfl

/-! ## One item after another -/

section Append

variable (items : List Item) (item : Item) (place : Nat)

lemma valuesFor_append_singleton :
    valuesFor (items ++ [item]) place = valuesFor items place ++ (item.valueFor? place).toList := by
  cases h : item.valueFor? place <;> simp [valuesFor, h]

lemma isNamed_append_singleton :
    isNamed (items ++ [item]) place = (isNamed items place || item.names place) := by
  simp [isNamed]

lemma getElem?_told : (t.told items)[place]? = t.fields[place]?.map (toldSlot items place) :=
  List.getElem?_mapIdx

end Append

/-- Before the first item no slot has a value. -/
lemma told_nil : t.told [] = t.slots := by
  apply List.ext_getElem?
  intro place
  rw [getElem?_told, slots, List.getElem?_map]
  refine congrArg (t.fields[place]?.map ·) (funext fun f => ?_)
  simp [toldSlot, Field.told, isNamed, valuesFor]

/-- What a list holds after the first pass is what came by keyword. -/
lemma items_told {f : Field} (hswitch : f.switch = false) (hmulti : f.multi = true) (named : Bool)
    (values : List String) : (Slot.mk f (f.told named values)).items = values := by
  cases values <;> simp [Field.told, hswitch, hmulti, Slot.items, ArgValue.list?]

/-- A value that a field is given is the last one that it was given. -/
lemma give_told {f : Field} (hswitch : f.switch = false) (named : Bool) (values : List String)
    {word : String} {s : Slot} :
    Slot.give ⟨f, f.told named values⟩ word = .ok s ↔
      (f.multi = false → f.reading? word ≠ none) ∧ s = ⟨f, f.told true (values ++ [word])⟩ := by
  cases hmulti : f.multi with
  | true =>
    have htold : f.told true (values ++ [word]) = some (.multi (values ++ [word])) := by
      simp [Field.told, hswitch, hmulti]
    simp [Slot.give, hmulti, items_told hswitch hmulti, htold, eq_comm]
  | false =>
    have htold : f.told true (values ++ [word]) = f.reading? word := by
      simp [Field.told, hswitch, hmulti]
    simp only [Slot.give, hmulti, Bool.false_eq_true, ↓reduceIte, Effect.bind_eq_ok_iff,
      Field.convert_eq_ok_iff, htold, forall_const]
    constructor
    · rintro ⟨value, hvalue, hs⟩
      cases hs
      exact ⟨by simp [hvalue], by rw [hvalue]⟩
    · rintro ⟨hread, rfl⟩
      obtain ⟨value, hvalue⟩ := Option.ne_none_iff_exists'.1 hread
      exact ⟨value, hvalue, by rw [hvalue]; rfl⟩

/-- An item changes no slot of a field that it does not name. -/
lemma getElem?_told_append {item : Item} {place : Nat} (h : item.names place = false)
    (items : List Item) : (t.told (items ++ [item]))[place]? = (t.told items)[place]? := by
  have hvalue : item.valueFor? place = none := by
    cases item with
    | pair word i value =>
      have hne : i ≠ place := by simpa [Item.names] using h
      simp [Item.valueFor?, hne]
    | _ => rfl
  have hslot : toldSlot (items ++ [item]) place = toldSlot items place := by
    funext f
    rw [toldSlot, toldSlot, valuesFor_append_singleton, isNamed_append_singleton, h, hvalue,
      Bool.or_false, Option.toList_none, List.append_nil]
  rw [getElem?_told, getElem?_told, hslot]

/-- The keyword of a switch turns it on. -/
lemma modify_told {word : Word} {i : Nat} {f : Field} (hf : t.fields[i]? = some f)
    (on : f.switch = true) (items : List Item) :
    (t.told items).modify i (fun s => { s with value := some (.switch true) }) =
      t.told (items ++ [.switch word i]) := by
  apply List.ext_getElem?
  intro j
  rw [List.getElem?_modify]
  by_cases hij : i = j
  · subst hij
    simp [getElem?_told, hf, toldSlot, isNamed_append_singleton, Field.told, on, Item.names]
  · rw [getElem?_told_append (by simpa [Item.names] using hij)]
    simp [hij]

/-- A value goes behind those that the field was given before. -/
lemma set_told {word : Word} {i : Nat} {f : Field} (hf : t.fields[i]? = some f) (value : Word)
    (items : List Item) :
    (t.told items).set i ⟨f, f.told true (valuesFor items i ++ [value.text])⟩ =
      t.told (items ++ [.pair word i value]) := by
  apply List.ext_getElem?
  intro j
  by_cases hij : i = j
  · subst hij
    have hi : i < (t.told items).length := by
      obtain ⟨hi, -⟩ := List.getElem?_eq_some_iff.1 hf
      simpa [told] using hi
    rw [List.getElem?_set_self hi, getElem?_told, hf, Option.map_some, toldSlot,
      isNamed_append_singleton, valuesFor_append_singleton]
    simp [Item.names, Item.valueFor?]
  · rw [List.getElem?_set_ne hij, getElem?_told_append (by simpa [Item.names] using hij)]

/-- Whether an item gives a field that takes one value only what stands for something there. -/
def ReadsItem (t : Template) (item : Item) : Prop :=
  ∀ place f, t.fields[place]? = some f → f.multi = false →
    ∀ word ∈ item.valueFor? place, f.reading? word ≠ none

lemma readsItem_pair_iff {word value : Word} {i : Nat} {f : Field} (hf : t.fields[i]? = some f) :
    t.ReadsItem (.pair word i value) ↔ (f.multi = false → f.reading? value.text ≠ none) := by
  constructor
  · intro hall hmulti
    exact hall i f hf hmulti value.text (by simp [Item.valueFor?])
  · intro hone place g hg hmulti w hw
    obtain ⟨rfl, rfl⟩ : i = place ∧ value.text = w := by simpa [Item.valueFor?] using hw
    obtain rfl : f = g := by simpa [hf] using hg
    exact hone hmulti

/-- **One item more.** From the slots of some items, a further item leads to the slots of all of them,
unless it gives a field a word that stands for nothing there. -/
lemma place_told {items : List Item} {item : Item} (h : item.Suits t) {slots : List Slot} :
    place (t.told items) item = .ok slots ↔
      t.ReadsItem item ∧ slots = t.told (items ++ [item]) := by
  cases h with
  | @loose word h =>
    have hsame : t.told (items ++ [.loose word]) = t.told items :=
      List.ext_getElem? fun place => getElem?_told_append rfl items
    have hread : t.ReadsItem (.loose word) := by
      simp [ReadsItem, Item.valueFor?]
    simp [place, hsame, hread, eq_comm]
  | @switch word i f h on =>
    have hread : t.ReadsItem (.switch word i) := by
      simp [ReadsItem, Item.valueFor?]
    rw [← modify_told (fields_of_keyword? h) on]
    simp [place, hread, eq_comm]
  | @pair word i f value h off =>
    have hf := fields_of_keyword? h
    have hslot := getElem?_told (t := t) items i
    rw [hf, Option.map_some, toldSlot] at hslot
    rw [readsItem_pair_iff hf, ← set_told hf]
    simp only [place, hslot, Effect.bind_eq_ok_iff, give_told off]
    constructor
    · rintro ⟨s, ⟨hone, rfl⟩, hs⟩
      cases hs
      exact ⟨hone, rfl⟩
    · rintro ⟨hone, rfl⟩
      exact ⟨_, ⟨hone, rfl⟩, rfl⟩

/-- **When the first pass succeeds, and with which slots.**

**Proof sketch.** Induction on the items from the end: each one leads from the slots of those before
it to the slots with it (`place_told`). -/
lemma foldlM_place_eq_ok_iff {items : List Item} (h : ∀ item ∈ items, item.Suits t)
    {slots : List Slot} :
    items.foldlM place t.slots = .ok slots ↔ t.Reads items ∧ slots = t.told items := by
  induction items using List.reverseRecOn generalizing slots with
  | nil =>
    have hread : t.Reads [] := by
      simp [Reads, valuesFor]
    simp [told_nil, hread, pure, Except.pure, eq_comm]
  | append_singleton items item ih =>
    have hitems : ∀ item' ∈ items, item'.Suits t := fun item' hitem' => h item' (by simp [hitem'])
    have hitem : item.Suits t := h item (by simp)
    have hreads : t.Reads (items ++ [item]) ↔ t.Reads items ∧ t.ReadsItem item := by
      simp only [Reads, ReadsItem, valuesFor_append_singleton, List.mem_append,
        Option.mem_toList, or_imp, forall_and]
      rfl
    have hlast (s : List Slot) : [item].foldlM place s = place s item := by
      simp
    rw [List.foldlM_append, Effect.bind_eq_ok_iff, hreads]
    constructor
    · rintro ⟨s, hs, hslots⟩
      obtain ⟨hread, rfl⟩ := (ih hitems).1 hs
      rw [hlast, place_told hitem] at hslots
      exact ⟨⟨hread, hslots.1⟩, hslots.2⟩
    · rintro ⟨⟨hread, hone⟩, hslots⟩
      refine ⟨t.told items, (ih hitems).2 ⟨hread, rfl⟩, ?_⟩
      rw [hlast, place_told hitem]
      exact ⟨hone, hslots⟩

/-! ## Binding after the first pass -/

/-- **The first pass over words** fails at a keyword that lacks its value, and at a value that stands
for nothing in its field. -/
lemma foldlM_place_group_eq_ok_iff {words : List Word} {slots : List Slot} :
    (t.group words).foldlM place t.slots = .ok slots ↔
      (∀ item ∈ t.group words, item.isDangling = false) ∧ t.Reads (t.group words) ∧
        slots = t.told (t.group words) := by
  obtain ⟨items, last, hgroup, hsuits, rfl | ⟨word, i, f, rfl, hf⟩⟩ := exists_group_eq t words
  · rw [List.append_nil] at hgroup
    rw [hgroup, foldlM_place_eq_ok_iff hsuits]
    exact ⟨fun h => ⟨fun item hitem => (hsuits item hitem).isDangling_eq, h⟩, And.right⟩
  · have hslot := getElem?_told (t := t) items i
    rw [hf, Option.map_some] at hslot
    have hfail : (t.group words).foldlM place t.slots ≠ .ok slots := by
      rw [hgroup, List.foldlM_append]
      intro h
      obtain ⟨s, hs, hplace⟩ := Effect.bind_eq_ok_iff.1 h
      obtain ⟨-, rfl⟩ := (foldlM_place_eq_ok_iff hsuits).1 hs
      simp [place, hslot] at hplace
    have hdangling : ¬ ∀ item ∈ t.group words, item.isDangling = false := by
      intro hall
      have hlast : (Item.dangling word i).isDangling = false := hall _ (by simp [hgroup])
      cases hlast
    exact ⟨fun h => absurd h hfail, fun h => absurd h.1 hdangling⟩

/-- **When binding succeeds.** After the first pass, the loose words have to be dealt out to the last
one, and no field that is required may be left without a value. -/
lemma bindWords_eq_ok_iff {words : List Word} {r : Args} :
    t.bindWords words = .ok r ↔
      (∀ item ∈ t.group words, item.isDangling = false) ∧ t.Reads (t.group words) ∧
        ∃ slots, deal (t.told (t.group words)) (looseWords (t.group words)) = .ok (slots, []) ∧
          (∀ s ∈ slots, s.isLacking = false) ∧ r = args slots := by
  unfold bindWords
  simp only [Effect.bind_eq_ok_iff, foldlM_place_group_eq_ok_iff]
  constructor
  · rintro ⟨_, ⟨hvalues, hread, rfl⟩, ⟨slots, left⟩, hdeal, hrest⟩
    refine ⟨hvalues, hread, slots, ?_⟩
    cases left with
    | cons word left => cases hrest
    | nil =>
      refine ⟨hdeal, ?_⟩
      cases hlacking : slots.find? Slot.isLacking with
      | some s =>
        simp only [hlacking] at hrest
        cases hrest
      | none =>
        simp only [hlacking] at hrest
        cases hrest
        exact ⟨by simpa using hlacking, rfl⟩
  · rintro ⟨hvalues, hread, slots, hdeal, hlacking, rfl⟩
    refine ⟨_, ⟨hvalues, hread, rfl⟩, (slots, []), hdeal, ?_⟩
    have hnone : slots.find? Slot.isLacking = none := by
      simpa using hlacking
    simp only [hnone]
    rfl

/-! ## Other orders of the items -/

/-- The items `items'` are those of `items` in another order, which keeps the order of the loose words
and the order of the values of each field. -/
structure Reordered (items items' : List Item) : Prop where
  /-- The items are the same. -/
  perm : items'.Perm items
  /-- Loose words stay in order. -/
  loose_eq : items'.filter Item.isLoose = items.filter Item.isLoose
  /-- So do the keywords of one field that have a value. -/
  pairs_eq : ∀ place, items'.filter (Item.isPairFor place) = items.filter (Item.isPairFor place)

namespace Reordered

variable {items items' : List Item}

lemma looseWords_eq (h : Reordered items items') : looseWords items' = looseWords items := by
  have hfilter (l : List Item) : looseWords l = (l.filter Item.isLoose).filterMap Item.loose? := by
    rw [List.filterMap_filter]
    refine congrArg (l.filterMap ·) (funext fun item => ?_)
    cases item <;> rfl
  rw [hfilter, hfilter, h.loose_eq]

lemma valuesFor_eq (h : Reordered items items') (place : Nat) :
    valuesFor items' place = valuesFor items place := by
  have hfilter (l : List Item) :
      valuesFor l place = (l.filter (Item.isPairFor place)).filterMap (Item.valueFor? place) := by
    rw [List.filterMap_filter]
    refine congrArg (l.filterMap ·) (funext fun item => ?_)
    cases item <;> simp [Item.valueFor?, Item.isPairFor]
  rw [hfilter, hfilter, h.pairs_eq]

lemma isNamed_eq (h : Reordered items items') (place : Nat) :
    isNamed items' place = isNamed items place :=
  h.perm.any_eq

lemma told_eq (h : Reordered items items') : t.told items' = t.told items := by
  have hslot : toldSlot items' = toldSlot items := by
    funext place f
    rw [toldSlot, toldSlot, h.isNamed_eq, h.valuesFor_eq]
  rw [told, told, hslot]

lemma reads_iff (h : Reordered items items') : t.Reads items' ↔ t.Reads items := by
  simp only [Reads, h.valuesFor_eq]

end Reordered

/-- **Moving keywords about does not change what is bound.** If no keyword lacks its value, the items
of some words can be put into any order that keeps the loose words in order, and the values of each
field: the words in the new order are bound if and only if the words in the old order are, and to the
same arguments.

**Proof sketch.** The new words are grouped into the items in their new order. What the first pass
makes of them depends on the values of each field, in order, and on which fields are named at all, and
the second pass on the loose words in order; these are the same for both. -/
theorem bindWords_reordered {words : List Word} {items : List Item}
    (hvalues : ∀ item ∈ t.group words, item.isDangling = false)
    (h : Reordered (t.group words) items) (r : Args) :
    t.bindWords (items.flatMap Item.words) = .ok r ↔ t.bindWords words = .ok r := by
  have hsuits : ∀ item ∈ items, item.Suits t := by
    intro item hitem
    have hmem : item ∈ t.group words := h.perm.mem_iff.1 hitem
    exact suits_of_mem_group hmem (hvalues item hmem)
  have hgroup : t.group (items.flatMap Item.words) = items := group_flatMap_words hsuits
  have hdangling : ∀ item ∈ items, item.isDangling = false :=
    fun item hitem => (hsuits item hitem).isDangling_eq
  rw [bindWords_eq_ok_iff, bindWords_eq_ok_iff, hgroup, h.told_eq, h.reads_iff, h.looseWords_eq]
  exact and_congr_left' (iff_of_true hdangling hvalues)

/-- A template with fields of every kind. -/
def copying : Template where
  fields :=
    [{ name := "FROM", required := true },
      { name := "TO", required := true },
      { name := "WITH", keyword := true, multi := true },
      { name := "SIZE", numeric := true },
      { name := "FORCE", switch := true }]

/-- The words of `a WITH x force SIZE 7 b with y size 8`, cut into items. -/
def copyingItems : List Item :=
  [.loose ⟨"a", false⟩, .pair ⟨"WITH", false⟩ 2 ⟨"x", false⟩, .switch ⟨"force", false⟩ 4,
    .pair ⟨"SIZE", false⟩ 3 ⟨"7", false⟩, .loose ⟨"b", false⟩,
    .pair ⟨"with", false⟩ 2 ⟨"y", false⟩, .pair ⟨"size", false⟩ 3 ⟨"8", false⟩]

/-- The items of `force SIZE 7 WITH x a size 8 with y b`. -/
def copyingMoved : List Item :=
  [.switch ⟨"force", false⟩ 4, .pair ⟨"SIZE", false⟩ 3 ⟨"7", false⟩,
    .pair ⟨"WITH", false⟩ 2 ⟨"x", false⟩, .loose ⟨"a", false⟩,
    .pair ⟨"size", false⟩ 3 ⟨"8", false⟩, .pair ⟨"with", false⟩ 2 ⟨"y", false⟩,
    .loose ⟨"b", false⟩]

theorem bindWords_reordered_copying :
    copying.group (copyingItems.flatMap Item.words) = copyingItems ∧
      Reordered copyingItems copyingMoved ∧
      ∀ r, copying.bindWords (copyingMoved.flatMap Item.words) = .ok r ↔
        copying.bindWords (copyingItems.flatMap Item.words) = .ok r := by
  have hgroup : copying.group (copyingItems.flatMap Item.words) = copyingItems := by
    decide +kernel
  have hmoved : Reordered copyingItems copyingMoved := {
    perm := by decide
    loose_eq := rfl
    pairs_eq := by
      rintro (_ | _ | _ | _ | place) <;> rfl }
  refine ⟨hgroup, hmoved, bindWords_reordered ?_ (hgroup.symm ▸ hmoved)⟩
  rw [hgroup]
  decide

end Template

end BracketScript
