import BracketScript.Proofs.Template.Specification
import BracketScript.Proofs.Template.Words
import BracketScript.Template.Binding

set_option autoImplicit false

/-!
# Arguments that are written down

Values for the fields of a template can be written as a text of keywords: the name of each field
that is set, and behind an equals sign and between quotes its value, once for every text of a list.
Binding the text gives the values back, whatever they look like. Quotes keep a value in one piece
and keep it from being taken for a keyword, and the name of a field selects that field and no
earlier one.

## Main definitions

* `BracketScript.Field.Takes` — the values of the shape of a field.
* `BracketScript.Template.Assignment` — such a value, or none, for each field of a template.
* `BracketScript.Mention` — a keyword with its value, as a text and as words.
* `BracketScript.Template.Assignment.written` — the text of an assignment.

## Main results

* `BracketScript.Mention.split?_intercalate` — the words of a text of keywords.
* `BracketScript.Template.lookup?_name` — the name of a field selects the field.
* `BracketScript.Template.group_append` — a keyword with its value is told from what follows.
* `BracketScript.Template.foldlM_place_group` — the keywords of an assignment set its values.
* `BracketScript.Template.bind_written` — an assignment is read back from its text.
-/

namespace BracketScript

/-! ## Numbers -/

namespace Text

/-- The decimal digits of an integer are digits, apart from a sign. -/
lemma of_mem_integer {n : Int} {c : Char} (h : c ∈ integer n) : c = '-' ∨ c.isDigit = true := by
  have hdigit : c ∈ Nat.toDigits 10 n.natAbs → c.isDigit = true :=
    Nat.isDigit_of_mem_toDigits (by decide) (by decide)
  unfold integer at h
  split at h
  · rw [List.mem_cons] at h
    exact h.imp_right hdigit
  · exact .inr (hdigit h)

lemma isSpace_of_isDigit {c : Char} (h : c.isDigit = true) : isSpace c = false := by
  simp only [Char.isDigit, Bool.and_eq_true, decide_eq_true_eq] at h
  have hlo : 48 ≤ c.toNat := h.1
  have hhi : c.toNat ≤ 57 := h.2
  simp [isSpace, spaceRanges]
  omega

/-- Nothing is taken off a text without white space. -/
lemma trim_of_plain {s : String} (h : ∀ c ∈ s.toList, isSpace c = false) : trim s = s := by
  have hdrop : ∀ cs : List Char, (∀ c ∈ cs, isSpace c = false) → cs.dropWhile isSpace = cs := by
    rintro (_ | ⟨c, cs⟩) hcs
    · rfl
    · exact List.dropWhile_cons_of_neg (by simp [hcs c])
  rw [trim, trimmed, hdrop _ h, hdrop _ (by simpa using h), List.reverse_reverse,
    String.ofList_toList]

/-- A word is read back from its decimal text with the white space taken off. -/
lemma int64?_trim_decimal (n : Int64) : int64? (trim (decimal n)) = some n := by
  rw [trim_of_plain, int64?_decimal]
  intro c hc
  rw [decimal, String.toList_ofList] at hc
  rcases of_mem_integer hc with rfl | hc
  · decide
  · exact isSpace_of_isDigit hc

/-- There is no quote in a decimal text. -/
lemma not_mem_decimal (n : Int64) : '"' ∉ (decimal n).toList := by
  intro hc
  rw [decimal, String.toList_ofList] at hc
  rcases of_mem_integer hc with hc | hc <;> exact absurd hc (by decide)

end Text

/-! ## Keywords in a text -/

/-- A keyword in an argument text, alone or with a value. -/
structure Mention where
  /-- The keyword. -/
  name : String
  /-- Its value. -/
  value : Option String := none

namespace Mention

variable {m : Mention}

/-- The text of a mention. The value stands between quotes. -/
def text (m : Mention) : String :=
  match m.value with
  | none => m.name
  | some value => m.name ++ "=\"" ++ value ++ "\""

/-- The words of a mention. -/
def words (m : Mention) : List Word :=
  ⟨m.name, false⟩ :: (m.value.map (⟨·, true⟩)).toList

/-- The keyword is one word, and no quote in the value ends it early. -/
structure Plain (m : Mention) : Prop where
  name_ne : m.name ≠ ""
  name_plain : ∀ c ∈ m.name.toList, c ≠ '"' ∧ Word.isSeparator c = false
  value_plain : ∀ value ∈ m.value, '"' ∉ value.toList

/-- A mention is read as its words, whatever comes behind it. -/
lemma scan_text (h : m.Plain) {rest : List Char} (hrest : Word.Ends rest) :
    Word.scan false false [] (m.text.toList ++ rest) =
      (Word.scan false false [] rest).map (m.words ++ ·) := by
  obtain ⟨name, value⟩ := m
  obtain ⟨hne, hname, hvalue⟩ := h
  cases value with
  | none => exact Word.scan_plain hne hname hrest
  | some value =>
    have htext : (Mention.mk name (some value)).text.toList ++ rest =
        name.toList ++ '=' :: '"' :: (value.toList ++ '"' :: rest) := by
      simp [text]
    have hends : Word.Ends ('=' :: '"' :: (value.toList ++ '"' :: rest)) := by
      simp [Word.Ends, Word.isSeparator]
    rw [htext, Word.scan_plain hne hname hends, Word.scan_separator (by decide),
      Word.scan_quoted (hvalue value rfl) hrest, Option.map_map]
    rfl

/-- **The words of a text of keywords** are those of one keyword after the other. -/
lemma split?_intercalate {ms : List Mention} (h : ∀ m ∈ ms, m.Plain) :
    Word.split? (" ".intercalate (ms.map text)) = some (ms.flatMap words) := by
  rw [Word.split?, String.toList_intercalate, List.map_map]
  induction ms with
  | nil => rfl
  | cons m ms ih =>
    have hm := h m (by simp)
    have hms := ih fun m' hm' => h m' (by simp [hm'])
    cases ms with
    | nil =>
      simpa [Word.scan] using scan_text hm (show Word.Ends [] by simp [Word.Ends])
    | cons m' ms =>
      have hends (tail : List Char) : Word.Ends (' ' :: tail) := by
        simp [Word.Ends, Word.isSeparator, Text.isBlank]
      rw [List.map_cons, List.map_cons, List.intercalate_cons_cons]
      rw [List.map_cons] at hms
      simp only [Function.comp_apply, String.reduceToList, List.append_assoc, List.cons_append,
        List.nil_append] at hms ⊢
      rw [scan_text hm (hends _), Word.scan_separator (by decide), hms]
      rfl

/-- What a mention of the field at a place does. -/
def item (m : Mention) (place : Nat) : Template.Item :=
  match m.value with
  | none => .switch ⟨m.name, false⟩ place
  | some value => .pair ⟨m.name, false⟩ place ⟨value, true⟩

@[simp]
lemma loose?_item (m : Mention) (place : Nat) : (m.item place).loose? = none := by
  unfold item
  split <;> rfl

end Mention

/-! ## Values of the shape of a field -/

/-- What a field can be given. Texts have no quotes, and only a field that is not required can be
left unset. -/
inductive Field.Takes (f : Field) : Option ArgValue → Prop
  /-- Nothing. -/
  | unset (h : f.required = false) : f.Takes none
  /-- A switch that is on. -/
  | switch (h : f.switch = true) : f.Takes (some (.switch true))
  /-- One or more texts. -/
  | multi {items : List String} (h : f.multi = true) (ne : items ≠ [])
      (plain : ∀ item ∈ items, '"' ∉ item.toList) : f.Takes (some (.multi items))
  /-- A number. -/
  | int (n : Int64) (h : f.numeric = true) (single : f.multi = false) : f.Takes (some (.int n))
  /-- A text, also an empty one. -/
  | str {text : String} (h : f.switch = false) (single : f.multi = false)
      (any : f.numeric = false) (plain : '"' ∉ text.toList) : f.Takes (some (.str text))

namespace Slot

/-- The values of a slot as they are written, one for each mention of its field. -/
def given (s : Slot) : List (Option String) :=
  match s.value with
  | none => []
  | some (.switch _) => [none]
  | some (.int n) => [some (Text.decimal n)]
  | some (.str text) => [some text]
  | some (.multi items) => items.map some

/-- The mentions that set a slot. -/
def mentions (s : Slot) : List Mention :=
  s.given.map (⟨s.field.name, ·⟩)

variable {s : Slot}

/-- A switch is mentioned alone and any other field with a value, which has no quotes. -/
lemma of_mem_given (hfield : s.field.switchHoldsValue = false) (h : s.field.Takes s.value)
    {value : Option String} (hvalue : value ∈ s.given) :
    (value = none ↔ s.field.switch = true) ∧ ∀ text ∈ value, '"' ∉ text.toList := by
  obtain ⟨f, v⟩ := s
  simp only [Field.switchHoldsValue, Bool.and_eq_false_iff, Bool.or_eq_false_iff] at hfield
  cases h with
  | unset => simp [given] at hvalue
  | switch h => simp_all [given]
  | multi h ne plain =>
    obtain ⟨item, hitem, rfl⟩ := List.mem_map.1 hvalue
    simp_all
  | int n h single =>
    obtain rfl : value = some (Text.decimal n) := by
      simpa [given] using hvalue
    simp_all [Text.not_mem_decimal]
  | str h single any plain => simp_all [given]

/-- A slot of the right shape lacks nothing. -/
lemma isLacking_of_takes (h : s.field.Takes s.value) : s.isLacking = false := by
  obtain ⟨f, v⟩ := s
  cases h <;> simp_all [isLacking]

end Slot

namespace Template

variable {t : Template}

/-- A value of its shape for each field of a template, or none where it may be left unset. -/
structure Assignment (t : Template) where
  /-- The fields with their values. -/
  slots : List Slot
  /-- There is a slot for each field, in order. -/
  fields_eq : slots.map Slot.field = t.fields
  /-- Every value suits its field. -/
  takes : ∀ s ∈ slots, s.field.Takes s.value

/-- The value for the field at a place. -/
def Assignment.value? (a : t.Assignment) (place : Nat) : Option ArgValue :=
  a.slots[place]?.bind Slot.value

/-- The text of an assignment: the mentions of all fields that are set, with blanks in between. -/
def Assignment.written (a : t.Assignment) : String :=
  " ".intercalate ((a.slots.flatMap Slot.mentions).map Mention.text)

/-! ## From words to items -/

/-- The name of a field selects the field: no earlier one answers to it. -/
lemma lookup?_name (h : t.Coherent) {i : Nat} {f : Field} (hf : t.fields[i]? = some f) :
    t.lookup? f.name = some i := by
  obtain ⟨hi, rfl⟩ := List.getElem?_eq_some_iff.1 hf
  refine List.findIdx?_eq_some_iff_getElem.2 ⟨hi, Field.answersTo_name _, fun j hj => ?_⟩
  have hbefore := List.pairwise_iff_getElem.1 h j i (by omega) hi hj
  simp [hbefore.1]

/-- A mention of a field is told from what follows it. -/
lemma group_append (h : t.Coherent) {i : Nat} {f : Field} (hf : t.fields[i]? = some f)
    {value : Option String} (hvalue : value = none ↔ f.switch = true) (rest : List Word) :
    t.group ((Mention.mk f.name value).words ++ rest) =
      (Mention.mk f.name value).item i :: t.group rest := by
  have hkeyword : t.keyword? ⟨f.name, false⟩ = some (i, f) := by
    simp [keyword?, lookup?_name h hf, hf]
  cases value with
  | none =>
    have hswitch : f.switch = true := hvalue.1 rfl
    simp [Mention.words, Mention.item, group, hkeyword, hswitch]
  | some value =>
    have hswitch : ¬ f.switch = true := by
      simp [← hvalue]
    simp [Mention.words, Mention.item, group, hkeyword, hswitch]

/-- The mentions that set a slot are told from what follows them. -/
lemma group_mentions (h : t.Coherent) {s : Slot} {i : Nat} (hf : t.fields[i]? = some s.field)
    (hgiven : ∀ value ∈ s.given, value = none ↔ s.field.switch = true) (rest : List Word) :
    t.group (s.mentions.flatMap Mention.words ++ rest) =
      s.mentions.map (·.item i) ++ t.group rest := by
  unfold Slot.mentions
  generalize s.given = values at hgiven
  induction values with
  | nil => rfl
  | cons value values ih =>
    have htail := ih fun v hv => hgiven v (by simp [hv])
    rw [List.map_cons, List.flatMap_cons, List.append_assoc,
      group_append h hf (hgiven value (by simp)), htail]
    rfl

/-! ## From items to slots -/

/-- A value that is given to the slot at a place changes that slot alone. -/
lemma place_item {s s' : Slot} {text : String} (h : s.give text = .ok s') (name : String)
    (before after : List Slot) :
    place (before ++ s :: after) ((Mention.mk name (some text)).item before.length) =
      .ok (before ++ s' :: after) := by
  have hslot : (before ++ s :: after)[before.length]? = some s := by
    simp
  have hset : (before ++ s :: after).set before.length s' = before ++ s' :: after := by
    simp
  simp only [Mention.item, place, hslot, h, Effect.ok_bind, hset]
  rfl

/-- A field that takes many keeps what it is given in order. -/
lemma foldlM_place_items {f : Field} (hf : f.multi = true) (before after : List Slot)
    (held items : List String) :
    (items.map fun text => (Mention.mk f.name (some text)).item before.length).foldlM place
        (before ++ ⟨f, some (.multi held)⟩ :: after) =
      .ok (before ++ ⟨f, some (.multi (held ++ items))⟩ :: after) := by
  induction items generalizing held with
  | nil => simp [pure, Except.pure]
  | cons text items ih =>
    have hgive : Slot.give ⟨f, some (.multi held)⟩ text =
        .ok ⟨f, some (.multi (held ++ [text]))⟩ := by
      simp [Slot.give, hf, Slot.items, ArgValue.list?]
    rw [List.map_cons, List.foldlM_cons, place_item hgive, Effect.ok_bind, ih]
    simp

/-- The mentions that set a slot set it, and no other one. -/
lemma foldlM_place_mentions {s : Slot} (h : s.field.Takes s.value) (before after : List Slot) :
    (s.mentions.map (·.item before.length)).foldlM place (before ++ ⟨s.field, none⟩ :: after) =
      .ok (before ++ s :: after) := by
  obtain ⟨f, v⟩ := s
  change f.Takes v at h
  -- A single value is one mention, which gives the slot what the text of the value converts to.
  have hsingle {text : String} {value : ArgValue} (hmulti : f.multi = false)
      (hconvert : f.convert text = .ok value) :
      [(Mention.mk f.name (some text)).item before.length].foldlM place
        (before ++ ⟨f, none⟩ :: after) = .ok (before ++ ⟨f, some value⟩ :: after) := by
    have hgive : Slot.give ⟨f, none⟩ text = .ok ⟨f, some value⟩ := by
      simp only [Slot.give, hmulti, hconvert]
      rfl
    rw [List.foldlM_cons, place_item hgive, Effect.ok_bind]
    rfl
  cases h with
  | unset => rfl
  | switch =>
    simp [Slot.mentions, Slot.given, Mention.item, place, List.modify_eq_take_drop, pure,
      Except.pure]
  | int n hnumeric single =>
    refine hsingle single ?_
    simp only [Field.convert, hnumeric, Text.int64?_trim_decimal, ↓reduceIte]
  | str hswitch single any plain =>
    refine hsingle single ?_
    simp [Field.convert, any]
  | @multi items hmulti ne plain =>
    cases items with
    | nil => exact absurd rfl ne
    | cons text items =>
      have hgive : Slot.give ⟨f, none⟩ text = .ok ⟨f, some (.multi [text])⟩ := by
        simp [Slot.give, hmulti, Slot.items]
      simp only [Slot.mentions, Slot.given, List.map_cons, List.map_map, List.foldlM_cons]
      rw [place_item hgive, Effect.ok_bind]
      exact foldlM_place_items hmulti before after [text] items

/-- **The keywords of an assignment set its values**, and no word is left loose.

**Proof sketch.** By induction on the slots that are still to come. The slots before them have their
values, so the mentions of the next field find its slot at the end of these. -/
lemma foldlM_place_group (h : t.Coherent) (hfields : ∀ f ∈ t.fields, f.switchHoldsValue = false)
    (before : List Slot) {after : List Slot} (heq : (before ++ after).map Slot.field = t.fields)
    (htakes : ∀ s ∈ after, s.field.Takes s.value) :
    let items := t.group ((after.flatMap Slot.mentions).flatMap Mention.words)
    items.foldlM place (before ++ after.map fun s => ⟨s.field, none⟩) = .ok (before ++ after) ∧
      items.filterMap Item.loose? = [] := by
  induction after generalizing before with
  | nil => exact ⟨rfl, rfl⟩
  | cons s after ih =>
    have hs : t.fields[before.length]? = some s.field := by
      simp [← heq]
    have hgiven : ∀ value ∈ s.given, value = none ↔ s.field.switch = true := fun value hvalue =>
      (Slot.of_mem_given (hfields _ (List.mem_of_getElem? hs)) (htakes s (by simp)) hvalue).1
    obtain ⟨hplace, hloose⟩ := ih (before ++ [s]) (by simpa using heq) fun s' hs' =>
      htakes s' (by simp [hs'])
    simp only [List.flatMap_cons, List.flatMap_append]
    rw [group_mentions h hs hgiven, List.foldlM_append, List.map_cons,
      foldlM_place_mentions (htakes s (by simp)), Effect.ok_bind, List.filterMap_append, hloose]
    refine ⟨by simpa using hplace, ?_⟩
    simp [List.filterMap_map]

/-! ## From the text to the values -/

/-- Words that set the slots and leave none loose are bound to what the slots hold. -/
lemma bindWords_of_placed {words : List Word} {slots : List Slot}
    (hplace : (t.group words).foldlM place t.slots = .ok slots)
    (hloose : (t.group words).filterMap Item.loose? = [])
    (hlacking : ∀ s ∈ slots, s.isLacking = false) : t.bindWords words = .ok (args slots) := by
  have hnone : slots.find? Slot.isLacking = none := by
    simpa using hlacking
  have hdeal : deal slots [] = .ok (slots, []) := by
    cases slots <;> rfl
  unfold bindWords
  simp only [hplace, hloose, hdeal, Effect.ok_bind, hnone]
  rfl

namespace Assignment

variable (a : t.Assignment)

/-- The mentions in the text of an assignment can be read. -/
lemma plain_of_mem (hfields : ∀ f ∈ t.fields, f.Readable)
    (hquote : ∀ f ∈ t.fields, '"' ∉ f.name.toList) {m : Mention}
    (hm : m ∈ a.slots.flatMap Slot.mentions) : m.Plain := by
  obtain ⟨s, hs, hm⟩ := List.mem_flatMap.1 hm
  obtain ⟨value, hvalue, rfl⟩ := List.mem_map.1 hm
  have hf : s.field ∈ t.fields := by
    rw [← a.fields_eq]
    exact List.mem_map_of_mem hs
  have hreadable := hfields _ hf
  refine ⟨hreadable.name_ne, fun c hc => ⟨?_, ?_⟩,
    (Slot.of_mem_given hreadable.holds_no_value (a.takes s hs) hvalue).2⟩
  · rintro rfl
    exact hquote _ hf hc
  · have hchar := hreadable.plain s.field.name (by simp) c hc
    simp_all [Field.isNameChar, isItemEnd, Word.isSeparator]

end Assignment

/-- **An assignment is read back from its text.** For every template that can come up and has no
quote in the name of a field, binding the text of an assignment succeeds and gives each field the
value that the assignment has for it.

**Proof sketch.** The text is cut into the words of its mentions, which are grouped one by one and
set one slot after the other. No word is left to be dealt out, and no required field is unset. -/
theorem bind_written (h : t.Made) (hquote : ∀ f ∈ t.fields, '"' ∉ f.name.toList)
    (a : t.Assignment) :
    ∃ r, t.bind a.written = .ok r ∧ r.slots.map Prod.fst = t.fields.map Field.name ∧
      ∀ place, r.get? place = a.value? place := by
  have hfields := h.readable
  have hsplit : Word.split? a.written =
      some ((a.slots.flatMap Slot.mentions).flatMap Mention.words) :=
    Mention.split?_intercalate fun m hm => a.plain_of_mem hfields hquote hm
  obtain ⟨hplace, hloose⟩ := foldlM_place_group h.coherent
    (fun f hf => (hfields f hf).holds_no_value) [] a.fields_eq a.takes
  have hbind : t.bind a.written = .ok (args a.slots) := by
    rw [bind, hsplit]
    refine bindWords_of_placed ?_ hloose fun s hs => Slot.isLacking_of_takes (a.takes s hs)
    simpa [slots, ← a.fields_eq, Function.comp_def] using hplace
  refine ⟨args a.slots, hbind, ?_, fun place => ?_⟩
  · simp [args, ← a.fields_eq]
  · rw [Args.get?, args, List.getElem?_map, Option.bind_map]
    rfl

/-- A template in which the names of fields are aliases of later ones. -/
def overlapping : Template where
  fields :=
    [{ name := "FROM", required := true },
      { name := "TO", aliases := ["FROM"], keyword := true, multi := true },
      { name := "COUNT", numeric := true },
      { name := "FORCE", aliases := ["TO"], switch := true },
      { name := "NOTE" }]

/-- Values that look like keywords, like several words and like nothing at all. -/
def lookalike : overlapping.Assignment where
  slots := List.zipWith Slot.mk overlapping.fields
    [some (.str "FORCE"), some (.multi ["to = from", ""]), some (.int (-5)), some (.switch true),
      none]
  fields_eq := rfl
  takes := by
    simp only [overlapping, List.zipWith_cons_cons, List.zipWith_nil_right, List.forall_mem_cons]
    exact ⟨.str rfl rfl rfl (by decide), .multi rfl (by decide) (by decide), .int (-5) rfl rfl,
      .switch rfl, .unset rfl, by simp⟩

theorem bind_written_lookalike :
    lookalike.written = "FROM=\"FORCE\" TO=\"to = from\" TO=\"\" COUNT=\"-5\" FORCE" ∧
      ∃ r, overlapping.bind lookalike.written = .ok r ∧
        r.slots.map Prod.fst = ["FROM", "TO", "COUNT", "FORCE", "NOTE"] ∧
        ∀ place, r.get? place = lookalike.value? place := by
  have hparse : parse "FROM/A TO=FROM/K/M COUNT/N FORCE=TO/S NOTE" = .ok overlapping := by
    with_unfolding_all rfl
  exact ⟨by with_unfolding_all rfl, bind_written (.parse hparse) (by decide) lookalike⟩

end Template

end BracketScript
