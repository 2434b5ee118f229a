import BracketScript.Proofs.Template.Refusal
import BracketScript.Proofs.Template.Specification

set_option autoImplicit false

/-!
# The shape of bound arguments

A field declares by its marks what it holds: a switch that is on, a list of texts, a number or a text.
Whatever words are bound, by keyword or by their place, each field is unbound or holds a value of that
shape. Arguments can be read by the names of the fields or by their places, and the two agree because
the names are different.

## Main definitions

* `BracketScript.Template.WellFormed` — what is required of the fields of a template.
* `BracketScript.Field.Shapes` — the values of the shape that a field declares.
* `BracketScript.Template.Conforms` — arguments that have the shape of a template.

## Main results

* `BracketScript.Template.Made.wellFormed` — what was read or put together is well formed.
* `BracketScript.Template.shapes_final` — the shape of what a field ends up with.
* `BracketScript.Template.WellFormed.find?_eq` — reading by name is reading by place.
* `BracketScript.Template.made_conforms` — bound arguments have the shape of their template.
-/

namespace BracketScript

/-- Whether a value has the shape that a field declares. -/
def Field.Shapes (f : Field) (value : ArgValue) : Prop :=
  if f.switch then value = .switch true
  else if f.multi then ∃ items, value = .multi items
  else if f.numeric then ∃ n, value = .int n
  else ∃ text, value = .str text

/-! ## Shapes of single values -/

namespace Field

variable {f : Field} {value : ArgValue}

lemma shapes_of_multi {items : List String} (hswitch : f.switch = false) (hmulti : f.multi = true) :
    f.Shapes (.multi items) := by
  simp [Shapes, hswitch, hmulti]

/-- What a word stands for has the shape of the field. -/
lemma shapes_of_reading? {word : String} (hswitch : f.switch = false) (hmulti : f.multi = false)
    (h : f.reading? word = some value) : f.Shapes value := by
  unfold reading? at h
  cases hnumeric : f.numeric with
  | true =>
    simp only [hnumeric, ↓reduceIte, Option.map_eq_some_iff] at h
    obtain ⟨n, -, rfl⟩ := h
    simp [Shapes, hswitch, hmulti, hnumeric]
  | false =>
    simp only [hnumeric, Bool.false_eq_true, ↓reduceIte, Option.some.injEq] at h
    subst h
    simp [Shapes, hswitch, hmulti, hnumeric]

/-- What the keywords of a field leave in it has the shape of the field. -/
lemma shapes_of_told {named : Bool} {values : List String} (h : f.told named values = some value) :
    f.Shapes value := by
  unfold told at h
  cases hswitch : f.switch with
  | true =>
    cases named <;> simp_all [Shapes]
  | false =>
    cases hmulti : f.multi with
    | true =>
      simp only [hswitch, hmulti, Bool.false_eq_true, ↓reduceIte] at h
      split at h
      · cases h
      · cases h
        exact shapes_of_multi hswitch hmulti
    | false =>
      simp only [hswitch, hmulti, Bool.false_eq_true, ↓reduceIte] at h
      obtain ⟨word, -, hword⟩ := Option.bind_eq_some_iff.1 h
      exact shapes_of_reading? hswitch hmulti hword

end Field

namespace Template

variable {t : Template} {r : Args} {items : List Item} {place : Nat} {f : Field} {value : ArgValue}

/-- **What a field ends up with has the shape of the field.**

**Proof sketch.** A list that takes loose words is a list, and no switch. What is dealt out as a single
word goes to a field that is neither a switch nor a list, where it is read. Everything else was left by
the keywords. -/
lemma shapes_final (hf : t.fields[place]? = some f)
    (h : (t.finalSlot items place f).value = some value) : f.Shapes value := by
  cases hmany : f.takesMany && !(t.wordsFrom items place).isEmpty with
  | true =>
    rw [finalSlot, if_pos hmany] at h
    cases h
    simp only [Field.takesMany, Field.positional, Bool.and_eq_true, Bool.not_eq_true'] at hmany
    exact Field.shapes_of_multi hmany.1.1.2 hmany.1.2
  | false =>
    rw [finalSlot, if_neg (by simp [hmany])] at h
    cases hword : t.wordFor items place with
    | none =>
      rw [hword] at h
      exact Field.shapes_of_told h
    | some word =>
      rw [hword] at h
      have hfree := isFree_of_wordFor hword
      simp only [isFree, hf, Option.any_some, Field.positional, Bool.and_eq_true,
        Bool.not_eq_true'] at hfree
      exact Field.shapes_of_reading? hfree.1.1.2 hfree.1.2 h

/-! ## Well-formed templates -/

/-- What is required of the fields of a template. -/
structure WellFormed (t : Template) : Prop where
  /-- Fields have different names, whatever the case of letters. -/
  names_differ : t.fields.Pairwise fun f g => Text.sameFolded f.name g.name = false
  /-- No name is an alias of an earlier field. -/
  names_new : t.fields.Pairwise fun f g => ∀ a ∈ f.aliases, Text.sameFolded a g.name = false
  /-- One field at most takes all the words left. -/
  one_multi : (t.fields.filter Field.multi).length ≤ 1
  /-- A switch holds neither a number nor a list. -/
  switch_plain : ∀ f ∈ t.fields, f.switch = true → f.numeric = false ∧ f.multi = false

/-- What no two elements of a list have is had by one at most. -/
lemma length_filter_le_one {α : Type} {p : α → Bool} {l : List α}
    (h : l.Pairwise fun a b => (p a && p b) = false) : (l.filter p).length ≤ 1 := by
  induction l with
  | nil => simp
  | cons a l ih =>
    obtain ⟨ha, hl⟩ := List.pairwise_cons.1 h
    cases hp : p a with
    | false => simpa [hp] using ih hl
    | true =>
      have hnone : l.filter p = [] := by
        refine List.filter_eq_nil_iff.2 fun b hb => ?_
        simpa [hp] using ha b hb
      simp [hp, hnone]

/-- **What was read or put together is well formed.** -/
lemma Made.wellFormed (h : t.Made) : t.WellFormed where
  names_differ := h.coherent.imp fun {f g} hfg => by
    have hanswers := hfg.1
    simp only [Field.answersTo, Bool.or_eq_false_iff] at hanswers
    exact hanswers.1
  names_new := h.coherent.imp fun {f g} hfg => by
    have hanswers := hfg.1
    simp only [Field.answersTo, Bool.or_eq_false_iff] at hanswers
    simpa using hanswers.2
  one_multi := length_filter_le_one (h.coherent.imp fun hfg => hfg.2)
  switch_plain := fun f hf hswitch => by
    have hplain := (h.readable f hf).holds_no_value
    simpa [Field.switchHoldsValue, hswitch] using hplain

/-! ## Arguments with the names of the fields -/

/-- There is one slot for each field, under its name. -/
def HasNames (t : Template) (r : Args) : Prop :=
  r.slots.map Prod.fst = t.fields.map Field.name

lemma hasNames_final : t.HasNames (args (t.fields.mapIdx (t.finalSlot items))) := by
  simp only [HasNames, args, List.map_map]
  apply List.ext_getElem?
  intro place
  simp only [List.getElem?_map, List.getElem?_mapIdx, Option.map_map]
  cases t.fields[place]? <;> simp

namespace HasNames

/-- The slots are known by the values at their places. -/
lemma slots_eq (h : t.HasNames r) :
    r.slots = t.fields.mapIdx fun place f => (f.name, r.get? place) := by
  apply List.ext_getElem?
  intro place
  have hname : (r.slots.map Prod.fst)[place]? = (t.fields.map Field.name)[place]? := by
    rw [h]
  rw [List.getElem?_map, List.getElem?_map] at hname
  rw [List.getElem?_mapIdx, Args.get?]
  cases hslot : r.slots[place]? with
  | none =>
    rw [hslot, Option.map_none, eq_comm, Option.map_eq_none_iff] at hname
    rw [hname, Option.map_none]
  | some slot =>
    rw [hslot, Option.map_some, eq_comm, Option.map_eq_some_iff] at hname
    obtain ⟨f, hf, hfst⟩ := hname
    rw [hf, Option.map_some, hfst]
    rfl

/-- The fields that are bound come in order. -/
lemma bound_eq (h : t.HasNames r) :
    r.bound = t.fields.zipIdx.filterMap fun (f, place) => (r.get? place).map (f.name, ·) := by
  rw [Args.bound, h.slots_eq, List.mapIdx_eq_zipIdx_map, List.filterMap_map]
  rfl

/-- There is one value for each field, in order. -/
lemma values_eq (h : t.HasNames r) (first : Ref) :
    r.values first = t.fields.mapIdx fun place _ =>
      ((r.get? place).map (ArgValue.toValue (first + place))).getD (.str "") := by
  rw [Args.values, h.slots_eq, List.mapIdx_mapIdx]
  rfl

end HasNames

/-- **Reading by name is reading by place**, whatever the case of letters: the first slot of a name is
the slot of its field, because no earlier field has that name. -/
lemma WellFormed.find?_eq (ht : t.WellFormed) (h : t.HasNames r) {name : String}
    (hf : t.fields[place]? = some f) (hname : Text.sameFolded f.name name = true) :
    r.find? name = r.get? place := by
  obtain ⟨hplace, rfl⟩ := List.getElem?_eq_some_iff.1 hf
  have hfind : r.slots.find? (fun slot => Text.sameFolded slot.1 name) =
      some (t.fields[place].name, r.get? place) := by
    rw [h.slots_eq, List.find?_eq_some_iff_getElem]
    refine ⟨hname, place, by simpa using hplace, by simp, fun j hj => ?_⟩
    have hother := List.pairwise_iff_getElem.1 ht.names_differ j place (by omega) hplace hj
    have hdiffer : Text.sameFolded t.fields[j].name name = false := by
      rw [Text.sameFolded_iff] at hname
      rwa [Text.sameFolded, ← hname]
    simp [hdiffer]
  change (r.slots.find? fun slot => Text.sameFolded slot.1 name).bind Prod.snd = _
  rw [hfind]
  rfl

/-! ## Bound arguments -/

/-- Arguments that have the shape of a template. -/
structure Conforms (t : Template) (r : Args) : Prop where
  /-- There is one slot for each field, under its name. -/
  names : t.HasNames r
  /-- A value has the shape that its field declares. -/
  shapes : ∀ place f value, t.fields[place]? = some f → r.get? place = some value → f.Shapes value
  /-- A required field has a value, and a list of them is not empty. -/
  given : ∀ place f, t.fields[place]? = some f → f.required = true →
    ∃ value, r.get? place = some value ∧ value ≠ .multi []
  /-- A value is found by the name of its field, in any case of letters. -/
  found : ∀ place f name, t.fields[place]? = some f → Text.sameFolded f.name name = true →
    r.find? name = r.get? place
  /-- The fields that are bound are listed in order. -/
  listed : r.bound = t.fields.zipIdx.filterMap fun (f, place) => (r.get? place).map (f.name, ·)
  /-- A method gets one value for each field, in order; an unbound field is the empty text. -/
  passed : ∀ first, r.values first = t.fields.mapIdx fun place _ =>
    ((r.get? place).map (ArgValue.toValue (first + place))).getD (.str "")

lemma conforms_of_bindWords (ht : t.Made) {words : List Word} (h : t.bindWords words = .ok r) :
    t.Conforms r := by
  obtain ⟨-, -, -, -, hlacking, rfl⟩ := (bindWords_eq_ok_iff_final ht.coherent).1 h
  have hnames : t.HasNames (args (t.fields.mapIdx (t.finalSlot (t.group words)))) := hasNames_final
  have hget {place : Nat} {f : Field} (hf : t.fields[place]? = some f) :
      (args (t.fields.mapIdx (t.finalSlot (t.group words)))).get? place =
        (t.finalSlot (t.group words) place f).value := by
    rw [get?_args_final, hf, Option.bind_some]
  refine {
    names := hnames
    shapes := fun place f value hf hvalue => shapes_final hf (hget hf ▸ hvalue)
    given := fun place f hf hrequired => ?_
    found := fun place f name hf => ht.wellFormed.find?_eq hnames hf
    listed := hnames.bound_eq
    passed := hnames.values_eq }
  have hslot : ¬ (t.finalSlot (t.group words) place f).isLacking = true := by
    simp [hlacking place f hf]
  rw [Slot.isLacking_iff, field_finalSlot, ← hget hf, not_and, not_or] at hslot
  obtain ⟨hsome, hnonempty⟩ := hslot hrequired
  obtain ⟨value, hvalue⟩ := Option.ne_none_iff_exists'.1 hsome
  exact ⟨value, hvalue, fun hnil => hnonempty (hnil ▸ hvalue)⟩

/-- **Templates are well formed, and bound arguments have their shape.** A template that was read or put
together has fields with different names, none of which is an alias of an earlier field, one field at
most that takes many words, and no switch that holds a value. Words or a text that are bound to it give
every field a value of the shape that the field declares or leave it unbound; a required field is bound,
and not to an empty list. The values are the same by the names of the fields and by their places. -/
theorem made_conforms (ht : t.Made) :
    t.WellFormed ∧ (∀ words r, t.bindWords words = .ok r → t.Conforms r) ∧
      ∀ text r, t.bind text = .ok r → t.Conforms r := by
  refine ⟨ht.wellFormed, fun words r => conforms_of_bindWords ht, fun text r h => ?_⟩
  unfold bind at h
  split at h
  · exact conforms_of_bindWords ht h
  · cases h

/-- A template for every command with a field of a command behind it. -/
def titling : Template where
  fields :=
    [{ name := "ID", aliases := ["I"], keyword := true },
      { name := "TAGS", required := true, multi := true },
      { name := "W", numeric := true },
      { name := "MODAL", switch := true }]

/-- What `a modal b 7` is bound to. -/
def titlingArgs : Args where
  slots :=
    [("ID", none), ("TAGS", some (.multi ["a", "b"])), ("W", some (.int 7)),
      ("MODAL", some (.switch true))]

-- the list is found by its name in lower case, and a method gets one value for each field
theorem made_conforms_titling :
    titling.Made ∧ titling.WellFormed ∧ titling.bind "a modal b 7" = .ok titlingArgs ∧
      titling.Conforms titlingArgs ∧ titlingArgs.find? "tags" = titlingArgs.get? 1 ∧
      titlingArgs.values 0 =
        [.str "", .pointer 1 (.texts ["a", "b"]), .int 7, .int 1] := by
  have hleft : parse "ID=I/K" =
      .ok ⟨[{ name := "ID", aliases := ["I"], keyword := true }]⟩ := by
    with_unfolding_all rfl
  have hright : parse "TAGS/A/M W/N MODAL/S" = .ok
      ⟨[{ name := "TAGS", required := true, multi := true }, { name := "W", numeric := true },
        { name := "MODAL", switch := true }]⟩ := by
    with_unfolding_all rfl
  have hmade : titling.Made := .combine (.parse hleft) (.parse hright) (by with_unfolding_all rfl)
  have hwords : Word.split? "a modal b 7" =
      some [⟨"a", false⟩, ⟨"modal", false⟩, ⟨"b", false⟩, ⟨"7", false⟩] := by
    with_unfolding_all rfl
  have hbind : titling.bind "a modal b 7" = .ok titlingArgs := by
    rw [bind, hwords]
    with_unfolding_all rfl
  obtain ⟨hwellFormed, -, hconforms⟩ := made_conforms hmade
  have h := hconforms _ _ hbind
  exact ⟨hmade, hwellFormed, hbind, h, h.found 1 _ "tags" rfl (by decide), h.passed 0⟩

end Template

end BracketScript
