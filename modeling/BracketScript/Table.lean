set_option autoImplicit false

/-!
# Tables keyed by name

A table holds at most one entry under each name and lists its names in increasing order of code
points. Because the order is part of the type, two tables with the same entries are equal, whatever
the order in which the entries were put in.

## Main definitions

* `BracketScript.Table` — entries in strictly increasing order of their names.
* `BracketScript.Table.find?`, `BracketScript.Table.insert`, `BracketScript.Table.erase` — look up,
  add or overwrite, remove.
* `BracketScript.Table.names` — the names in order.

## Main results

* `BracketScript.Table.find?_insert`, `BracketScript.Table.find?_erase` — what an update does to
  every name.
* `BracketScript.Table.ext_find?` — a table is determined by what is found in it.
-/

namespace BracketScript

/-- Entries under distinct names, in increasing order of the names. -/
structure Table (α : Type) where
  /-- The entries, each with its name. -/
  entries : List (String × α)
  /-- The names increase strictly. -/
  sorted : entries.Pairwise (fun a b => a.1 < b.1)

namespace Table

variable {α : Type}

/-- The table without entries. -/
def empty : Table α :=
  ⟨[], List.Pairwise.nil⟩

instance : Inhabited (Table α) := ⟨empty⟩

/-- The names in increasing order. -/
def names (t : Table α) : List String :=
  t.entries.map Prod.fst

/-- The number of entries. -/
def size (t : Table α) : Nat :=
  t.entries.length

/-- Whether there is no entry. -/
def isEmpty (t : Table α) : Bool :=
  t.entries.isEmpty

/-- The entry under a name. -/
def find? (t : Table α) (name : String) : Option α :=
  (t.entries.find? fun e => e.1 == name).map Prod.snd

/-- Whether there is an entry under a name. -/
def contains (t : Table α) (name : String) : Bool :=
  (t.find? name).isSome

/-- Puts an entry into its place in an ordered list, over one of the same name. -/
def insertInto (name : String) (value : α) : List (String × α) → List (String × α)
  | [] => [(name, value)]
  | e :: rest =>
    if name < e.1 then (name, value) :: e :: rest
    else if name = e.1 then (name, value) :: rest
    else e :: insertInto name value rest

/-- An entry of the longer list is the new one or an old one. -/
theorem mem_insertInto {name : String} {value : α} {l : List (String × α)} {e : String × α}
    (h : e ∈ insertInto name value l) : e = (name, value) ∨ e ∈ l := by
  induction l with
  | nil => simpa [insertInto] using h
  | cons d rest ih =>
    rw [insertInto] at h
    split at h
    · simpa using h
    · split at h
      · simp only [List.mem_cons] at h ⊢
        exact h.imp_right .inr
      · simp only [List.mem_cons] at h ⊢
        rcases h with h | h
        · exact .inr (.inl h)
        · exact (ih h).imp_right .inr

/-- Of two names, one that is neither below nor equal to the other is above it. -/
theorem lt_of_not_lt_of_ne {a b : String} (hlt : ¬ a < b) (hne : a ≠ b) : b < a := by
  rcases String.le_total a b with h | h
  · exact absurd (String.le_antisymm h (String.not_lt.1 hlt)) hne
  · exact String.not_le.1 fun h' => hne (String.le_antisymm h' h)

/-- Insertion keeps the order. -/
theorem sorted_insertInto (name : String) (value : α) {l : List (String × α)}
    (h : l.Pairwise (fun a b => a.1 < b.1)) :
    (insertInto name value l).Pairwise (fun a b => a.1 < b.1) := by
  induction l with
  | nil => simp [insertInto]
  | cons d rest ih =>
    obtain ⟨hd, hrest⟩ := List.pairwise_cons.1 h
    rw [insertInto]
    split
    · next hlt =>
      refine List.pairwise_cons.2 ⟨fun e he => ?_, h⟩
      rcases List.mem_cons.1 he with rfl | he
      · exact hlt
      · exact String.lt_trans hlt (hd e he)
    · next hlt =>
      split
      · next heq => exact List.pairwise_cons.2 ⟨fun e he => heq ▸ hd e he, hrest⟩
      · next hne =>
        refine List.pairwise_cons.2 ⟨fun e he => ?_, ih hrest⟩
        rcases mem_insertInto he with rfl | he
        · exact lt_of_not_lt_of_ne hlt hne
        · exact hd e he

/-- Adds an entry, or overwrites the one of the same name. -/
def insert (t : Table α) (name : String) (value : α) : Table α where
  entries := insertInto name value t.entries
  sorted := sorted_insertInto name value t.sorted

/-- Removes the entry under a name, if there is one. -/
def erase (t : Table α) (name : String) : Table α where
  entries := t.entries.filter fun e => e.1 != name
  sorted := t.sorted.filter _

/-- Adds entries one after the other, so that of two with the same name the later one stays. -/
def insertAll (t : Table α) (entries : List (String × α)) : Table α :=
  entries.foldl (fun t e => t.insert e.1 e.2) t

@[simp]
theorem find?_empty (name : String) : (empty : Table α).find? name = none := rfl

/-- What insertion into a list does to the entry found under a name. -/
theorem find?_insertInto (name key : String) (value : α) (l : List (String × α)) :
    ((insertInto name value l).find? fun e => e.1 == key).map Prod.snd =
      if name = key then some value else (l.find? fun e => e.1 == key).map Prod.snd := by
  induction l with
  | nil => by_cases h : name = key <;> simp [insertInto, h]
  | cons d rest ih =>
    rw [insertInto]
    split
    · by_cases h : name = key <;> simp [h]
    · split
      · next heq => by_cases h : name = key <;> simp_all
      · next hne =>
        by_cases hd : d.1 = key
        · have : name ≠ key := fun h => hne (h.trans hd.symm)
          simp [hd, this]
        · simp only [List.find?_cons, beq_eq_false_iff_ne.2 hd, ih]

/-- After an insertion the new entry is found under its name, and all else is as before. -/
@[simp]
theorem find?_insert (t : Table α) (name key : String) (value : α) :
    (t.insert name value).find? key = if name = key then some value else t.find? key :=
  find?_insertInto name key value t.entries

/-- After a removal nothing is found under the name, and all else is as before. -/
@[simp]
theorem find?_erase (t : Table α) (name key : String) :
    (t.erase name).find? key = if name = key then none else t.find? key := by
  by_cases h : name = key
  · subst h
    have : (t.entries.filter fun e => e.1 != name).find? (fun e => e.1 == name) = none := by
      simp [List.find?_eq_none]
    simp [find?, erase, this]
  · have : (fun e : String × α => decide ((e.1 != name) = true ∧ (e.1 == key) = true)) =
        fun e => e.1 == key := by
      funext e
      by_cases he : e.1 = key
      · simp [he, Ne.symm h]
      · simp [he]
    simp only [find?, erase, List.find?_filter, this, if_neg h]

/-- An ordered list with a first entry finds its first entry under its name and no other below. -/
theorem find?_eq_none_of_lt {l : List (String × α)} {name : String}
    (h : ∀ e ∈ l, name < e.1) : (l.find? fun e => e.1 == name) = none := by
  simp only [List.find?_eq_none, beq_iff_eq]
  intro e he heq
  exact String.lt_irrefl e.1 (heq ▸ h e he)

/-- Ordered lists in which the same is found under every name are equal. -/
theorem eq_of_find?_eq {l m : List (String × α)} (hl : l.Pairwise (fun a b => a.1 < b.1))
    (hm : m.Pairwise (fun a b => a.1 < b.1))
    (h : ∀ name, (l.find? fun e => e.1 == name).map Prod.snd =
      (m.find? fun e => e.1 == name).map Prod.snd) : l = m := by
  induction l generalizing m with
  | nil =>
    cases m with
    | nil => rfl
    | cons e rest => simpa using h e.1
  | cons d l ih =>
    cases m with
    | nil => simpa using h d.1
    | cons e m =>
      obtain ⟨hd, hl⟩ := List.pairwise_cons.1 hl
      obtain ⟨he, hm⟩ := List.pairwise_cons.1 hm
      have hname : d.1 = e.1 := by
        refine Classical.byContradiction fun hne => ?_
        by_cases hlt : d.1 < e.1
        · have := h d.1
          rw [find?_eq_none_of_lt (l := e :: m)] at this
          · simp at this
          · intro x hx
            rcases List.mem_cons.1 hx with rfl | hx
            · exact hlt
            · exact String.lt_trans hlt (he x hx)
        · have hlt := lt_of_not_lt_of_ne hlt hne
          have := h e.1
          rw [find?_eq_none_of_lt (l := d :: l)] at this
          · simp at this
          · intro x hx
            rcases List.mem_cons.1 hx with rfl | hx
            · exact hlt
            · exact String.lt_trans hlt (hd x hx)
      have hvalue : d.2 = e.2 := by simpa [hname] using h d.1
      have htail : l = m := by
        refine ih hl hm fun name => ?_
        by_cases hn : d.1 = name
        · rw [find?_eq_none_of_lt (fun x hx => hn ▸ hd x hx),
            find?_eq_none_of_lt (fun x hx => hn ▸ hname ▸ he x hx)]
        · have hn' : e.1 ≠ name := hname ▸ hn
          simpa [hn, hn'] using h name
      rw [htail, Prod.ext hname hvalue]

/-- A table is determined by what is found in it. -/
theorem ext_find? {s t : Table α} (h : ∀ name, s.find? name = t.find? name) : s = t := by
  obtain ⟨l, hl⟩ := s
  obtain ⟨m, hm⟩ := t
  simp only [mk.injEq]
  exact eq_of_find?_eq hl hm h

end Table

end BracketScript
