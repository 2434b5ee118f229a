import BracketScript.Text.Folding

set_option autoImplicit false

/-!
# Fields and templates

A template lists the fields that a command takes. Each field has a name, further names under which
it can be given as a keyword, and marks that say how it is filled.

## Main definitions

* `BracketScript.Field` — one field; `BracketScript.Field.answersTo` — the keywords that select it.
* `BracketScript.Template` — the fields in order.
* `BracketScript.Template.display` — the text of a template.
* `BracketScript.Template.lookup?` — the place of the field that a keyword selects.

## Main results

* `BracketScript.Field.answersTo_name` — a field answers to its own name.
-/

namespace BracketScript

/-- A field of a template. -/
structure Field where
  /-- The name of the field. -/
  name : String
  /-- Further keywords for the field. -/
  aliases : List String := []
  /-- The field has to be given (`/A`). -/
  required : Bool := false
  /-- The field is given by keyword only (`/K`). -/
  keyword : Bool := false
  /-- The field holds a number (`/N`). -/
  numeric : Bool := false
  /-- The field is present or absent (`/S`). -/
  switch : Bool := false
  /-- The field takes every word that is left (`/M`). -/
  multi : Bool := false
deriving DecidableEq, Repr, Inhabited

namespace Field

/-- Whether a keyword selects the field, by its name or an alias, whatever the case of letters. -/
def answersTo (f : Field) (keyword : String) : Bool :=
  Text.sameFolded f.name keyword || f.aliases.any (Text.sameFolded · keyword)

/-- Whether plain words fill the field. -/
def positional (f : Field) : Bool :=
  !f.keyword && !f.switch

/-- The marks of a field as letters, in the order in which they are written. -/
def marks (f : Field) : List Char :=
  [(f.required, 'A'), (f.keyword, 'K'), (f.numeric, 'N'), (f.switch, 'S'), (f.multi, 'M')].filterMap
    fun (set, letter) => if set then some letter else none

/-- The text of a field: its names joined by equals signs, then its marks, each after a slash. -/
def display (f : Field) : String :=
  "=".intercalate (f.name :: f.aliases) ++ String.ofList (f.marks.flatMap fun m => ['/', m])

@[simp]
theorem answersTo_name (f : Field) : f.answersTo f.name = true := by
  simp [answersTo]

/-- A field answers to each of its aliases. -/
theorem answersTo_of_mem_aliases {f : Field} {a : String} (h : a ∈ f.aliases) :
    f.answersTo a = true := by
  simp only [answersTo, Bool.or_eq_true, List.any_eq_true]
  exact .inr ⟨a, h, Text.sameFolded_self a⟩

/-- The case of letters in a keyword does not matter. -/
theorem answersTo_congr (f : Field) {s t : String} (h : Text.sameFolded s t = true) :
    f.answersTo s = f.answersTo t := by
  rw [Text.sameFolded_iff] at h
  simp only [answersTo, Text.sameFolded, h]

end Field

/-- The fields that a command takes, in order. -/
structure Template where
  /-- The fields. -/
  fields : List Field := []
deriving DecidableEq, Repr, Inhabited

namespace Template

/-- Whether the template takes no argument at all. -/
def isEmpty (t : Template) : Bool :=
  t.fields.isEmpty

/-- The text of a template. -/
def display (t : Template) : String :=
  " ".intercalate (t.fields.map Field.display)

/-- The place of the first field that a keyword selects. -/
def lookup? (t : Template) (keyword : String) : Option Nat :=
  t.fields.findIdx? (·.answersTo keyword)

/-- Whether some field takes every word that is left. -/
def hasMulti (t : Template) : Bool :=
  t.fields.any Field.multi

/-- Whether some field answers to the name of a further one. -/
def knows (t : Template) (name : String) : Bool :=
  t.fields.any (·.answersTo name)

/-- The template with one more field at the end. -/
def push (t : Template) (f : Field) : Template :=
  ⟨t.fields ++ [f]⟩

end Template

end BracketScript
