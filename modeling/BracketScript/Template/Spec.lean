import BracketScript.Template.Field
import BracketScript.Text.Blank
import BracketScript.Text.Pieces

set_option autoImplicit false

/-!
# Template specifications

A specification is a text of items separated by blanks and commas. An item is the name of a field,
any number of aliases, each after an equals sign, and any number of marks, each after a slash.

## Main definitions

* `BracketScript.SpecError` — why a specification is refused.
* `BracketScript.Field.parse` — one item.
* `BracketScript.Template.parse` — a whole specification.
* `BracketScript.Template.combine` — the fields of one template followed by those of another.

## Design

Both ways to build a template refuse a field that an earlier one already answers to and a second
field that takes all the words left. Where a field has both faults, reading a specification reports
the second `/M` and combining reports the duplicate.
-/

namespace BracketScript

/-- Why a template specification is refused. -/
inductive SpecError where
  /-- An item has no name. -/
  | emptyName (item : String)
  /-- A mark is none of the known letters. -/
  | unknownMark (mark field : String)
  /-- A switch cannot hold a number or several words. -/
  | switchWithValue (field : String)
  /-- Only one field can take all the words left. -/
  | secondMulti (field : String)
  /-- An earlier field answers to the name. -/
  | duplicate (field : String)
deriving DecidableEq, Repr, Inhabited

/-- The wording of a refused specification. -/
def SpecError.message : SpecError → String
  | emptyName item => "empty field name in `" ++ item ++ "`"
  | unknownMark mark field => "unknown modifier `/" ++ mark ++ "` on " ++ field
  | switchWithValue field => "switch " ++ field ++ " cannot also be /N or /M"
  | secondMulti field => "second /M field " ++ field
  | duplicate field => "duplicate field " ++ field

namespace Field

/-- Sets the mark that a letter stands for; the case of the letter does not matter. -/
def mark (f : Field) (letter : List Char) : Except SpecError Field :=
  match Text.upper letter with
  | ['A'] => .ok { f with required := true }
  | ['K'] => .ok { f with keyword := true }
  | ['N'] => .ok { f with numeric := true }
  | ['S'] => .ok { f with switch := true }
  | ['M'] => .ok { f with multi := true }
  | other => .error (.unknownMark (String.ofList other) f.name)

/-- Whether a switch is also marked to hold a value. -/
def switchHoldsValue (f : Field) : Bool :=
  f.switch && (f.numeric || f.multi)

/-- The names of an item: the name of the field and its aliases. -/
def names (cs : List Char) : List String :=
  (Text.pieces (· == '=') cs).map String.ofList

/-- Reads one item of a specification. -/
def parse (item : List Char) : Except SpecError Field :=
  match Text.pieces (· == '/') item with
  | [] => .error (.emptyName (String.ofList item))
  | first :: marks =>
    match names first with
    | [] => .error (.emptyName (String.ofList item))
    | name :: aliases =>
      if name = "" then .error (.emptyName (String.ofList item))
      else do
        let f ← marks.foldlM mark { name, aliases }
        if f.switchHoldsValue then .error (.switchWithValue f.name) else .ok f

end Field

namespace Template

/-- The characters between the items of a specification. -/
def isItemEnd (c : Char) : Bool :=
  c == ',' || Text.isBlank c

/-- The items of a specification. -/
def items (spec : String) : List (List Char) :=
  (Text.pieces isItemEnd spec.toList).filter (! ·.isEmpty)

/-- Adds the field of a further item. -/
def addItem (t : Template) (item : List Char) : Except SpecError Template := do
  let f ← Field.parse item
  if f.multi && t.hasMulti then .error (.secondMulti f.name)
  else if t.knows f.name then .error (.duplicate f.name)
  else .ok (t.push f)

/-- Reads a specification. -/
def parse (spec : String) : Except SpecError Template :=
  (items spec).foldlM addItem {}

/-- Adds a field of another template. -/
def addField (t : Template) (f : Field) : Except SpecError Template :=
  if t.knows f.name then .error (.duplicate f.name)
  else if f.multi && t.hasMulti then .error (.secondMulti f.name)
  else .ok (t.push f)

/-- The fields of `t` followed by those of `other`. -/
def combine (t other : Template) : Except SpecError Template :=
  other.fields.foldlM addField t

@[simp]
theorem combine_empty (t : Template) : t.combine {} = .ok t := rfl

end Template

end BracketScript
