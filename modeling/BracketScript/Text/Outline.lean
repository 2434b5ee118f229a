set_option autoImplicit false

/-!
# Outlines

The one-line texts in which diagnostics show a structured value: records with named parts, lists,
pairs, maps and optional parts.

## Main definitions

* `BracketScript.Outline.list`, `BracketScript.Outline.map`, `BracketScript.Outline.pair`,
  `BracketScript.Outline.option` — the anonymous shapes.
* `BracketScript.Outline.record`, `BracketScript.Outline.openRecord` — named parts; an open record
  has further parts that are not shown.
-/

namespace BracketScript.Outline

/-- The parts between two delimiters, separated by commas. -/
def enclosed (opening closing : String) (parts : List String) : String :=
  opening ++ ", ".intercalate parts ++ closing

/-- A list of parts. -/
def list (parts : List String) : String :=
  enclosed "[" "]" parts

/-- A pair of parts. -/
def pair (first second : String) : String :=
  enclosed "(" ")" [first, second]

/-- A map from parts to parts. -/
def map (entries : List (String × String)) : String :=
  enclosed "\x7b" "\x7d" (entries.map fun (key, value) => key ++ ": " ++ value)

/-- A part that may be absent. -/
def option : Option String → String
  | none => "None"
  | some part => enclosed "Some(" ")" [part]

/-- Whether something holds. -/
def bool (b : Bool) : String :=
  if b then "true" else "false"

/-- Named parts in order. -/
def fields (parts : List (String × String)) : List String :=
  parts.map fun (name, value) => name ++ ": " ++ value

/-- A record with all its parts. -/
def record (name : String) (parts : List (String × String)) : String :=
  enclosed (name ++ " \x7b ") " \x7d" (fields parts)

/-- A record with some of its parts. -/
def openRecord (name : String) (parts : List (String × String)) : String :=
  enclosed (name ++ " \x7b ") " \x7d" (fields parts ++ [".."])

end BracketScript.Outline
