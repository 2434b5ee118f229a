import BracketScript.Value

set_option autoImplicit false

/-!
# Variables

Each instance has its own variables, and a registry has variables that all its instances share. The
kind of a variable is the kind of the value in it.

## Main definitions

* `BracketScript.Variables` — values by name.
* `BracketScript.Variables.assign` — set, overwrite or remove a variable.
* `BracketScript.Variables.kind`, `BracketScript.Variables.int?` — readings of a variable.
-/

namespace BracketScript

/-- Values by name. -/
abbrev Variables := Table Value

namespace Variables

/-- Sets or overwrites a variable, or removes it when there is no value. -/
def assign (vars : Variables) (name : String) : Option Value → Variables
  | some value => vars.insert name value
  | none => vars.erase name

/-- The kind of a variable. -/
def kind (vars : Variables) (name : String) : Kind :=
  Value.kindOf (vars.find? name)

/-- The word that a variable stands for. -/
def int? (vars : Variables) (name : String) : Option Int64 :=
  (vars.find? name).bind Value.toInt?

/-- The variables for diagnostics. -/
def outline (address : Ref → String) (dicts : Ref → Option Dict) (depth : Nat) (vars : Variables) :
    String :=
  Outline.record "VarStore" [("vars", Outline.map (vars.entries.map fun (name, value) =>
    (Text.quoted name, value.outline address dicts depth)))]

/-- An assignment decides what is found under its name and nothing else. -/
@[simp]
theorem find?_assign (vars : Variables) (name key : String) (value : Option Value) :
    (vars.assign name value).find? key = if name = key then value else vars.find? key := by
  cases value <;> simp [assign]

end Variables

end BracketScript
