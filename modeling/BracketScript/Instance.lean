import BracketScript.Variables

set_option autoImplicit false

/-!
# Instances of modules

An instance is a small object: named methods, variables, private data of its module, the arguments
of the call in progress and the result of that call. What a method does is code of some type `κ`, to
which the host gives a meaning.

## Main definitions

* `BracketScript.Method` — a method: its signature and its code.
* `BracketScript.Instance` — an instance.
* `BracketScript.Instance.addMethod`, `BracketScript.Instance.arg`, `BracketScript.Instance.cleared` —
  what methods and factories do with one.
-/

namespace BracketScript

/-- A method of an instance. -/
structure Method (κ : Type) where
  /-- What the parameters are; for information only. -/
  signature : String
  /-- What the method does. -/
  code : κ
deriving Inhabited

/-- An instance of a module. -/
structure Instance (κ : Type) where
  /-- The number that a registry gave the instance, zero before. -/
  id : Nat := 0
  /-- The name of the module that the instance belongs to. -/
  moduleName : String := ""
  /-- The variables that the registry shares with its instances. -/
  shared? : Option Ref := none
  /-- The methods by name. -/
  methods : Table (Method κ) := .empty
  /-- The variables. -/
  vars : Variables := .empty
  /-- Data that only the module reads. -/
  privates : Table Boxed := .empty
  /-- The arguments of the last call. -/
  args : List Value := []
  /-- The result of the last call, if it gave one. -/
  result? : Option Value := none

namespace Instance

variable {κ : Type}

/-- A new instance: nothing is in it, and it belongs to no module. -/
def empty : Instance κ := {}

instance : Inhabited (Instance κ) := ⟨empty⟩

/-- The instance as a registry hands it out. -/
def attach (i : Instance κ) (id : Nat) (moduleName : String) (shared : Ref) : Instance κ :=
  { i with id, moduleName, shared? := some shared }

/-- Adds a method, or overwrites the one of the same name. -/
def addMethod (i : Instance κ) (name signature : String) (code : κ) : Instance κ :=
  { i with methods := i.methods.insert name ⟨signature, code⟩ }

/-- Whether there is a method of a name. -/
def hasMethod (i : Instance κ) (name : String) : Bool :=
  i.methods.contains name

/-- The methods in order of their names, with their signatures. -/
def signatures (i : Instance κ) : List (String × String) :=
  i.methods.entries.map fun (name, m) => (name, m.signature)

/-- An argument of the last call; one that was not given reads as the empty text. -/
def arg (i : Instance κ) (index : Nat) : Value :=
  i.args.getD index (.str "")

/-- The kind of the result of the last call. -/
def resultKind (i : Instance κ) : Kind :=
  Value.kindOf i.result?

/-- The instance with a variable set, overwritten or removed. -/
def assign (i : Instance κ) (name : String) (value : Option Value) : Instance κ :=
  { i with vars := i.vars.assign name value }

/-- The instance without methods, variables, private data, arguments and result. -/
def cleared (i : Instance κ) : Instance κ :=
  { id := i.id, moduleName := i.moduleName, shared? := i.shared? }

/-- An instance for diagnostics. -/
def outline (address : Ref → String) (dicts : Ref → Option Dict) (depth : Nat) (i : Instance κ) :
    String :=
  Outline.openRecord "ModuleInstance" [
    ("id", toString i.id),
    ("module", Text.quoted i.moduleName),
    ("methods", Outline.list (i.signatures.map fun (name, signature) =>
      Outline.pair (Text.quoted name) (Text.quoted signature))),
    ("vars", i.vars.outline address dicts depth),
    ("result", Outline.option (i.result?.map (Value.outline address dicts depth)))]

end Instance

/-- A method for diagnostics, with its name. -/
def Method.outline {κ : Type} (name : String) (m : Method κ) : String :=
  Outline.openRecord "MethodEntry"
    [("name", Text.quoted name), ("signature", Text.quoted m.signature)]

end BracketScript
