import BracketScript.Text.Folding
import BracketScript.Value

set_option autoImplicit false

/-!
# Bound arguments

Binding an argument text to a template gives each field a value or leaves it unbound.

## Main definitions

* `BracketScript.ArgValue` — what a field can hold, with its readings.
* `BracketScript.Args` — one optional value for each field, in the order of the template.
* `BracketScript.Args.values` — the arguments as values for a method.
-/

namespace BracketScript

/-- What a field is bound to. -/
inductive ArgValue where
  /-- A text. -/
  | str (s : String)
  /-- A number. -/
  | int (n : Int64)
  /-- A switch that is on or off. -/
  | switch (on : Bool)
  /-- Any number of texts. -/
  | multi (items : List String)
deriving DecidableEq, Repr, Inhabited

namespace ArgValue

/-- The text, if the value is a single one. -/
def text? : ArgValue → Option String
  | str s => some s
  | _ => none

/-- The number that a value stands for; a text by its literal, white space aside. -/
def int? : ArgValue → Option Int64
  | int n => some n
  | str s => Text.int64? (Text.trim s)
  | switch on => some (if on then 1 else 0)
  | multi _ => none

/-- The texts, if the value is a list of them. -/
def list? : ArgValue → Option (List String)
  | multi items => some items
  | _ => none

/-- The value that a method receives; a list of texts is boxed at `ref`. -/
def toValue (ref : Ref) : ArgValue → Value
  | str s => .str s
  | int n => .int n
  | switch on => .int (if on then 1 else 0)
  | multi items => .pointer ref (.texts items)

end ArgValue

/-- One optional value for each field of a template, with the name of the field. -/
structure Args where
  /-- The fields in order. -/
  slots : List (String × Option ArgValue) := []
deriving DecidableEq, Repr, Inhabited

namespace Args

/-- The number of fields. -/
def size (a : Args) : Nat :=
  a.slots.length

/-- Whether there is no field. -/
def isEmpty (a : Args) : Bool :=
  a.slots.isEmpty

/-- The value of the field at a place. -/
def get? (a : Args) (i : Nat) : Option ArgValue :=
  a.slots[i]?.bind Prod.snd

/-- The value of the first field of a name, whatever the case of letters. -/
def find? (a : Args) (name : String) : Option ArgValue :=
  (a.slots.find? fun (field, _) => Text.sameFolded field name).bind Prod.snd

/-- Whether a switch is on. -/
def isOn (a : Args) (name : String) : Bool :=
  a.find? name == some (.switch true)

/-- The fields that are bound, with their values. -/
def bound (a : Args) : List (String × ArgValue) :=
  a.slots.filterMap fun (field, value) => value.map (field, ·)

/-- The values of the fields in order, for a method. An unbound field is the empty text, and the list
of the `i`-th field is boxed at the `i`-th reference from `first` on. -/
def values (a : Args) (first : Ref) : List Value :=
  a.slots.mapIdx fun i (_, value) => (value.map (ArgValue.toValue (first + i))).getD (.str "")

end Args

end BracketScript
