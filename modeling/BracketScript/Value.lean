import BracketScript.Pool
import BracketScript.Table
import BracketScript.Text.Blank
import BracketScript.Text.Integer
import BracketScript.Text.Outline
import BracketScript.Text.Quoted

set_option autoImplicit false

/-!
# Values

What passes in and out of module methods: words, texts, and references to boxed data and to
dictionaries. A reference is compared by what it refers to, never by content.

## Main definitions

* `BracketScript.Value` — the values; `BracketScript.Value.kind` — which of the four a value is.
* `BracketScript.Value.toInt`, `BracketScript.Value.toBool`, `BracketScript.Value.text?` — readings
  of a value.
* `BracketScript.Value.same` — equality of values, by identity for references.
* `BracketScript.Value.display`, `BracketScript.Value.outline` — a value as text, for a user and for
  diagnostics.

## Design

A boxed object never changes, so the value carries its content beside the reference. A dictionary
does change and is looked up in a pool.
-/

namespace BracketScript

/-- Data behind a pointer or in the private state of an instance. -/
inductive Boxed where
  /-- A text. -/
  | text (s : String)
  /-- A word. -/
  | number (n : Int64)
  /-- A list of texts. -/
  | texts (items : List String)
deriving DecidableEq, Repr, Inhabited

namespace Boxed

/-- The text, if it is one. -/
def text? : Boxed → Option String
  | text s => some s
  | _ => none

/-- The word, if it is one. -/
def number? : Boxed → Option Int64
  | number n => some n
  | _ => none

/-- The list of texts, if it is one. -/
def texts? : Boxed → Option (List String)
  | texts items => some items
  | _ => none

end Boxed

/-- What kind of value is stored somewhere. -/
inductive Kind where
  /-- Nothing is stored. -/
  | unknown
  /-- A word. -/
  | numeric
  /-- A text. -/
  | text
  /-- A reference to a boxed object. -/
  | pointer
  /-- A reference to a dictionary. -/
  | dictionary
deriving DecidableEq, Repr, Inhabited

/-- A value of a variable, an argument or a result. -/
inductive Value where
  /-- A word. -/
  | int (n : Int64)
  /-- A text. -/
  | str (s : String)
  /-- A reference to a boxed object, with its content. -/
  | pointer (ref : Ref) (content : Boxed)
  /-- A reference to a dictionary. -/
  | dict (ref : Ref)
deriving DecidableEq, Repr

/-- A dictionary maps names to values. -/
abbrev Dict := Table Value

namespace Value

/-- A missing value reads as the empty text. -/
instance : Inhabited Value := ⟨str ""⟩

/-- Which kind of value this is. -/
def kind : Value → Kind
  | int _ => .numeric
  | str _ => .text
  | pointer .. => .pointer
  | dict _ => .dictionary

/-- The kind of a place where a value may be stored. -/
def kindOf (value : Option Value) : Kind :=
  (value.map kind).getD .unknown

/-- The word that a value reads as: a text by its literal, white space aside. Whatever has no such
reading counts as zero. -/
def toInt : Value → Int64
  | int n => n
  | str s => (Text.int64? (Text.trim s)).getD 0
  | pointer .. | dict _ => 0

/-- The word that a value stands for, if it stands for one. -/
def toInt? : Value → Option Int64
  | int n => some n
  | str s => Text.int64? (Text.trim s)
  | pointer .. | dict _ => none

/-- The text, if the value is one. -/
def text? : Value → Option String
  | str s => some s
  | _ => none

/-- The content of a pointer. -/
def content? : Value → Option Boxed
  | pointer _ content => some content
  | _ => none

/-- The dictionary that the value refers to. -/
def dict? : Value → Option Ref
  | dict ref => some ref
  | _ => none

/-- Whether a value counts as true: zero, the empty text and `0` do not, references do. -/
def toBool : Value → Bool
  | int n => n != 0
  | str s => s != "" && s != "0"
  | pointer .. | dict _ => true

/-- Equality of values; references are equal when they refer to the same object. -/
def same : Value → Value → Bool
  | int m, int n => m == n
  | str s, str t => s == t
  | pointer r _, pointer s _ => r == s
  | dict r, dict s => r == s
  | _, _ => false

/-- A value as its user reads it; `address` writes down where an object is. -/
def display (address : Ref → String) : Value → String
  | int n => Text.decimal n
  | str s => s
  | pointer ref _ => "<pointer " ++ address ref ++ ">"
  | dict ref => "<dictionary " ++ address ref ++ ">"

/-- A value for diagnostics. A dictionary is shown with its entries, to the given depth, and one that
is being changed, for which `dicts` has no answer, without them. -/
def outline (address : Ref → String) (dicts : Ref → Option Dict) : Nat → Value → String
  | _, int n => "Int(" ++ Text.decimal n ++ ")"
  | _, str s => "Str(" ++ Text.quoted s ++ ")"
  | _, pointer ref _ => "Pointer(" ++ address ref ++ ")"
  | depth, dict ref =>
    match dicts ref, depth with
    | none, _ => "Dict(<borrowed>)"
    | some _, 0 => Outline.map []
    | some d, depth + 1 =>
      Outline.map (d.entries.map fun (key, value) =>
        (Text.quoted key, outline address dicts depth value))

end Value

end BracketScript
