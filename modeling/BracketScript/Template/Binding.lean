import BracketScript.Template.Args
import BracketScript.Template.Field
import BracketScript.Template.Word

set_option autoImplicit false

/-!
# Binding words to fields

Words are bound in two passes. The first picks out keywords: an unquoted word to which a field
answers is a keyword, and unless the field is a switch the word after it is its value. The second
deals out the loose words that remain to the positional fields, in order; a field that takes all the
words left keeps as many back as there are free positional fields after it.

## Main definitions

* `BracketScript.Template.group` — the words as keywords with their values and loose words.
* `BracketScript.Template.place` — the effect of one of them on the fields.
* `BracketScript.Template.deal` — the second pass.
* `BracketScript.Template.bindWords`, `BracketScript.Template.bind` — both passes and the final check
  of required fields, from words and from a text.
* `BracketScript.BindError` — why binding fails.
-/

namespace BracketScript

/-- Why arguments do not suit a template. -/
inductive BindError where
  /-- A quote is left open. -/
  | openQuote
  /-- The last word is a keyword whose value is missing. -/
  | needsValue (field : String)
  /-- A word given to a numeric field is no number. -/
  | badNumber (field word : String)
  /-- No field is left for a word. -/
  | tooMany (word : String)
  /-- A required field is not given. -/
  | missing (field : String)
deriving DecidableEq, Repr, Inhabited

/-- The wording of a failed binding. -/
def BindError.message : BindError → String
  | openQuote => "unterminated quote"
  | needsValue field => "keyword " ++ field ++ " needs a value"
  | badNumber field word => field ++ ": bad number `" ++ word ++ "`"
  | tooMany word => "too many arguments at `" ++ word ++ "`"
  | missing field => "required argument " ++ field ++ " missing"

/-- A field with what it is bound to so far. -/
structure Slot where
  /-- The field. -/
  field : Field
  /-- Its value, if it has one. -/
  value : Option ArgValue := none
deriving DecidableEq, Repr, Inhabited

namespace Slot

/-- The texts that a slot holds as a list. -/
def items (s : Slot) : List String :=
  (s.value.bind ArgValue.list?).getD []

/-- Whether a loose word can go to the slot: it takes plain words and is free, or takes many. -/
def isOpen (s : Slot) : Bool :=
  s.field.positional && (s.value.isNone || s.field.multi)

/-- Whether a plain word is due to the slot: it takes plain words and has no value. -/
def isFree (s : Slot) : Bool :=
  s.field.positional && s.value.isNone

/-- Whether a required field has no value or an empty list. -/
def isLacking (s : Slot) : Bool :=
  s.field.required &&
    match s.value with
    | none => true
    | some (.multi items) => items.isEmpty
    | some _ => false

end Slot

/-- The value of a single word for a field that does not take many. -/
def Field.convert (f : Field) (word : String) : Except BindError ArgValue :=
  if f.numeric then
    match Text.int64? (Text.trim word) with
    | some n => .ok (.int n)
    | none => .error (.badNumber f.name word)
  else
    .ok (.str word)

/-- The slot once a word was given to it by keyword. -/
def Slot.give (s : Slot) (word : String) : Except BindError Slot :=
  if s.field.multi then
    .ok { s with value := some (.multi (s.items ++ [word])) }
  else do
    let value ← s.field.convert word
    return { s with value := some value }

namespace Template

/-- The words of an argument list, grouped by what they do. A field is named by its place. -/
inductive Item where
  /-- The keyword of a switch. -/
  | switch (word : Word) (place : Nat)
  /-- A keyword with its value. -/
  | pair (word : Word) (place : Nat) (value : Word)
  /-- The keyword of a field that needs a value, as the last word. -/
  | dangling (word : Word) (place : Nat)
  /-- A word that is no keyword. -/
  | loose (word : Word)
deriving DecidableEq, Repr, Inhabited

/-- The words of an item. -/
def Item.words : Item → List Word
  | switch word _ => [word]
  | pair word _ value => [word, value]
  | dangling word _ => [word]
  | loose word => [word]

/-- The place and the field that a word selects as a keyword. A quoted word selects none. -/
def keyword? (t : Template) (word : Word) : Option (Nat × Field) :=
  if word.quoted then none
  else do
    let i ← t.lookup? word.text
    let f ← t.fields[i]?
    return (i, f)

/-- Groups words into keywords with their values and loose words. -/
def group (t : Template) : List Word → List Item
  | [] => []
  | word :: rest =>
    match t.keyword? word with
    | none => .loose word :: group t rest
    | some (i, f) =>
      if f.switch then .switch word i :: group t rest
      else
        match rest with
        | [] => [.dangling word i]
        | value :: rest => .pair word i value :: group t rest

/-- The text of a loose word. -/
def Item.loose? : Item → Option String
  | loose word => some word.text
  | _ => none

/-- The slots of a template before binding. -/
def slots (t : Template) : List Slot :=
  t.fields.map fun f => { field := f }

/-- The effect of an item on the slots; a loose word has none yet. -/
def place (slots : List Slot) : Item → Except BindError (List Slot)
  | .loose _ => .ok slots
  | .switch _ i => .ok (slots.modify i fun s => { s with value := some (.switch true) })
  | .pair _ i value =>
    match slots[i]? with
    | none => .ok slots
    | some s => do
      let s ← s.give value.text
      return slots.set i s
  | .dangling _ i =>
    match slots[i]? with
    | none => .ok slots
    | some s => .error (.needsValue s.field.name)

/-- Deals out loose words to the slots that are open for them, in order. Gives back the slots and the
words for which there was none. -/
def deal : List Slot → List String → Except BindError (List Slot × List String)
  | slots, [] => .ok (slots, [])
  | [], words => .ok ([], words)
  | s :: slots, word :: words =>
    if !s.isOpen then do
      let (slots, left) ← deal slots (word :: words)
      return (s :: slots, left)
    else if s.field.multi then do
      let count := (word :: words).length - slots.countP Slot.isFree
      let s := { s with value := some (.multi (s.items ++ (word :: words).take count)) }
      let (slots, left) ← deal slots ((word :: words).drop count)
      return (s :: slots, left)
    else do
      let value ← s.field.convert word
      let (slots, left) ← deal slots words
      return ({ s with value := some value } :: slots, left)

/-- The arguments that slots hold. -/
def args (slots : List Slot) : Args :=
  ⟨slots.map fun s => (s.field.name, s.value)⟩

/-- Binds words to the fields of a template. -/
def bindWords (t : Template) (words : List Word) : Except BindError Args := do
  let items := t.group words
  let slots ← items.foldlM place t.slots
  let (slots, left) ← deal slots (items.filterMap Item.loose?)
  if let word :: _ := left then
    throw (.tooMany word)
  if let some s := slots.find? Slot.isLacking then
    throw (.missing s.field.name)
  return args slots

/-- Binds an argument text to the fields of a template. -/
def bind (t : Template) (text : String) : Except BindError Args :=
  match Word.split? text with
  | some words => t.bindWords words
  | none => .error .openQuote

end Template

end BracketScript
