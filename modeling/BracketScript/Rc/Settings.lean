import BracketScript.Rc.Words
import BracketScript.Template.Spec
import BracketScript.Text.Lines
import BracketScript.Variables

set_option autoImplicit false

/-!
# Settings in an rc file

An rc file has one directive on a line: `/path` adds search directories, `/load` names a module and the
library it is in, `/template` gives the default template, and `/set` gives a shared variable. Blank lines
and lines that start with `;` or `#` say nothing. A bad line is reported and has no other effect.

## Main definitions

* `BracketScript.RcError` — what is wrong with a line.
* `BracketScript.Settings` — what all the lines ask for.
* `BracketScript.Settings.addLine` — takes in a line.
* `BracketScript.Settings.read` — the settings of a text and the complaints about its lines.

## Design

What takes in a directive or a line answers whether all is well and gives the settings back in either
case, as they are at that point.
-/

namespace BracketScript

/-- What is wrong with a line of an rc file. -/
inductive RcError where
  /-- The line is no directive. -/
  | notDirective (line : String)
  /-- There is no such directive. -/
  | unknownDirective (name : String)
  /-- `/path` names no directory. -/
  | noDirectory
  /-- `/load` takes a name and a path. -/
  | loadArity (count : Nat)
  /-- An earlier `/load` has the name. -/
  | alreadyListed (name : String)
  /-- The default template cannot be read. -/
  | badTemplate (cause : SpecError)
  /-- `/set` has no argument. -/
  | nothingToSet
  /-- `/set` gives no value. -/
  | noValue (name : String)
  /-- `/set` gives a value to no name. -/
  | emptyName
deriving DecidableEq, Repr, Inhabited

/-- The wording of what is wrong with a line. -/
def RcError.message : RcError → String
  | notDirective line => "expected a /command, found `" ++ line ++ "`"
  | unknownDirective name => "unknown directive /" ++ name
  | noDirectory => "/path: requires a directory"
  | loadArity count => "/load: expected <name> <path>, got " ++ toString count ++ " arguments"
  | alreadyListed name => "/load: module '" ++ name ++ "' already listed"
  | badTemplate cause => "/template: " ++ cause.message
  | nothingToSet => "/set: requires an argument"
  | noValue name => "/set: missing value for '" ++ name ++ "'"
  | emptyName => "/set: variable name cannot be empty"

/-- A complaint about a line; line zero is the file as a whole. -/
structure Complaint (ε : Type) where
  /-- The number of the line. -/
  line : Nat
  /-- What is wrong. -/
  cause : ε
deriving DecidableEq, Repr, Inhabited

/-- The wording of a complaint. -/
def Complaint.display {ε : Type} (message : ε → String) (c : Complaint ε) : String :=
  "line " ++ toString c.line ++ ": " ++ message c.cause

/-- The value that `/set` gives for a text: the word that it is a literal of, else the text. -/
def Directive.valueOf (text : String) : Value :=
  match Text.int64? text with
  | some n => .int n
  | none => .str text

/-- A module to be loaded. -/
structure ModuleSpec where
  /-- The name of the module. -/
  name : String
  /-- The path of its library. -/
  path : String
  /-- The line that asks for it. -/
  line : Nat
deriving DecidableEq, Repr, Inhabited

/-- What an rc file asks for. -/
structure Settings where
  /-- The search directories in order. -/
  searchPath : List String := []
  /-- The modules in order. -/
  modules : List ModuleSpec := []
  /-- The default template. -/
  template : Option String := none
  /-- The shared variables. -/
  vars : Variables := .empty

namespace Settings

instance : Inhabited Settings := ⟨{}⟩

/-! ## Directives -/

/-- Takes in `/path` with its words: directories to be searched too. -/
def addPath (s : Settings) (words : List String) : Except RcError Unit × Settings :=
  match words with
  | [] => (.error .noDirectory, s)
  | dirs => (.ok (), { s with searchPath := s.searchPath ++ dirs })

/-- Takes in `/load` with its words: a module that is not listed yet, and the path of its library. -/
def addModule (s : Settings) (number : Nat) (words : List String) : Except RcError Unit × Settings :=
  match words with
  | [name, path] =>
    if s.modules.any (·.name == name) then (.error (.alreadyListed name), s)
    else (.ok (), { s with modules := s.modules ++ [⟨name, path, number⟩] })
  | words => (.error (.loadArity words.length), s)

/-- Takes in `/template` with the text of the template. -/
def setTemplate (s : Settings) (spec : String) : Except RcError Unit × Settings :=
  match Template.parse spec with
  | .error e => (.error (.badTemplate e), s)
  | .ok _ => (.ok (), { s with template := some spec })

/-- Gives a value to a variable, which has to have a name. -/
def setVariable (s : Settings) (name value : String) : Except RcError Unit × Settings :=
  if name = "" then (.error .emptyName, s)
  else (.ok (), { s with vars := s.vars.insert name (Directive.valueOf value) })

/-- Takes in `/set` with its words: `name=value` in the first word, or a name and the words of the
value. -/
def addSet (s : Settings) (words : List String) : Except RcError Unit × Settings :=
  match words with
  | [] => (.error .nothingToSet, s)
  | first :: rest =>
    match Text.cut (· == '=') first.toList, rest with
    | (name, some value), _ => s.setVariable (String.ofList name) (String.ofList value)
    | (_, none), [] => (.error (.noValue first), s)
    | (_, none), rest => s.setVariable first (" ".intercalate rest)

/-- Takes in a directive of a name with its argument text. -/
def addNamed (s : Settings) (number : Nat) (name : String) (text : List Char) :
    Except RcError Unit × Settings :=
  match name with
  | "path" => s.addPath (Rc.words text)
  | "load" => s.addModule number (Rc.words text)
  | "template" => s.setTemplate (String.ofList text)
  | "set" => s.addSet (Rc.words text)
  | name => (.error (.unknownDirective name), s)

/-! ## Lines -/

/-- Takes in the text of a line, or says what is wrong with it. A blank line and a comment ask for
nothing. -/
def addLine (s : Settings) (number : Nat) (line : List Char) : Except RcError Unit × Settings :=
  match Text.trimmed line with
  | [] => (.ok (), s)
  | ';' :: _ => (.ok (), s)
  | '#' :: _ => (.ok (), s)
  | '/' :: rest =>
    let (name, text) := Text.cut Text.isBlank rest
    s.addNamed number (String.ofList name) (Text.trimmed (text.getD []))
  | line => (.error (.notDirective (String.ofList line)), s)

/-- Takes in a numbered line, and complains about it if that fails. -/
def step (state : Settings × List (Complaint RcError)) (line : List Char × Nat) :
    Settings × List (Complaint RcError) :=
  match state.1.addLine line.2 line.1 with
  | (.ok (), s) => (s, state.2)
  | (.error e, s) => (s, state.2 ++ [⟨line.2, e⟩])

/-- The settings of a text, and the complaints about its lines in order. -/
def read (text : String) : Settings × List (Complaint RcError) :=
  ((Text.lines text.toList).zipIdx 1).foldl step ({}, [])

end Settings

end BracketScript
