import BracketScript.Rc.Settings
import Mathlib.Tactic.Lemma

set_option autoImplicit false

/-!
# Directives as data

What a line of an rc file asks for can be told before it is taken in, without the settings. Here it is
read off the line as a directive, which is a piece of data, and taking in the line turns out to be the
same as taking in this directive. All that depends on the settings is whether a module is listed
already.

## Main definitions

* `BracketScript.Directive` — what a line asks for; `BracketScript.Directive.parse` reads it.
* `BracketScript.Settings.add` — takes in a directive.

## Main results

* `BracketScript.Settings.addLine_eq` — taking in a line is taking in what it asks for.
-/

namespace BracketScript

/-- What a line asks for. -/
inductive Directive where
  /-- Search for libraries in these directories too. -/
  | path (dirs : List String)
  /-- Load a module from the library at a path. -/
  | load (name path : String)
  /-- Use a default template. -/
  | template (spec : String)
  /-- Give a shared variable a value. -/
  | set (name : String) (value : Value)
deriving DecidableEq, Repr

namespace Directive

/-- Reads the words of `/set`: `name=value` in the first word, or a name and the words of the value. -/
def parseSet : List String → Except RcError Directive
  | [] => .error .nothingToSet
  | first :: rest =>
    let assign (name value : String) : Except RcError Directive :=
      if name = "" then .error .emptyName else .ok (.set name (valueOf value))
    match Text.cut (· == '=') first.toList, rest with
    | (name, some value), _ => assign (String.ofList name) (String.ofList value)
    | (_, none), [] => .error (.noValue first)
    | (_, none), rest => assign first (" ".intercalate rest)

/-- Reads a directive of a name with its argument text. -/
def parseNamed (name : String) (text : List Char) : Except RcError Directive :=
  match name with
  | "path" =>
    match Rc.words text with
    | [] => .error .noDirectory
    | dirs => .ok (.path dirs)
  | "load" =>
    match Rc.words text with
    | [name, library] => .ok (.load name library)
    | words => .error (.loadArity words.length)
  | "template" =>
    match Template.parse (String.ofList text) with
    | .ok _ => .ok (.template (String.ofList text))
    | .error e => .error (.badTemplate e)
  | "set" => parseSet (Rc.words text)
  | name => .error (.unknownDirective name)

/-- Reads a line; a blank line and a comment ask for nothing. -/
def parse (line : List Char) : Except RcError (Option Directive) :=
  match Text.trimmed line with
  | [] => .ok none
  | ';' :: _ => .ok none
  | '#' :: _ => .ok none
  | '/' :: rest =>
    let (name, text) := Text.cut Text.isBlank rest
    some <$> parseNamed (String.ofList name) (Text.trimmed (text.getD []))
  | line => .error (.notDirective (String.ofList line))

end Directive

namespace Settings

/-- Takes in a directive, if it was read. -/
def add (s : Settings) (number : Nat) : Directive → Except RcError Unit × Settings
  | .path dirs => (.ok (), { s with searchPath := s.searchPath ++ dirs })
  | .load name path =>
    if s.modules.any (·.name == name) then (.error (.alreadyListed name), s)
    else (.ok (), { s with modules := s.modules ++ [⟨name, path, number⟩] })
  | .template spec => (.ok (), { s with template := some spec })
  | .set name value => (.ok (), { s with vars := s.vars.insert name value })

/-- Takes in what was read off a line, if there is something. -/
def addRead (s : Settings) (number : Nat) :
    Except RcError (Option Directive) → Except RcError Unit × Settings
  | .ok none => (.ok (), s)
  | .ok (some d) => s.add number d
  | .error e => (.error e, s)

variable (s : Settings) (number : Nat)

lemma setVariable_eq (name value : String) :
    s.setVariable name value = s.addRead number (some <$>
      if name = "" then .error .emptyName else .ok (.set name (Directive.valueOf value))) := by
  rw [setVariable]
  split <;> rfl

/-- Taking in `/set` is taking in what is read from its words. -/
lemma addSet_eq (words : List String) :
    s.addSet words = s.addRead number (some <$> Directive.parseSet words) := by
  fun_cases addSet s words with
  | case1 => rfl
  | case2 first rest name value hcut =>
    rw [setVariable_eq s number]
    simp only [Directive.parseSet, hcut]
  | case3 first name hcut =>
    simp only [Directive.parseSet, hcut]
    rfl
  | case4 first rest hrest name hcut =>
    rw [setVariable_eq s number]
    simp only [Directive.parseSet, hcut]

/-- Taking in a directive of a name is taking in what is read from its arguments. -/
lemma addNamed_eq (name : String) (text : List Char) :
    s.addNamed number name text = s.addRead number (some <$> Directive.parseNamed name text) := by
  fun_cases Directive.parseNamed name text with
  | case1 hwords =>
    simp only [addNamed, addPath, hwords]
    rfl
  | case2 hwords =>
    simp only [addNamed, addPath]
    rfl
  | case3 name path hwords =>
    simp only [addNamed, addModule, hwords]
    rfl
  | case4 hwords =>
    simp only [addNamed, addModule]
    rfl
  | case5 template hspec | case6 e hspec =>
    simp only [addNamed, setTemplate, hspec]
    rfl
  | case7 => exact s.addSet_eq number (Rc.words text)
  | case8 =>
    simp only [addNamed]
    rfl

/-- **Taking in a line is taking in what it asks for.** -/
lemma addLine_eq (line : List Char) :
    s.addLine number line = s.addRead number (Directive.parse line) := by
  fun_cases Directive.parse line with
  | case1 hline | case2 _ hline | case3 _ hline => simp only [addLine, hline, addRead]
  | case4 rest hline name text hcut =>
    simp only [addLine, hline, hcut]
    exact s.addNamed_eq number _ _
  | case5 hnone hsemicolon hhash hslash => simp only [addLine, addRead]

end Settings

end BracketScript
