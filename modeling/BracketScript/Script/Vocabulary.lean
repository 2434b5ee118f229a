import BracketScript.Failure
import BracketScript.Template.Binding

set_option autoImplicit false

/-!
# Vocabularies

A vocabulary says what the names in a script mean. A name is a *command*, with a template for its
arguments and code to run when its block opens and closes, or an *intrinsic*, which sees the plain
words of its argument text and may ask for blocks inside its own to be skipped. Code acts on a state
of type `σ` and may fail with a reason; the state keeps what was done before the failure.

## Main definitions

* `BracketScript.Call`, `BracketScript.Request` — what a command and an intrinsic see.
* `BracketScript.Command`, `BracketScript.Intrinsic` — what they do.
* `BracketScript.Vocabulary` — the names that mean something.
* `BracketScript.Vocabulary.openBlock`, `BracketScript.Vocabulary.closeBlock` — the start and the end
  of a block.
-/

namespace BracketScript

/-- A command being run: its name, its arguments and the depth of its block. -/
structure Call where
  /-- The name of the command. -/
  command : String
  /-- The bound arguments. -/
  args : Args
  /-- The number of open blocks, this one included. -/
  depth : Nat
deriving DecidableEq, Repr, Inhabited

/-- An intrinsic being run: its name, the words of its argument text and the depth of its block. -/
structure Request where
  /-- The name of the intrinsic. -/
  command : String
  /-- The words, at least one. -/
  words : List String
  /-- The number of open blocks, this one included. -/
  depth : Nat
deriving DecidableEq, Repr, Inhabited

/-- A command on a state of type `σ`. -/
structure Command (σ : Type) where
  /-- The fields that the arguments are bound to. -/
  template : Template
  /-- What is done when the block opens. -/
  onOpen : Call → ExceptT String (StateM σ) Unit
  /-- What is done when the block closes. -/
  onClose : Call → ExceptT String (StateM σ) Unit

/-- An intrinsic on a state of type `σ`; it gives the counts of the skips that it asks for. -/
abbrev Intrinsic (σ : Type) := Request → ExceptT String (StateM σ) (List Nat)

/-- What the names in a script mean. An intrinsic hides a command of the same name. -/
structure Vocabulary (σ : Type) where
  /-- The intrinsic of a name. -/
  intrinsic? : String → Option (Intrinsic σ)
  /-- The command of a name. -/
  command? : String → Option (Command σ)

namespace Vocabulary

variable {σ : Type}

/-- An intrinsic can have the first or the second block inside its own skipped. -/
def clampSkip (count : Nat) : Nat :=
  max 1 (min count 2)

/-- Opens the block of an intrinsic: its argument text must have a word. -/
def openIntrinsic (code : Intrinsic σ) (name text : String) (depth : Nat) :
    ExceptT Failure (StateM σ) (Args × List Nat) :=
  match Word.texts? text with
  | none => throw (.badArguments name BindError.openQuote.message)
  | some [] => throw (.badArguments name "expected at least one argument")
  | some words => do
    let skips ← (code ⟨name, words, depth⟩).adapt (Failure.commandFailed name)
    return ({}, skips.map clampSkip)

/-- Opens the block of a command: its arguments are bound before its code runs. -/
def openCommand (command : Command σ) (name text : String) (depth : Nat) :
    ExceptT Failure (StateM σ) (Args × List Nat) :=
  match command.template.bind text with
  | .error e => throw (.badArguments name e.message)
  | .ok args => do
    (command.onOpen ⟨name, args, depth⟩).adapt (Failure.commandFailed name)
    return (args, [])

/-- Opens a block. The result is the bound arguments, for the end of the block, and the counts of the
skips inside it. -/
def openBlock (v : Vocabulary σ) (name text : String) (depth : Nat) :
    ExceptT Failure (StateM σ) (Args × List Nat) :=
  match v.intrinsic? name with
  | some code => openIntrinsic code name text depth
  | none =>
    match v.command? name with
    | some command => openCommand command name text depth
    | none => throw (.noCommand name)

/-- Closes a block; only a command has something to do. -/
def closeBlock (v : Vocabulary σ) (call : Call) : ExceptT Failure (StateM σ) Unit :=
  match v.intrinsic? call.command, v.command? call.command with
  | none, some command => (command.onClose call).adapt (Failure.commandFailed call.command)
  | _, _ => pure ()

end Vocabulary

end BracketScript
