import BracketScript.Host
import BracketScript.Script.Conditional
import BracketScript.Script.Run
import BracketScript.Template.Spec

set_option autoImplicit false

/-!
# Sets of commands

A set of commands holds, by name, the intrinsics of a script, the tests that conditionals can ask for,
and the commands, each tied to an instance, a template and code for the two ends of its block. It gives
the names in a script their meaning.

## Main definitions

* `BracketScript.CommandSet` — intrinsics, tests and commands by name, and the default template.
* `BracketScript.CommandSet.standard` — the conditional and the standard tests.
* `BracketScript.CommandSet.register` — adds a command.
* `BracketScript.CommandSet.vocabulary`, `BracketScript.CommandSet.run` — what the names mean, and how a
  script runs.
-/

namespace BracketScript

/-- What is done at one end of the block of a command. -/
inductive Handler (κ : Type) where
  /-- Calls a method of the instance with the bound arguments. -/
  | forward (method : String)
  /-- Runs code of the host. -/
  | native (code : κ)

/-- A command: the instance it works on, its template, and what is done at the two ends. -/
structure Binding (κ : Type) where
  /-- Where the instance is. -/
  cell : Ref
  /-- The fields of the arguments, the default ones included. -/
  template : Template
  /-- What is done when the block opens. -/
  onOpen : Option (Handler κ) := none
  /-- What is done when the block closes. -/
  onClose : Option (Handler κ) := none

/-- A test that conditionals can ask for. -/
inductive Test (κ : Type) where
  /-- A test that needs nothing but its words. -/
  | standard (test : StandardTest)
  /-- Whether a store has a variable of the one name that is asked for. -/
  | defined (store : Ref)
  /-- A test of the host. -/
  | native (code : κ)

/-- What an intrinsic does. -/
inductive Builtin (κ : Type) where
  /-- The conditional. -/
  | conditional
  /-- An intrinsic of the host. -/
  | native (code : κ)

/-- Intrinsics, tests and commands by name. -/
structure CommandSet (κ : Type) where
  /-- The intrinsics. -/
  intrinsics : Table (Builtin κ) := .empty
  /-- The tests. -/
  tests : Table (Test κ) := .empty
  /-- The commands. -/
  bindings : Table (Binding κ) := .empty
  /-- The fields that come first in every command registered from now on. -/
  defaultTemplate : Template := {}

namespace CommandSet

variable {κ ω : Type}

instance : Inhabited (CommandSet κ) := ⟨{}⟩

/-- The conditional and the standard tests. -/
def standard : CommandSet κ where
  intrinsics := Table.empty.insert Conditional.name .conditional
  tests := Table.empty.insertAll (StandardTest.all.map fun t => (t.name, .standard t))

/-! ## Registration -/

/-- Adds an intrinsic, or overwrites the one of the same name. -/
def addIntrinsic (cs : CommandSet κ) (name : String) (code : κ) : CommandSet κ :=
  { cs with intrinsics := cs.intrinsics.insert name (.native code) }

/-- Adds a test, or overwrites the one of the same name. -/
def addTest (cs : CommandSet κ) (name : String) (test : Test κ) : CommandSet κ :=
  { cs with tests := cs.tests.insert name test }

/-- Whether there is a test of a name. -/
def hasTest (cs : CommandSet κ) (name : String) : Bool :=
  cs.tests.contains name

/-- Whether there is a command or an intrinsic of a name. -/
def hasCommand (cs : CommandSet κ) (name : String) : Bool :=
  cs.bindings.contains name || cs.intrinsics.contains name

/-- The names of the commands in order. -/
def commands (cs : CommandSet κ) : List String :=
  cs.bindings.names

/-- Where the instance of a command is. -/
def cell? (cs : CommandSet κ) (name : String) : Option Ref :=
  (cs.bindings.find? name).map Binding.cell

/-- Forgets all commands; intrinsics, tests and the default template stay. -/
def reset (cs : CommandSet κ) : CommandSet κ :=
  { cs with bindings := .empty }

/-- Sets the default template. The commands are given back in either case. -/
def setDefaultTemplate (cs : CommandSet κ) (spec : String) : Except Failure Unit × CommandSet κ :=
  match Template.parse spec with
  | .ok template => (.ok (), { cs with defaultTemplate := template })
  | .error e => (.error (.badTemplate spec e.message), cs)

/-- The template of a new command: the default fields and those of its own specification. The name
must not be taken. -/
def newTemplate (cs : CommandSet κ) (name spec : String) : Except Failure Template :=
  if cs.hasCommand name then .error (.duplicate name)
  else
    match Template.parse spec with
    | .error e => .error (.badTemplate spec e.message)
    | .ok own =>
      match cs.defaultTemplate.combine own with
      | .error e => .error (.badTemplate spec e.message)
      | .ok template => .ok template

/-- Adds a command. Without an instance it gets an empty one of its own. The commands are given back also
when that fails. -/
def register (cs : CommandSet κ) (name spec : String) (cell? : Option Ref)
    (onOpen onClose : Option (Handler κ)) :
    StateM (World κ ω) (Except Failure Unit × CommandSet κ) :=
  match cs.newTemplate name spec with
  | .error e => return (.error e, cs)
  | .ok template => do
    let cell ← match cell? with
      | some cell => pure cell
      | none => World.newCell .empty
    let bindings := cs.bindings.insert name { cell, template, onOpen, onClose }
    return (.ok (), { cs with bindings })

/-! ## Meaning -/

/-- Evaluates a test. -/
def evaluate (host : Host κ ω) : Test κ → List String → StateM (World κ ω) Bool
  | .standard t, words => return t.holds words
  | .defined store, [name] => return ((← get).memory.store store).contains name
  | .defined _, _ => return false
  | .native code, words => host.test code words

/-- The test of a name. -/
def test? (cs : CommandSet κ) (host : Host κ ω) (name : String) :
    Option (List String → StateM (World κ ω) Bool) :=
  (cs.tests.find? name).map (evaluate host)

/-- Asks the test of a name, if there is one. -/
def ask (cs : CommandSet κ) (host : Host κ ω) (name : String) (words : List String) :
    StateM (World κ ω) (Option Bool) :=
  match cs.test? host name with
  | some code => some <$> code words
  | none => return none

/-- What an intrinsic does. -/
def intrinsic (cs : CommandSet κ) (host : Host κ ω) : Builtin κ → Intrinsic (World κ ω)
  | .conditional => Conditional.intrinsic (cs.test? host)
  | .native code => host.intrinsic code (cs.ask host)

/-- Calls a method with bound arguments, whose lists are boxed anew. -/
def forward (host : Host κ ω) (cell : Ref) (method : String) (args : Args) :
    ExceptT String (StateM (World κ ω)) Unit :=
  ExceptT.adapt Failure.message <| ExceptT.mk do
    let first ← World.onMemory (Memory.takeBoxes args.size)
    (World.onInstance cell (Instance.execute host method (args.values first))).run

/-- What is done at one end of a block, by code that has the instance for itself. -/
def handle (host : Host κ ω) (cell : Ref) (handler? : Option (Handler κ)) (call : Call) :
    ExceptT String (StateM (World κ ω)) Unit :=
  match handler? with
  | none => pure ()
  | some (.forward method) => World.lend cell (forward host cell method call.args)
  | some (.native code) => World.lend cell (host.callback code cell call)

/-- A command as scripts see it. -/
def command (host : Host κ ω) (b : Binding κ) : Command (World κ ω) where
  template := b.template
  onOpen := handle host b.cell b.onOpen
  onClose := handle host b.cell b.onClose

/-- What the names in a script mean. -/
def vocabulary (cs : CommandSet κ) (host : Host κ ω) : Vocabulary (World κ ω) where
  intrinsic? name := (cs.intrinsics.find? name).map (cs.intrinsic host)
  command? name := (cs.bindings.find? name).map (command host)

/-- Runs a script. -/
def run (cs : CommandSet κ) (host : Host κ ω) (script : String) :
    ExceptT Failure (StateM (World κ ω)) Unit :=
  (cs.vocabulary host).run script

/-- A set of commands for diagnostics. -/
def outline (cs : CommandSet κ) : String :=
  let names (l : List String) := Outline.list (l.map Text.quoted)
  Outline.record "Engine" [
    ("intrinsics", names cs.intrinsics.names),
    ("tests", names cs.tests.names),
    ("commands", names cs.commands),
    ("default_template", Text.quoted cs.defaultTemplate.display)]

end CommandSet

end BracketScript
