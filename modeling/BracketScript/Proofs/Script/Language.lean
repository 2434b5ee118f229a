import BracketScript.CommandSet.Basic
import BracketScript.Proofs.Effect

set_option autoImplicit false

/-!
# Languages with one intrinsic

The language that comes with the library has one intrinsic, the conditional. What is left to choose
are the tests that it can ask for and the commands; both act on a state of any type, and commands
may fail.

## Main definitions

* `BracketScript.Language` — tests and commands by name.
* `BracketScript.Language.vocabulary`, `BracketScript.Language.run` — what the names mean, and how a
  script runs.
* `BracketScript.Event`, `BracketScript.Language.recorded` — the same language, keeping a log of
  every test that is asked for and of every call of the code of a command.
* `BracketScript.CommandSet.language` — the language of a set of commands.

## Main results

* `BracketScript.Language.openBlock_conditional`, `BracketScript.Language.openBlock_command` and
  the lemmas around them — what it is to open a block, case by case.
* `BracketScript.CommandSet.vocabulary_eq` — a set of commands whose only intrinsic is the
  conditional gives the names of a script the meaning they have in its language. -/

namespace BracketScript

/-- The tests that conditionals can ask for, and the commands. -/
structure Language (σ : Type) where
  /-- The test of a name. -/
  test? : String → Option (List String → StateM σ Bool)
  /-- The command of a name. -/
  command? : String → Option (Command σ)

namespace Language

variable {σ : Type}

/-- What names mean: the conditional is the only intrinsic. -/
def vocabulary (L : Language σ) : Vocabulary σ where
  intrinsic? name := if name = Conditional.name then some (Conditional.intrinsic L.test?) else none
  command? := L.command?

/-- Runs a script. -/
def run (L : Language σ) (script : String) : ExceptT Failure (StateM σ) Unit :=
  L.vocabulary.run script

/-- Asks for a test. One that nobody knows does not hold. -/
def ask (L : Language σ) (test : String) (words : List String) : StateM σ Bool :=
  match L.test? test with
  | some code => code words
  | none => pure false

/-! ## Opening and closing blocks -/

section Blocks

variable {L : Language σ} {name text : String} {depth : Nat}

@[simp]
lemma intrinsic?_conditional :
    L.vocabulary.intrinsic? Conditional.name = some (Conditional.intrinsic L.test?) := by
  simp [vocabulary]

lemma intrinsic?_of_ne (h : name ≠ Conditional.name) : L.vocabulary.intrinsic? name = none :=
  if_neg h

/-- A conditional with an open quote cannot be opened. -/
lemma openBlock_conditional_of_openQuote (h : Word.texts? text = none) :
    L.vocabulary.openBlock Conditional.name text depth =
      throw (.badArguments Conditional.name BindError.openQuote.message) := by
  simp only [Vocabulary.openBlock, intrinsic?_conditional, Vocabulary.openIntrinsic, h]

/-- A conditional without a word cannot be opened. -/
lemma openBlock_conditional_of_nil (h : Word.texts? text = some []) :
    L.vocabulary.openBlock Conditional.name text depth =
      throw (.badArguments Conditional.name "expected at least one argument") := by
  simp only [Vocabulary.openBlock, intrinsic?_conditional, Vocabulary.openIntrinsic, h]

/-- A conditional asks for its test, and has the second block inside it skipped if the test holds,
otherwise the first. -/
lemma openBlock_conditional {test : String} {words : List String}
    (h : Word.texts? text = some (test :: words)) :
    L.vocabulary.openBlock Conditional.name text depth = (do
      let holds ← L.ask test words
      return ({}, [if holds then 2 else 1])) := by
  simp only [Vocabulary.openBlock, intrinsic?_conditional, Vocabulary.openIntrinsic, h]
  funext w
  match hask : L.ask test words w with
  | (holds, w') =>
    have hcode : Conditional.intrinsic L.test? ⟨Conditional.name, test :: words, depth⟩ w =
        (.ok [Conditional.skipCount holds], w') :=
      Effect.bind_of_ok (Effect.lift_of_eq hask) _
    rw [Effect.bind_of_ok (Effect.adapt_of_ok hcode _), Effect.bind_of_ok (Effect.lift_of_eq hask)]
    cases holds <;> rfl

/-- A name that nobody knows cannot be opened. -/
lemma openBlock_of_unknown (hname : name ≠ Conditional.name) (h : L.command? name = none) :
    L.vocabulary.openBlock name text depth = throw (.noCommand name) := by
  have hcommand : L.vocabulary.command? name = none := h
  simp only [Vocabulary.openBlock, intrinsic?_of_ne hname, hcommand]

/-- A command whose arguments do not bind cannot be opened. -/
lemma openBlock_of_unbound (hname : name ≠ Conditional.name) {command : Command σ}
    (h : L.command? name = some command) {e : BindError}
    (hbind : command.template.bind text = .error e) :
    L.vocabulary.openBlock name text depth = throw (.badArguments name e.message) := by
  have hcommand : L.vocabulary.command? name = some command := h
  simp only [Vocabulary.openBlock, intrinsic?_of_ne hname, hcommand, Vocabulary.openCommand, hbind]

/-- A command runs its code on the arguments that were bound. -/
lemma openBlock_command (hname : name ≠ Conditional.name) {command : Command σ}
    (h : L.command? name = some command) {args : Args}
    (hbind : command.template.bind text = .ok args) :
    L.vocabulary.openBlock name text depth = (do
      (command.onOpen ⟨name, args, depth⟩).adapt (Failure.commandFailed name)
      return (args, [])) := by
  have hcommand : L.vocabulary.command? name = some command := h
  simp only [Vocabulary.openBlock, intrinsic?_of_ne hname, hcommand, Vocabulary.openCommand, hbind]

/-- There is nothing to do at the end of a conditional. -/
lemma closeBlock_conditional {call : Call} (h : call.command = Conditional.name) :
    L.vocabulary.closeBlock call = pure () := by
  simp only [Vocabulary.closeBlock, h, intrinsic?_conditional]

/-- There is nothing to do at the end of a block whose name nobody knows. -/
lemma closeBlock_of_unknown {call : Call} (h : L.command? call.command = none) :
    L.vocabulary.closeBlock call = pure () := by
  have hcommand : L.vocabulary.command? call.command = none := h
  simp only [Vocabulary.closeBlock, hcommand]
  cases L.vocabulary.intrinsic? call.command <;> rfl

/-- A command runs its code on the arguments it was opened with. -/
lemma closeBlock_command {call : Call} (hname : call.command ≠ Conditional.name)
    {command : Command σ} (h : L.command? call.command = some command) :
    L.vocabulary.closeBlock call =
      (command.onClose call).adapt (Failure.commandFailed call.command) := by
  have hcommand : L.vocabulary.command? call.command = some command := h
  simp only [Vocabulary.closeBlock, intrinsic?_of_ne hname, hcommand]

end Blocks

end Language

/-! ## Keeping a log -/

/-- What a run does: it asks for a test, or it calls the code of a command for one of the two ends
of a block. -/
inductive Event where
  /-- A test was asked for, with these words. -/
  | tested (test : String) (words : List String)
  /-- The code for the start of a block was called. -/
  | opened (call : Call)
  /-- The code for the end of a block was called. -/
  | closed (call : Call)
deriving DecidableEq, Repr

/-- Runs code beside a log and writes down that it ran. -/
def Event.noting {σ α : Type} (e : Event) (code : StateM σ α) : StateM (σ × List Event) α :=
  fun (w, log) =>
    let (a, w) := code w
    (a, w, log ++ [e])

/-- The code runs as without a log, and the event comes last. -/
lemma Event.noting_eq {σ α : Type} {code : StateM σ α} {w w' : σ} {a : α} (e : Event)
    (h : code w = (a, w')) (log : List Event) : e.noting code (w, log) = (a, w', log ++ [e]) := by
  rw [noting, h]

/-- The same command, with a log of the calls of its code. -/
def Command.recorded {σ : Type} (command : Command σ) : Command (σ × List Event) where
  template := command.template
  onOpen call := ExceptT.mk ((Event.opened call).noting (command.onOpen call).run)
  onClose call := ExceptT.mk ((Event.closed call).noting (command.onClose call).run)

/-- The same language, with a log of all that a run does. -/
def Language.recorded {σ : Type} (L : Language σ) : Language (σ × List Event) where
  test? name := (L.test? name).map fun code words => (Event.tested name words).noting (code words)
  command? name := (L.command? name).map Command.recorded

/-! ## Sets of commands -/

namespace CommandSet

variable {κ ω : Type}

/-- The language of a set of commands. -/
def language (cs : CommandSet κ) (host : Host κ ω) : Language (World κ ω) where
  test? := cs.test? host
  command? name := (cs.bindings.find? name).map (command host)

/-- If the conditional is the only intrinsic, names mean what they mean in the language. -/
lemma vocabulary_eq {cs : CommandSet κ} (h : cs.intrinsics = (standard : CommandSet κ).intrinsics)
    (host : Host κ ω) : cs.vocabulary host = (cs.language host).vocabulary := by
  have hintrinsic : (cs.vocabulary host).intrinsic? = (cs.language host).vocabulary.intrinsic? := by
    funext name
    by_cases hname : name = Conditional.name
    · simp [vocabulary, Language.vocabulary, h, standard, hname, intrinsic, language]
    · simp [vocabulary, Language.vocabulary, h, standard, hname, Ne.symm hname]
  rw [vocabulary, Vocabulary.mk.injEq]
  exact ⟨hintrinsic, rfl⟩

end CommandSet

end BracketScript
