import BracketScript.Script.Vocabulary

set_option autoImplicit false

/-!
# Conditionals

`(if test words… (then …) (else …))` is the one intrinsic that comes with the language. Its first word
names a test, the others are what is tested. When the test holds the second block inside it is
skipped, otherwise the first; a test that nobody knows does not hold.

## Main definitions

* `BracketScript.Conditional.intrinsic` — the conditional over a set of tests.
* `BracketScript.StandardTest` — the tests that need nothing but their words.
-/

namespace BracketScript

/-- A test that needs nothing but its words. -/
inductive StandardTest where
  /-- Always holds. -/
  | always
  /-- Never holds. -/
  | never
  /-- There are two words and they are equal. -/
  | equal
  /-- There are two words and they differ. -/
  | unequal
  /-- All words are empty. -/
  | empty
deriving DecidableEq, Repr, Inhabited

namespace StandardTest

/-- The standard tests. -/
def all : List StandardTest :=
  [always, never, equal, unequal, empty]

/-- The name of a test in a script. -/
def name : StandardTest → String
  | always => "true"
  | never => "false"
  | equal => "eq"
  | unequal => "ne"
  | empty => "empty"

/-- The test of a name. -/
def ofName? (name : String) : Option StandardTest :=
  all.find? (·.name == name)

/-- Whether a test holds of words. -/
def holds : StandardTest → List String → Bool
  | always, _ => true
  | never, _ => false
  | equal, [a, b] => a == b
  | equal, _ => false
  | unequal, [a, b] => a != b
  | unequal, _ => false
  | empty, words => words.all (· == "")

end StandardTest

namespace Conditional

variable {σ : Type}

/-- The name of the conditional in a script. -/
def name : String := "if"

/-- The block to be skipped, counted from the start of the conditional. -/
def skipCount (holds : Bool) : Nat :=
  if holds then 2 else 1

/-- Whether the test of a name holds; one that nobody knows does not. -/
def evaluate (test? : String → Option (List String → StateM σ Bool)) (test : String)
    (words : List String) : StateM σ Bool :=
  match test? test with
  | some code => code words
  | none => pure false

/-- The conditional over a set of tests, which may act on the state. -/
def intrinsic (test? : String → Option (List String → StateM σ Bool)) : Intrinsic σ :=
  fun request =>
    match request.words with
    | [] => throw "if: missing test"
    | test :: words => do
      let holds ← evaluate test? test words
      return [skipCount holds]

end Conditional

end BracketScript
