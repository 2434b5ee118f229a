import BracketScript.Failure
import BracketScript.Library
import BracketScript.Script.Vocabulary
import BracketScript.World

set_option autoImplicit false

/-!
# Hosts

A host brings the code that modules and commands run. Code is data of a type `κ`, and a host gives it
its meaning in each of the roles in which it can be run. All of it reaches the whole world and may hold
on to any instance. What runs in the middle of an operation, which are factories, methods, destructors
and the code of libraries that are closed, only visits the world: it makes no instances but the one that
a factory answers with, and it gives back what it borrows.

## Main definitions

* `BracketScript.Host` — the meaning of code.
* `BracketScript.Instance.execute` — calls a method.
-/

namespace BracketScript

/-- The meaning of code, by the role in which it is run. -/
structure Host (κ ω : Type) where
  /-- Writes down where an object is. -/
  address : Ref → String
  /-- Builds an instance, or says why not. -/
  create : κ → Visit κ ω (Except String (Instance κ))
  /-- Takes an instance apart. -/
  destroy : κ → Instance κ → Visit κ ω Unit
  /-- Answers a question about a module. -/
  info : κ → Int → Option String
  /-- Runs when a library is closed. -/
  unload : κ → Visit κ ω Unit
  /-- Runs a method on its instance, which is given back with what the method answers. -/
  method : κ → Instance κ → Visit κ ω (Except String Unit × Instance κ)
  /-- Runs a callback of a command on the instance that it has for itself. -/
  callback : κ → Ref → Call → ExceptT String (StateM (World κ ω)) Unit
  /-- Runs an intrinsic, which can evaluate tests by name. -/
  intrinsic : κ → (String → List String → StateM (World κ ω) (Option Bool)) →
    Intrinsic (World κ ω)
  /-- Evaluates a test. -/
  test : κ → List String → StateM (World κ ω) Bool

namespace Instance

variable {κ ω : Type}

/-- Calls a method. The result of the last call is dropped before the method is looked up, so that no
call leaves an old result behind; the arguments are replaced only if there is such a method. -/
def execute (host : Host κ ω) (name : String) (args : List Value) (i : Instance κ) :
    Visit κ ω (Except Failure Unit × Instance κ) :=
  let i := { i with result? := none }
  match i.methods.find? name with
  | none => .pure (.error (.noMethod i.moduleName name), i)
  | some method =>
    (host.method method.code { i with args }).map fun (result, i) =>
      (result.mapError (.methodFailed i.moduleName name), i)

end Instance

end BracketScript
