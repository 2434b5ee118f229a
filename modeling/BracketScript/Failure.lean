set_option autoImplicit false

/-!
# Failures

What can go wrong in a registry, in an instance or in a script, by cause.

## Main definitions

* `BracketScript.Failure` — the causes.
* `BracketScript.Failure.message` — the wording.
* `BracketScript.Failure.category` — the coarse class that a host may branch on.
-/

namespace BracketScript

/-- Why an operation failed. -/
inductive Failure where
  /-- The name is taken by a module or a command. -/
  | duplicate (name : String)
  /-- A library could not be opened or lacks an entry point. -/
  | notLoaded (name path reason : String)
  /-- There is no module of that name. -/
  | noModule (name : String)
  /-- The instance does not belong to the registry. -/
  | notTracked (id : Nat)
  /-- The instance is being used. -/
  | inUse (id : Nat)
  /-- A factory built no instance. -/
  | notCreated (name reason : String)
  /-- The instance has no such method. -/
  | noMethod (module method : String)
  /-- A method failed. -/
  | methodFailed (module method reason : String)
  /-- There is no command of that name. -/
  | noCommand (name : String)
  /-- The argument text does not suit the command. -/
  | badArguments (command reason : String)
  /-- A callback of a command, or an intrinsic, failed. -/
  | commandFailed (command reason : String)
  /-- A closing bracket has no partner; its byte offset. -/
  | unmatchedClose (offset : Nat)
  /-- The script ended inside these commands, outermost first. -/
  | unmatchedOpen (commands : List String)
  /-- A template cannot be read, or not beside the default one. -/
  | badTemplate (template reason : String)
deriving DecidableEq, Repr, Inhabited

/-- Coarse classes of failures. -/
inductive Category where
  /-- Something was not found. -/
  | lookup
  /-- The brackets do not match. -/
  | structural
  /-- A name is taken. -/
  | duplicate
  /-- A library did not load. -/
  | loading
  /-- Code of a module or command, or the binding of its arguments, failed. -/
  | callback
deriving DecidableEq, Repr, Inhabited

namespace Failure

/-- A name between backquotes. -/
def ticked (s : String) : String :=
  "`" ++ s ++ "`"

/-- The wording of a failure. -/
def message : Failure → String
  | duplicate name => "module " ++ ticked name ++ " is already registered"
  | notLoaded name path reason =>
    "cannot load module " ++ ticked name ++ " from " ++ path ++ ": " ++ reason
  | noModule name => "no module named " ++ ticked name
  | notTracked id => "instance #" ++ toString id ++ " is not tracked by this registry"
  | inUse id => "instance #" ++ toString id ++ " is in use"
  | notCreated name reason => "module " ++ ticked name ++ " failed to create an instance: " ++ reason
  | noMethod module method =>
    "method " ++ ticked method ++ " not found in module " ++ ticked module
  | methodFailed module method reason => module ++ "." ++ method ++ ": " ++ reason
  | noCommand name => "unknown command " ++ ticked name
  | badArguments command reason => "(" ++ command ++ " …): " ++ reason
  | commandFailed command reason => "(" ++ command ++ " …): " ++ reason
  | unmatchedClose offset => "unmatched " ++ ticked ")" ++ " at offset " ++ toString offset
  | unmatchedOpen commands => "unclosed " ++ ticked "(" ++ " for " ++ " > ".intercalate commands
  | badTemplate template reason => "bad template " ++ ticked template ++ ": " ++ reason

/-- The class of a failure. -/
def category : Failure → Category
  | noMethod .. | noCommand _ | noModule _ | notTracked _ => .lookup
  | unmatchedClose _ | unmatchedOpen _ => .structural
  | duplicate _ => .duplicate
  | notLoaded .. => .loading
  | notCreated .. | methodFailed .. | badArguments .. | commandFailed .. | inUse _
  | badTemplate .. => .callback

end Failure

end BracketScript
