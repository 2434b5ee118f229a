import BracketScript.CommandSet.Import
import BracketScript.FileTree
import BracketScript.Launch.Options
import BracketScript.Rc.Apply

set_option autoImplicit false

/-!
# Running a command line

The program reads an rc file, imports the modules it asks for, and runs a script. The modules would
have to come from shared libraries, and no code of theirs can be run here: each `/load` is reported with
the reason for which the linker does not open the library at its path, or as a library without a module.
The files and the linker are parameters of a run.

## Main definitions

* `BracketScript.Surroundings` — the files, the linker, the standard input and the user's directory.
* `BracketScript.Launch.run` — the exit code and the messages of a command line.
-/

namespace BracketScript

/-- What the program finds around it. -/
structure Surroundings where
  /-- What a path leads to. -/
  look : String → Found
  /-- Opens the library at a path, or says why it cannot. -/
  link : String → Except String Unit
  /-- The bytes of the standard input. -/
  stdin : ByteArray := .empty
  /-- The directory of the user's configuration files, if it is known. -/
  configDir? : Option String := none

/-- How a run ends. -/
structure Outcome where
  /-- The exit code. -/
  exitCode : Nat
  /-- The lines of the error output. -/
  messages : List String
deriving DecidableEq, Repr, Inhabited

namespace Launch

/-- The paths at which an rc file is looked for, in order. -/
def rcCandidates (configDir? : Option String) : List String :=
  (configDir?.map fun dir => Path.join (Path.join dir "cmdscript") "rc").toList ++
    ["./.cmdscriptrc"]

/-! ## Shared libraries -/

/-- Opens libraries, but sees none of their code: for this host they have no module in them. -/
def loader (env : Surroundings) : Loader Empty where
  pathExists path := (env.look path).isThere
  openLibrary path := (env.link path).map fun () => {}

/-- The host of a run: it brings no code, and its state is the lines written so far. -/
def host : Host Empty (List String) where
  address ref := toString ref
  create code := nomatch code
  destroy code := nomatch code
  info code := nomatch code
  unload code := nomatch code
  method code := nomatch code
  callback code := nomatch code
  intrinsic code := nomatch code
  test code := nomatch code

/-! ## The run -/

/-- A step of a run: it may end the run with a message. -/
abbrev Step := ExceptT String (StateM (World Empty (List String)))

/-- Writes lines to the error output. -/
def write (lines : List String) : StateM (World Empty (List String)) Unit :=
  modify fun w => { w with memory := { w.memory with host := w.memory.host ++ lines } }

/-- The text of a file; one that cannot be read ends the run. -/
def readText (env : Surroundings) (path : String) : Step String :=
  match (env.look path).text with
  | .ok text => return text
  | .error e => throw (path ++ ": " ++ e.message)

/-- The path of the rc file to be read, if there is one. -/
def rcPath? (env : Surroundings) : RcChoice → Option String
  | .skip => none
  | .file path => some path
  | .search => (rcCandidates env.configDir?).find? fun path => (env.look path).isThere

/-- Reads an rc file and does what it asks for. What is wrong with it is written as warnings. -/
def useRc (env : Surroundings) (path : String) (r : Registry Empty) (cs : CommandSet Empty) :
    Step (Registry Empty × CommandSet Empty) := do
  let text ← readText env path
  let (settings, refused) := Settings.read text
  let (failed, r, cs) ← (settings.apply host r cs : StateM (World Empty (List String)) _)
  let warnings :=
    refused.map (Complaint.display RcError.message) ++ failed.map (Complaint.display Failure.message)
  write (warnings.map fun w => "cmdscript: warning: " ++ path ++ ": " ++ w)
  return (r, cs)

/-- The script to be run, if there is one. -/
def script? (env : Surroundings) : Source → Step (Option String)
  | .none => return none
  | .inline text => return some text
  | .stdin =>
    match Found.decode env.stdin with
    | .ok text => return some text
    | .error e => throw ("stdin: " ++ e.message)
  | .file path => some <$> readText env path

/-- Does what the options ask for. -/
def perform (env : Surroundings) (options : Options) : Step Unit := do
  let r ← (World.onMemory (Registry.create (loader env)) :
    StateM (World Empty (List String)) (Registry Empty))
  let r := options.moduleDirs.foldl Registry.addSearchDir r
  let cs := CommandSet.standard
  let (r, cs) ← match rcPath? env options.rc with
    | some path => useRc env path r cs
    | none => pure (r, cs)
  let (imported, cs, _) ← (cs.importRegistry host r : StateM (World Empty (List String)) _)
  match imported with
  | .error e => throw e.message
  | .ok _ =>
    if let some script ← script? env options.source then
      (cs.run host script).adapt Failure.message

/-- The paths that a run looks at before it knows what its rc file asks for. -/
def paths (configDir? : Option String) (options : Options) : List String :=
  (match options.rc with
    | .skip => []
    | .file path => [path]
    | .search => rcCandidates configDir?) ++
  (match options.source with
    | .file path => [path]
    | _ => [])

/-- The lines that tell how the program is called. -/
def usage : List String :=
  ["Usage: cmdscript [-d] [-L<dir>] [-f[<rc>]] -c<script>",
    "       cmdscript [-d] [-L<dir>] [-f[<rc>]] <script-file>|-"]

/-- The exit code and the messages of a command line. -/
def run (env : Surroundings) (argv : List String) : Outcome :=
  match Options.parse argv with
  | .error e => ⟨1, ("cmdscript: " ++ e.message) :: usage⟩
  | .ok options =>
    match (perform env options).run { memory := { host := [] } } with
    | (.ok (), w) => ⟨0, w.memory.host⟩
    | (.error message, w) => ⟨1, w.memory.host ++ ["cmdscript: " ++ message]⟩

end Launch

end BracketScript
