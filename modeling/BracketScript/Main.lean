import BracketScript.Launch.Linker
import BracketScript.Launch.Run

set_option autoImplicit false

/-!
# The program

Collects what the run needs from the file system, the environment and the standard input, and writes out
how the run ends. Every decision is made in `BracketScript.Launch`.
-/

namespace BracketScript.Launch

/-- What a path leads to. -/
def lookUp (path : String) : IO Found := do
  if path.toList.contains '\x00' then
    return .unspeakable
  try
    return .file (← IO.FS.readBinFile path)
  catch
    | .inappropriateType _ code _ => return if code = 21 then .directory else .blocked
    | .invalidArgument _ code _ => return if code = 36 then .unnameable else .nothing
    | _ => return .nothing

/-- What each of some paths leads to. -/
def lookUpAll (paths : List String) : IO (List (String × Found)) :=
  paths.mapM fun path => return (path, ← lookUp path)

/-- The directory of the user's configuration files. -/
def configDir : IO (Option String) := do
  match ← IO.getEnv "XDG_CONFIG_HOME" with
  | some dir =>
    if Path.isAbsolute dir then
      return some dir
  | none => pure ()
  return (← IO.getEnv "HOME").map (Path.join · ".config")

/-- All bytes that a stream still has. -/
partial def readAll (stream : IO.FS.Stream) (bytes : ByteArray) : IO ByteArray := do
  let more ← stream.read 65536
  if more.isEmpty then return bytes else readAll stream (bytes ++ more)

/-- The paths at which the libraries of an rc file are looked for. -/
def libraryPaths (linker : Linker) (options : Options) (settings : Settings) : List String :=
  let candidates := settings.modules.flatMap fun m =>
    m.path :: (options.moduleDirs ++ settings.searchPath).map (Path.join · m.path)
  candidates ++ candidates.filterMap fun path =>
    (Linker.name path).toOption.map linker.fileOf

/-- What a command line finds around it. -/
def surroundings (options : Options) : IO Surroundings := do
  let configDir? ← configDir
  let known ← lookUpAll (paths configDir? options)
  let tokens := [("ORIGIN", (← IO.appDir).toString)]
  let linker (known : List (String × Found)) : Linker :=
    { look := fun path => (known.lookup path).getD .nothing, tokens }
  let env (known : List (String × Found)) : Surroundings :=
    { look := (linker known).look, link := (linker known).check, configDir? }
  let libraries ← match rcPath? (env known) options.rc with
    | some path =>
      match ((env known).look path).text with
      | .ok text => lookUpAll (libraryPaths (linker known) options (Settings.read text).1)
      | .error _ => pure []
    | none => pure []
  let stdin ← if options.source = .stdin then readAll (← IO.getStdin) .empty else pure .empty
  return { env (known ++ libraries) with stdin }

end BracketScript.Launch

/-- Runs a command line. -/
def main (argv : List String) : IO UInt32 := do
  let env ← match BracketScript.Options.parse argv with
    | .ok options => BracketScript.Launch.surroundings options
    | .error _ => pure { look := fun _ => .nothing, link := fun _ => .ok () }
  let outcome := BracketScript.Launch.run env argv
  outcome.messages.forM fun line => IO.eprintln line
  return outcome.exitCode.toUInt32
