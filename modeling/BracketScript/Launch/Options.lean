set_option autoImplicit false

/-!
# Command line options

A word that starts with `-` and goes on is a word of flags, any other is the script file. In a word of
flags any number of `d` may come before one of `f`, `c` and `L`, which take the rest of the word as their
value; `c` and `L` take the next word if there is no rest.

## Main definitions

* `BracketScript.Options` — what the words ask for.
* `BracketScript.Options.Item`, `BracketScript.Options.scan` — the words as a list of wishes.
* `BracketScript.Options.parse` — the options of a command line.
* `BracketScript.UsageError` — what is wrong with a command line.
-/

namespace BracketScript

/-- What is wrong with a command line. -/
inductive UsageError where
  /-- There is more than one script file. -/
  | manyFiles
  /-- A flag lacks its value. -/
  | needsArgument (flag : Char)
  /-- There is no such flag. -/
  | unknownOption (flag : Char)
  /-- There is a script file and a script on the command line. -/
  | twoScripts
deriving DecidableEq, Repr, Inhabited

/-- The wording of what is wrong with a command line. -/
def UsageError.message : UsageError → String
  | manyFiles => "more than one script file given"
  | needsArgument flag => "-" ++ String.singleton flag ++ " requires an argument"
  | unknownOption flag => "unknown option: -" ++ String.singleton flag
  | twoScripts => "both -c and a script file given"

/-- Which rc file is read. -/
inductive RcChoice where
  /-- The first of the usual ones that is there. -/
  | search
  /-- None. -/
  | skip
  /-- The one at a path. -/
  | file (path : String)
deriving DecidableEq, Repr, Inhabited

/-- Where the script comes from. -/
inductive Source where
  /-- There is no script. -/
  | none
  /-- From the command line. -/
  | inline (script : String)
  /-- From standard input. -/
  | stdin
  /-- From a file. -/
  | file (path : String)
deriving DecidableEq, Repr, Inhabited

/-- What a command line asks for. -/
structure Options where
  /-- Directories with libraries, in order. -/
  moduleDirs : List String := []
  /-- Which rc file is read. -/
  rc : RcChoice := .search
  /-- Where the script comes from. -/
  source : Source := .none
  /-- Whether to log what is done. -/
  debug : Bool := false
deriving DecidableEq, Repr, Inhabited

namespace Options

/-- One wish on a command line. -/
inductive Item where
  /-- Log what is done. -/
  | debug
  /-- Look for libraries in a directory. -/
  | moduleDir (path : String)
  /-- Run this script. -/
  | inline (script : String)
  /-- Read no rc file. -/
  | rcSkip
  /-- Read this rc file. -/
  | rcFile (path : String)
  /-- A word without flags: the file of the script, or `-` for standard input. -/
  | positional (word : String)
deriving DecidableEq, Repr, Inhabited

/-- The wish of `-f` with the rest of its word. -/
def rcItem (rest : List Char) : Item :=
  if rest.isEmpty then .rcSkip else .rcFile (String.ofList rest)

/-- The wish of a flag that takes a value. -/
def valueItem? : Char → Option (String → Item)
  | 'c' => some .inline
  | 'L' => some .moduleDir
  | _ => none

/-- Puts wishes in front of those of the words after them. -/
def before (items : List Item) (rest : List Item × Option UsageError) :
    List Item × Option UsageError :=
  (items ++ rest.1, rest.2)

/-- The flag for logging. -/
def isDebugFlag (c : Char) : Bool :=
  c == 'd'

/-- The wishes of the words of a command line, up to the first word that makes no sense. -/
def scan : List String → List Item × Option UsageError
  | [] => ([], none)
  | word :: words =>
    match word.toList with
    | '-' :: flag :: more =>
      let flags := flag :: more
      let debugs := (flags.takeWhile isDebugFlag).map fun _ => Item.debug
      match flags.dropWhile isDebugFlag with
      | [] => before debugs (scan words)
      | 'f' :: rest => before (debugs ++ [rcItem rest]) (scan words)
      | flag :: rest =>
        match valueItem? flag with
        | none => (debugs, some (.unknownOption flag))
        | some item =>
          if rest ≠ [] then before (debugs ++ [item (String.ofList rest)]) (scan words)
          else
            match words with
            | [] => (debugs, some (.needsArgument flag))
            | value :: words => before (debugs ++ [item value]) (scan words)
    | _ => before [.positional word] (scan words)

/-- The options with a further wish; a positional word is kept apart. -/
def add (o : Options) : Item → Options
  | .debug => { o with debug := true }
  | .moduleDir path => { o with moduleDirs := o.moduleDirs ++ [path] }
  | .inline script => { o with source := .inline script }
  | .rcSkip => { o with rc := .skip }
  | .rcFile path => { o with rc := .file path }
  | .positional _ => o

/-- The positional words among wishes. -/
def positionals (items : List Item) : List String :=
  items.filterMap fun
    | .positional word => some word
    | _ => none

/-- Where the script comes from when a word without flags is given. -/
def sourceOf (word : String) : Source :=
  if word = "-" then .stdin else .file word

/-- The options of a command line. Of several faults, the one that comes first is reported; a script given
twice shows only at the end. -/
def parse (argv : List String) : Except UsageError Options :=
  let (items, fault) := scan argv
  let options := items.foldl add {}
  match positionals items, fault with
  | _ :: _ :: _, _ => .error .manyFiles
  | _, some e => .error e
  | [], none => .ok options
  | [word], none =>
    if options.source = .none then .ok { options with source := sourceOf word }
    else .error .twoScripts

end Options

end BracketScript
