import BracketScript.Script.Scanner
import BracketScript.Script.Vocabulary

set_option autoImplicit false

/-!
# Running a script

A script runs token by token. An opened block has its arguments bound and its code run; the closed
block gets the same arguments back. The first failure ends the run, and nothing that was done is
undone.

## Main definitions

* `BracketScript.Position` — how far a run has come: the scan, and the arguments of the open blocks.
* `BracketScript.Vocabulary.step` — takes one token; there is no next position at the end.
* `BracketScript.Vocabulary.runFrom`, `BracketScript.Vocabulary.run` — run what is left of a script,
  and a whole one.

## Main results

* `BracketScript.Position.size_opened`, `BracketScript.Position.size_closed` — every token leaves less
  to be read, which is why a run ends.
-/

namespace BracketScript

/-- Enters a block whose opening asked for these skips. -/
def Scanner.enter (s : Scanner) (name : String) (skips : List Nat) : Scanner :=
  skips.foldl Scanner.beginSkip (s.push name)

/-- Asking for skips reads nothing. -/
theorem Scanner.rest_foldl_beginSkip (skips : List Nat) (s : Scanner) :
    (skips.foldl Scanner.beginSkip s).rest = s.rest := by
  induction skips generalizing s with
  | nil => rfl
  | cons n skips ih => exact ih (s.beginSkip n)

@[simp]
theorem Scanner.rest_enter (s : Scanner) (name : String) (skips : List Nat) :
    (s.enter name skips).rest = s.rest :=
  Scanner.rest_foldl_beginSkip skips (s.push name)

/-- How far a run has come. -/
structure Position where
  /-- The scan of the script. -/
  scanner : Scanner
  /-- The arguments of the open blocks, innermost first. -/
  frames : List Args := []
deriving DecidableEq, Repr, Inhabited

namespace Position

/-- The start of a script. -/
def start (script : String) : Position where
  scanner := Scanner.start script

/-- The number of characters that are still to be read. -/
def size (p : Position) : Nat :=
  p.scanner.rest.length

/-- The position inside a block that was opened with these arguments and skips. -/
def opened (p : Position) (s : Scanner) (name : String) (args : Args) (skips : List Nat) :
    Position where
  scanner := s.enter name skips
  frames := args :: p.frames

/-- The position after a block was closed. -/
def closed (p : Position) (s : Scanner) : Position where
  scanner := s
  frames := p.frames.tail

/-- Opening a block leaves less to be read. -/
theorem size_opened {p : Position} {s : Scanner} {t : Token}
    (h : p.scanner.next = (.ok (some t), s)) (name : String) (args : Args) (skips : List Nat) :
    (p.opened s name args skips).size < p.size := by
  simpa [size, opened] using Scanner.length_next h

/-- Closing a block leaves less to be read. -/
theorem size_closed {p : Position} {s : Scanner} {t : Token}
    (h : p.scanner.next = (.ok (some t), s)) : (p.closed s).size < p.size :=
  Scanner.length_next h

end Position

namespace Vocabulary

variable {σ : Type}

/-- Takes the next token of a script. The position after it has less to be read; at the end of the
script there is none, and no block may be open. -/
def step (v : Vocabulary σ) (p : Position) :
    ExceptT Failure (StateM σ) (Option { q : Position // q.size < p.size }) :=
  match h : p.scanner.next with
  | (.error offset, _) => throw (.unmatchedClose offset)
  | (.ok none, s) => if s.stack.isEmpty then pure none else throw (.unmatchedOpen s.openNames)
  | (.ok (some (.opened name)), s) => do
    let (args, skips) ← v.openBlock name s.argText (s.depth + 1)
    return some ⟨p.opened s name args skips, Position.size_opened h name args skips⟩
  | (.ok (some (.closed name)), s) => do
    v.closeBlock ⟨name, p.frames.headD {}, s.depth + 1⟩
    return some ⟨p.closed s, Position.size_closed h⟩

/-- Runs what is left of a script. -/
def runFrom (v : Vocabulary σ) (p : Position) : ExceptT Failure (StateM σ) Unit := do
  match ← v.step p with
  | none => return ()
  | some ⟨q, _⟩ => runFrom v q
termination_by p.size

/-- Runs a script. -/
def run (v : Vocabulary σ) (script : String) : ExceptT Failure (StateM σ) Unit :=
  v.runFrom (Position.start script)

end Vocabulary

end BracketScript
