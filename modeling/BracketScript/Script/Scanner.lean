import BracketScript.Script.Skip
import BracketScript.Text.Blank
import BracketScript.Text.Lines

set_option autoImplicit false

/-!
# Scanning a script

A script is a text with nested blocks `(name arguments (name …) …)`. It is never turned into a tree:
a scanner walks over the text and reports one opening or closing bracket at a time. It keeps the
names of the blocks that are open and the skips that conditionals have left, and passes over a block
to be skipped by counting brackets, without reporting anything in it.

## Main definitions

* `BracketScript.Token` — an opened or closed block, by name.
* `BracketScript.Scanner` — the state of a scan.
* `BracketScript.Scanner.next` — the next token, the end, or a closing bracket without partner.
* `BracketScript.Scanner.argText` — the text from the last token to the next bracket.
* `BracketScript.Scanner.push`, `BracketScript.Scanner.beginSkip` — what a reader does in answer to an
  opened block.

## Main results

* `BracketScript.Scanner.passSkipped_suffix`, `BracketScript.Scanner.next_suffix` — a scan only moves
  forward.
* `BracketScript.Scanner.length_next` — every token takes a bracket off the unread text.
-/

namespace BracketScript

/-- What the scanner reports. -/
inductive Token where
  /-- A block starts. -/
  | opened (name : String)
  /-- The innermost open block ends. -/
  | closed (name : String)
deriving DecidableEq, Repr, Inhabited

/-- The state of a scan. -/
structure Scanner where
  /-- The whole script, its line breaks unified. -/
  text : List Char
  /-- The part that is still to be read. -/
  rest : List Char
  /-- The names of the open blocks, innermost first. -/
  stack : List String := []
  /-- The skips that are not over, innermost first. -/
  skips : List Skip := []
deriving DecidableEq, Repr, Inhabited

namespace Scanner

/-- The scan of a script from its start. -/
def start (script : String) : Scanner :=
  let text := Text.unifyBreaks script.toList
  { text, rest := text }

/-- The size of a text in bytes of UTF-8. -/
def byteSize (cs : List Char) : Nat :=
  cs.foldr (fun c n => c.utf8Size + n) 0

/-- The place that the scan has reached, as a byte offset. -/
def cursor (s : Scanner) : Nat :=
  byteSize s.text - byteSize s.rest

/-- Whether all the text is read. -/
def atEnd (s : Scanner) : Bool :=
  s.rest.isEmpty

/-- The number of open blocks. -/
def depth (s : Scanner) : Nat :=
  s.stack.length

/-- The names of the open blocks, outermost first. -/
def openNames (s : Scanner) : List String :=
  s.stack.reverse

/-- The brackets. -/
def isBracket (c : Char) : Bool :=
  c == '(' || c == ')'

/-- The characters of the name of a block. -/
def isNameChar (c : Char) : Bool :=
  !Text.isBlank c && !isBracket c

/-- Enters a block. -/
def push (s : Scanner) (name : String) : Scanner :=
  { s with stack := name :: s.stack }

/-- Asks that the `remaining`-th block from now on right inside the current one be skipped. -/
def beginSkip (s : Scanner) (remaining : Nat) : Scanner :=
  { s with skips := ⟨s.depth, remaining⟩ :: s.skips }

/-- The skip that is active. -/
def skip? (s : Scanner) : Option Skip :=
  s.skips.head?

/-- Tells the skips that a block has ended. -/
def endBlock (s : Scanner) : Scanner :=
  { s with skips := Skip.settle s.depth s.skips }

/-- The text up to the next bracket. After an opened block this is its argument text. -/
def argText (s : Scanner) : String :=
  String.ofList (s.rest.takeWhile (! isBracket ·))

/-- The text from its first bracket on. -/
def toBracket (cs : List Char) : List Char :=
  cs.dropWhile (! isBracket ·)

/-- The text after the closing bracket of a block, read inside the block with `inner` further blocks
open in it. A block that is not closed takes all the text. -/
def afterBlock : Nat → List Char → List Char
  | _, [] => []
  | inner, c :: rest =>
    if c = '(' then afterBlock (inner + 1) rest
    else if c = ')' then
      match inner with
      | 0 => rest
      | inner + 1 => afterBlock inner rest
    else afterBlock inner rest

/-- Whether the next block is to be skipped. -/
def skipsHere (s : Scanner) : Bool :=
  s.skip?.any (·.hits s.depth)

/-! ## Moving forward -/

/-- What follows a block is the end of the text. -/
theorem afterBlock_suffix (inner : Nat) (cs : List Char) : afterBlock inner cs <:+ cs := by
  fun_induction afterBlock inner cs with
  | case1 => exact List.suffix_refl _
  | case2 inner rest ih => exact ih.trans (List.suffix_cons _ rest)
  | case3 rest h => exact List.suffix_cons _ rest
  | case4 rest inner h ih => exact ih.trans (List.suffix_cons _ rest)
  | case5 inner c rest h h' ih => exact ih.trans (List.suffix_cons c rest)

/-- The text from a bracket on is the end of the text. -/
theorem toBracket_suffix (cs : List Char) : toBracket cs <:+ cs :=
  List.dropWhile_suffix _

@[simp]
theorem rest_endBlock (s : Scanner) : s.endBlock.rest = s.rest := rfl

@[simp]
theorem rest_push (s : Scanner) (name : String) : (s.push name).rest = s.rest := rfl

@[simp]
theorem rest_beginSkip (s : Scanner) (n : Nat) : (s.beginSkip n).rest = s.rest := rfl

/-- Passes over the blocks to be skipped that come next. The text before such a block goes with it;
if there is none left in the current block, the scan stops before the bracket that ends it. -/
def passSkipped (s : Scanner) : Scanner :=
  if s.skipsHere then
    match _ : toBracket s.rest with
    | '(' :: rest => passSkipped { s with rest := afterBlock 0 rest }.endBlock
    | rest => { s with rest }
  else s
termination_by s.rest.length
decreasing_by
  rename_i h
  have hrest := (afterBlock_suffix 0 rest).length_le
  have hbracket := (toBracket_suffix s.rest).length_le
  simp only [rest_endBlock, h, List.length_cons] at hbracket ⊢
  omega

/-- Reads the next bracket, nothing being skipped before it. A closing bracket without partner leaves
the scan where it is, and its byte offset is the error. -/
def read (s : Scanner) : Except Nat (Option Token) × Scanner :=
  match toBracket s.rest with
  | [] => (.ok none, { s with rest := [] })
  | c :: rest =>
    if c = '(' then
      (.ok (some (.opened (String.ofList (rest.takeWhile isNameChar)))),
        { s with rest := rest.dropWhile isNameChar })
    else
      match s.stack with
      | [] => (.error (byteSize s.text - byteSize (c :: rest)), s)
      | name :: outer => (.ok (some (.closed name)), { s with rest, stack := outer }.endBlock)

/-- The next token, or nothing at the end of the script. -/
def next (s : Scanner) : Except Nat (Option Token) × Scanner :=
  s.passSkipped.read

/-- Passing over blocks only moves forward. -/
theorem passSkipped_suffix (s : Scanner) : s.passSkipped.rest <:+ s.rest := by
  fun_induction passSkipped s with
  | case1 s hskip rest h ih =>
    have hrest := afterBlock_suffix 0 rest
    have hbracket := toBracket_suffix s.rest
    rw [h] at hbracket
    exact ih.trans (hrest.trans ((List.suffix_cons _ rest).trans hbracket))
  | case2 s hskip hne => exact toBracket_suffix s.rest
  | case3 s hskip => exact List.suffix_refl _

/-- Reading only moves forward. -/
theorem read_suffix (s : Scanner) : s.read.2.rest <:+ s.rest := by
  have hbracket := toBracket_suffix s.rest
  rw [read]
  split
  · exact List.nil_suffix
  · next c rest h =>
    rw [h] at hbracket
    have hrest := (List.suffix_cons c rest).trans hbracket
    split
    · exact (List.dropWhile_suffix _).trans hrest
    · split
      · exact List.suffix_refl _
      · exact hrest

/-- A scan only moves forward. -/
theorem next_suffix (s : Scanner) : s.next.2.rest <:+ s.rest :=
  (read_suffix s.passSkipped).trans (passSkipped_suffix s)

/-- Every token that is read takes a bracket off the unread text. -/
theorem length_read {s s' : Scanner} {t : Token} (h : s.read = (.ok (some t), s')) :
    s'.rest.length < s.rest.length := by
  have hbracket := (toBracket_suffix s.rest).length_le
  rw [read] at h
  split at h
  · cases h
  · next c rest hrest =>
    rw [hrest, List.length_cons] at hbracket
    split at h
    · cases h
      have := (List.dropWhile_suffix isNameChar (l := rest)).length_le
      exact Nat.lt_of_le_of_lt this hbracket
    · split at h
      · cases h
      · cases h
        exact hbracket

/-- Every token takes a bracket off the unread text. -/
theorem length_next {s s' : Scanner} {t : Token} (h : s.next = (.ok (some t), s')) :
    s'.rest.length < s.rest.length :=
  Nat.lt_of_lt_of_le (length_read h) (passSkipped_suffix s).length_le

end Scanner

end BracketScript
