import BracketScript.Proofs.Script.Verdict
import Mathlib.Data.List.TakeWhile
import Mathlib.Data.Nat.PSub

set_option autoImplicit false

/-!
# The scanner on bytes

The scanner keeps the text that is still to be read. Here it keeps a byte offset into the whole text
instead, and finds its way by arithmetic on offsets: it looks for brackets from the offset on, adds what
it finds to the offset, cuts out names between two offsets, and counts brackets byte by byte to pass over
a block. Each of these steps can go wrong: a text cannot be cut inside a character or behind its end, no
number goes below zero, and the search for a block that is not skipped could go on for ever. Where a step
goes wrong there is no result. On every text the two scanners agree, so no step goes wrong.

## Main definitions

* `BracketScript.ByteScan` — a scan whose place is a byte offset.
* `BracketScript.ByteScan.cutAt`, `BracketScript.ByteScan.findByte?` — a text cut at an offset, and the
  offset of a character.
* `BracketScript.ByteScan.countBlock` — the end of a block, from the bytes.
* `BracketScript.ByteScan.next`, `BracketScript.ByteScan.argText` — the next token and the text behind
  the last one.
* `BracketScript.Scanner.toByteScan` — the byte offset that a scan has reached.

## Main results

* `BracketScript.ByteScan.isSome_cutAt_iff` — a text can be cut where a character starts and at its end.
* `BracketScript.ByteScan.exists_countBlock_bytes` — no byte of another character is taken for a bracket.
* `BracketScript.Scanner.next_toByteScan` — both scanners find the same token, and the one on bytes is
  done after as many rounds as brackets are left, and one more.
-/

namespace BracketScript

namespace Scanner

@[simp]
lemma byteSize_nil : byteSize [] = 0 := rfl

@[simp]
lemma byteSize_cons (c : Char) (cs : List Char) : byteSize (c :: cs) = c.utf8Size + byteSize cs := rfl

end Scanner

open Scanner (byteSize byteSize_append byteSize_cons isBracket isNameChar toBracket afterBlock)

/-- A scan whose place is a byte offset. -/
structure ByteScan where
  /-- The whole script, its line breaks unified. -/
  text : List Char
  /-- The byte offset that the scan has reached. -/
  cursor : Nat
  /-- The names of the open blocks, innermost first. -/
  stack : List String := []
  /-- The skips that are not over, innermost first. -/
  skips : List Skip := []
deriving DecidableEq, Repr

namespace ByteScan

/-! ## Offsets -/

/-- A text cut at a byte offset. It cannot be cut inside a character or behind its end. -/
def cutAt : List Char → Nat → Option (List Char × List Char)
  | cs, 0 => some ([], cs)
  | [], _ + 1 => none
  | c :: cs, n + 1 =>
    if c.utf8Size ≤ n + 1 then
      (cutAt cs (n + 1 - c.utf8Size)).map fun (before, behind) => (c :: before, behind)
    else none

/-- The byte offset of the first character of a kind. -/
def findByte? (p : Char → Bool) : List Char → Option Nat
  | [] => none
  | c :: cs => if p c then some 0 else (findByte? p cs).map (c.utf8Size + ·)

/-- The bytes of a text. -/
def bytes (cs : List Char) : List UInt8 :=
  cs.flatMap String.utf8EncodeChar

/-- Counts the blocks that are open, `count` before the byte with number `i`, up to the byte that closes
the last one. The result is the number of the byte behind it, if there is such a byte. -/
def countBlock : Nat → Nat → List UInt8 → Option (Option Nat)
  | _, _, [] => some none
  | count, i, b :: bs =>
    -- the two brackets are bytes of their own
    if b = 40 then countBlock (count + 1) (i + 1) bs
    else if b = 41 then
      count.ppred.bind fun count =>
        if count = 0 then some (some (i + 1)) else countBlock count (i + 1) bs
    else countBlock count (i + 1) bs

/-! ## The scan -/

/-- The scan of a script from its start. -/
def start (script : String) : ByteScan :=
  { text := Text.unifyBreaks script.toList, cursor := 0 }

/-- Enters a block. -/
def push (b : ByteScan) (name : String) : ByteScan :=
  { b with stack := name :: b.stack }

/-- Asks that the `remaining`-th block from now on right inside the current one be skipped. -/
def beginSkip (b : ByteScan) (remaining : Nat) : ByteScan :=
  { b with skips := ⟨b.stack.length, remaining⟩ :: b.skips }

/-- Tells the skips that a block has ended. -/
def endBlock (b : ByteScan) : ByteScan :=
  { b with skips := Skip.settle b.stack.length b.skips }

/-- Whether the next block is to be skipped. -/
def skipsHere (b : ByteScan) : Bool :=
  b.skips.head?.any (·.hits b.stack.length)

/-- The text from the cursor up to the next bracket. -/
def argText (b : ByteScan) : Option String := do
  let (_, rest) ← cutAt b.text b.cursor
  let (args, _) ← cutAt rest ((findByte? isBracket rest).getD (byteSize rest))
  return String.ofList args

/-- Passes over the next block, if one starts before the current one ends. -/
def skipBlock (b : ByteScan) : Option (Bool × ByteScan) := do
  let (_, rest) ← cutAt b.text b.cursor
  match findByte? isBracket rest with
  | none => return (false, { b with cursor := byteSize b.text })
  | some first =>
    if (← (bytes rest)[first]?) = 41 then
      return (false, { b with cursor := b.cursor + first })
    match ← countBlock 0 first ((bytes rest).drop first) with
    | some stop => return (true, { b with cursor := b.cursor + stop })
    -- a block that is not closed takes all the text
    | none => return (true, { b with cursor := byteSize b.text })

/-- Reads the opening bracket that is `o` bytes behind the cursor, and the name after it. -/
def readOpen (b : ByteScan) (o : Nat) : Option (Except Nat (Option Token) × ByteScan) := do
  let first := b.cursor + o + 1
  let (_, rest) ← cutAt b.text first
  let left ← (byteSize b.text).psub first
  let size := (findByte? (! isNameChar ·) rest).getD left
  let (name, _) ← cutAt rest size
  return (.ok (some (.opened (String.ofList name))), { b with cursor := first + size })

/-- Reads the closing bracket that is `c` bytes behind the cursor. -/
def readClose (b : ByteScan) (c : Nat) : Except Nat (Option Token) × ByteScan :=
  match b.stack with
  | [] => (.error (b.cursor + c), b)
  | name :: outer =>
    (.ok (some (.closed name)), { b with cursor := b.cursor + c + 1, stack := outer }.endBlock)

/-- Reads the next bracket, nothing being skipped before it. -/
def read (b : ByteScan) : Option (Except Nat (Option Token) × ByteScan) := do
  let (_, rest) ← cutAt b.text b.cursor
  match findByte? (· == '(') rest, findByte? (· == ')') rest with
  | none, none => return (.ok none, { b with cursor := byteSize b.text })
  | none, some c => return b.readClose c
  | some o, none => b.readOpen o
  | some o, some c => if c < o then return b.readClose c else b.readOpen o

/-- The next token, or nothing at the end of the script, found in at most `rounds` rounds: in all of
them but the last a block is passed over. -/
def next : Nat → ByteScan → Option (Except Nat (Option Token) × ByteScan)
  | 0, _ => none
  | rounds + 1, b =>
    if b.skipsHere then do
      let (skipped, b) ← b.skipBlock
      if skipped then b.endBlock.next rounds else b.read
    else b.read

/-! ## Cutting and finding -/

section Offsets

variable {cs before behind : List Char} {c : Char} {n : Nat} {p : Char → Bool}

/-- At the size of its front a text is cut behind the front. -/
lemma cutAt_append (before behind : List Char) :
    cutAt (before ++ behind) (byteSize before) = some (before, behind) := by
  induction before with
  | nil => simp [cutAt]
  | cons c before ih =>
    obtain ⟨n, hn⟩ : ∃ n, byteSize (c :: before) = n + 1 :=
      Nat.exists_eq_succ_of_ne_zero (by simp [Nat.ne_of_gt c.utf8Size_pos])
    have hrest : n + 1 - c.utf8Size = byteSize before := by
      rw [← hn, byteSize_cons, Nat.add_sub_cancel_left]
    have hle : c.utf8Size ≤ n + 1 := hn ▸ Nat.le_add_right _ _
    rw [hn, List.cons_append, cutAt, if_pos hle, hrest, ih]
    rfl

/-- The front of a text that is cut has the size at which it is cut. -/
lemma of_cutAt (h : cutAt cs n = some (before, behind)) :
    cs = before ++ behind ∧ n = byteSize before := by
  induction cs, n using cutAt.induct generalizing before with
  | case1 cs =>
    rw [cutAt] at h
    cases h
    exact ⟨rfl, rfl⟩
  | case2 n => cases h
  | case3 c cs n hle ih =>
    rw [cutAt, if_pos hle, Option.map_eq_some_iff] at h
    obtain ⟨⟨before', behind'⟩, hcut, heq⟩ := h
    cases heq
    obtain ⟨rfl, hn⟩ := ih hcut
    exact ⟨rfl, by rw [byteSize_cons]; omega⟩
  | case4 c cs n hlt =>
    rw [cutAt, if_neg hlt] at h
    cases h

/-- **A text is cut into two parts at the size of the first.** -/
lemma cutAt_eq_some_iff : cutAt cs n = some (before, behind) ↔
    cs = before ++ behind ∧ n = byteSize before :=
  ⟨of_cutAt, fun ⟨hcs, hn⟩ => by rw [hcs, hn, cutAt_append]⟩

/-- What is not in the front of a text is found behind it. -/
lemma findByte?_append (h : ∀ c ∈ before, p c = false) (cs : List Char) :
    findByte? p (before ++ cs) = (findByte? p cs).map (byteSize before + ·) := by
  induction before with
  | nil => simp
  | cons c before ih =>
    rw [List.cons_append, findByte?, if_neg (by simp [h c]), ih fun d hd => h d (by simp [hd]),
      Option.map_map]
    exact congrArg (Option.map · _) (funext fun n => (Nat.add_assoc _ _ _).symm)

lemma findByte?_eq_none (h : ∀ c ∈ cs, p c = false) : findByte? p cs = none := by
  have hall := findByte?_append h []
  rwa [List.append_nil] at hall

lemma findByte?_append_cons (h : ∀ c ∈ before, p c = false) (hc : p c = true) (cs : List Char) :
    findByte? p (before ++ c :: cs) = some (byteSize before) := by
  rw [findByte?_append h, findByte?, if_pos hc]
  rfl

lemma findByte?_append_cons_of_not (h : ∀ c ∈ before, p c = false) (hc : p c = false)
    (cs : List Char) : findByte? p (before ++ c :: cs) =
      (findByte? p cs).map fun n => byteSize before + (c.utf8Size + n) := by
  rw [findByte?_append h, findByte?, if_neg (by simp [hc]), Option.map_map]
  rfl

lemma findByte?_getD (p : Char → Bool) (cs : List Char) :
    (findByte? p cs).getD (byteSize cs) = byteSize (cs.takeWhile (! p ·)) := by
  induction cs with
  | nil => rfl
  | cons c cs ih =>
    cases hc : p c with
    | true => simp [findByte?, hc]
    | false =>
      rw [findByte?, if_neg (by simp [hc]), List.takeWhile_cons_of_pos (by simp [hc]), byteSize_cons,
        byteSize_cons, ← ih]
      cases findByte? p cs <;> rfl

end Offsets

/-! ## Brackets among the bytes -/

section Bytes

variable {c : Char} {b : UInt8}

lemma bytes_cons (c : Char) (cs : List Char) : bytes (c :: cs) = String.utf8EncodeChar c ++ bytes cs :=
  rfl

lemma bytes_append (cs ds : List Char) : bytes (cs ++ ds) = bytes cs ++ bytes ds :=
  List.flatMap_append

lemma length_bytes (cs : List Char) : (bytes cs).length = byteSize cs := by
  induction cs with
  | nil => rfl
  | cons c cs ih =>
    rw [bytes_cons, List.length_append, String.length_utf8EncodeChar, ih, byteSize_cons]

/-- The bytes from the start of a character on. -/
lemma drop_bytes (before behind : List Char) :
    (bytes (before ++ behind)).drop (byteSize before) = bytes behind := by
  rw [bytes_append, ← length_bytes, List.drop_left]

/-- The first byte of a bracket is all of it. -/
lemma getElem?_bytes_bracket (before behind : List Char) (hc : isBracket c = true) :
    (bytes (before ++ c :: behind))[byteSize before]? = some (if c = '(' then 40 else 41) := by
  rw [← List.head?_drop, drop_bytes, bytes_cons]
  by_cases hopen : c = '('
  · subst hopen
    rfl
  · obtain rfl := Scanner.eq_close_of_isBracket hc hopen
    rfl

/-- **A text can be cut where a character starts, and at its end.** -/
theorem isSome_cutAt_iff {cs : List Char} {n : Nat} :
    (cutAt cs n).isSome ↔ String.Pos.Raw.IsValid (String.ofList cs) ⟨n⟩ := by
  have hsize (ds : List Char) : (String.ofList ds).utf8ByteSize = byteSize ds := by
    rw [← String.size_toByteArray, String.toByteArray_ofList, List.utf8Encode,
      List.size_toByteArray, ← bytes, length_bytes]
  rw [String.Pos.Raw.isValid_ofList, Option.isSome_iff_exists]
  constructor
  · rintro ⟨⟨before, behind⟩, h⟩
    obtain ⟨rfl, rfl⟩ := cutAt_eq_some_iff.1 h
    exact ⟨before.length, by rw [List.take_left, hsize]⟩
  · rintro ⟨i, hi⟩
    refine ⟨(cs.take i, cs.drop i), cutAt_eq_some_iff.2 ⟨(List.take_append_drop i cs).symm, ?_⟩⟩
    rw [← hsize]
    exact hi

/-- A byte below 128 is a character of its own. -/
lemma toNat_of_mem_utf8EncodeChar (hb : b ∈ String.utf8EncodeChar c) (hlt : b.toNat < 128) :
    b.toNat = c.toNat := by
  unfold String.utf8EncodeChar at hb
  simp only at hb
  split at hb
  · obtain rfl := List.mem_singleton.1 hb
    rw [UInt8.toNat_ofNat']
    exact Nat.mod_eq_of_lt (by omega)
  · -- the first byte and the following ones have their highest bit set
    have hlarge : 128 ≤ b.toNat := by
      split_ifs at hb
      all_goals
        simp only [List.mem_cons, List.not_mem_nil, or_false] at hb
        rcases hb with rfl | rfl | rfl | rfl <;> (rw [UInt8.toNat_ofNat']; omega)
    omega

/-- A byte of another character is not taken for a bracket. -/
lemma ne_of_mem_utf8EncodeChar (hc : isBracket c = false) (hb : b ∈ String.utf8EncodeChar c) :
    b ≠ 40 ∧ b ≠ 41 := by
  have hne (d : Char) (hd : isBracket d = true) : c.toNat ≠ d.toNat := by
    intro heq
    rw [Char.toNat_inj.1 heq, hd] at hc
    cases hc
  constructor
  · rintro rfl
    exact hne '(' rfl (toNat_of_mem_utf8EncodeChar hb (by decide)).symm
  · rintro rfl
    exact hne ')' rfl (toNat_of_mem_utf8EncodeChar hb (by decide)).symm

lemma countBlock_plain {bs : List UInt8} (h : ∀ b ∈ bs, b ≠ 40 ∧ b ≠ 41) (count i : Nat)
    (rest : List UInt8) :
    countBlock count i (bs ++ rest) = countBlock count (i + bs.length) rest := by
  induction bs generalizing i with
  | nil => rfl
  | cons b bs ih =>
    obtain ⟨hopen, hclose⟩ := h b (by simp)
    rw [List.cons_append, countBlock, if_neg hopen, if_neg hclose, ih fun d hd => h d (by simp [hd]),
      List.length_cons, Nat.add_right_comm, Nat.add_assoc]

/-- **Blocks are counted by their bytes as by their characters**: the count goes on from the byte behind
the opening bracket, does not go below zero, and ends behind the block. -/
theorem exists_countBlock_bytes (inner i : Nat) (cs : List Char) :
    ∃ passed, cs = passed ++ afterBlock inner cs ∧
      (countBlock (inner + 1) i (bytes cs)).map (·.getD (i + byteSize cs)) =
        some (i + byteSize passed) := by
  induction cs generalizing inner i with
  | nil => exact ⟨[], rfl, rfl⟩
  | cons c cs ih =>
    by_cases hopen : c = '('
    · subst hopen
      obtain ⟨passed, hcs, hcount⟩ := ih (inner + 1) (i + 1)
      refine ⟨'(' :: passed, ?_, ?_⟩
      · rw [Scanner.afterBlock_open, List.cons_append, ← hcs]
      · rw [byteSize_cons, byteSize_cons, ← Nat.add_assoc, ← Nat.add_assoc]
        exact hcount
    · by_cases hclose : c = ')'
      · subst hclose
        cases inner with
        | zero => exact ⟨[')'], by rw [Scanner.afterBlock_close_zero]; rfl, rfl⟩
        | succ inner =>
          obtain ⟨passed, hcs, hcount⟩ := ih inner (i + 1)
          refine ⟨')' :: passed, ?_, ?_⟩
          · rw [Scanner.afterBlock_close_succ, List.cons_append, ← hcs]
          · rw [byteSize_cons, byteSize_cons, ← Nat.add_assoc, ← Nat.add_assoc]
            exact hcount
      · have hc : isBracket c = false := by simp [isBracket, hopen, hclose]
        obtain ⟨passed, hcs, hcount⟩ := ih inner (i + c.utf8Size)
        refine ⟨c :: passed, ?_, ?_⟩
        · rw [Scanner.afterBlock_plain hc, List.cons_append, ← hcs]
        · rw [byteSize_cons, byteSize_cons, ← Nat.add_assoc, ← Nat.add_assoc, bytes_cons,
            countBlock_plain fun b => ne_of_mem_utf8EncodeChar hc, String.length_utf8EncodeChar]
          exact hcount

end Bytes

/-! ## The first bracket behind the cursor -/

section FirstBracket

variable {b : ByteScan} {before passed rest : List Char}

/-- What is no bracket is neither of the two. -/
lemma ne_of_isBracket_eq_false {cs : List Char} (h : ∀ c ∈ cs, isBracket c = false) :
    (∀ c ∈ cs, (c == '(') = false) ∧ ∀ c ∈ cs, (c == ')') = false := by
  simp only [isBracket, Bool.or_eq_false_iff] at h
  exact ⟨fun c hc => (h c hc).1, fun c hc => (h c hc).2⟩

lemma read_of_end (hcut : cutAt b.text b.cursor = some (before, rest))
    (hplain : ∀ c ∈ rest, isBracket c = false) :
    b.read = some (.ok none, { b with cursor := byteSize b.text }) := by
  obtain ⟨hopen, hclose⟩ := ne_of_isBracket_eq_false hplain
  simp only [read, hcut, Option.bind_eq_bind, Option.bind_some, findByte?_eq_none hopen,
    findByte?_eq_none hclose]
  rfl

/-- An opening bracket is read if it comes before all closing brackets. -/
lemma read_of_open (hcut : cutAt b.text b.cursor = some (before, passed ++ '(' :: rest))
    (hplain : ∀ c ∈ passed, isBracket c = false) : b.read = b.readOpen (byteSize passed) := by
  obtain ⟨hopen, hclose⟩ := ne_of_isBracket_eq_false hplain
  have hfirst := findByte?_append_cons (c := '(') hopen rfl rest
  have hother := findByte?_append_cons_of_not (c := '(') hclose rfl rest
  simp only [read, hcut, Option.bind_eq_bind, Option.bind_some, hfirst, hother]
  cases findByte? (· == ')') rest with
  | none => rfl
  | some n => exact if_neg (Nat.not_lt.2 (Nat.le_add_right _ _))

/-- A closing bracket is read if it comes before all opening brackets. -/
lemma read_of_close (hcut : cutAt b.text b.cursor = some (before, passed ++ ')' :: rest))
    (hplain : ∀ c ∈ passed, isBracket c = false) :
    b.read = some (b.readClose (byteSize passed)) := by
  obtain ⟨hopen, hclose⟩ := ne_of_isBracket_eq_false hplain
  have hfirst := findByte?_append_cons (c := ')') hclose rfl rest
  have hother := findByte?_append_cons_of_not (c := ')') hopen rfl rest
  simp only [read, hcut, Option.bind_eq_bind, Option.bind_some, hfirst, hother]
  cases findByte? (· == '(') rest with
  | none => rfl
  | some n => exact if_pos (Nat.lt_add_of_pos_right (Nat.add_pos_left (Char.utf8Size_pos ')') n))

/-- Without a bracket there is no block to be passed over. -/
lemma skipBlock_of_end (hcut : cutAt b.text b.cursor = some (before, rest))
    (hplain : ∀ c ∈ rest, isBracket c = false) :
    b.skipBlock = some (false, { b with cursor := byteSize b.text }) := by
  simp only [skipBlock, hcut, Option.bind_eq_bind, Option.bind_some, findByte?_eq_none hplain]
  rfl

/-- Before the end of the current block there is no block to be passed over. -/
lemma skipBlock_of_close (hcut : cutAt b.text b.cursor = some (before, passed ++ ')' :: rest))
    (hplain : ∀ c ∈ passed, isBracket c = false) :
    b.skipBlock = some (false, { b with cursor := b.cursor + byteSize passed }) := by
  have hfirst := findByte?_append_cons hplain (c := ')') rfl rest
  have hbyte := getElem?_bytes_bracket passed rest (c := ')') rfl
  simp only [skipBlock, hcut, Option.bind_eq_bind, Option.bind_some, hfirst, hbyte]
  rfl

/-- A block is passed over up to where it ends. -/
lemma exists_skipBlock_of_open
    (hcut : cutAt b.text b.cursor = some (before, passed ++ '(' :: rest))
    (hplain : ∀ c ∈ passed, isBracket c = false) :
    ∃ skipped, rest = skipped ++ afterBlock 0 rest ∧
      b.skipBlock = some (true,
        { b with cursor := b.cursor + byteSize (passed ++ '(' :: skipped) }) := by
  obtain ⟨skipped, hskipped, hcount⟩ := exists_countBlock_bytes 0 (byteSize passed + 1) rest
  refine ⟨skipped, hskipped, ?_⟩
  have hfirst := findByte?_append_cons hplain (c := '(') rfl rest
  have hbyte := getElem?_bytes_bracket passed rest (c := '(') rfl
  have hsize (cs : List Char) : byteSize (passed ++ '(' :: cs) = byteSize passed + 1 + byteSize cs := by
    rw [byteSize_append, byteSize_cons, ← Nat.add_assoc]
    rfl
  obtain ⟨htext, hcursor⟩ := cutAt_eq_some_iff.1 hcut
  have hend : byteSize b.text = b.cursor + (byteSize passed + 1 + byteSize rest) := by
    rw [htext, hcursor, byteSize_append, hsize]
  obtain ⟨stop?, hstop?, hstop⟩ := Option.map_eq_some_iff.1 hcount
  have hblock : countBlock 0 (byteSize passed) (bytes ('(' :: rest)) = some stop? := hstop?
  simp only [skipBlock, hcut, Option.bind_eq_bind, Option.bind_some, hfirst, hbyte, drop_bytes,
    hblock, hsize]
  cases stop? with
  | none =>
    rw [Option.getD_none] at hstop
    rw [← hstop, ← hend]
    rfl
  | some stop =>
    rw [Option.getD_some] at hstop
    rw [← hstop]
    rfl

end FirstBracket

end ByteScan

/-! ## Agreement -/

namespace Scanner

open ByteScan (cutAt findByte? bytes countBlock)

/-- A scan with its place as a byte offset. -/
def toByteScan (s : Scanner) : ByteScan :=
  { text := s.text, cursor := s.cursor, stack := s.stack, skips := s.skips }

variable {s : Scanner} {passed rest : List Char}

/-- Behind what is passed over, the unread text starts at the cursor. -/
lemma exists_cutAt_passed (hs : s.rest <:+ s.text) (h : s.rest = passed ++ rest) :
    ∃ before, cutAt s.text (s.cursor + byteSize passed) = some (before, rest) := by
  obtain ⟨before, hbefore⟩ := hs
  refine ⟨before ++ passed, ByteScan.cutAt_eq_some_iff.2 ⟨?_, ?_⟩⟩
  · rw [← hbefore, h, List.append_assoc]
  · rw [cursor, ← hbefore, byteSize_append, byteSize_append, Nat.add_sub_cancel]

lemma exists_cutAt_cursor (hs : s.rest <:+ s.text) :
    ∃ before, cutAt s.text s.cursor = some (before, s.rest) :=
  exists_cutAt_passed hs (List.nil_append s.rest).symm

/-- What is passed over is added to the cursor. -/
lemma cursor_add_passed (hs : s.rest <:+ s.text) (h : s.rest = passed ++ rest) :
    s.cursor + byteSize passed = byteSize s.text - byteSize rest := by
  obtain ⟨before, hbefore⟩ := hs
  rw [cursor, ← hbefore, h, byteSize_append, byteSize_append]
  omega

lemma cursor_add_rest (hs : s.rest <:+ s.text) : s.cursor + byteSize s.rest = byteSize s.text :=
  cursor_add_passed hs (List.append_nil s.rest).symm

/-- Before the next bracket there is none. -/
lemma exists_append_toBracket (cs : List Char) :
    ∃ before, cs = before ++ toBracket cs ∧ ∀ c ∈ before, isBracket c = false :=
  ⟨cs.takeWhile (! isBracket ·), List.takeWhile_append_dropWhile.symm,
    fun c hc => by simpa using List.mem_takeWhile_imp hc⟩

/-- The text behind the last token can be cut out. -/
lemma argText_toByteScan (hs : s.rest <:+ s.text) : s.toByteScan.argText = some s.argText := by
  obtain ⟨before, hcut⟩ := exists_cutAt_cursor hs
  have hargs : cutAt s.rest (byteSize (s.rest.takeWhile (! isBracket ·))) =
      some (s.rest.takeWhile (! isBracket ·), s.rest.dropWhile (! isBracket ·)) :=
    ByteScan.cutAt_eq_some_iff.2 ⟨List.takeWhile_append_dropWhile.symm, rfl⟩
  simp [ByteScan.argText, toByteScan, hcut, ByteScan.findByte?_getD, hargs, argText]

/-- An opening bracket and its name are read. -/
lemma readOpen_toByteScan (hs : s.rest <:+ s.text) (h : s.rest = passed ++ '(' :: rest) :
    s.toByteScan.readOpen (byteSize passed) =
      some (.ok (some (.opened (String.ofList (rest.takeWhile isNameChar)))),
        toByteScan { s with rest := rest.dropWhile isNameChar }) := by
  have hpassed : s.rest = (passed ++ ['(']) ++ rest := by simp [h]
  have hfirst : s.cursor + byteSize passed + 1 = s.cursor + byteSize (passed ++ ['(']) := by
    rw [byteSize_append]
    rfl
  obtain ⟨before, hcut⟩ := exists_cutAt_passed hs hpassed
  have hname : cutAt rest (byteSize (rest.takeWhile isNameChar)) =
      some (rest.takeWhile isNameChar, rest.dropWhile isNameChar) :=
    ByteScan.cutAt_eq_some_iff.2 ⟨List.takeWhile_append_dropWhile.symm, rfl⟩
  have hleft : (byteSize s.text).psub (s.cursor + byteSize (passed ++ ['('])) =
      some (byteSize rest) := by
    rw [Nat.psub_eq_some, ← cursor_add_rest hs, hpassed, byteSize_append _ rest]
    omega
  have hsize : (findByte? (! isNameChar ·) rest).getD (byteSize rest) =
      byteSize (rest.takeWhile isNameChar) := by
    simpa using ByteScan.findByte?_getD (! isNameChar ·) rest
  have hcursor : s.cursor + byteSize (passed ++ ['(']) + byteSize (rest.takeWhile isNameChar) =
      byteSize s.text - byteSize (rest.dropWhile isNameChar) := by
    rw [Nat.add_assoc, ← byteSize_append]
    refine cursor_add_passed hs ?_
    rw [List.append_assoc, List.takeWhile_append_dropWhile, hpassed]
  simp only [ByteScan.readOpen, toByteScan, hfirst, hcut, hleft, hsize, hname, hcursor,
    Option.bind_eq_bind, Option.bind_some]
  rfl

/-- A closing bracket is read, or reported if no block is open. -/
lemma readClose_toByteScan (hs : s.rest <:+ s.text) (h : s.rest = passed ++ ')' :: rest) :
    s.toByteScan.readClose (byteSize passed) =
      match s.stack with
      | [] => (.error (byteSize s.text - byteSize (')' :: rest)), s.toByteScan)
      | name :: outer =>
        (.ok (some (.closed name)), ({ s with rest, stack := outer }.endBlock).toByteScan) := by
  have hpassed : s.rest = (passed ++ [')']) ++ rest := by simp [h]
  cases hstack : s.stack with
  | nil => simp [ByteScan.readClose, toByteScan, hstack, cursor_add_passed hs h]
  | cons name outer =>
    have hcursor : s.cursor + byteSize passed + 1 = byteSize s.text - byteSize rest := by
      rw [← cursor_add_passed hs hpassed, byteSize_append]
      rfl
    simp only [ByteScan.readClose, toByteScan, hstack, hcursor]
    rfl

/-- **Both scanners read the same bracket.** -/
lemma read_toByteScan (hs : s.rest <:+ s.text) :
    s.toByteScan.read = some (s.read.1, s.read.2.toByteScan) := by
  obtain ⟨before, hcut⟩ := exists_cutAt_cursor hs
  obtain ⟨passed, hpassed, hplain⟩ := exists_append_toBracket s.rest
  match hrest : toBracket s.rest with
  | [] =>
    rw [hrest, List.append_nil] at hpassed
    rw [ByteScan.read_of_end hcut (hpassed ▸ hplain), read, hrest]
    rfl
  | c :: rest =>
    rw [hrest] at hpassed
    rw [read, hrest]
    by_cases hc : c = '('
    · subst hc
      rw [ByteScan.read_of_open (hpassed ▸ hcut) hplain]
      exact readOpen_toByteScan hs hpassed
    · obtain rfl := eq_close_of_isBracket (isBracket_of_toBracket hrest) hc
      rw [ByteScan.read_of_close (hpassed ▸ hcut) hplain, readClose_toByteScan hs hpassed]
      cases s.stack <;> rfl

/-- A block that comes next is passed over as a whole. -/
lemma skipBlock_of_open (hs : s.rest <:+ s.text) (hrest : toBracket s.rest = '(' :: rest) :
    s.toByteScan.skipBlock = some (true, toByteScan { s with rest := afterBlock 0 rest }) := by
  obtain ⟨before, hcut⟩ := exists_cutAt_cursor hs
  obtain ⟨passed, hpassed, hplain⟩ := exists_append_toBracket s.rest
  rw [hrest] at hpassed
  obtain ⟨skipped, hskipped, hskip⟩ := ByteScan.exists_skipBlock_of_open
    (b := s.toByteScan) (hpassed ▸ hcut) hplain
  have hcursor : s.cursor + byteSize (passed ++ '(' :: skipped) =
      byteSize s.text - byteSize (afterBlock 0 rest) := by
    refine cursor_add_passed hs ?_
    rw [List.append_assoc, List.cons_append, ← hskipped]
    exact hpassed
  rw [hskip]
  simp only [toByteScan, hcursor]
  rfl

/-- Where no block comes next, the scan stops before the bracket that comes. -/
lemma skipBlock_of_no_open (hs : s.rest <:+ s.text)
    (hrest : ∀ rest, toBracket s.rest ≠ '(' :: rest) :
    s.toByteScan.skipBlock = some (false, toByteScan { s with rest := toBracket s.rest }) := by
  obtain ⟨before, hcut⟩ := exists_cutAt_cursor hs
  obtain ⟨passed, hpassed, hplain⟩ := exists_append_toBracket s.rest
  match hbracket : toBracket s.rest with
  | [] =>
    rw [hbracket, List.append_nil] at hpassed
    rw [ByteScan.skipBlock_of_end (b := s.toByteScan) hcut (hpassed ▸ hplain)]
    rfl
  | c :: rest =>
    have hc : c ≠ '(' := fun hc => hrest rest (hc ▸ hbracket)
    obtain rfl := eq_close_of_isBracket (isBracket_of_toBracket hbracket) hc
    rw [hbracket] at hpassed
    rw [ByteScan.skipBlock_of_close (b := s.toByteScan) (hpassed ▸ hcut) hplain]
    have hcursor : s.cursor + byteSize passed = byteSize s.text - byteSize (')' :: rest) :=
      cursor_add_passed hs hpassed
    simp only [toByteScan, hcursor]
    rfl

/-- The number of brackets of a text. -/
def brackets (cs : List Char) : Nat :=
  cs.countP isBracket

lemma brackets_le_of_suffix {cs ds : List Char} (h : cs <:+ ds) : brackets cs ≤ brackets ds :=
  h.sublist.countP_le

lemma brackets_cons_open (cs : List Char) : brackets ('(' :: cs) = brackets cs + 1 :=
  List.countP_cons_of_pos rfl

/-- **Both scanners find the same token**, and the one on bytes finds it after as many rounds as there
are brackets left, and one more.

**Proof sketch.** Induction on the rounds. A round in which a block is passed over takes the opening
bracket of the block off the unread text, and the other rounds end in reading a bracket. -/
theorem next_toByteScan (hs : s.rest <:+ s.text) {rounds : Nat}
    (hrounds : brackets s.rest < rounds) :
    s.toByteScan.next rounds = some (s.next.1, s.next.2.toByteScan) := by
  induction rounds generalizing s with
  | zero => omega
  | succ rounds ih =>
    have hskips : s.toByteScan.skipsHere = s.skipsHere := rfl
    rw [ByteScan.next, hskips]
    by_cases hskip : s.skipsHere = true
    · rw [if_pos hskip]
      by_cases hopen : ∃ rest, toBracket s.rest = '(' :: rest
      · obtain ⟨rest, hrest⟩ := hopen
        have hbracket : '(' :: rest <:+ s.rest := hrest ▸ toBracket_suffix s.rest
        have hafter : afterBlock 0 rest <:+ rest := afterBlock_suffix 0 rest
        have hless : brackets (afterBlock 0 rest) < rounds := by
          have hle := brackets_le_of_suffix hbracket
          have hle' := brackets_le_of_suffix hafter
          rw [brackets_cons_open] at hle
          omega
        have hs' := (hafter.trans ((List.suffix_cons _ _).trans hbracket)).trans hs
        rw [skipBlock_of_open hs hrest, next, passSkipped_open hskip hrest]
        exact ih (s := { s with rest := afterBlock 0 rest }.endBlock) hs' hless
      · have hnone : ∀ rest, toBracket s.rest ≠ '(' :: rest := fun rest hrest => hopen ⟨rest, hrest⟩
        rw [skipBlock_of_no_open hs hnone, next, passSkipped_of_skipsHere hskip hnone]
        exact read_toByteScan (s := { s with rest := toBracket s.rest })
          ((toBracket_suffix s.rest).trans hs)
    · rw [if_neg hskip, next, passSkipped_of_not_skipsHere (by simpa using hskip)]
      exact read_toByteScan hs

end Scanner

end BracketScript
