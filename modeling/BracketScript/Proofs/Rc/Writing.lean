import BracketScript.Proofs.Rc.Directives
import Mathlib.Data.List.Basic
import Mathlib.Data.List.Induction
import Mathlib.Tactic.Lemma

set_option autoImplicit false

/-!
# Rc files that are written down

Whatever an rc file can say can be written down so that it is read back. A word stands between double
quotes, with a backslash before every quote and backslash in it, and there are blanks between two words.
With its words written in this way, a line means what it is to mean, and so does a file of such lines:
nothing in a directory, a path, a name or a value is lost, trimmed or taken for something else.

## Main definitions

* `BracketScript.Rc.quoted` — a word as it is written between quotes.
* `BracketScript.Rc.Spells` — the texts that a word can be written as, with quotes or without.
* `BracketScript.Text.Denotes` — the word that a decimal literal stands for.
* `BracketScript.Rc.Entry` — what a line is to say; `BracketScript.Rc.Entry.line` writes it.
* `BracketScript.Settings.Says` — settings that say what a list of entries says, and nothing else.

## Main results

* `BracketScript.Rc.scan_spelled`, `BracketScript.Rc.words_spelled` — words are read back.
* `BracketScript.Directive.parse_directive` — how a line is taken apart.
* `BracketScript.Text.int64?_eq_some_iff` — literals are read as what they denote.
* `BracketScript.Settings.read_written` — words and files are read back.
-/

namespace BracketScript

/-! ## Words -/

namespace Rc

/-- A character as it is written between quotes. -/
def escape (c : Char) : List Char :=
  if c = '"' ∨ c = '\\' then ['\\', c] else [c]

/-- A word as it is written between quotes. -/
def quoted (word : String) : List Char :=
  '"' :: (word.toList.flatMap escape ++ ['"'])

/-- The texts that a word can be written as. Between quotes there may be anything; without them there
is no quote and no blank. -/
inductive Spells : List Char → String → Prop
  | quoted {word : String} (hne : word ≠ "") : Spells (quoted word) word
  | plain {word : String} (hne : word ≠ "")
    (h : ∀ c ∈ word.toList, c ≠ '"' ∧ Text.isBlank c = false) : Spells word.toList word

/-- The text is over or goes on with a blank. -/
def Ends (rest : List Char) : Prop :=
  ∀ c ∈ rest.head?, Text.isBlank c = true

lemma finish_of_ne_nil {word : List Char} (h : word ≠ []) (words : List String) :
    finish word words = String.ofList word :: words := by
  rw [finish, if_neg (by simpa using h)]

lemma ne_quote_of_isBlank {c : Char} (h : Text.isBlank c = true) : c ≠ '"' := by
  rintro rfl
  exact absurd h (by decide)

/-! ### One character -/

lemma scan_quote (inside : Bool) (word rest : List Char) :
    scan inside word ('"' :: rest) = scan (!inside) word rest := by
  rw [scan.eq_def]
  exact if_pos rfl

lemma scan_backslash (c : Char) (word rest : List Char) :
    scan true word ('\\' :: c :: rest) = scan true (word ++ [c]) rest := by
  rw [scan.eq_def]
  rfl

lemma scan_blank {c : Char} (h : Text.isBlank c = true) (word rest : List Char) :
    scan false word (c :: rest) = finish word (scan false [] rest) := by
  rw [scan.eq_def]
  exact (if_neg (ne_quote_of_isBlank h)).trans ((if_neg (by simp)).trans (if_pos (by simp [h])))

lemma scan_other {inside : Bool} {c : Char} (hquote : c ≠ '"')
    (hbackslash : inside = true → c ≠ '\\') (hblank : inside = false → Text.isBlank c = false)
    (word rest : List Char) : scan inside word (c :: rest) = scan inside (word ++ [c]) rest := by
  rw [scan.eq_def]
  cases inside <;> simp_all

/-! ### One word -/

/-- Where a word ends, what follows is read afresh. -/
lemma scan_of_ends {rest : List Char} (h : Ends rest) (word : List Char) :
    scan false word rest = finish word (scan false [] rest) := by
  cases rest with
  | nil => rfl
  | cons c rest =>
    have hblank : Text.isBlank c = true := h c (by simp)
    rw [scan_blank hblank, scan_blank hblank]
    rfl

/-- Between quotes a character is read as it is written. -/
lemma scan_escape (c : Char) (word rest : List Char) :
    scan true word (escape c ++ rest) = scan true (word ++ [c]) rest := by
  by_cases h : c = '"' ∨ c = '\\'
  · rw [escape, if_pos h]
    exact scan_backslash c word rest
  · obtain ⟨hquote, hbackslash⟩ := not_or.1 h
    rw [escape, if_neg h]
    exact scan_other hquote (fun _ => hbackslash) (by simp) word rest

lemma scan_escaped (cs word rest : List Char) :
    scan true word (cs.flatMap escape ++ rest) = scan true (word ++ cs) rest := by
  induction cs generalizing word with
  | nil => simp
  | cons c cs ih =>
    rw [List.flatMap_cons, List.append_assoc, scan_escape, ih, List.append_assoc,
      List.singleton_append]

/-- Characters that are neither quotes nor blanks belong to the word. -/
lemma scan_plain {cs : List Char} (h : ∀ c ∈ cs, c ≠ '"' ∧ Text.isBlank c = false)
    (word rest : List Char) : scan false word (cs ++ rest) = scan false (word ++ cs) rest := by
  induction cs generalizing word with
  | nil => simp
  | cons c cs ih =>
    obtain ⟨hquote, hblank⟩ := h c (by simp)
    rw [List.cons_append, scan_other hquote (by simp) (fun _ => hblank),
      ih fun d hd => h d (by simp [hd]), List.append_assoc, List.singleton_append]

/-- **A word is read back from each of its spellings**, whatever comes behind its end. -/
lemma scan_spelled {text : List Char} {word : String} (h : Spells text word) {rest : List Char}
    (hrest : Ends rest) : scan false [] (text ++ rest) = word :: scan false [] rest := by
  cases h with
  | quoted hne =>
    have htext : quoted word ++ rest = '"' :: (word.toList.flatMap escape ++ '"' :: rest) := by
      simp [quoted]
    calc scan false [] (quoted word ++ rest)
        = scan true [] (word.toList.flatMap escape ++ '"' :: rest) := by
          rw [htext, scan_quote]
          rfl
      _ = scan false word.toList rest := by
          rw [scan_escaped, scan_quote]
          rfl
      _ = word :: scan false [] rest := by
          rw [scan_of_ends hrest, finish_of_ne_nil (by simpa using hne), String.ofList_toList]
  | plain hne hplain =>
    rw [scan_plain hplain, List.nil_append, scan_of_ends hrest,
      finish_of_ne_nil (by simpa using hne), String.ofList_toList]

/-! ### All words of a text -/

/-- Blanks before a word are passed over. -/
lemma scan_gap {gap : List Char} (h : ∀ c ∈ gap, Text.isBlank c = true) (rest : List Char) :
    scan false [] (gap ++ rest) = scan false [] rest := by
  induction gap with
  | nil => rfl
  | cons c gap ih =>
    rw [List.cons_append, scan_blank (h c (by simp))]
    exact ih fun d hd => h d (by simp [hd])

/-- **Words are read back from any of their spellings**, with blanks between them. Each item is a word
with the blanks before it. -/
lemma words_spelled {write : String → List Char} {items : List (List Char × String)}
    (hspell : ∀ item ∈ items, Spells (write item.2) item.2)
    (hblank : ∀ item ∈ items, ∀ c ∈ item.1, Text.isBlank c = true)
    (hgap : ∀ item ∈ items.tail, item.1 ≠ []) :
    words (items.flatMap fun (gap, word) => gap ++ write word) = items.map Prod.snd := by
  rw [words]
  induction items with
  | nil => rfl
  | cons item items ih =>
    obtain ⟨gap, word⟩ := item
    have hends : Ends (items.flatMap fun (gap, word) => gap ++ write word) := by
      intro c hc
      match items with
      | [] => simp at hc
      | ([], next) :: items => exact absurd rfl (hgap ([], next) (by simp))
      | (d :: gap, next) :: items =>
        obtain rfl : d = c := by simpa using hc
        exact hblank (d :: gap, next) (by simp) d (by simp)
    have hrest := ih (fun other hother => hspell other (by simp [hother]))
      (fun other hother => hblank other (by simp [hother]))
      fun other hother => hgap other (List.mem_of_mem_tail hother)
    rw [List.flatMap_cons, List.append_assoc, scan_gap (hblank (gap, word) (by simp)),
      scan_spelled (hspell (gap, word) (by simp)) hends, hrest]
    rfl

/-- With one blank between them. -/
lemma words_intercalate {write : String → List Char} {ws : List String}
    (h : ∀ word ∈ ws, Spells (write word) word) : words ([' '].intercalate (ws.map write)) = ws := by
  cases ws with
  | nil => rfl
  | cons word ws =>
    have htext : [' '].intercalate ((word :: ws).map write) =
        (([], word) :: ws.map fun next => ([' '], next)).flatMap fun (gap, word) =>
          gap ++ write word := by
      induction ws generalizing word with
      | nil => simp
      | cons next ws ih =>
        rw [List.map_cons, List.map_cons, List.intercalate_cons_cons, ← List.map_cons,
          ih next fun other hother => h other (by simp_all)]
        simp
    rw [htext, words_spelled (by simpa using h) (by simp [Text.isBlank]) (by simp)]
    simp [Function.comp_def]

end Rc

/-! ## Lines -/

namespace Text

/-- There is something in a text, and no white space at its two ends. -/
structure Tight (cs : List Char) : Prop where
  ne_nil : cs ≠ []
  head : ∀ c ∈ cs.head?, isSpace c = false
  last : ∀ c ∈ cs.getLast?, isSpace c = false

namespace Tight

variable {cs ds : List Char}

/-- There is nothing to be trimmed. -/
lemma trimmed_eq (h : Tight cs) : trimmed cs = cs := by
  have htrim : trimmed ([] ++ cs ++ []) = cs :=
    trimmed_append (by simp) (by simp) h.ne_nil (h.head _ (List.head_mem_head? h.ne_nil))
      (h.last _ (List.getLast_mem_getLast? h.ne_nil))
  simpa using htrim

/-- Between two such texts there may be anything. -/
lemma append (hc : Tight cs) (between : List Char) (hd : Tight ds) :
    Tight (cs ++ (between ++ ds)) where
  ne_nil := by simp [hc.ne_nil]
  head c h := by
    rw [List.head?_append_of_ne_nil _ hc.ne_nil] at h
    exact hc.head c h
  last c h := by
    rw [← List.append_assoc, List.getLast?_append_of_ne_nil _ hd.ne_nil] at h
    exact hd.last c h

lemma intercalate {sep : Char} {parts : List (List Char)} (hne : parts ≠ [])
    (h : ∀ part ∈ parts, Tight part) : Tight ([sep].intercalate parts) := by
  induction parts with
  | nil => exact absurd rfl hne
  | cons part parts ih =>
    cases parts with
    | nil => simpa using h part (by simp)
    | cons next parts =>
      rw [List.intercalate_cons_cons, List.append_assoc]
      exact (h part (by simp)).append [sep] (ih (by simp) fun p hp => h p (by simp [hp]))

lemma singleton {c : Char} (h : isSpace c = false) : Tight [c] where
  ne_nil := by simp
  head d hd := by
    obtain rfl : c = d := by simpa using hd
    exact h
  last d hd := by
    obtain rfl : c = d := by simpa using hd
    exact h

/-- A text without white space is left alone. -/
lemma of_forall (hne : cs ≠ []) (h : ∀ c ∈ cs, isSpace c = false) : Tight cs where
  ne_nil := hne
  head c hc := h c (List.mem_of_mem_head? hc)
  last c hc := h c (List.mem_of_mem_getLast? hc)

end Tight

/-- The first separator cuts a text in two. -/
lemma cut_append_cons {p : Char → Bool} {cs : List Char} (h : ∀ d ∈ cs, p d = false) {c : Char}
    (hc : p c = true) (ds : List Char) : cut p (cs ++ c :: ds) = (cs, some ds) := by
  have hplain : ∀ d ∈ cs, (! p d) = true := by simpa using h
  rw [cut, List.takeWhile_append_of_pos hplain, List.dropWhile_append_of_pos hplain]
  simp [hc]

/-- A line ends at its first line feed. -/
lemma lines_append_newline {line : List Char} (hn : '\n' ∉ line) (hr : line.getLast? ≠ some '\r')
    (rest : List Char) : lines (line ++ '\n' :: rest) = line :: lines rest := by
  induction line with
  | nil => simp [lines]
  | cons c line ih =>
    simp only [List.mem_cons, not_or] at hn
    have hlast : line.getLast? ≠ some '\r' := by
      intro h
      exact hr (by simp [List.getLast?_cons, h])
    have hlines := ih hn.2 hlast
    rw [List.cons_append, lines.eq_def]
    split
    · next h => cases h
    · next h =>
      cases h
      exact absurd rfl hn.1
    · next h =>
      -- a carriage return with the line feed right behind it would be the last of the line
      injection h with hc htail
      cases line with
      | nil => exact absurd (by simp [hc]) hr
      | cons d line => exact absurd (by simp_all) hn.2
    · next h =>
      cases h
      rw [hlines]

end Text

/-- A directive is taken apart into its name and its arguments. -/
lemma Directive.parse_directive {name : String}
    (hname : ∀ c ∈ name.toList, Text.isBlank c = false) {args : List Char} (hargs : Text.Tight args) :
    Directive.parse ('/' :: (name.toList ++ ' ' :: args)) = some <$> Directive.parseNamed name args := by
  have hline : Text.Tight ('/' :: (name.toList ++ ' ' :: args)) := by
    have h := (Text.Tight.singleton (c := '/') (by decide)).append (name.toList ++ [' ']) hargs
    simpa using h
  rw [Directive.parse, hline.trimmed_eq]
  simp only [Text.cut_append_cons hname (show Text.isBlank ' ' = true from rfl), String.ofList_toList,
    Option.getD_some, hargs.trimmed_eq]

/-! ## Numbers -/

namespace Text

/-- The integer that a literal stands for: at least one decimal digit, with a sign before them or
without. -/
inductive Denotes : List Char → Int → Prop
  | unsigned {digits : List Char} (hne : digits ≠ []) (h : ∀ c ∈ digits, c.isDigit = true) :
    Denotes digits (Nat.ofDigitChars 10 digits 0)
  | positive {digits : List Char} (hne : digits ≠ []) (h : ∀ c ∈ digits, c.isDigit = true) :
    Denotes ('+' :: digits) (Nat.ofDigitChars 10 digits 0)
  | negative {digits : List Char} (hne : digits ≠ []) (h : ∀ c ∈ digits, c.isDigit = true) :
    Denotes ('-' :: digits) (-(Nat.ofDigitChars 10 digits 0 : Int))

lemma digits?_eq_some_iff {cs : List Char} {n : Nat} :
    digits? cs = some n ↔ cs ≠ [] ∧ (∀ c ∈ cs, c.isDigit = true) ∧ Nat.ofDigitChars 10 cs 0 = n := by
  rw [digits?, Option.ite_none_right_eq_some, List.all_eq_true, Option.some_inj, and_assoc]

lemma integer?_eq_some_iff {cs : List Char} {n : Int} : integer? cs = some n ↔ Denotes cs n := by
  constructor
  · intro h
    unfold integer? at h
    split at h <;> obtain ⟨m, hm, rfl⟩ := Option.map_eq_some_iff.1 h <;>
      obtain ⟨hne, hdigits, rfl⟩ := digits?_eq_some_iff.1 hm
    · exact .negative hne hdigits
    · exact .positive hne hdigits
    · exact .unsigned hne hdigits
  · intro h
    cases h with
    | unsigned hne h => rw [integer?_of_isDigit h, digits?_eq_some_iff.2 ⟨hne, h, rfl⟩]; rfl
    | positive hne h => rw [integer?, digits?_eq_some_iff.2 ⟨hne, h, rfl⟩]; rfl
    | negative hne h => rw [integer?, digits?_eq_some_iff.2 ⟨hne, h, rfl⟩]; rfl

/-- **A text reads as a word just when it is a literal for it.** -/
lemma int64?_eq_some_iff {s : String} {n : Int64} :
    int64? s = some n ↔ Denotes s.toList n.toInt := by
  constructor
  · intro h
    exact integer?_eq_some_iff.1 (integer?_of_int64?_eq_some h)
  · intro h
    have hlo : -9223372036854775808 ≤ n.toInt := Int64.le_toInt n
    have hhi : n.toInt < 9223372036854775808 := Int64.toInt_lt n
    rw [int64?, integer?_eq_some_iff.2 h, Option.bind_some, if_pos ⟨hlo, hhi⟩, Int64.ofInt_toInt]

end Text

/-- A value is a number exactly if its text is a literal for it, and else it is the text. -/
lemma Directive.valueOf_eq_int_iff {text : String} {n : Int64} :
    Directive.valueOf text = .int n ↔ Text.Denotes text.toList n.toInt := by
  rw [← Text.int64?_eq_some_iff, Directive.valueOf]
  cases Text.int64? text <;> simp

lemma Directive.valueOf_eq_str {text : String} (h : ∀ n : Int64, ¬ Text.Denotes text.toList n.toInt) :
    Directive.valueOf text = .str text := by
  have hnone : Text.int64? text = none := by
    rw [Option.eq_none_iff_forall_ne_some]
    intro n hn
    exact h n (Text.int64?_eq_some_iff.1 hn)
  rw [Directive.valueOf, hnone]

/-! ## Files -/

namespace Rc

/-- What a line of a file is to say. -/
inductive Entry where
  /-- Search for libraries in a directory too. -/
  | path (dir : String)
  /-- Load a module from the library at a path. -/
  | load (name library : String)
  /-- Give a shared variable the value that a text stands for. -/
  | set (name value : String)
deriving DecidableEq, Repr

namespace Entry

/-- The name of the directive. -/
def keyword : Entry → String
  | path _ => "path"
  | load _ _ => "load"
  | set _ _ => "set"

/-- The arguments of the directive. -/
def words : Entry → List String
  | path dir => [dir]
  | load name library => [name, library]
  | set name value => [name ++ "=" ++ value]

/-- The line, with its arguments between quotes. -/
def line (e : Entry) : List Char :=
  '/' :: (e.keyword.toList ++ ' ' :: [' '].intercalate (e.words.map quoted))

/-- What has a line of its own: no text with a line feed in it, and nothing empty but a value. The name
of a variable ends at the first equals sign. -/
def Writable : Entry → Prop
  | path dir => dir ≠ "" ∧ '\n' ∉ dir.toList
  | load name library => (name ≠ "" ∧ '\n' ∉ name.toList) ∧ library ≠ "" ∧ '\n' ∉ library.toList
  | set name value => (name ≠ "" ∧ '\n' ∉ name.toList ∧ '=' ∉ name.toList) ∧ '\n' ∉ value.toList

/-- What the line asks for. -/
def directive : Entry → Directive
  | path dir => .path [dir]
  | load name library => .load name library
  | set name value => .set name (Directive.valueOf value)

/-- The directory to be searched. -/
def dir? : Entry → Option String
  | path dir => some dir
  | _ => none

/-- The name of the module to be loaded. -/
def moduleName? : Entry → Option String
  | load name _ => some name
  | _ => none

/-- The module to be loaded, as a line of a number asks for it. -/
def module? (number : Nat) : Entry → Option ModuleSpec
  | load name library => some ⟨name, library, number⟩
  | _ => none

/-- The text that is given to a variable. -/
def textFor? (name : String) : Entry → Option String
  | set name' value => if name' = name then some value else none
  | _ => none

lemma words_ne_nil (e : Entry) : e.words ≠ [] := by
  cases e <;> simp [words]

lemma Writable.of_mem_words {e : Entry} (h : e.Writable) {word : String} (hw : word ∈ e.words) :
    word ≠ "" ∧ '\n' ∉ word.toList := by
  cases e with
  | path dir =>
    obtain rfl : word = dir := by simpa [words] using hw
    exact h
  | load name library =>
    obtain rfl | rfl : word = name ∨ word = library := by simpa [words] using hw
    · exact h.1
    · exact h.2
  | set name value =>
    obtain rfl : word = name ++ "=" ++ value := by simpa [words] using hw
    exact ⟨by simp, by simpa using ⟨h.1.2.1, h.2⟩⟩

lemma tight_quoted (word : String) : Text.Tight (quoted word) :=
  have hquote : Text.Tight ['"'] := .singleton (by decide)
  hquote.append (word.toList.flatMap escape) hquote

lemma tight_args (e : Entry) : Text.Tight ([' '].intercalate (e.words.map quoted)) := by
  refine .intercalate (by simpa using e.words_ne_nil) fun part hpart => ?_
  obtain ⟨word, -, rfl⟩ := List.mem_map.1 hpart
  exact tight_quoted word

/-- A variable gets what stands behind the first equals sign. -/
lemma parseSet_assignment {name value : String} (hne : name ≠ "") (h : '=' ∉ name.toList)
    (more : List String) :
    Directive.parseSet ((name ++ "=" ++ value) :: more) = .ok (.set name (Directive.valueOf value)) := by
  have hcut : Text.cut (· == '=') (name ++ "=" ++ value).toList =
      (name.toList, some value.toList) := by
    rw [String.toList_append, String.toList_append, List.append_assoc]
    refine Text.cut_append_cons (fun c hc => ?_) rfl value.toList
    simpa using fun heq : c = '=' => h (heq ▸ hc)
  simp only [Directive.parseSet, hcut, String.ofList_toList, if_neg hne]

/-- **A line that is written down is read back.** -/
lemma parse_line {e : Entry} (h : e.Writable) : Directive.parse e.line = .ok (some e.directive) := by
  have hname : ∀ c ∈ e.keyword.toList, Text.isBlank c = false := by
    cases e <;> simp [keyword, Text.isBlank]
  have hwords : Rc.words ([' '].intercalate (e.words.map quoted)) = e.words :=
    words_intercalate fun word hword => .quoted (h.of_mem_words hword).1
  have hnamed : Directive.parseNamed e.keyword ([' '].intercalate (e.words.map quoted)) =
      .ok e.directive := by
    cases e with
    | path dir | load name library => simp only [keyword, Directive.parseNamed, hwords]; rfl
    | set name value =>
      simp only [keyword, Directive.parseNamed, hwords]
      exact parseSet_assignment h.1.1 h.1.2.2 []
  rw [line, Directive.parse_directive hname e.tight_args, hnamed]
  rfl

lemma not_mem_quoted {c : Char} {word : String} (hword : c ∉ word.toList) (hquote : c ≠ '"')
    (hbackslash : c ≠ '\\') : c ∉ quoted word := by
  have hescape : ∀ d ∈ word.toList, c ∉ escape d := by
    intro d hd h
    have hcd : c ≠ d := fun heq => hword (heq ▸ hd)
    rw [escape] at h
    split at h <;> simp_all
  simp only [quoted, List.mem_cons, List.mem_append, List.mem_flatMap]
  grind

/-- A line has no line feed in it. -/
lemma Writable.not_mem_line {e : Entry} (h : e.Writable) : '\n' ∉ e.line := by
  intro hmem
  simp only [line, List.mem_cons, List.mem_append] at hmem
  obtain hc | hc | hc | hc := hmem
  · cases hc
  · cases e <;> simp [keyword] at hc
  · cases hc
  · obtain hc | ⟨part, hpart, hc⟩ := Text.mem_intercalate_singleton hc
    · cases hc
    · obtain ⟨word, hword, rfl⟩ := List.mem_map.1 hpart
      exact not_mem_quoted (h.of_mem_words hword).2 (by decide) (by decide) hc

/-- A line ends with no carriage return. -/
lemma getLast?_line (e : Entry) : e.line.getLast? ≠ some '\r' := by
  intro hlast
  have hend := e.tight_args.last '\r'
  rw [line, List.getLast?_cons, List.getLast?_append, List.getLast?_cons,
    List.getLast?_eq_some_getLast e.tight_args.ne_nil] at hlast
  rw [List.getLast?_eq_some_getLast e.tight_args.ne_nil] at hend
  exact absurd (hend (by simpa using hlast)) (by decide)

end Entry

end Rc

namespace Settings

open Rc (Entry)

variable {entries : List Entry}

/-- A file with a line for each entry. -/
def written (entries : List Entry) : String :=
  String.ofList (entries.flatMap fun e => e.line ++ ['\n'])

lemma lines_written (h : ∀ e ∈ entries, e.Writable) :
    Text.lines (written entries).toList = entries.map Entry.line := by
  rw [written, String.toList_ofList]
  induction entries with
  | nil => rfl
  | cons e entries ih =>
    have hrest := ih fun e' he' => h e' (by simp [he'])
    rw [List.flatMap_cons, List.append_assoc, List.singleton_append,
      Text.lines_append_newline (h e (by simp)).not_mem_line e.getLast?_line, hrest, List.map_cons]

/-- Settings that say what a list of entries says, each on a line of its own, and nothing else. Of the
values of a variable the last one counts. -/
structure Says (s : Settings) (entries : List Entry) : Prop where
  /-- The directories are those of the entries, in order. -/
  searchPath : s.searchPath = entries.filterMap Entry.dir?
  /-- The modules are those of the entries, in order, each with the number of its line. -/
  modules : s.modules = (entries.zipIdx 1).filterMap fun (e, number) => e.module? number
  /-- There is no template. -/
  template : s.template = none
  /-- A variable has the last value that an entry gives to it. -/
  vars : ∀ name, s.vars.find? name =
    (entries.reverse.findSome? (Entry.textFor? name)).map Directive.valueOf

lemma says_nil : ({} : Settings).Says [] :=
  ⟨rfl, rfl, rfl, fun _ => rfl⟩

/-- Line numbers apart, the modules are the entries that load one. -/
lemma Says.names_modules {s : Settings} (h : s.Says entries) :
    s.modules.map ModuleSpec.name = entries.filterMap Entry.moduleName? := by
  have hnames (number : Nat) : ((entries.zipIdx number).filterMap fun (e, number) =>
      e.module? number).map ModuleSpec.name = entries.filterMap Entry.moduleName? := by
    clear h
    induction entries generalizing number with
    | nil => rfl
    | cons e entries ih =>
      have hrest := ih (number + 1)
      cases e with
      | path dir | set name value => exact hrest
      | load name library => exact congrArg (name :: ·) hrest
  rw [h.modules, hnames]

/-- **One more line says one more thing**, unless it loads a module again. -/
lemma Says.add {s : Settings} (h : s.Says entries) {e : Entry}
    (hnames : ((entries ++ [e]).filterMap Entry.moduleName?).Nodup) :
    ∃ s', s.add (entries.length + 1) e.directive = (.ok (), s') ∧ s'.Says (entries ++ [e]) := by
  obtain ⟨hpath, hmodules, htemplate, hvars⟩ := id h
  have hzip : (entries ++ [e]).zipIdx 1 = entries.zipIdx 1 ++ [(e, entries.length + 1)] := by
    rw [List.zipIdx_append, Nat.add_comm 1]
    rfl
  cases e with
  | path dir =>
    refine ⟨_, rfl, ?_, ?_, htemplate, ?_⟩
    · simp [hpath, Entry.dir?]
    · simp [hmodules, hzip, Entry.module?]
    · intro name
      rw [List.reverse_append, hvars]
      rfl
  | load name library =>
    have hnew : s.modules.any (·.name == name) = false := by
      rw [List.filterMap_append, ← h.names_modules, List.nodup_append] at hnames
      rw [List.any_eq_false]
      intro m hm heq
      exact hnames.2.2 m.name (List.mem_map_of_mem hm) name (by simp [Entry.moduleName?])
        (by simpa using heq)
    refine ⟨{ s with modules := s.modules ++ [⟨name, library, entries.length + 1⟩] }, ?_, ?_, ?_,
      htemplate, ?_⟩
    · simp [Entry.directive, Settings.add, hnew]
    · simp [hpath, Entry.dir?]
    · simp [hmodules, hzip, Entry.module?]
    · intro name
      rw [List.reverse_append, hvars]
      rfl
  | set name value =>
    refine ⟨_, rfl, ?_, ?_, htemplate, fun name' => ?_⟩
    · simp [hpath, Entry.dir?]
    · simp [hmodules, hzip, Entry.module?]
    · by_cases hname : name = name' <;> simp [hvars, Entry.textFor?, hname]

/-- Lines that are written down are all taken in. -/
lemma foldl_lines (hw : ∀ e ∈ entries, e.Writable)
    (hnames : (entries.filterMap Entry.moduleName?).Nodup) :
    ∃ s : Settings, ((entries.map Entry.line).zipIdx 1).foldl step ({}, []) = (s, []) ∧
      s.Says entries := by
  induction entries using List.reverseRecOn with
  | nil => exact ⟨{}, rfl, says_nil⟩
  | append_singleton entries e ih =>
    have hbefore : (entries.filterMap Entry.moduleName?).Nodup := by
      rw [List.filterMap_append] at hnames
      exact (List.nodup_append.1 hnames).1
    obtain ⟨s, hs, hmeant⟩ := ih (fun e' he' => hw e' (by simp [he'])) hbefore
    obtain ⟨s', hadd, hmeant'⟩ := hmeant.add hnames
    refine ⟨s', ?_, hmeant'⟩
    have hline : s.addLine (entries.length + 1) e.line = (.ok (), s') := by
      rw [addLine_eq, Entry.parse_line (hw e (by simp))]
      exact hadd
    rw [List.map_append, List.zipIdx_append, List.foldl_append, hs, List.length_map, Nat.add_comm 1]
    simp [step, hline]

/-- **What is written down is read back.** Words between quotes, with blanks between them, are read as
they are. A file of lines with such words is read without a complaint and says what its lines say, in
their order. It does not matter how the lines are ended. A value is a number exactly if its text is a
literal for it, and else it is the text. -/
theorem read_written :
    (∀ items : List (List Char × String), (∀ item ∈ items, item.2 ≠ "") →
      (∀ item ∈ items, ∀ c ∈ item.1, Text.isBlank c = true) →
      (∀ item ∈ items.tail, item.1 ≠ []) →
        Rc.words (items.flatMap fun (gap, word) => gap ++ Rc.quoted word) = items.map Prod.snd) ∧
    (∀ entries : List Entry, (∀ e ∈ entries, e.Writable) →
      (entries.filterMap Entry.moduleName?).Nodup →
        Text.lines (written entries).toList = entries.map Entry.line ∧
        ∀ text, Text.lines text.toList = entries.map Entry.line →
          (read text).2 = [] ∧ (read text).1.Says entries) ∧
    ∀ value : String,
      (∀ n : Int64, Directive.valueOf value = .int n ↔ Text.Denotes value.toList n.toInt) ∧
      ((∀ n : Int64, ¬ Text.Denotes value.toList n.toInt) → Directive.valueOf value = .str value) := by
  refine ⟨fun items hne hblank hgap => ?_, fun entries hw hnames => ⟨lines_written hw, ?_⟩,
    fun value => ⟨fun n => Directive.valueOf_eq_int_iff, Directive.valueOf_eq_str⟩⟩
  · exact Rc.words_spelled (fun item hitem => .quoted (hne item hitem)) hblank hgap
  · intro text htext
    obtain ⟨s, hs, hmeant⟩ := foldl_lines hw hnames
    rw [read, htext, hs]
    exact ⟨rfl, hmeant⟩

/-- A file of odd texts: blanks, quotes, backslashes, carriage returns, comment marks and numbers. -/
def oddities : List Entry :=
  [.path " a\"b\\\r", .load "#;" "=/x", .set "n" "12", .set "n" "", .set "m" "-007", .set "k" " 7=7"]

/-- The same file with its lines ended in both ways, the last one not at all. -/
def oddText : String :=
  "/path \" a\\\"b\\\\\r\"\r\n/load \"#;\" \"=/x\"\n/set \"n=12\"\r\n/set \"n=\"\n" ++
    "/set \"m=-007\"\n/set \"k= 7=7\""

theorem read_written_oddities :
    Rc.words (" \t".toList ++ Rc.quoted "\\\"" ++ "\r".toList ++ Rc.quoted "#") = ["\\\"", "#"] ∧
      Text.lines oddText.toList = oddities.map Entry.line ∧ (read oddText).2 = [] ∧
      (read oddText).1.searchPath = [" a\"b\\\r"] ∧
      (read oddText).1.modules = [⟨"#;", "=/x", 2⟩] ∧
      (read oddText).1.vars.find? "n" = some (.str "") ∧
      (read oddText).1.vars.find? "m" = some (.int (-7)) ∧
      (read oddText).1.vars.find? "k" = some (.str " 7=7") := by
  obtain ⟨hwords, hfile, -⟩ := read_written
  have hlines : Text.lines oddText.toList = oddities.map Entry.line := by
    decide +kernel
  obtain ⟨hcomplaints, hmeant⟩ := (hfile oddities (by simp [oddities, Entry.Writable]) (by decide)).2
    oddText hlines
  refine ⟨?_, hlines, hcomplaints, hmeant.searchPath, hmeant.modules, ?_, ?_, ?_⟩
  · exact hwords [(" \t".toList, "\\\""), ("\r".toList, "#")] (by simp) (by simp [Text.isBlank])
      (by simp)
  · exact (hmeant.vars "n").trans (by decide +kernel)
  · exact (hmeant.vars "m").trans (by decide +kernel)
  · exact (hmeant.vars "k").trans (by decide +kernel)

end Settings

end BracketScript
