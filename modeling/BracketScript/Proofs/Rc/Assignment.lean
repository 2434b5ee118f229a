import BracketScript.Proofs.Rc.Writing
import Mathlib.Data.List.TakeWhile

set_option autoImplicit false

/-!
# The two ways to set a variable

A line of an rc file can give a value to a variable with an equals sign or with a blank. Both forms are
always accepted. With a blank the value is all the words that follow. With an equals sign it is the
first of them only, and the others are dropped without a complaint, so the two forms agree for values of
one word and for no others.

## Main definitions

* `BracketScript.Settings.IsName`, `BracketScript.Settings.AreWords` — names and values that can be
  written without quotes.
* `BracketScript.Settings.joined`, `BracketScript.Settings.spaced` — the two forms of the line.

## Main results

* `BracketScript.Settings.addLine_set` — what a line with plain words sets.
* `BracketScript.Settings.joined_spaced` — what the two forms set, and when they agree.
* `BracketScript.Settings.not_joined_agrees` — they do not agree for a value of two words.
-/

namespace BracketScript

/-- There is no blank in a literal. -/
lemma Text.Denotes.isBlank_eq {cs : List Char} {n : Int} (h : Text.Denotes cs n) {c : Char}
    (hc : c ∈ cs) : Text.isBlank c = false := by
  have hdigit : ∀ {digits : List Char}, (∀ d ∈ digits, d.isDigit = true) → c ∈ digits →
      Text.isBlank c = false := by
    intro digits hdigits hc
    have hd := hdigits c hc
    rw [Bool.eq_false_iff]
    intro hblank
    simp only [Text.isBlank, Bool.or_eq_true, beq_iff_eq] at hblank
    rcases hblank with (((rfl | rfl) | rfl) | rfl) | rfl <;> exact absurd hd (by decide)
  cases h with
  | unsigned _ h => exact hdigit h hc
  | positive _ h | negative _ h =>
    rcases List.mem_cons.1 hc with rfl | hc
    · decide
    · exact hdigit h hc

namespace Settings

variable {name : String} {words : List String}

/-- A name that can be written without quotes and that an equals sign can follow. -/
structure IsName (name : String) : Prop where
  ne_empty : name ≠ ""
  plain : ∀ c ∈ name.toList, c ≠ '=' ∧ c ≠ '"' ∧ Text.isSpace c = false

/-- The words of a value that can be written without quotes. There is at least one. -/
structure AreWords (words : List String) : Prop where
  ne_nil : words ≠ []
  plain : ∀ word ∈ words, word ≠ "" ∧ ∀ c ∈ word.toList, c ≠ '"' ∧ Text.isSpace c = false

/-- The line that sets a variable with an equals sign. -/
def joined (name : String) (words : List String) : String :=
  "/set " ++ name ++ "=" ++ " ".intercalate words

/-- The line that sets a variable with a blank. -/
def spaced (name : String) (words : List String) : String :=
  "/set " ++ name ++ " " ++ " ".intercalate words

/-- A word without quotes and white space is its own spelling. -/
lemma spells_toList {word : String} (hne : word ≠ "")
    (h : ∀ c ∈ word.toList, c ≠ '"' ∧ Text.isSpace c = false) : Rc.Spells word.toList word := by
  refine .plain hne fun c hc => ⟨(h c hc).1, ?_⟩
  rw [Bool.eq_false_iff]
  intro hblank
  exact absurd (Text.isSpace_of_isBlank hblank) (by simp [(h c hc).2])

/-- **A line with plain words sets what its words say.** -/
lemma addLine_set {line : List Char} {d : Directive} (h : AreWords words)
    (hline : line = '/' :: ("set".toList ++ ' ' :: [' '].intercalate (words.map String.toList)))
    (hset : Directive.parseSet words = .ok d) (s : Settings) (number : Nat) :
    s.addLine number line = s.add number d := by
  have hargs : Text.Tight ([' '].intercalate (words.map String.toList)) := by
    refine .intercalate (by simpa using h.ne_nil) fun part hpart => ?_
    obtain ⟨word, hword, rfl⟩ := List.mem_map.1 hpart
    exact .of_forall (by simpa using (h.plain word hword).1) fun c hc => ((h.plain word hword).2 c hc).2
  have hwords : Rc.words ([' '].intercalate (words.map String.toList)) = words :=
    Rc.words_intercalate fun word hword => spells_toList (h.plain word hword).1 (h.plain word hword).2
  have hnamed : Directive.parseNamed "set" ([' '].intercalate (words.map String.toList)) =
      Directive.parseSet words := by
    simp only [Directive.parseNamed, hwords]
  rw [addLine_eq, hline, Directive.parse_directive (by simp [Text.isBlank]) hargs, hnamed, hset]
  rfl

/-- A word goes with the words behind it. -/
lemma AreWords.cons {word : String} (hne : word ≠ "")
    (hplain : ∀ c ∈ word.toList, c ≠ '"' ∧ Text.isSpace c = false)
    (h : ∀ other ∈ words, other ≠ "" ∧ ∀ c ∈ other.toList, c ≠ '"' ∧ Text.isSpace c = false) :
    AreWords (word :: words) where
  ne_nil := by simp
  plain other hother := by
    rcases List.mem_cons.1 hother with rfl | hother
    · exact ⟨hne, hplain⟩
    · exact h other hother

lemma IsName.plain_word (h : IsName name) :
    ∀ c ∈ name.toList, c ≠ '"' ∧ Text.isSpace c = false :=
  fun c hc => (h.plain c hc).2

/-- With a blank, the words of the value come one by one. -/
lemma toList_spaced (name : String) (hne : words ≠ []) : (spaced name words).toList =
    '/' :: ("set".toList ++ ' ' :: [' '].intercalate ((name :: words).map String.toList)) := by
  cases words with
  | nil => exact absurd rfl hne
  | cons word words => simp [spaced, List.intercalate_cons_cons, String.toList_intercalate]

/-- With an equals sign, the first of them is one word with the name. -/
lemma toList_joined (name first : String) (rest : List String) :
    (joined name (first :: rest)).toList = '/' :: ("set".toList ++ ' ' ::
      [' '].intercalate (((name ++ "=" ++ first) :: rest).map String.toList)) := by
  cases rest with
  | nil => simp [joined]
  | cons word rest => simp [joined, List.intercalate_cons_cons, String.toList_intercalate]

/-- With a blank, a variable gets all words of the value. -/
lemma addLine_spaced (hname : IsName name) (hwords : AreWords words) (s : Settings) (number : Nat) :
    s.addLine number (spaced name words).toList =
      (.ok (), { s with vars := s.vars.insert name (Directive.valueOf (" ".intercalate words)) }) := by
  have hall : AreWords (name :: words) := .cons hname.ne_empty hname.plain_word hwords.plain
  have hcut : Text.cut (· == '=') name.toList = (name.toList, none) := by
    have hplain : ∀ c ∈ name.toList, (! (c == '=')) = true := by
      simpa using fun c hc => (hname.plain c hc).1
    rw [Text.cut, List.takeWhile_eq_self_iff.2 hplain, List.dropWhile_eq_nil_iff.2 hplain]
  obtain ⟨first, rest, rfl⟩ := List.exists_cons_of_ne_nil hwords.ne_nil
  have hset : Directive.parseSet (name :: first :: rest) =
      .ok (.set name (Directive.valueOf (" ".intercalate (first :: rest)))) := by
    simp only [Directive.parseSet, hcut, if_neg hname.ne_empty]
  rw [addLine_set hall (toList_spaced name hwords.ne_nil) hset]
  rfl

/-- With an equals sign, it gets the first of them. -/
lemma addLine_joined {first : String} {rest : List String} (hname : IsName name)
    (hwords : AreWords (first :: rest)) (s : Settings) (number : Nat) :
    s.addLine number (joined name (first :: rest)).toList =
      (.ok (), { s with vars := s.vars.insert name (Directive.valueOf first) }) := by
  have hplain : ∀ c ∈ (name ++ "=" ++ first).toList, c ≠ '"' ∧ Text.isSpace c = false := by
    intro c hc
    rw [String.toList_append, String.toList_append, List.mem_append, List.mem_append] at hc
    obtain (hc | hc) | hc := hc
    · exact hname.plain_word c hc
    · obtain rfl : c = '=' := by simpa using hc
      decide
    · exact (hwords.plain first (by simp)).2 c hc
  have hall : AreWords ((name ++ "=" ++ first) :: rest) :=
    .cons (by simp) hplain fun other hother => hwords.plain other (by simp [hother])
  have hset : Directive.parseSet ((name ++ "=" ++ first) :: rest) =
      .ok (.set name (Directive.valueOf first)) :=
    Rc.Entry.parseSet_assignment hname.ne_empty (fun h => (hname.plain '=' h).1 rfl) rest
  rw [addLine_set hall (toList_joined name first rest) hset]
  rfl

/-- Two or more words are not a number, and not the first of them. -/
lemma valueOf_intercalate_ne (first next : String) (rest : List String) :
    Directive.valueOf first ≠ Directive.valueOf (" ".intercalate (first :: next :: rest)) := by
  have hstr : Directive.valueOf (" ".intercalate (first :: next :: rest)) =
      .str (" ".intercalate (first :: next :: rest)) := by
    refine Directive.valueOf_eq_str fun n hn => ?_
    exact absurd (hn.isBlank_eq (c := ' ') (by simp)) (by decide)
  intro heq
  rw [hstr, Directive.valueOf] at heq
  split at heq
  · cases heq
  · injection heq with heq
    have hlength := congrArg (fun s : String => s.toList.length) heq
    simp at hlength

/-- **What the two forms of the line set.** Both are accepted, whatever the settings are and whichever
line it is. With an equals sign only the first word of the value counts, with a blank they all do, and
the two forms do the same exactly if there is one word. -/
theorem joined_spaced (hname : IsName name) (hwords : AreWords words) (s : Settings) (number : Nat) :
    s.addLine number (joined name words).toList = (.ok (),
      { s with vars := s.vars.insert name (Directive.valueOf (words.head hwords.ne_nil)) }) ∧
    s.addLine number (spaced name words).toList = (.ok (),
      { s with vars := s.vars.insert name (Directive.valueOf (" ".intercalate words)) }) ∧
    (s.addLine number (joined name words).toList = s.addLine number (spaced name words).toList ↔
      words.length = 1) := by
  obtain ⟨first, rest, rfl⟩ := List.exists_cons_of_ne_nil hwords.ne_nil
  rw [addLine_joined hname hwords, addLine_spaced hname hwords]
  refine ⟨rfl, rfl, fun heq => ?_, fun hone => ?_⟩
  · cases rest with
    | nil => rfl
    | cons next rest =>
      have hvalue := congrArg (fun result => result.2.vars.find? name) heq
      simp only [Table.find?_insert, if_pos, Option.some_inj] at hvalue
      exact absurd hvalue (valueOf_intercalate_ne first next rest)
  · obtain rfl : rest = [] := by simpa using hone
    simp

lemma isName_title : IsName "title" :=
  ⟨by decide, by simp [Text.isSpace, Text.spaceRanges]⟩

lemma areWords_greeting : AreWords ["hello", "world"] :=
  ⟨by decide, by simp [Text.isSpace, Text.spaceRanges]⟩

-- of a value of two words the form with an equals sign keeps the first
theorem joined_spaced_greeting :
    IsName "title" ∧ AreWords ["hello", "world"] ∧
      ({} : Settings).addLine 1 "/set title=hello world".toList =
        (.ok (), { vars := Table.empty.insert "title" (.str "hello") }) ∧
      ({} : Settings).addLine 1 "/set title hello world".toList =
        (.ok (), { vars := Table.empty.insert "title" (.str "hello world") }) := by
  obtain ⟨hjoined, hspaced, -⟩ := joined_spaced isName_title areWords_greeting {} 1
  have hfirst : Directive.valueOf "hello" = .str "hello" := by decide +kernel
  have hall : Directive.valueOf "hello world" = .str "hello world" := by decide +kernel
  rw [show joined "title" ["hello", "world"] = "/set title=hello world" by decide +kernel,
    List.head_cons, hfirst] at hjoined
  rw [show spaced "title" ["hello", "world"] = "/set title hello world" by decide +kernel,
    show " ".intercalate ["hello", "world"] = "hello world" by decide +kernel, hall] at hspaced
  exact ⟨isName_title, areWords_greeting, hjoined, hspaced⟩

theorem not_joined_agrees :
    IsName "title" ∧ AreWords ["hello", "world"] ∧
      (read (joined "title" ["hello", "world"])).2 = [] ∧
      (read (spaced "title" ["hello", "world"])).2 = [] ∧
      (read (joined "title" ["hello", "world"])).1.vars.find? "title" ≠
        (read (spaced "title" ["hello", "world"])).1.vars.find? "title" := by
  refine ⟨isName_title, areWords_greeting, ?_⟩
  decide +kernel

end Settings

end BracketScript
