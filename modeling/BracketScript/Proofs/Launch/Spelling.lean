import BracketScript.Launch.Options
import Mathlib.Data.List.TakeWhile

set_option autoImplicit false

/-!
# Spellings of a command line

The same wishes can be spelled in many ways: flags for logging can share a word with each other and
with one further flag, and the value of a flag can stand in the same word or in the next one. Here
is the grammar of command lines, said without reading them, and the options that wishes stand for.
A command line is accepted if it spells wishes that do not name two scripts.

## Main definitions

* `BracketScript.Options.Spelling` — one or two words and the wishes that they spell.
* `BracketScript.Options.Spells` — a command line and its wishes.
* `BracketScript.Options.Admissible` — the wishes name at most one script file, and no script beside
  it.
* `BracketScript.Options.ofItems` — the options that wishes stand for.

## Main results

* `BracketScript.Options.scan_eq_iff` — the words of a command line make sense exactly if they spell
  wishes, and these are read.
* `BracketScript.Options.parse_of_scan` — admissible wishes give the options that they stand for.
* `BracketScript.Options.parse_iff_spells` — which command lines are accepted, and what they mean.
-/

namespace BracketScript.Options

/-! ## The grammar -/

/-- A word of flags: a dash, `n` flags for logging, and what comes behind them. -/
def flagWord (n : Nat) (tail : List Char) : String :=
  String.ofList ('-' :: (List.replicate n 'd' ++ tail))

/-- The flags that carry a value, with the wish for it. -/
inductive Carries : Char → (String → Item) → Prop
  | moduleDir : Carries 'L' .moduleDir
  | inline : Carries 'c' .inline

/-- One word that spells wishes, or a word of flags and the value of its last flag. -/
inductive Spelling : List String → List Item → Prop
  /-- A lone dash, or a word that does not start with one. -/
  | positional {word : String} (h : word = "-" ∨ word.toList.head? ≠ some '-') :
      Spelling [word] [.positional word]
  /-- Flags for logging alone. -/
  | debugs {n : Nat} (h : 0 < n) : Spelling [flagWord n []] (List.replicate n .debug)
  /-- The flag for the rc file without a value. -/
  | rcSkip (n : Nat) : Spelling [flagWord n ['f']] (List.replicate n .debug ++ [.rcSkip])
  /-- The flag for the rc file, whose value stands in the same word. -/
  | rcFile (n : Nat) {path : String} (h : path ≠ "") :
      Spelling [flagWord n ('f' :: path.toList)] (List.replicate n .debug ++ [.rcFile path])
  /-- A flag with its value in the same word. -/
  | attached (n : Nat) {flag : Char} {item : String → Item} (hflag : Carries flag item)
      {value : String} (h : value ≠ "") :
      Spelling [flagWord n (flag :: value.toList)] (List.replicate n .debug ++ [item value])
  /-- A flag with its value in the next word, whatever that looks like. -/
  | detached (n : Nat) {flag : Char} {item : String → Item} (hflag : Carries flag item)
      (value : String) :
      Spelling [flagWord n [flag], value] (List.replicate n .debug ++ [item value])

/-- A command line and the wishes that it spells, in order. -/
inductive Spells : List String → List Item → Prop
  | nil : Spells [] []
  | append {words argv : List String} {items rest : List Item} (h : Spelling words items)
      (hrest : Spells argv rest) : Spells (words ++ argv) (items ++ rest)

/-! ## What wishes stand for -/

namespace Item

/-- The directory that a wish names. -/
def moduleDir? : Item → Option String
  | moduleDir path => some path
  | _ => none

/-- What a wish says about the rc file. -/
def rc? : Item → Option RcChoice
  | rcSkip => some .skip
  | rcFile path => some (.file path)
  | _ => none

/-- The script that a wish holds. -/
def script? : Item → Option String
  | inline script => some script
  | _ => none

end Item

/-- The scripts among wishes. -/
def scripts (items : List Item) : List String :=
  items.filterMap Item.script?

/-- There is at most one script file, and if there is one, no script on the command line. -/
def Admissible (items : List Item) : Prop :=
  (positionals items).length ≤ 1 ∧ (positionals items = [] ∨ scripts items = [])

instance (items : List Item) : Decidable (Admissible items) :=
  inferInstanceAs (Decidable (_ ∧ _))

/-- The options that wishes stand for: all directories in order, the last word on the rc file and
the last script, or else the script file. -/
def ofItems (items : List Item) : Options where
  moduleDirs := items.filterMap Item.moduleDir?
  rc := (items.filterMap Item.rc?).getLast?.getD .search
  source :=
    match (scripts items).getLast?, (positionals items).head? with
    | some script, _ => .inline script
    | none, some word => sourceOf word
    | none, none => .none
  debug := items.contains .debug

/-! ## Reading what is spelled -/

/-- The flags for logging are those before the first other one. -/
lemma split_flags (n : Nat) {tail : List Char} (h : tail.head? ≠ some 'd') :
    (List.replicate n 'd' ++ tail).takeWhile isDebugFlag = List.replicate n 'd' ∧
      (List.replicate n 'd' ++ tail).dropWhile isDebugFlag = tail := by
  have hdebugs : ∀ c ∈ List.replicate n 'd', isDebugFlag c = true := by
    simp [isDebugFlag]
  rw [List.takeWhile_append_of_pos hdebugs, List.dropWhile_append_of_pos hdebugs]
  cases tail with
  | nil => simp
  | cons c tail => simp_all [isDebugFlag]

lemma Carries.ne_debug {flag : Char} {item : String → Item} (h : Carries flag item) :
    flag ≠ 'd' := by
  cases h <;> decide

lemma before_before (items items' : List Item) (rest : List Item × Option UsageError) :
    before items (before items' rest) = before (items ++ items') rest := by
  simp [before]

/-- Flags for logging stand for themselves and leave the meaning of another flag behind them. -/
lemma scan_flagWord (n : Nat) {flag : Char} (hflag : flag ≠ 'd') (rest : List Char)
    (words : List String) :
    scan (flagWord n (flag :: rest) :: words) =
      before (List.replicate n .debug) (scan (flagWord 0 (flag :: rest) :: words)) := by
  have htail : (flag :: rest).head? ≠ some 'd' := by
    simpa using hflag
  cases n with
  | zero => rfl
  | succ n =>
    obtain ⟨htake, hdrop⟩ := split_flags (n + 1) htail
    obtain ⟨htake', hdrop'⟩ := split_flags 0 htail
    rw [List.replicate_succ, List.cons_append] at htake hdrop
    rw [List.replicate_zero, List.nil_append] at htake' hdrop'
    unfold scan
    simp only [flagWord, String.toList_ofList, List.replicate_succ, List.cons_append,
      List.replicate_zero, List.nil_append, htake, hdrop, htake', hdrop', List.map_cons,
      List.map_replicate, List.map_nil]
    by_cases hf : flag = 'f'
    · simp [hf, before]
    · cases hvalue : valueItem? flag with
      | none => simp [hvalue, before]
      | some item =>
        by_cases hrest : rest = []
        · cases words with
          | nil => simp [hvalue, hrest, before]
          | cons value words => simp [hvalue, hrest, before]
        · simp [hvalue, hrest, before]

/-- Words are read as the wishes that they spell, whatever comes behind them. -/
lemma scan_append {words : List String} {items : List Item} (h : Spelling words items)
    (argv : List String) : scan (words ++ argv) = before items (scan argv) := by
  cases h with
  | @positional word h =>
    rw [List.singleton_append, scan]
    split
    · next hword => rcases h with rfl | h <;> simp_all
    · rfl
  | @debugs n h =>
    obtain ⟨n, rfl⟩ := Nat.exists_eq_add_one.2 h
    have hnil : [].head? ≠ some 'd' := by
      simp
    obtain ⟨htake, hdrop⟩ := split_flags (n + 1) hnil
    rw [List.append_nil, List.replicate_succ] at htake hdrop
    simp [scan, flagWord, List.replicate_succ, htake, hdrop]
  | rcSkip n =>
    rw [List.singleton_append, scan_flagWord n (by decide), ← before_before]
    simp [scan, flagWord, isDebugFlag, rcItem]
  | @rcFile n path h =>
    have hpath : path.toList ≠ [] := by
      simpa using h
    rw [List.singleton_append, scan_flagWord n (by decide), ← before_before]
    simp [scan, flagWord, isDebugFlag, rcItem, hpath]
  | @attached n flag item hflag value h =>
    have hvalue : value.toList ≠ [] := by
      simpa using h
    rw [List.singleton_append, scan_flagWord n hflag.ne_debug, ← before_before]
    cases hflag <;> simp [scan, flagWord, isDebugFlag, valueItem?, hvalue]
  | detached n hflag value =>
    rw [List.cons_append, List.singleton_append, scan_flagWord n hflag.ne_debug, ← before_before]
    cases hflag <;> simp [scan, flagWord, isDebugFlag, valueItem?]

lemma scan_of_spells {argv : List String} {items : List Item} (h : Spells argv items) :
    scan argv = (items, none) := by
  induction h with
  | nil => rfl
  | append h _ ih =>
    rw [scan_append h, ih]
    rfl

/-! ## Spelling what is read -/

/-- A word that goes on after a dash is a word of flags. -/
lemma exists_flagWord {word : String} {flag : Char} {more tail : List Char}
    (hword : word.toList = '-' :: flag :: more)
    (htail : (flag :: more).dropWhile isDebugFlag = tail) :
    ∃ n, word = flagWord n tail ∧ (tail = [] → 0 < n) ∧
      ((flag :: more).takeWhile isDebugFlag).map (fun _ => Item.debug) =
        List.replicate n .debug := by
  have hsplit := List.takeWhile_append_dropWhile (p := isDebugFlag) (l := flag :: more)
  have hdebugs : (flag :: more).takeWhile isDebugFlag =
      List.replicate ((flag :: more).takeWhile isDebugFlag).length 'd' := by
    refine List.eq_replicate_of_mem fun c hc => ?_
    simpa [isDebugFlag] using List.mem_takeWhile_imp hc
  refine ⟨((flag :: more).takeWhile isDebugFlag).length, ?_, ?_, List.map_const'⟩
  · rw [flagWord, ← hdebugs, ← htail, hsplit, ← hword, String.ofList_toList]
  · intro hnil
    rw [List.length_pos_iff]
    intro htake
    rw [htail, hnil, htake] at hsplit
    cases hsplit

/-- What the flag for the rc file is read as is spelled by it. -/
lemma spelling_rcItem (n : Nat) (rest : List Char) :
    Spelling [flagWord n ('f' :: rest)] (List.replicate n .debug ++ [rcItem rest]) := by
  unfold rcItem
  split
  · next hrest =>
    rw [List.isEmpty_iff.1 hrest]
    exact .rcSkip n
  · next hrest =>
    have hpath : String.ofList rest ≠ "" := by
      simpa using hrest
    simpa using Spelling.rcFile n hpath

lemma carries_of_valueItem? {flag : Char} {item : String → Item} (h : valueItem? flag = some item) :
    Carries flag item := by
  unfold valueItem? at h
  split at h
  · cases h
    exact .inline
  · cases h
    exact .moduleDir
  · cases h

/-- A word that is not read as flags is a positional one. -/
lemma positional_of_not_flags {word : String}
    (h : ∀ flag more, word.toList ≠ '-' :: flag :: more) :
    word = "-" ∨ word.toList.head? ≠ some '-' := by
  rw [← String.toList_inj]
  match hlist : word.toList with
  | [] => simp
  | [c] => by_cases hc : c = '-' <;> simp [hc]
  | c :: flag :: more =>
    have hc : c ≠ '-' := by
      rintro rfl
      exact h flag more hlist
    simp [hc]

/-- A command line in which every word makes sense spells what is read from it. -/
lemma spells_scan (argv : List String) (h : (scan argv).2 = none) :
    Spells argv (scan argv).1 := by
  -- The cases are those of the reader; where it stops at a fault, `h` is absurd.
  fun_induction scan argv with
  | case1 => exact .nil
  | case2 word words flag more hword flags debugs htail ih =>
    obtain ⟨n, rfl, hn, hdebugs⟩ := exists_flagWord hword htail
    have hspelling := Spelling.debugs (hn rfl)
    rw [← hdebugs] at hspelling
    exact .append hspelling (ih h)
  | case3 word words flag more hword flags debugs rest htail ih =>
    obtain ⟨n, rfl, -, hdebugs⟩ := exists_flagWord hword htail
    have hspelling := spelling_rcItem n rest
    rw [← hdebugs] at hspelling
    exact .append hspelling (ih h)
  | case4 => cases h
  | case5 word words _ more hword flags debugs flag rest _ htail item hitem hrest ih =>
    obtain ⟨n, rfl, -, hdebugs⟩ := exists_flagWord hword htail
    have hvalue : String.ofList rest ≠ "" := by
      simpa using hrest
    have hspelling := Spelling.attached n (carries_of_valueItem? hitem) hvalue
    rw [String.toList_ofList, ← hdebugs] at hspelling
    exact .append hspelling (ih h)
  | case6 => cases h
  | case7 word _ more hword flags debugs flag rest _ htail item hitem hrest value words ih =>
    obtain rfl : rest = [] := not_ne_iff.1 hrest
    obtain ⟨n, rfl, -, hdebugs⟩ := exists_flagWord hword htail
    have hspelling := Spelling.detached n (carries_of_valueItem? hitem) value
    rw [← hdebugs] at hspelling
    exact .append hspelling (ih h)
  | case8 word words hword ih =>
    exact .append (.positional (positional_of_not_flags hword)) (ih h)

/-- **Which command lines make sense.** The words are read without a fault exactly if they spell
wishes, and the wishes are those that are read. -/
lemma scan_eq_iff {argv : List String} {items : List Item} :
    scan argv = (items, none) ↔ Spells argv items := by
  refine ⟨fun h => ?_, scan_of_spells⟩
  have hspells := spells_scan argv (by rw [h])
  rwa [h] at hspells

/-! ## From wishes to options -/

/-- Wishes taken up one after the other, with all positional words left aside. -/
lemma foldl_add (items : List Item) (o : Options) :
    items.foldl add o =
      { moduleDirs := o.moduleDirs ++ items.filterMap Item.moduleDir?
        rc := (items.filterMap Item.rc?).getLast?.getD o.rc
        source := ((scripts items).getLast?.map .inline).getD o.source
        debug := o.debug || items.contains .debug } := by
  induction items generalizing o with
  | nil => simp [scripts]
  | cons item items ih =>
    rw [List.foldl_cons, ih]
    cases item <;>
      simp [add, scripts, Item.moduleDir?, Item.rc?, Item.script?, List.filterMap_cons,
        List.getLast?_cons, -List.getLast?_filterMap, Option.getD_map]

/-- Admissible wishes give the options that they stand for, and others give none. -/
lemma parse_of_scan {argv : List String} {items : List Item} (h : scan argv = (items, none))
    {o : Options} : parse argv = .ok o ↔ Admissible items ∧ o = ofItems items := by
  unfold parse
  rw [h]
  simp only [foldl_add]
  match hwords : positionals items with
  | [] =>
    have hadmissible : Admissible items := by
      simp [Admissible, hwords]
    cases hlast : (scripts items).getLast? with
    | none => simp [hadmissible, ofItems, hwords, hlast, eq_comm]
    | some script => simp [hadmissible, ofItems, hwords, hlast, eq_comm]
  | [word] =>
    cases hscripts : scripts items with
    | nil =>
      have hadmissible : Admissible items := by
        simp [Admissible, hwords, hscripts]
      simp [hadmissible, ofItems, hwords, hscripts, eq_comm]
    | cons script rest =>
      have hnot : ¬ Admissible items := by
        simp [Admissible, hwords, hscripts]
      simp [hnot, List.getLast?_cons]
  | _ :: _ :: _ =>
    have hnot : ¬ Admissible items := by
      simp [Admissible, hwords]
    simp [hnot]

/-- Words that make no sense give no options. -/
lemma parse_ne_ok_of_scan {argv : List String} {items : List Item} {e : UsageError}
    (h : scan argv = (items, some e)) (o : Options) : parse argv ≠ .ok o := by
  unfold parse
  rw [h]
  match hwords : positionals items with
  | [] => simp [hwords]
  | [_] => simp [hwords]
  | _ :: _ :: _ => simp [hwords]

/-- **Which command lines are accepted, and what they mean.** A command line gives options exactly
if it spells admissible wishes, and these are the options that the wishes stand for. Any other one
is refused. Two spellings of the same wishes give the same answer.

**Proof sketch.** The wishes that are read are those that are spelled, by induction on the spelling
one way and on the reading the other way. What is read then decides the answer. -/
theorem parse_iff_spells :
    (∀ argv o, parse argv = .ok o ↔
        ∃ items, Spells argv items ∧ Admissible items ∧ o = ofItems items) ∧
      (∀ argv, (∃ e, parse argv = .error e) ↔ ¬ ∃ items, Spells argv items ∧ Admissible items) ∧
      ∀ argv argv' items, Spells argv items → Spells argv' items → parse argv = parse argv' := by
  have hok (argv : List String) (o : Options) : parse argv = .ok o ↔
      ∃ items, Spells argv items ∧ Admissible items ∧ o = ofItems items := by
    constructor
    · intro h
      match hscan : scan argv with
      | (items, none) => exact ⟨items, scan_eq_iff.1 hscan, (parse_of_scan hscan).1 h⟩
      | (items, some e) => exact absurd h (parse_ne_ok_of_scan hscan o)
    · rintro ⟨items, hspells, h⟩
      exact (parse_of_scan (scan_of_spells hspells)).2 h
  refine ⟨hok, fun argv => ?_, fun argv argv' items h h' => ?_⟩
  · constructor
    · rintro ⟨e, he⟩ ⟨items, hspells, hadmissible⟩
      have hparse := (hok argv _).2 ⟨items, hspells, hadmissible, rfl⟩
      rw [he] at hparse
      cases hparse
    · intro h
      match hparse : parse argv with
      | .error e => exact ⟨e, rfl⟩
      | .ok o =>
        obtain ⟨items, hspells, hadmissible, -⟩ := (hok argv o).1 hparse
        exact absurd ⟨items, hspells, hadmissible⟩ h
  · rw [parse, parse, scan_of_spells h, scan_of_spells h']

/-- A flag in its own word and one behind a flag for logging, with the value in the same word and in
the next one, where it looks like a flag. -/
theorem parse_iff_spells_bundled :
    parse ["-dL", "-c", "-fx", "-"] =
        .ok { moduleDirs := ["-c"], rc := .file "x", source := .stdin, debug := true } ∧
      parse ["-d", "-L-c", "-fx", "-"] = parse ["-dL", "-c", "-fx", "-"] := by
  have hlast : Spells ["-fx", "-"] [.rcFile "x", .positional "-"] :=
    .append (.rcFile 0 (show "x" ≠ "" by decide)) (.append (.positional (.inl rfl)) .nil)
  have hbundled : Spells ["-dL", "-c", "-fx", "-"]
      [.debug, .moduleDir "-c", .rcFile "x", .positional "-"] :=
    .append (.detached 1 .moduleDir "-c") hlast
  have hapart : Spells ["-d", "-L-c", "-fx", "-"]
      [.debug, .moduleDir "-c", .rcFile "x", .positional "-"] :=
    .append (.debugs Nat.one_pos)
      (.append (.attached 0 .moduleDir (show "-c" ≠ "" by decide)) hlast)
  obtain ⟨hok, -, hagree⟩ := parse_iff_spells
  exact ⟨(hok _ _).2 ⟨_, hbundled, by decide, rfl⟩, hagree _ _ _ hapart hbundled⟩

end BracketScript.Options
