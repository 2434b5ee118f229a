import BracketScript.Proofs.Effect
import BracketScript.Proofs.Rc.Complaints
import BracketScript.Proofs.Rc.Directives
import BracketScript.Proofs.Registry.Deeds
import BracketScript.Rc.Apply
import Mathlib.Data.List.Pairwise

set_option autoImplicit false

/-!
# The order of the lines of an rc file

Lines of different directives do not depend on each other: each kind of directive has its own part of
the settings, and a line changes only the part of its kind. So it does not matter how the lines of the
four kinds are interleaved, only in which order the lines of one kind come. When the settings are put to
use, it does not matter either in which order the variables are set, because their names differ.

## Main definitions

* `BracketScript.Directive.Kind`, `BracketScript.Directive.lineKind?` — the kinds of directives, and the
  kind of a line.
* `BracketScript.Settings.Interleaved` — texts that differ in how their lines are interleaved.
* `BracketScript.Settings.only` — the part of the settings that lines of one kind make, without the
  numbers of the lines.
* `BracketScript.Settings.applyInOrder` — settings put to use with the variables in a given order.

## Main results

* `BracketScript.Settings.only_takeIn_of_ne`, `BracketScript.Settings.only_takeIn_congr` — a line changes
  the part of its kind, by what this part is.
* `BracketScript.Settings.only_foldl_filter` — the part of a kind comes from the lines of this kind.
* `BracketScript.Memory.foldl_assign_perm` — variables can be set in any order.
* `BracketScript.Settings.apply_interleaved` — interleaved texts have the same effect.
-/

namespace BracketScript

/-! ## The kind of a line -/

namespace Directive

/-- The kinds of directives. -/
inductive Kind where
  /-- Search directories. -/
  | path
  /-- A module to be loaded. -/
  | load
  /-- The default template. -/
  | template
  /-- A shared variable. -/
  | set
deriving DecidableEq, Repr

/-- The kind of a name. -/
def Kind.ofName? : String → Option Kind
  | "path" => some path
  | "load" => some load
  | "template" => some template
  | "set" => some set
  | _ => none

/-- The kind of a directive. -/
def kind : Directive → Kind
  | path _ => .path
  | load _ _ => .load
  | template _ => .template
  | set _ _ => .set

/-- The kind of directive that a line gives, be it well-formed or not. Blank lines, comments and lines
of unknown directives have none. -/
def lineKind? (line : List Char) : Option Kind :=
  match Text.trimmed line with
  | '/' :: rest => Kind.ofName? (String.ofList (Text.cut Text.isBlank rest).1)
  | _ => none

variable {d : Directive} {line : List Char}

lemma kind_of_parseSet {words : List String} (h : parseSet words = .ok d) : d.kind = .set := by
  have hassign : ∀ {name value : String},
      (if name = "" then Except.error RcError.emptyName
        else .ok (Directive.set name (valueOf value))) = .ok d → d.kind = .set := by
    intro name value h
    split at h <;> cases h
    rfl
  unfold parseSet at h
  split at h
  · cases h
  · dsimp only at h
    split at h
    · exact hassign h
    · cases h
    · exact hassign h

lemma ofName?_of_parseNamed {name : String} {text : List Char} (h : parseNamed name text = .ok d) :
    Kind.ofName? name = some d.kind := by
  unfold parseNamed at h
  split at h
  · split at h <;> cases h
    rfl
  · split at h <;> cases h
    rfl
  · split at h <;> cases h
    rfl
  · rw [kind_of_parseSet h]
    rfl
  · cases h

/-- **A line that asks for something is of the kind of what it asks for.** -/
lemma lineKind?_of_parse (h : parse line = .ok (some d)) : lineKind? line = some d.kind := by
  unfold parse at h
  unfold lineKind?
  split at h
  · cases h
  · cases h
  · cases h
  · next rest hrest =>
    match hd : parseNamed (String.ofList (Text.cut Text.isBlank rest).1)
        (Text.trimmed ((Text.cut Text.isBlank rest).2.getD [])) with
    | .ok d' =>
      simp only [hd] at h
      cases h
      simp only [hrest]
      exact ofName?_of_parseNamed hd
    | .error e =>
      simp only [hd] at h
      cases h
  · cases h

end Directive

/-! ## The part of a kind -/

/-- A module to be loaded, whichever line asks for it. -/
def ModuleSpec.unnumbered (m : ModuleSpec) : ModuleSpec :=
  { m with line := 0 }

namespace Settings

open Directive (lineKind?)

/-- The settings when a line has been taken in, or refused. -/
def takeIn (s : Settings) (numbered : List Char × Nat) : Settings :=
  (s.addLine numbered.2 numbered.1).2

/-- The part of the settings that lines of one kind make, without the numbers of the lines. -/
def only (s : Settings) : Directive.Kind → Settings
  | .path => { searchPath := s.searchPath }
  | .load => { modules := s.modules.map ModuleSpec.unnumbered }
  | .template => { template := s.template }
  | .set => { vars := s.vars }

section TakeIn

variable {s s' : Settings} {line : List Char} {number number' : Nat} {k : Directive.Kind}

lemma takeIn_of_parse_error {e : RcError} (h : Directive.parse line = .error e) :
    s.takeIn (line, number) = s := by
  simp only [takeIn, addLine_eq, h, addRead]

lemma takeIn_of_parse_none (h : Directive.parse line = .ok none) : s.takeIn (line, number) = s := by
  simp only [takeIn, addLine_eq, h, addRead]

lemma takeIn_of_parse_some {d : Directive} (h : Directive.parse line = .ok (some d)) :
    s.takeIn (line, number) = (s.add number d).2 := by
  simp only [takeIn, addLine_eq, h, addRead]

lemma only_path_eq_iff : s.only .path = s'.only .path ↔ s.searchPath = s'.searchPath := by
  simp [only]

lemma only_load_eq_iff : s.only .load = s'.only .load ↔
    s.modules.map ModuleSpec.unnumbered = s'.modules.map ModuleSpec.unnumbered := by
  simp [only]

lemma only_template_eq_iff : s.only .template = s'.only .template ↔ s.template = s'.template := by
  simp [only]

lemma only_set_eq_iff : s.only .set = s'.only .set ↔ s.vars = s'.vars := by
  simp [only]

/-- Whether a name is listed can be told without the numbers of the lines. -/
lemma any_name_congr (h : s.only .load = s'.only .load) (name : String) :
    s.modules.any (·.name == name) = s'.modules.any (·.name == name) := by
  have hany (ms : List ModuleSpec) :
      (ms.map ModuleSpec.unnumbered).any (·.name == name) = ms.any (·.name == name) := by
    rw [List.any_map]
    rfl
  rw [← hany s.modules, ← hany s'.modules, only_load_eq_iff.1 h]

/-- A line of another kind does not touch the part of a kind. -/
lemma only_takeIn_of_ne (h : lineKind? line ≠ some k) :
    (s.takeIn (line, number)).only k = s.only k := by
  match hparse : Directive.parse line with
  | .error e => rw [takeIn_of_parse_error hparse]
  | .ok none => rw [takeIn_of_parse_none hparse]
  | .ok (some d) =>
    have hkind : d.kind ≠ k := by
      rintro rfl
      exact h (Directive.lineKind?_of_parse hparse)
    rw [takeIn_of_parse_some hparse]
    cases d with
    | path dirs | template spec | set name value =>
      cases k with
      | path | load | template | set => first | rfl | exact absurd rfl hkind
    | load name library =>
      simp only [add]
      cases s.modules.any (·.name == name) with
      | true => rfl
      | false =>
        cases k with
        | load => exact absurd rfl hkind
        | path | template | set => rfl

/-- **What a line makes of the part of its kind** depends on this part only, and not on its number. -/
lemma only_takeIn_congr (hline : lineKind? line = some k) (h : s.only k = s'.only k) :
    (s.takeIn (line, number)).only k = (s'.takeIn (line, number')).only k := by
  match hparse : Directive.parse line with
  | .error e => rw [takeIn_of_parse_error hparse, takeIn_of_parse_error hparse, h]
  | .ok none => rw [takeIn_of_parse_none hparse, takeIn_of_parse_none hparse, h]
  | .ok (some d) =>
    obtain rfl : k = d.kind :=
      Option.some_inj.1 (hline.symm.trans (Directive.lineKind?_of_parse hparse))
    rw [takeIn_of_parse_some hparse, takeIn_of_parse_some hparse]
    cases d with
    | path dirs =>
      exact only_path_eq_iff.2 (congrArg (· ++ dirs) (only_path_eq_iff.1 h))
    | template spec => rfl
    | set name value =>
      exact only_set_eq_iff.2 (congrArg (·.insert name value) (only_set_eq_iff.1 h))
    | load name library =>
      simp only [add, any_name_congr h name]
      cases s'.modules.any (·.name == name) with
      | true => exact h
      | false =>
        refine only_load_eq_iff.2 ?_
        simp [only_load_eq_iff.1 h, ModuleSpec.unnumbered]

end TakeIn

/-- **The part of a kind comes from the lines of this kind.** The other lines can be left out, and the
lines can have any numbers. -/
lemma only_foldl_filter (k : Directive.Kind) (lines : List (List Char)) (number number' : Nat)
    {s s' : Settings} (h : s.only k = s'.only k) :
    ((lines.zipIdx number).foldl takeIn s).only k =
      (((lines.filter (lineKind? · = some k)).zipIdx number').foldl takeIn s').only k := by
  induction lines generalizing number number' s s' with
  | nil => exact h
  | cons line lines ih =>
    rw [List.zipIdx_cons, List.foldl_cons]
    by_cases hline : lineKind? line = some k
    · rw [List.filter_cons_of_pos (by simpa using hline), List.zipIdx_cons, List.foldl_cons]
      exact ih _ _ (only_takeIn_congr hline h)
    · rw [List.filter_cons_of_neg (by simpa using hline)]
      exact ih _ _ ((only_takeIn_of_ne hline).trans h)

/-- Complaints apart, a text is read by taking in its lines. -/
lemma read_eq_foldl (text : String) :
    (read text).1 = ((Text.lines text.toList).zipIdx 1).foldl takeIn {} := by
  have hfold : ∀ (numbered : List (List Char × Nat)) (state : Settings × List (Complaint RcError)),
      (numbered.foldl step state).1 = numbered.foldl takeIn state.1 := by
    intro numbered
    induction numbered with
    | nil => exact fun _ => rfl
    | cons line numbered ih =>
      intro state
      rw [List.foldl_cons, List.foldl_cons, ih]
      congr 1
      match h : state.1.addLine line.2 line.1 with
      | (.ok (), s) => rw [step_of_ok h, takeIn, h]
      | (.error e, s) => rw [step_of_error h, takeIn, h]
  exact hfold _ _

/-- Of two texts the lines of one are those of the other in another order, but the lines of each kind of
directive are in the same order. -/
structure Interleaved (text text' : String) : Prop where
  /-- The texts have the same lines. -/
  perm : (Text.lines text.toList).Perm (Text.lines text'.toList)
  /-- The lines of a kind have kept their order. -/
  order : ∀ k : Directive.Kind, (Text.lines text.toList).filter (lineKind? · = some k) =
    (Text.lines text'.toList).filter (lineKind? · = some k)

/-- Interleaved texts have the same part of each kind. -/
lemma Interleaved.only_eq {text text' : String} (h : Interleaved text text') (k : Directive.Kind) :
    (read text).1.only k = (read text').1.only k := by
  rw [read_eq_foldl, read_eq_foldl, only_foldl_filter k _ 1 1 rfl, h.order k,
    ← only_foldl_filter k _ 1 1 rfl]

end Settings

/-! ## Variables in any order -/

/-- A pool is known by what is found in it. -/
lemma Pool.ext_get? {α : Type} {p q : Pool α} (h : ∀ r, p.get? r = q.get? r) : p = q := by
  obtain ⟨objects⟩ := p
  obtain ⟨objects'⟩ := q
  rw [Pool.mk.injEq]
  exact Array.ext_getElem? h

namespace Memory

variable {ω : Type}

/-- Two variables can be set in either order. -/
lemma assign_comm (m : Memory ω) (ref : Ref) {name name' : String} (h : name ≠ name')
    (value value' : Option Value) :
    (m.assign ref name value).assign ref name' value' =
      (m.assign ref name' value').assign ref name value := by
  have hvars (vars : Variables) :
      (vars.assign name value).assign name' value' = (vars.assign name' value').assign name value := by
    refine Table.ext_find? fun key => ?_
    simp only [Variables.find?_assign]
    by_cases hkey : name' = key
    · rw [if_pos hkey, if_pos hkey, if_neg fun heq => h (heq.trans hkey.symm)]
    · rw [if_neg hkey, if_neg hkey]
  rw [assign, assign, assign, assign, mk.injEq]
  refine ⟨Pool.ext_get? fun r => ?_, rfl, rfl, rfl⟩
  simp only [Pool.get?_modify]
  by_cases hr : ref = r
  · simp only [if_pos hr, Option.map_map]
    exact congrFun (congrArg Option.map (funext hvars)) _
  · simp only [if_neg hr]

/-- **Variables of different names can be set in any order.** -/
lemma foldl_assign_perm (m : Memory ω) (ref : Ref) {entries entries' : List (String × Value)}
    (h : entries.Perm entries') (hnames : entries.Pairwise fun a b => a.1 ≠ b.1) :
    entries.foldl (fun m (name, value) => m.assign ref name (some value)) m =
      entries'.foldl (fun m (name, value) => m.assign ref name (some value)) m := by
  have : Std.Symm fun a b : String × Value => a.1 ≠ b.1 := ⟨fun _ _ => Ne.symm⟩
  refine h.foldl_eq' (fun a ha b hb m => ?_) m
  by_cases hab : a = b
  · rw [hab]
  · exact m.assign_comm ref (hnames.forall ha hb hab) _ _

end Memory

/-! ## Putting settings to use -/

namespace Settings

variable {κ ω : Type} {host : Host κ ω}

/-- Changes a registry and a set of commands as the settings ask, with the variables set in the order in
which they are listed. -/
def applyInOrder (s : Settings) (vars : List (String × Value)) (host : Host κ ω) (r : Registry κ)
    (cs : CommandSet κ) : StateM (World κ ω) (List (Complaint Failure) × Registry κ × CommandSet κ) := do
  let r := s.searchPath.foldl Registry.addSearchDir r
  World.onMemory (modify fun m =>
    vars.foldl (fun m (name, value) => m.assign r.shared name (some value)) m)
  let (refused, cs) := useTemplate cs s.template
  let (failed, r) ← loadAll host r s.modules
  return (refused ++ failed, r, cs)

/-- In which order the variables are set does not matter. -/
lemma applyInOrder_eq (s : Settings) {vars : List (String × Value)} (h : vars.Perm s.vars.entries)
    (host : Host κ ω) (r : Registry κ) (cs : CommandSet κ) :
    s.applyInOrder vars host r cs = s.apply host r cs := by
  have hnames : vars.Pairwise fun a b => a.1 ≠ b.1 := by
    refine h.symm.pairwise (s.vars.sorted.imp fun hlt => ?_) Ne.symm
    exact fun heq => String.lt_irrefl _ (heq ▸ hlt)
  rw [applyInOrder, apply]
  simp only [Memory.foldl_assign_perm _ _ h hnames]
  rfl

/-- The search directories and the variables come first, then the template and the modules. -/
lemma apply_of_loaded {s : Settings} {r r' : Registry κ} {failed : List (Complaint Failure)}
    {w w' : World κ ω} (cs : CommandSet κ)
    (h : loadAll host (s.searchPath.foldl Registry.addSearchDir r) s.modules
      { w with memory :=
        shareAll w.memory (s.searchPath.foldl Registry.addSearchDir r).shared s.vars } =
      ((failed, r'), w')) :
    s.apply host r cs w =
      (((useTemplate cs s.template).1 ++ failed, r', (useTemplate cs s.template).2), w') := by
  rw [apply]
  exact (Effect.bind_of_eq rfl _).trans (Effect.bind_of_eq h _)

/-- The same modules are loaded, and the same ones fail to load, whatever lines ask for them. -/
lemma loadAll_congr {ms ms' : List ModuleSpec}
    (h : ms.map ModuleSpec.unnumbered = ms'.map ModuleSpec.unnumbered) (r : Registry κ)
    (w : World κ ω) :
    ∃ failed failed' r' w', loadAll host r ms w = ((failed, r'), w') ∧
      loadAll host r ms' w = ((failed', r'), w') ∧
      failed.map Complaint.cause = failed'.map Complaint.cause := by
  induction ms generalizing ms' r w with
  | nil =>
    obtain rfl : ms' = [] := by simpa using h.symm
    exact ⟨[], [], r, w, rfl, rfl, rfl⟩
  | cons m ms ih =>
    obtain _ | ⟨m', ms'⟩ := ms'
    · simp at h
    rw [List.map_cons, List.map_cons, List.cons.injEq] at h
    obtain ⟨hname, hpath⟩ : m.name = m'.name ∧ m.path = m'.path := by
      simpa [ModuleSpec.unnumbered] using h.1
    rw [loadAll, loadAll, ← hname, ← hpath]
    match hload : r.load host m.name m.path w with
    | ((.ok (), r'), w') =>
      rw [Effect.bind_of_eq hload, Effect.bind_of_eq hload]
      exact ih h.2 r' w'
    | ((.error e, r'), w') =>
      obtain ⟨failed, failed', r'', w'', hrest, hrest', hcauses⟩ := ih h.2 r' w'
      refine ⟨⟨m.line, e⟩ :: failed, ⟨m'.line, e⟩ :: failed', r'', w'', ?_, ?_, ?_⟩
      · rw [Effect.bind_of_eq hload]
        exact Effect.bind_of_eq hrest _
      · rw [Effect.bind_of_eq hload]
        exact Effect.bind_of_eq hrest' _
      · simp [hcauses]

/-- **Interleaved texts have the same effect.** Put to use, they leave the same registry, with the same
search path and the same modules in the same order, the same commands, with the same default template,
and the same world, with the same shared variables. The complaints have the same causes in the same
order. In which order the variables of each text are set does not matter. -/
theorem apply_interleaved {text text' : String} (h : Interleaved text text') (host : Host κ ω)
    (r : Registry κ) (cs : CommandSet κ) (w : World κ ω) :
    ∃ complaints complaints' after w',
      (read text).1.apply host r cs w = ((complaints, after), w') ∧
      (read text').1.apply host r cs w = ((complaints', after), w') ∧
      complaints.map Complaint.cause = complaints'.map Complaint.cause ∧
      (∀ vars, vars.Perm (read text).1.vars.entries →
        (read text).1.applyInOrder vars host r cs w = ((complaints, after), w')) ∧
      ∀ vars, vars.Perm (read text').1.vars.entries →
        (read text').1.applyInOrder vars host r cs w = ((complaints', after), w') := by
  obtain ⟨failed, failed', r', w', hload, hload', hcauses⟩ :=
    loadAll_congr (only_load_eq_iff.1 (h.only_eq .load))
      ((read text).1.searchPath.foldl Registry.addSearchDir r)
      { w with
        memory :=
          shareAll w.memory
            ((read text).1.searchPath.foldl Registry.addSearchDir r).shared
            (read text).1.vars }
  rw [only_path_eq_iff.1 (h.only_eq .path), only_set_eq_iff.1 (h.only_eq .set)] at hload'
  have hafter := apply_of_loaded cs hload
  have hafter' := apply_of_loaded cs hload'
  rw [← only_template_eq_iff.1 (h.only_eq .template)] at hafter'
  refine ⟨_, _, _, _, hafter, hafter', by simp [hcauses], fun vars hvars => ?_, fun vars hvars => ?_⟩
  · rw [applyInOrder_eq _ hvars, hafter]
  · rw [applyInOrder_eq _ hvars, hafter']

/-- A file in which lines of all kinds stand between each other. -/
def tangled : String :=
  "/load a x\n#\n/path m\n/set v=1\n/template T\n/load b y\n/set v=two"

/-- The same lines, sorted by kind. -/
def untangled : String :=
  "/template T\n/path m\n/load a x\n/load b y\n/set v=1\n/set v=two\n#"

/-- A registry for which there is a library in the directory `m`, and nothing else. -/
def shelf : Registry Nat where
  loader := ⟨(· == "m/x"), (({} : Catalog Nat).insert "m/x" (.ofModule 0 1)).openLibrary⟩
  shared := 0

-- one module is found in the directory that is named behind it; about the other one there is a complaint
theorem apply_interleaved_tangled :
    let w : World Nat (List (Entry Nat)) := { memory := { stores := ⟨#[.empty]⟩, host := [] } }
    Interleaved tangled untangled ∧
    ∃ complaints complaints' after w',
      (read tangled).1.apply (Host.scribe Nat) shelf {} w = ((complaints, after), w') ∧
      (read untangled).1.apply (Host.scribe Nat) shelf {} w = ((complaints', after), w') ∧
      complaints.map Complaint.line = [6] ∧ complaints'.map Complaint.line = [4] ∧
      complaints.map Complaint.cause = complaints'.map Complaint.cause ∧
      after.1.searchPath = ["m"] ∧ after.1.modules = ["a"] ∧
      after.2.defaultTemplate.display = "T" ∧
      (w'.memory.store 0).find? "v" = some (.str "two") := by
  intro w
  have hlines : (Text.lines tangled.toList).Perm (Text.lines untangled.toList) ∧
      ∀ k ∈ [Directive.Kind.path, .load, .template, .set],
        (Text.lines tangled.toList).filter (Directive.lineKind? · = some k) =
          (Text.lines untangled.toList).filter (Directive.lineKind? · = some k) := by
    decide +kernel
  have horder : Interleaved tangled untangled :=
    ⟨hlines.1, fun k => hlines.2 k (by cases k <;> decide)⟩
  obtain ⟨complaints, complaints', after, w', hafter, hafter', hcauses, -⟩ :=
    apply_interleaved horder (Host.scribe Nat) shelf {} w
  refine ⟨horder, complaints, complaints', after, w', hafter, hafter', ?_, ?_, hcauses, ?_⟩
  · rw [← congrArg (fun result => result.1.1.map Complaint.line) hafter]
    decide +kernel
  · rw [← congrArg (fun result => result.1.1.map Complaint.line) hafter']
    decide +kernel
  · rw [← congrArg (fun result => result.1.2.1.searchPath) hafter,
      ← congrArg (fun result => result.1.2.1.modules) hafter,
      ← congrArg (fun result => result.1.2.2.defaultTemplate.display) hafter,
      ← congrArg (fun result => (result.2.memory.store 0).find? "v") hafter]
    decide +kernel

end Settings

end BracketScript
