import BracketScript.Proofs.Registry.Deeds
import Mathlib.Data.List.Forall2

set_option autoImplicit false

/-!
# Taking down, turn by turn

Instances are taken apart one after the other. Whether somebody uses an instance, and what is in it, is
looked up when its turn comes, and by then other destructors have run, which reach the whole world. So
the deeds of taking down are defined along the loop. Destructors give back what they borrow, which is
why it is known beforehand which instances get their turn, but not as what.

## Main definitions

* `BracketScript.Registry.destructions`, `BracketScript.Registry.closings` — the deeds of taking
  instances apart and of dropping definitions.
* `BracketScript.Registry.DestroysInOrder` — destructor calls on one instance after the other.
* `BracketScript.Host.TakesApart` — when the turn of an instance comes in a course.

## Main results

* `BracketScript.Registry.course_dispose`, `BracketScript.Registry.course_releaseAll` — taking down
  is a course of these deeds.
* `BracketScript.Registry.destroysInOrder_destructions` — the calls are those on the instances that
  nobody uses, in order.
* `BracketScript.Registry.exists_takesApart` — each instance that nobody uses gets its turn, once.
-/

namespace BracketScript

variable {κ ω : Type}

/-- In a course from `w` to `w'` the turn of the instance in a cell comes after the deeds `earlier`, in
the world `u`: the destructor of `d` gets the instance as it is then. No other destructor gets it. Here
`origin` is the registration that `d` is from. -/
structure Host.TakesApart (host : Host κ ω) (w : World κ ω) (deeds : List (Deed κ)) (w' : World κ ω)
    (origin : Nat) (d : Definition κ) (cell : Ref) (earlier : List (Deed κ)) (u : World κ ω)
    (later : List (Deed κ)) : Prop where
  /-- The destructor is called between the other deeds. -/
  deeds_eq : deeds = earlier ++ .destroyed origin d cell (u.inst cell) :: later
  /-- The world is what the deeds before have made of it. -/
  before : host.Course w earlier u
  /-- The rest of the course starts there. -/
  after : host.Course u (.destroyed origin d cell (u.inst cell) :: later) w'
  /-- This is the only time. -/
  once : ∀ deed ∈ earlier ++ later, deed.destroys cell = false

/-- There is one destructor call on the instance. -/
lemma Host.TakesApart.filter_destroys {host : Host κ ω} {w w' u : World κ ω}
    {deeds earlier later : List (Deed κ)} {origin : Nat} {d : Definition κ} {cell : Ref}
    (h : host.TakesApart w deeds w' origin d cell earlier u later) :
    deeds.filter (Deed.destroys cell) = [.destroyed origin d cell (u.inst cell)] := by
  have hnone {ds : List (Deed κ)} (hsub : ∀ deed ∈ ds, deed ∈ earlier ++ later) :
      ds.filter (Deed.destroys cell) = [] :=
    List.filter_eq_nil_iff.2 fun deed hdeed => by simp [h.once deed (hsub deed hdeed)]
  rw [h.deeds_eq, List.filter_append, hnone fun _ => List.mem_append_left _,
    List.filter_cons_of_pos (by simp [Deed.destroys]), hnone fun _ => List.mem_append_right _,
    List.nil_append]

namespace Registry

variable {host : Host κ ω} {r : Registry κ} {w w' : World κ ω} {t : Tracked} {ts : List Tracked}
  {names : List String} {origin : String → Nat} {d : Definition κ} {cell : Ref}

/-! ## Instances -/

/-- The destructor calls of taking instances apart, in order: one for each that nobody uses when its
turn comes, and on what it is then. Here `origin` tells which registration a module is from. -/
def destructions (host : Host κ ω) (r : Registry κ) (origin : String → Nat) :
    World κ ω → List Tracked → List (Deed κ)
  | _, [] => []
  | w, t :: ts =>
    let later := destructions host r origin (r.dispose host t w).2 ts
    match r.definition? t.moduleName with
    | some d =>
      if w.isIdle t.cell then
        .destroyed (origin t.moduleName) d t.cell (w.inst t.cell) :: later
      else later
    | none => later

@[simp]
lemma destructions_nil (host : Host κ ω) (r : Registry κ) (origin : String → Nat) (w : World κ ω) :
    r.destructions host origin w [] = [] := rfl

lemma destructions_cons_of_busy (h : w.isIdle t.cell = false) :
    r.destructions host origin w (t :: ts) = r.destructions host origin w ts := by
  rw [destructions, dispose_of_busy h, h]
  cases r.definition? t.moduleName <;> rfl

lemma destructions_cons_of_idle (h : w.isIdle t.cell = true)
    (hd : r.definition? t.moduleName = some d) :
    r.destructions host origin w (t :: ts) =
      .destroyed (origin t.moduleName) d t.cell (w.inst t.cell) ::
        r.destructions host origin (destroy host d (w.inst t.cell) (w.setInst t.cell .empty)).2 ts := by
  rw [destructions, dispose_of_idle h hd, hd, h]
  rfl

/-- Which instances are tracked does not matter. -/
lemma destructions_of_instances (host : Host κ ω) (r : Registry κ) (origin : String → Nat)
    (instances : List Tracked) (w : World κ ω) (ts : List Tracked) :
    destructions host { r with instances } origin w ts = r.destructions host origin w ts := by
  induction ts generalizing w with
  | nil => rfl
  | cons t ts ih =>
    have hdispose : dispose host { r with instances } t w = r.dispose host t w := rfl
    rw [destructions, destructions, hdispose, ih]
    rfl

/-- Taking an instance apart does not change how any is in use. -/
@[simp]
lemma usage_dispose (host : Host κ ω) (r : Registry κ) (t : Tracked) (w : World κ ω) (cell : Ref) :
    ((r.dispose host t w).2.cell cell).usage = (w.cell cell).usage := by
  cases hidle : w.isIdle t.cell with
  | false => rw [dispose_of_busy hidle]
  | true =>
    cases hd : r.definition? t.moduleName with
    | none =>
      have hrun : r.dispose host t w = ((), w.setInst t.cell .empty) := by
        rw [dispose, Effect.get_bind, hidle, hd]
        rfl
      rw [hrun, World.usage_setInst]
    | some d => rw [dispose_of_idle hidle hd, usage_destroy, World.usage_setInst]

/-- Destructors are called on instances that nobody uses. -/
lemma of_mem_destructions {deed : Deed κ} (h : deed ∈ r.destructions host origin w ts) :
    ∃ t ∈ ts, w.isIdle t.cell = true ∧ ∃ d i, r.definition? t.moduleName = some d ∧
      deed = .destroyed (origin t.moduleName) d t.cell i := by
  induction ts generalizing w with
  | nil => cases h
  | cons t ts ih =>
    have hlater (hmem : deed ∈ r.destructions host origin (r.dispose host t w).2 ts) :
        ∃ s ∈ t :: ts, w.isIdle s.cell = true ∧ ∃ d i, r.definition? s.moduleName = some d ∧
          deed = .destroyed (origin s.moduleName) d s.cell i := by
      obtain ⟨s, hs, hidle, hdeed⟩ := ih hmem
      rw [World.isIdle_of_usage_eq (usage_dispose ..)] at hidle
      exact ⟨s, List.mem_cons_of_mem _ hs, hidle, hdeed⟩
    rw [destructions] at h
    cases hd : r.definition? t.moduleName with
    | none =>
      rw [hd] at h
      exact hlater h
    | some d =>
      cases hidle : w.isIdle t.cell with
      | false =>
        rw [hd, hidle] at h
        exact hlater h
      | true =>
        rw [hd, hidle] at h
        rcases List.mem_cons.1 h with rfl | h
        · exact ⟨t, List.mem_cons_self, hidle, d, _, hd, rfl⟩
        · exact hlater h

/-- The deeds are destructor calls on some instances, one after the other, each by the definition of its
module. -/
def DestroysInOrder (r : Registry κ) (origin : String → Nat) (ts : List Tracked)
    (deeds : List (Deed κ)) : Prop :=
  List.Forall₂ (fun t deed => ∃ d i, r.definition? t.moduleName = some d ∧
    deed = .destroyed (origin t.moduleName) d t.cell i) ts deeds

/-- **Destructors are called on the instances that nobody uses**, one after the other, if their modules
are there. Nobody has to be asked again, because destructors give back what they borrow. -/
lemma destroysInOrder_destructions (host : Host κ ω) (origin : String → Nat) (w : World κ ω)
    (hdefs : ∀ t ∈ ts, ∃ d, r.definition? t.moduleName = some d) :
    r.DestroysInOrder origin (ts.filter fun t => w.isIdle t.cell)
      (r.destructions host origin w ts) := by
  induction ts generalizing w with
  | nil => exact .nil
  | cons t ts ih =>
    obtain ⟨⟨d, hd⟩, hdefs⟩ := List.forall_mem_cons.1 hdefs
    have hlater := ih (r.dispose host t w).2 hdefs
    have hsame : (ts.filter fun s => (r.dispose host t w).2.isIdle s.cell) =
        ts.filter fun s => w.isIdle s.cell :=
      List.filter_congr fun s _ => World.isIdle_of_usage_eq (usage_dispose ..)
    rw [hsame] at hlater
    cases hidle : w.isIdle t.cell with
    | false =>
      rw [dispose_of_busy hidle] at hlater
      rwa [List.filter_cons_of_neg (by simp [hidle]), destructions_cons_of_busy hidle]
    | true =>
      rw [dispose_of_idle hidle hd] at hlater
      rw [List.filter_cons_of_pos (by simp [hidle]), destructions_cons_of_idle hidle hd]
      exact .cons ⟨d, _, hd, rfl⟩ hlater

/-- What is not among the instances, or in use, is not destroyed. -/
lemma destroys_eq_false (h : ∀ t ∈ ts, t.cell = cell → w.isIdle cell = false) {deed : Deed κ}
    (hdeed : deed ∈ r.destructions host origin w ts) : deed.destroys cell = false := by
  obtain ⟨t, ht, hidle, d, i, -, rfl⟩ := of_mem_destructions hdeed
  refine beq_false_of_ne fun hcell => ?_
  rw [hcell, h t ht hcell] at hidle
  cases hidle

/-- **Taking instances apart** is a course of destructor calls, if their modules are there. -/
lemma course_dispose (host : Host κ ω) (origin : String → Nat) (ts : List Tracked) (w : World κ ω)
    (hdefs : ∀ t ∈ ts, ∃ d, r.definition? t.moduleName = some d) :
    ∃ w', ts.forM (r.dispose host) w = ((), w') ∧
      host.Course w (r.destructions host origin w ts) w' := by
  induction ts generalizing w with
  | nil => exact ⟨w, rfl, .nil w⟩
  | cons t ts ih =>
    obtain ⟨⟨d, hd⟩, hdefs⟩ := List.forall_mem_cons.1 hdefs
    cases hidle : w.isIdle t.cell with
    | false =>
      obtain ⟨w', hrun, hcourse⟩ := ih w hdefs
      refine ⟨w', ?_, ?_⟩
      · change (r.dispose host t >>= fun _ => ts.forM (r.dispose host)) w = ((), w')
        rw [Effect.bind_of_eq (dispose_of_busy hidle), hrun]
      · rwa [destructions_cons_of_busy hidle]
    | true =>
      obtain ⟨w', hrun, hcourse⟩ := ih _ hdefs
      refine ⟨w', ?_, ?_⟩
      · change (r.dispose host t >>= fun _ => ts.forM (r.dispose host)) w = ((), w')
        rw [Effect.bind_of_eq (dispose_of_idle hidle hd), hrun]
      · rw [destructions_cons_of_idle hidle hd]
        exact .cons (.destroyed _ d hidle) hcourse

/-- **Each instance that nobody uses gets its turn, once**, if the instances are different and their
modules are there, also if `more` is done afterwards.

**Proof sketch.** Induction on the instances. The first one has its turn at once. The turn of another one
comes in what is left of the course; that it is still idle then is because destructors give back what
they borrow. -/
lemma exists_takesApart {more : List (Deed κ)}
    (hcourse : host.Course w (r.destructions host origin w ts ++ more) w')
    (hcells : (ts.map Tracked.cell).Nodup)
    (hdefs : ∀ t ∈ ts, ∃ d, r.definition? t.moduleName = some d) (ht : t ∈ ts)
    (hidle : w.isIdle t.cell = true) (hd : r.definition? t.moduleName = some d)
    (hmore : ∀ deed ∈ more, deed.destroys t.cell = false) :
    ∃ earlier u later, host.TakesApart w (r.destructions host origin w ts ++ more) w'
      (origin t.moduleName) d t.cell earlier u later := by
  induction ts generalizing w with
  | nil => cases ht
  | cons s ts ih =>
    obtain ⟨hnot, hcells⟩ := List.nodup_cons.1 hcells
    obtain ⟨⟨d', hd'⟩, hdefs⟩ := List.forall_mem_cons.1 hdefs
    cases hs : w.isIdle s.cell with
    | false =>
      have hts : t ∈ ts := (List.mem_cons.1 ht).resolve_left fun h => by
        rw [h, hs] at hidle
        cases hidle
      rw [destructions_cons_of_busy hs] at hcourse ⊢
      exact ih hcourse hcells hdefs hts hidle
    | true =>
      rw [destructions_cons_of_idle hs hd', List.cons_append] at hcourse ⊢
      rcases List.mem_cons.1 ht with rfl | hts
      · obtain rfl : d' = d := Option.some.inj (hd'.symm.trans hd)
        refine ⟨[], w, _, rfl, .nil w, hcourse, fun deed hdeed => ?_⟩
        rw [List.nil_append] at hdeed
        rcases List.mem_append.1 hdeed with hdeed | hdeed
        · exact destroys_eq_false (fun s hs hcell => absurd (List.mem_map.2 ⟨s, hs, hcell⟩) hnot) hdeed
        · exact hmore deed hdeed
      · cases hcourse with
        | cons hdeed hrest =>
          have hne : s.cell ≠ t.cell := fun h => hnot (List.mem_map.2 ⟨t, hts, h.symm⟩)
          obtain ⟨-, rfl⟩ := hdeed.of_destroyed
          have hidle' : (destroy host d' (w.inst s.cell) (w.setInst s.cell .empty)).2.isIdle
              t.cell = true := (World.isIdle_of_usage_eq (w := w) (by simp)).trans hidle
          obtain ⟨earlier, u, later, h⟩ := ih hrest hcells hdefs hts hidle'
          refine ⟨_ :: earlier, u, later, ?_, .cons hdeed h.before, h.after, ?_⟩
          · rw [h.deeds_eq, List.cons_append]
          · rw [List.cons_append]
            exact List.forall_mem_cons.2 ⟨beq_false_of_ne hne, h.once⟩

/-! ## Definitions -/

/-- The libraries that are closed when the modules of some names are dropped, in order. -/
def closings (r : Registry κ) (origin : String → Nat) (names : List String) : List (Deed κ) :=
  names.filterMap fun name =>
    ((r.definition? name).bind Definition.library?).map fun l => .closed (origin name) l

lemma mem_closings {deed : Deed κ} :
    deed ∈ r.closings origin names ↔ ∃ name ∈ names, ∃ d l, r.definition? name = some d ∧
      d.library? = some l ∧ deed = .closed (origin name) l := by
  simp only [closings, List.mem_filterMap, Option.map_eq_some_iff, Option.bind_eq_some_iff,
    @eq_comm _ deed]
  constructor
  · rintro ⟨name, hname, l, ⟨d, hd, hl⟩, hdeed⟩
    exact ⟨name, hname, d, l, hd, hl, hdeed⟩
  · rintro ⟨name, hname, d, l, hd, hl, hdeed⟩
    exact ⟨name, hname, l, ⟨d, hd, hl⟩, hdeed⟩

/-- Closing libraries takes no instance apart. -/
lemma destroys_of_mem_closings {deed : Deed κ} (h : deed ∈ r.closings origin names) (cell : Ref) :
    deed.destroys cell = false := by
  obtain ⟨name, -, d, l, -, -, rfl⟩ := mem_closings.1 h
  rfl

/-- Dropping a definition closes its library, if it has one. -/
lemma course_release {name : String} (origin : String → Nat)
    (h : r.definition? name = some d) (w : World κ ω) :
    host.Course w (r.closings origin [name]) (release host d w).2 := by
  unfold release
  cases hl : d.library? with
  | none =>
    have : r.closings origin [name] = [] := by simp [closings, h, hl]
    rw [this]
    exact .nil w
  | some l =>
    have : r.closings origin [name] = [.closed (origin name) l] := by simp [closings, h, hl]
    rw [this]
    exact .single (.closed _ l w)

lemma closings_append (r : Registry κ) (origin : String → Nat) (names more : List String) :
    r.closings origin (names ++ more) = r.closings origin names ++ r.closings origin more :=
  List.filterMap_append

/-- **Dropping definitions** is a course of closing their libraries, if the names are different ones.

**Proof sketch.** Induction on the names. Dropping the definition of one name does not change what is
found under the others. -/
lemma course_releaseAll (host : Host κ ω) (origin : String → Nat) (names : List String)
    (definitions : Table (Definition κ)) (w : World κ ω) (hnames : names.Nodup)
    (hsame : ∀ name ∈ names, definitions.find? name = r.definition? name) :
    ∃ left w', releaseAll host names definitions w = (left, w') ∧
      host.Course w (r.closings origin names) w' ∧
      ∀ name, left.find? name = if name ∈ names then none else definitions.find? name := by
  induction names generalizing definitions w with
  | nil => exact ⟨definitions, w, rfl, .nil w, by simp⟩
  | cons name names ih =>
    obtain ⟨hnot, hnames⟩ := List.nodup_cons.1 hnames
    have hname := hsame name List.mem_cons_self
    have hrest : ∀ other ∈ names, (definitions.erase name).find? other = r.definition? other := by
      intro other hother
      have hne : name ≠ other := fun h => hnot (h ▸ hother)
      rw [Table.find?_erase, if_neg hne]
      exact hsame other (List.mem_cons_of_mem _ hother)
    have hleft {left : Table (Definition κ)}
        (h : ∀ other, left.find? other =
          if other ∈ names then none else (definitions.erase name).find? other) (other : String) :
        left.find? other = if other ∈ name :: names then none else definitions.find? other := by
      rw [h, Table.find?_erase]
      by_cases h₁ : other ∈ names <;> by_cases h₂ : name = other <;> simp [h₁, h₂, eq_comm]
    cases hd : r.definition? name with
    | none =>
      obtain ⟨left, w', hrun, hcourse, hfind⟩ := ih (definitions.erase name) w hnames hrest
      refine ⟨left, w', ?_, ?_, hleft hfind⟩
      · rw [releaseAll, hname, hd, ← hrun]
      · rw [← List.singleton_append, closings_append]
        simpa [closings, hd] using hcourse
    | some d =>
      obtain ⟨left, w', hrun, hcourse, hfind⟩ := ih (definitions.erase name) (release host d w).2
        hnames hrest
      refine ⟨left, w', ?_, ?_, hleft hfind⟩
      · rw [releaseAll, hname, hd, ← hrun]
        rfl
      · rw [← List.singleton_append, closings_append]
        exact (course_release origin hd w).append hcourse

end Registry

end BracketScript
