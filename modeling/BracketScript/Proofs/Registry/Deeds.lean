import BracketScript.Proofs.Instance
import BracketScript.Proofs.Registry.Operations
import Mathlib.Data.List.Basic

set_option autoImplicit false

/-!
# What is run for a registry

A registry runs code of the host: it has instances built and taken apart, and it closes libraries.
Each such call is a *deed*. A deed names the registration on whose behalf it was done, by the number
of the operation that made the registration, and the instance that it was done to, by its cell; a
destructor itself sees neither of the two. What an operation does to the world is a *course* of deeds,
and nothing else.

All this code reaches the whole world. So it takes a condition to say that an instance or a part of the
memory is left alone: the code of the deeds has to *spare* it.

## Main definitions

* `BracketScript.Deed`, `BracketScript.Deed.Happens` — the calls, and what each does to a world.
* `BracketScript.Deed.Spares` — the code of a deed leaves a part of the world alone.
* `BracketScript.Host.LeavesInstances` — factories, destructors and libraries leave all instances alone.
* `BracketScript.Host.Course` — deeds that happen one after the other.
* `BracketScript.Host.KeepsLog`, `BracketScript.Host.scribe` — a host that writes down the calls it
  gets.

## Main results

* `BracketScript.Host.Course.makes_iff` — the instances that are made get the cells that are taken.
* `BracketScript.Host.Course.usage_eq` — a course does not change how instances are in use.
* `BracketScript.Host.Course.inst_eq`, `BracketScript.Host.Course.view_eq` — it leaves alone what all of
  its deeds spare.
* `BracketScript.Host.Course.log_eq` — a host that keeps a log has written down the deeds in order.
-/

namespace BracketScript

variable {κ ω : Type}

/-- Code of the host that was run for a registry. -/
inductive Deed (κ : Type) where
  /-- The factory of a registration built an instance, which was handed out with this record. -/
  | built (origin : Nat) (d : Definition κ) (t : Tracked) (i : Instance κ)
  /-- The factory of a registration built nothing. -/
  | refused (origin : Nat) (d : Definition κ)
  /-- An instance was asked for the template of its command. -/
  | asked (cell : Ref)
  /-- The destructor of a registration got what was in a cell. -/
  | destroyed (origin : Nat) (d : Definition κ) (cell : Ref) (i : Instance κ)
  /-- The library that came with an operation was closed. -/
  | closed (origin : Nat) (l : Library κ)

namespace Deed

/-- Whether a destructor got what was in a cell. -/
def destroys (cell : Ref) : Deed κ → Bool
  | destroyed _ _ c _ => c == cell
  | _ => false

/-- Whether the library that came with an operation was closed. -/
def closes (origin : Nat) : Deed κ → Bool
  | closed o _ => o == origin
  | _ => false

/-- Whether an instance was built, which got a cell. -/
def makes (cell : Ref) : Deed κ → Bool
  | built _ _ t _ => t.cell == cell
  | _ => false

/-- What a deed does to the world. A new instance gets the next cell, and a destructor gets an instance
as it is, if nobody uses it. -/
inductive Happens (host : Host κ ω) : Deed κ → World κ ω → World κ ω → Prop
  | built {origin : Nat} {d : Definition κ} {t : Tracked} {shared : Ref} {i : Instance κ}
    {w w' : World κ ω} (hcell : t.cell = w.cells.next)
    (h : (host.create d.factory).run w = (.ok i, w')) :
    Happens host (.built origin d t (i.attach t.id t.moduleName shared)) w
      (w'.place (i.attach t.id t.moduleName shared))
  | refused {origin : Nat} {d : Definition κ} {reason : String} {w w' : World κ ω}
    (h : (host.create d.factory).run w = (.error reason, w')) :
    Happens host (.refused origin d) w w'
  | asked (cell : Ref) (w : World κ ω) :
    Happens host (.asked cell) w ((World.onInstance cell (CommandSet.askTemplate host)).run w).2
  | destroyed (origin : Nat) (d : Definition κ) {cell : Ref} {w : World κ ω}
    (h : w.isIdle cell = true) :
    Happens host (.destroyed origin d cell (w.inst cell)) w
      (Registry.destroy host d (w.inst cell) (w.setInst cell .empty)).2
  | closed (origin : Nat) (l : Library κ) (w : World κ ω) :
    Happens host (.closed origin l) w (Registry.closeLibrary host l w).2

/-- The code of a deed, run in a world. What the registry does itself is not part of it: it puts a new
instance into its cell, and it empties the cell of one that a destructor gets. -/
def code (host : Host κ ω) : Deed κ → World κ ω → World κ ω
  | built _ d _ _, w => ((host.create d.factory).run w).2
  | refused _ d, w => ((host.create d.factory).run w).2
  | asked cell, w => ((World.onInstance cell (CommandSet.askTemplate host)).run w).2
  | destroyed _ d _ i, w => (Registry.destroy host d i w).2
  | closed _ l, w => (Registry.closeLibrary host l w).2

/-- The code of a deed leaves a part of the world alone, in whatever world it is run. -/
def Spares {α : Type} (host : Host κ ω) (view : World κ ω → α) (deed : Deed κ) : Prop :=
  ∀ w, view (deed.code host w) = view w

end Deed

/-- Factories, destructors and the code that runs when a library is closed leave all instances alone. -/
structure Host.LeavesInstances (host : Host κ ω) : Prop where
  /-- A factory changes no instance. -/
  create : ∀ code w, ((host.create code).run w).2.cells = w.cells
  /-- A destructor changes no instance. -/
  destroy : ∀ code i w, ((host.destroy code i).run w).2.cells = w.cells
  /-- Closing a library changes no instance. -/
  unload : ∀ code w, ((host.unload code).run w).2.cells = w.cells

namespace Deed

variable {host : Host κ ω} {deed : Deed κ} {w w' : World κ ω} {cell : Ref}

/-- Then the deeds leave all instances alone, but for asking an instance for its template, which is a
call on it. -/
lemma spares_inst (h : host.LeavesInstances) (hask : ∀ c, deed ≠ .asked c) (cell : Ref) :
    deed.Spares host (·.inst cell) := by
  intro w
  cases deed with
  | built origin d | refused origin d =>
    simp only [code, World.inst, World.cell, h.create d.factory w]
  | asked c => exact absurd rfl (hask c)
  | destroyed origin d c i =>
    have hcells : (Registry.destroy host d i w).2.cells = w.cells := by
      unfold Registry.destroy
      cases d.destructor? with
      | none => rfl
      | some code => exact h.destroy code i w
    simp only [code, World.inst, World.cell, hcells]
  | closed origin l =>
    have hcells : (Registry.closeLibrary host l w).2.cells = w.cells := by
      unfold Registry.closeLibrary
      cases l.onUnload with
      | none => rfl
      | some code => exact h.unload code w
    simp only [code, World.inst, World.cell, hcells]

/-- The instance that is made is the one in the cell that is taken. -/
lemma Happens.makes_iff (h : deed.Happens host w w') :
    deed.makes cell = true ↔ w.cells.next ≤ cell ∧ cell < w'.cells.next := by
  cases h with
  | built hcell h =>
    rw [World.next_place, Visit.next_eq h, makes, hcell, beq_iff_eq]
    exact ⟨fun h => h ▸ ⟨Nat.le_refl _, Nat.lt_succ_self _⟩,
      fun h => Nat.le_antisymm h.1 (Nat.le_of_lt_succ h.2)⟩
  | refused h => simp [makes, Visit.next_eq h]
  | asked c w => simp [makes, Visit.next_run]
  | destroyed => simp [makes]
  | closed => simp [makes]

/-- No cell is given up. -/
lemma Happens.next_le (h : deed.Happens host w w') : w.cells.next ≤ w'.cells.next := by
  cases h with
  | built hcell h => simp [Visit.next_eq h]
  | refused h => exact Nat.le_of_eq (Visit.next_eq h).symm
  | asked c w => exact Nat.le_of_eq (Visit.next_run _ w).symm
  | destroyed => simp
  | closed => simp

/-- No deed changes how an instance is in use. -/
lemma Happens.usage_eq (h : deed.Happens host w w') (hc : cell < w.cells.next) :
    (w'.cell cell).usage = (w.cell cell).usage := by
  cases h with
  | built hcell h =>
    rw [World.usage_place_of_ne (Nat.ne_of_lt (by rwa [Visit.next_eq h])), Visit.usage_eq h]
  | refused h => exact Visit.usage_eq h cell
  | asked c w => exact Visit.usage_run _ w cell
  | destroyed => simp
  | closed => simp

/-- A destructor gets an instance as it is, and runs where the cell is empty already. -/
lemma Happens.of_destroyed {origin : Nat} {d : Definition κ} {i : Instance κ}
    (h : (Deed.destroyed origin d cell i).Happens host w w') :
    i = w.inst cell ∧ w' = (Registry.destroy host d i (w.setInst cell .empty)).2 := by
  cases h with
  | destroyed => exact ⟨rfl, rfl⟩

/-- What the code of a deed spares of an instance stays, unless a destructor gets the instance. -/
lemma Happens.inst_eq {α : Type} {f : Instance κ → α} (h : deed.Happens host w w')
    (hc : cell < w.cells.next) (hspares : deed.Spares host fun w => f (w.inst cell))
    (hd : deed.destroys cell = false) : f (w'.inst cell) = f (w.inst cell) := by
  cases h with
  | built hcell h =>
    rw [World.inst_place, if_neg (Nat.ne_of_lt (by rwa [Visit.next_eq h]))]
    simpa only [code, h] using hspares w
  | refused h => simpa only [code, h] using hspares w
  | asked c w => exact hspares w
  | @destroyed origin d c _ h =>
    exact (hspares (w.setInst c .empty)).trans
      (congrArg f (World.inst_setInst_of_ne (ne_of_beq_false hd) _))
  | closed origin l w => exact hspares w

/-- What the code of a deed spares of the memory stays. -/
lemma Happens.view_eq {α : Type} {view : Memory ω → α} (h : deed.Happens host w w')
    (hspares : deed.Spares host fun w => view w.memory) : view w'.memory = view w.memory := by
  cases h with
  | built hcell h | refused h => simpa only [code, h, World.memory_place] using hspares w
  | asked c w => exact hspares w
  | @destroyed origin d c _ h => exact hspares (w.setInst c .empty)
  | closed origin l w => exact hspares w

end Deed

/-! ## Courses -/

namespace Host

/-- Deeds that happen one after the other. -/
inductive Course (host : Host κ ω) : World κ ω → List (Deed κ) → World κ ω → Prop
  | nil (w : World κ ω) : Course host w [] w
  | cons {deed : Deed κ} {deeds : List (Deed κ)} {w w₁ w' : World κ ω}
    (h : deed.Happens host w w₁) (hs : Course host w₁ deeds w') : Course host w (deed :: deeds) w'

namespace Course

variable {host : Host κ ω} {deed : Deed κ} {deeds more : List (Deed κ)} {w w₁ w' : World κ ω}
  {cell : Ref}

lemma single (h : deed.Happens host w w') : host.Course w [deed] w' :=
  .cons h (.nil w')

/-- A course goes through a world in which the first deeds are done and the others are not. -/
lemma append_iff : host.Course w (deeds ++ more) w' ↔
    ∃ w₁, host.Course w deeds w₁ ∧ host.Course w₁ more w' := by
  constructor
  · intro h
    induction deeds generalizing w with
    | nil => exact ⟨w, .nil w, h⟩
    | cons deed deeds ih =>
      cases h with
      | cons hdeed hs =>
        obtain ⟨w₁, hfirst, hmore⟩ := ih hs
        exact ⟨w₁, .cons hdeed hfirst, hmore⟩
  · rintro ⟨w₁, hfirst, hmore⟩
    induction hfirst with
    | nil => exact hmore
    | cons hdeed _ ih => exact .cons hdeed (ih hmore)

lemma append (h : host.Course w deeds w₁) (hs : host.Course w₁ more w') :
    host.Course w (deeds ++ more) w' :=
  append_iff.2 ⟨w₁, h, hs⟩

/-- No cell is given up in a course. -/
lemma next_le (h : host.Course w deeds w') : w.cells.next ≤ w'.cells.next := by
  induction h with
  | nil w => exact Nat.le_refl _
  | cons hdeed _ ih => exact Nat.le_trans hdeed.next_le ih

/-- A course does not change how the instances that were there before are in use. -/
lemma usage_eq (h : host.Course w deeds w') (hc : cell < w.cells.next) :
    (w'.cell cell).usage = (w.cell cell).usage := by
  induction h with
  | nil => rfl
  | cons hdeed _ ih =>
    rw [ih (Nat.lt_of_lt_of_le hc hdeed.next_le), hdeed.usage_eq hc]

/-- What all deeds spare of an instance stays, unless a destructor gets the instance. -/
lemma inst_eq {α : Type} {f : Instance κ → α} (h : host.Course w deeds w')
    (hc : cell < w.cells.next) (hspares : ∀ deed ∈ deeds, deed.Spares host fun w => f (w.inst cell))
    (hd : ∀ deed ∈ deeds, deed.destroys cell = false) : f (w'.inst cell) = f (w.inst cell) := by
  induction h with
  | nil => rfl
  | cons hdeed _ ih =>
    obtain ⟨hspares, hlater⟩ := List.forall_mem_cons.1 hspares
    obtain ⟨hd, hdlater⟩ := List.forall_mem_cons.1 hd
    rw [ih (Nat.lt_of_lt_of_le hc hdeed.next_le) hlater hdlater, hdeed.inst_eq hc hspares hd]

/-- What all deeds spare of the memory stays. -/
lemma view_eq {α : Type} {view : Memory ω → α} (h : host.Course w deeds w')
    (hspares : ∀ deed ∈ deeds, deed.Spares host fun w => view w.memory) :
    view w'.memory = view w.memory := by
  induction h with
  | nil => rfl
  | cons hdeed _ ih =>
    obtain ⟨hspares, hlater⟩ := List.forall_mem_cons.1 hspares
    rw [ih hlater, hdeed.view_eq hspares]

/-- The instances that are made in a course are those in the cells that it takes. -/
lemma makes_iff (h : host.Course w deeds w') :
    (∃ deed ∈ deeds, deed.makes cell = true) ↔ w.cells.next ≤ cell ∧ cell < w'.cells.next := by
  induction h with
  | nil w => simp
  | @cons deed deeds w w₁ w' hdeed hs ih =>
    rw [List.exists_mem_cons_iff, hdeed.makes_iff, ih]
    constructor
    · rintro (⟨hle, hlt⟩ | ⟨hle, hlt⟩)
      · exact ⟨hle, Nat.lt_of_lt_of_le hlt hs.next_le⟩
      · exact ⟨Nat.le_trans hdeed.next_le hle, hlt⟩
    · rintro ⟨hle, hlt⟩
      rcases Nat.lt_or_ge cell w₁.cells.next with hcell | hcell
      · exact .inl ⟨hle, hcell⟩
      · exact .inr ⟨hcell, hlt⟩

end Course

end Host

/-! ## Logs -/

/-- What a host can write down of the calls of destructors and of the code that runs when a library is
closed. -/
inductive Entry (κ : Type) where
  /-- A destructor was called on an instance. -/
  | destroyed (code : κ) (i : Instance κ)
  /-- The code of a library that is closed was called. -/
  | unloaded (code : κ)

/-- What a host that keeps a log writes down of a deed. -/
def Deed.entries : Deed κ → List (Entry κ)
  | built .. => []
  | refused .. => []
  | asked _ => []
  | destroyed _ d _ i => d.destructor?.toList.map (.destroyed · i)
  | closed _ l => l.onUnload.toList.map .unloaded

/-- A host keeps a log when each destructor and each library that is closed adds its entry at the end,
and factories and methods add none. -/
structure Host.KeepsLog (host : Host κ ω) (log : ω → List (Entry κ)) : Prop where
  /-- A factory writes nothing down. -/
  create : ∀ code w, log ((host.create code).run w).2.memory.host = log w.memory.host
  /-- A method writes nothing down. -/
  method : ∀ code i w, log ((host.method code i).run w).2.memory.host = log w.memory.host
  /-- A destructor writes its call down. -/
  destroy : ∀ code i w,
    log ((host.destroy code i).run w).2.memory.host = log w.memory.host ++ [.destroyed code i]
  /-- A library that is closed is written down. -/
  unload : ∀ code w,
    log ((host.unload code).run w).2.memory.host = log w.memory.host ++ [.unloaded code]

namespace Host

/-- A host whose factories build empty instances, and whose other code does nothing but write down that
it was called. -/
def scribe (κ : Type) : Host κ (List (Entry κ)) where
  address _ := ""
  create _ := .pure (.ok .empty)
  destroy code i := .onMemory (modify fun m => { m with host := m.host ++ [.destroyed code i] })
  info _ _ := none
  unload code := .onMemory (modify fun m => { m with host := m.host ++ [.unloaded code] })
  method _ i := .pure (.ok (), i)
  callback _ _ _ := pure ()
  intrinsic _ _ _ := pure []
  test _ _ := pure false

lemma keepsLog_scribe (κ : Type) : (scribe κ).KeepsLog id where
  create _ _ := rfl
  method _ _ _ := rfl
  destroy _ _ _ := rfl
  unload _ _ := rfl

lemma leavesInstances_scribe (κ : Type) : (scribe κ).LeavesInstances where
  create _ _ := rfl
  destroy _ _ _ := rfl
  unload _ _ := rfl

variable {host : Host κ ω} {log : ω → List (Entry κ)} {deed : Deed κ} {deeds : List (Deed κ)}
  {w w' : World κ ω}

/-- Asking for a template writes nothing down. -/
lemma KeepsLog.askTemplate (h : host.KeepsLog log) (i : Instance κ) (w : World κ ω) :
    log ((CommandSet.askTemplate host i).run w).2.memory.host = log w.memory.host := by
  rcases CommandSet.askTemplate_cases host i w with ⟨-, hask⟩ | ⟨method, i', w', result, -, hm, hask, -⟩
  · rw [hask]
  · have hlog := h.method method.code { i with result? := none, args := [] } w
    rwa [hm, ← hask] at hlog

/-- A deed is written down. -/
lemma KeepsLog.happens (h : host.KeepsLog log) (hd : deed.Happens host w w') :
    log w'.memory.host = log w.memory.host ++ deed.entries := by
  cases hd with
  | @built _ d _ _ _ _ _ _ hc | @refused _ d _ _ _ hc =>
    rw [Deed.entries, List.append_nil]
    simpa only [hc, World.memory_place] using h.create d.factory w
  | asked c w =>
    rw [Deed.entries, List.append_nil]
    exact h.askTemplate (w.inst c) (w.setUsage c .taken)
  | @destroyed origin d c _ hidle =>
    simp only [Registry.destroy, Deed.entries]
    cases hcode : d.destructor? with
    | none => exact (List.append_nil _).symm
    | some code => exact h.destroy code (w.inst c) (w.setInst c .empty)
  | closed origin l w =>
    simp only [Registry.closeLibrary, Deed.entries]
    cases hcode : l.onUnload with
    | none => exact (List.append_nil _).symm
    | some code => exact h.unload code w

/-- **A host that keeps a log has written down the deeds in order**, and nothing else. -/
lemma Course.log_eq (h : host.Course w deeds w') (hlog : host.KeepsLog log) :
    log w'.memory.host = log w.memory.host ++ deeds.flatMap Deed.entries := by
  induction h with
  | nil => simp
  | cons hdeed _ ih => rw [ih, hlog.happens hdeed, List.flatMap_cons, List.append_assoc]

end Host

end BracketScript
