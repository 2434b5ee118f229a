import BracketScript.Instance

set_option autoImplicit false

/-!
# The world of a host

Instances, stores of shared variables and dictionaries are shared by whoever holds a reference to
them. The *memory* has what values refer to, together with a state of the host's own; the *world* adds
the instances. Each instance stands in a cell that records how it is in use, because code that runs on
an instance has it for itself.

## Main definitions

* `BracketScript.Memory` — stores, dictionaries and the state of the host.
* `BracketScript.Usage`, `BracketScript.Cell` — how an instance is in use.
* `BracketScript.World` — memory and cells.
* `BracketScript.World.onMemory` — runs code on the memory.
* `BracketScript.World.lend` — runs code that has an instance for itself.
* `BracketScript.Visit` — code that reaches the whole world and gives back what it borrows.
* `BracketScript.World.onInstance` — runs code on an instance, which is part of the world.

## Main results

* `BracketScript.World.get?_setInst` — what overwriting an instance does to every cell.
* `BracketScript.World.usage_setInst`, `BracketScript.World.usage_setUsage` — how the instances are in use
  after a change.
-/

namespace BracketScript

/-- What values refer to, and the state of the host. -/
structure Memory (ω : Type) where
  /-- The stores of shared variables. -/
  stores : Pool Variables := {}
  /-- The dictionaries. -/
  dicts : Pool Dict := {}
  /-- The references to boxed objects that are taken. -/
  boxes : Nat := 0
  /-- The state of the host. -/
  host : ω

namespace Memory

variable {ω : Type}

/-- The variables of a store; one that is not there is empty. -/
def store (m : Memory ω) (ref : Ref) : Variables :=
  (m.stores.get? ref).getD .empty

/-- Sets, overwrites or removes a variable of a store. -/
def assign (m : Memory ω) (ref : Ref) (name : String) (value : Option Value) : Memory ω :=
  { m with stores := m.stores.modify ref (·.assign name value) }

/-- Makes an empty store. -/
def newStore : StateM (Memory ω) Ref := do
  let m ← get
  set { m with stores := m.stores.add .empty }
  return m.stores.next

/-- The entries of a dictionary; one that is not there is empty. -/
def dict (m : Memory ω) (ref : Ref) : Dict :=
  (m.dicts.get? ref).getD .empty

/-- The depth to which the dictionaries can be nested. -/
def dictDepth (m : Memory ω) : Nat :=
  m.dicts.next + 1

/-- Takes references for the boxed objects of a list of arguments. -/
def takeBoxes (count : Nat) : StateM (Memory ω) Ref := do
  let m ← get
  set { m with boxes := m.boxes + count }
  return m.boxes

end Memory

/-- How an instance is in use. -/
inductive Usage where
  /-- Not at all. -/
  | idle
  /-- Somebody reads it, and so do this many others. -/
  | read (others : Nat)
  /-- Somebody has it for himself. -/
  | taken
deriving DecidableEq, Repr, Inhabited

/-- The place of an instance. -/
structure Cell (κ : Type) where
  /-- The instance. -/
  inst : Instance κ := .empty
  /-- How it is in use. -/
  usage : Usage := .idle

instance {κ : Type} : Inhabited (Cell κ) := ⟨{}⟩

/-- Memory and instances. -/
structure World (κ ω : Type) where
  /-- The instances. -/
  cells : Pool (Cell κ) := {}
  /-- What values refer to, and the state of the host. -/
  memory : Memory ω

namespace World

variable {κ ω α : Type}

/-- The cell of an instance; one that is not there is empty. -/
def cell (w : World κ ω) (ref : Ref) : Cell κ :=
  (w.cells.get? ref).getD {}

/-- The instance at a place. -/
def inst (w : World κ ω) (ref : Ref) : Instance κ :=
  (w.cell ref).inst

/-- Whether nobody uses an instance. -/
def isIdle (w : World κ ω) (ref : Ref) : Bool :=
  (w.cell ref).usage = .idle

/-- Whether an instance can be read: nobody has it for himself. -/
def isReadable (w : World κ ω) (ref : Ref) : Bool :=
  (w.cell ref).usage ≠ .taken

/-- Overwrites an instance, however it is in use. -/
def setInst (w : World κ ω) (ref : Ref) (i : Instance κ) : World κ ω :=
  { w with cells := w.cells.modify ref fun c => { c with inst := i } }

/-- Changes how an instance is in use. -/
def setUsage (w : World κ ω) (ref : Ref) (usage : Usage) : World κ ω :=
  { w with cells := w.cells.modify ref fun c => { c with usage } }

/-- Overwriting an instance changes no other cell and no usage. -/
theorem get?_setInst (w : World κ ω) (ref s : Ref) (i : Instance κ) :
    (w.setInst ref i).cells.get? s =
      if ref = s then (w.cells.get? s).map fun c => { c with inst := i } else w.cells.get? s :=
  w.cells.get?_modify ref s _

@[simp]
theorem next_setInst (w : World κ ω) (ref : Ref) (i : Instance κ) :
    (w.setInst ref i).cells.next = w.cells.next :=
  w.cells.next_modify ref _

/-- Overwriting an instance does not change how any is in use. -/
@[simp]
theorem usage_setInst (w : World κ ω) (ref : Ref) (i : Instance κ) (s : Ref) :
    ((w.setInst ref i).cell s).usage = (w.cell s).usage := by
  simp only [cell, get?_setInst]
  by_cases h : ref = s
  · cases hs : w.cells.get? s <;> simp [h]
  · simp [h]

@[simp]
theorem next_setUsage (w : World κ ω) (ref : Ref) (usage : Usage) :
    (w.setUsage ref usage).cells.next = w.cells.next :=
  w.cells.next_modify ref _

/-- How one instance is in use changes, if it is there, and nothing else. -/
theorem usage_setUsage (w : World κ ω) (ref s : Ref) (usage : Usage) :
    ((w.setUsage ref usage).cell s).usage =
      if ref = s ∧ s < w.cells.next then usage else (w.cell s).usage := by
  simp only [cell, setUsage, Pool.get?_modify, ← Pool.get?_isSome_iff]
  by_cases h : ref = s
  · cases hs : w.cells.get? s <;> simp [h]
  · simp [h]

/-- Puts an instance into a cell of its own. -/
def newCell (i : Instance κ) : StateM (World κ ω) Ref := do
  let w ← get
  set { w with cells := w.cells.add { inst := i } }
  return w.cells.next

/-- Runs code on the memory. -/
def onMemory (code : StateM (Memory ω) α) : StateM (World κ ω) α := fun w =>
  let (a, m) := code w.memory
  (a, { w with memory := m })

/-- Runs code that has an instance for itself. That fails if the instance is in use already; the
instance is given back also when the code fails. -/
def lend (ref : Ref) (code : ExceptT String (StateM (World κ ω)) α) :
    ExceptT String (StateM (World κ ω)) α :=
  ExceptT.mk do
    if (← get).isIdle ref then
      modify (·.setUsage ref .taken)
      let result ← code.run
      modify (·.setUsage ref .idle)
      return result
    else
      return .error "module instance is already in use"

end World

/-- Code that reaches the whole world. It may change the memory and every instance, also one that
somebody else refers to, but it makes no cells, and it gives back the instances that it borrows: when it
is over, each is in use as before. -/
structure Visit (κ ω α : Type) where
  /-- What the code does. -/
  run : StateM (World κ ω) α
  /-- It makes no cells. -/
  next_run : ∀ w, (run w).2.cells.next = w.cells.next
  /-- Each instance is in use as before. -/
  usage_run : ∀ w ref, ((run w).2.cell ref).usage = (w.cell ref).usage

namespace Visit

variable {κ ω α β : Type}

/-- Code that does nothing but answer. -/
def pure (a : α) : Visit κ ω α where
  run w := (a, w)
  next_run _ := rfl
  usage_run _ _ := rfl

/-- Code whose answer is turned into another one. -/
def map (f : α → β) (v : Visit κ ω α) : Visit κ ω β where
  run w :=
    let (a, w) := v.run w
    (f a, w)
  next_run := v.next_run
  usage_run := v.usage_run

/-- Code that reaches the memory alone. -/
def onMemory (code : StateM (Memory ω) α) : Visit κ ω α where
  run := World.onMemory code
  next_run _ := rfl
  usage_run _ _ := rfl

end Visit

/-- Runs code on an instance, which it has for itself. The code gets the instance and gives it back with
its answer, and it can reach all other instances. -/
def World.onInstance {κ ω α : Type} (ref : Ref) (code : Instance κ → Visit κ ω (α × Instance κ)) :
    Visit κ ω α where
  run w :=
    let ended := (code (w.inst ref)).run (w.setUsage ref .taken)
    (ended.1.1, (ended.2.setUsage ref (w.cell ref).usage).setInst ref ended.1.2)
  next_run w := by
    rw [next_setInst, next_setUsage, (code _).next_run, next_setUsage]
  usage_run w s := by
    rw [usage_setInst, usage_setUsage, (code _).next_run, (code _).usage_run, usage_setUsage,
      next_setUsage]
    split
    · next h => rw [h.1]
    · rfl

end BracketScript
