import BracketScript.Proofs.Script.ForestScan
import BracketScript.Proofs.Script.Language
import BracketScript.Proofs.Script.Steps

set_option autoImplicit false

/-!
# Running a script is walking its tree

A run knows nothing of the tree that a script is written from: it moves over the text with a stack
of open blocks, a stack of arguments and a stack of skips. The obvious interpreter walks the tree
left to right and depth first. The two do the same.

## Main definitions

* `BracketScript.Language.enclose` — what a block does around the blocks inside it.
* `BracketScript.Forest.walk`, `BracketScript.Script.walk` — the interpreter of trees.

## Main results

* `BracketScript.Script.run_written` — running the text of a script does what walking its tree does,
  and calls the same code in the same order with the same arguments.
* `BracketScript.CommandSet.run_eq_walk` — the same for a set of commands.
-/

namespace BracketScript

variable {σ : Type}

/-! ## The interpreter -/

/-- What a block at a depth does around the blocks inside it, which `inside` walks, leaving out the
one of the given number.

A conditional asks for the test that its first word names and leaves out the second block if the
test holds, otherwise the first. A command binds its argument text and calls its code before and
after. -/
def Language.enclose (L : Language σ) (head : Head) (depth : Nat)
    (inside : Option Nat → ExceptT Failure (StateM σ) Unit) : ExceptT Failure (StateM σ) Unit :=
  if head.name = Conditional.name then
    match Word.texts? head.argText with
    | none => throw (.badArguments head.name BindError.openQuote.message)
    | some [] => throw (.badArguments head.name "expected at least one argument")
    | some (test :: words) => do
      let holds ← L.ask test words
      inside (some (if holds then 2 else 1))
  else
    match L.command? head.name with
    | none => throw (.noCommand head.name)
    | some command =>
      match command.template.bind head.argText with
      | .error e => throw (.badArguments head.name e.message)
      | .ok args => do
        (command.onOpen ⟨head.name, args, depth⟩).adapt (Failure.commandFailed head.name)
        inside none
        (command.onClose ⟨head.name, args, depth⟩).adapt (Failure.commandFailed head.name)

/-- Walks a row of blocks inside `depth` others. -/
def Forest.walk (L : Language σ) (depth : Nat) : Forest → ExceptT Failure (StateM σ) Unit
  | nil => pure ()
  | cons head children _ siblings => do
    L.enclose head (depth + 1) fun n? => walk L (depth + 1) (children.skipping n?)
    walk L depth siblings
termination_by f => f.size
decreasing_by
  · have := children.size_skipping_le n?
    simp only [size]
    omega
  · simp only [size]
    omega

/-- Walks a script. -/
def Script.walk (L : Language σ) (s : Script) : ExceptT Failure (StateM σ) Unit :=
  s.blocks.walk L 0

/-! ## The simulation -/

/-- **A block does in a run what it does in a walk.** Suppose that the run, once the block is open
with some arguments and at most one skip, walks the blocks inside, closes the block and goes on with
`rest`. Then opening the block and running from there is what the block does around its inside in a
walk, followed by `rest`.

**Proof sketch.** By the cases of `Language.enclose`; each is one of the lemmas about opening a
block. -/
lemma Language.openBlock_bind (L : Language σ) (head : Head) (depth : Nat)
    (inside : Option Nat → ExceptT Failure (StateM σ) Unit)
    (run : Args → List Nat → ExceptT Failure (StateM σ) Unit)
    (rest : ExceptT Failure (StateM σ) Unit)
    (hrun : ∀ args n?, run args n?.toList = (do
      inside n?
      L.vocabulary.closeBlock ⟨head.name, args, depth⟩
      rest)) :
    (do
      let (args, skips) ← L.vocabulary.openBlock head.name head.argText depth
      run args skips) = (do
      L.enclose head depth inside
      rest) := by
  unfold enclose
  split
  · next hname =>
    rw [hname] at hrun ⊢
    match ht : Word.texts? head.argText with
    | none => rw [openBlock_conditional_of_openQuote ht, Effect.throw_bind, Effect.throw_bind]
    | some [] => rw [openBlock_conditional_of_nil ht, Effect.throw_bind, Effect.throw_bind]
    | some (test :: words) =>
      rw [openBlock_conditional ht]
      simp only [bind_assoc, pure_bind]
      refine bind_congr fun holds => ?_
      have h := hrun {} (some (if holds then 2 else 1))
      rw [closeBlock_conditional rfl, pure_bind] at h
      exact h
  · next hname =>
    match hc : L.command? head.name with
    | none => rw [openBlock_of_unknown hname hc, Effect.throw_bind, Effect.throw_bind]
    | some command =>
      match hb : command.template.bind head.argText with
      | .error e => simp only [openBlock_of_unbound hname hc hb, hb, Effect.throw_bind]
      | .ok args =>
        rw [openBlock_command hname hc hb]
        simp only [hb, bind_assoc, pure_bind]
        refine bind_congr fun _ => ?_
        have h := hrun args none
        rw [closeBlock_command hname hc] at h
        exact h

namespace Forest

lemma walk_nil (L : Language σ) (depth : Nat) : nil.walk L depth = pure () := by
  rw [walk]

lemma walk_cons (L : Language σ) (depth : Nat) (head : Head) (children : Forest) (after : Gap)
    (siblings : Forest) :
    (cons head children after siblings).walk L depth = (do
      L.enclose head (depth + 1) fun n? => (children.skipping n?).walk L (depth + 1)
      siblings.walk L depth) := by
  rw [walk]

/-- **A run over a row of blocks is a walk of the row.** From before the row the run comes to behind
it, having done what the walk does, and the skips of the blocks around are as they were.

**Proof sketch.** Induction on the row, as for a reader of the scan. A block with the number one is
passed over. Any other block is opened, and inside it the induction hypothesis for the row of its
children covers whatever number its opening asked for; then its closing bracket comes
(`Scanner.next_closed`), and `Language.openBlock_bind` puts the two ends together. -/
lemma runFrom_text (L : Language σ) (text : List Char) (f : Forest) :
    ∀ (stack : List String) (frames : List Args) (n? : Option Nat) (outer : List Skip) (gap : Gap)
      (rest : List Char), (∀ k ∈ outer, k.depth < stack.length) →
      ∃ (gap' : Gap) (m? : Option Nat), (n? = none → m? = none) ∧
        L.vocabulary.runFrom
            ⟨Scanner.place text stack n? outer (gap.chars ++ (f.text ++ rest)), frames⟩ = (do
          (f.skipping n?).walk L stack.length
          L.vocabulary.runFrom
            ⟨Scanner.place text stack m? outer (gap'.chars ++ rest), frames⟩) := by
  induction f with
  | nil =>
    intro stack frames n? outer gap rest _
    have hnil : nil.skipping n? = nil := by
      cases n? <;> rfl
    refine ⟨gap, n?, id, ?_⟩
    rw [hnil, walk_nil, pure_bind, Forest.text, List.nil_append]
  | cons head children after siblings ihc ihs =>
    intro stack frames n? outer gap rest hbelow
    simp only [Forest.text, List.cons_append, List.append_assoc]
    by_cases hn : n? = some 1
    · subst hn
      rw [Vocabulary.runFrom_congr (Scanner.next_skipped hbelow gap head children)]
      obtain ⟨gap', m?, -, h⟩ := ihs stack frames none outer after rest hbelow
      exact ⟨gap', m?, by simp, h⟩
    · obtain ⟨gap', m?, hm, hsiblings⟩ :=
        ihs stack frames (Skip.countdown n?) outer after rest hbelow
      refine ⟨gap', m?, fun h => hm (by rw [h, Skip.countdown_none]), ?_⟩
      rw [Vocabulary.runFrom_of_opened (Scanner.next_opened hbelow hn gap head children),
        Scanner.argText_place, skipping_cons_of_ne_one hn, walk_cons, bind_assoc, ← hsiblings]
      refine L.openBlock_bind head (stack.length + 1) _
        (fun args skips => L.vocabulary.runFrom (Position.opened _ _ head.name args skips)) _
        fun args k? => ?_
      obtain ⟨gap₁, k₁, -, hchildren⟩ := ihc (head.name :: stack) (args :: frames) k?
        (Skip.due stack.length n? ++ outer) head.args
        (')' :: (after.chars ++ (siblings.text ++ rest))) (Scanner.below_due_append hbelow)
      rw [Position.opened, Scanner.enter_place, hchildren,
        Vocabulary.runFrom_of_closed (Scanner.next_closed hbelow gap₁)]
      rfl

end Forest

/-- In every language, running a script has the result of the walk and leaves the state that the
walk leaves.

**Proof sketch.** From the start to behind the last block (`Forest.runFrom_text`), with no block
open; then the text ends. -/
lemma Script.run_eq_walk (L : Language σ) (script : Script) :
    L.run script.written = script.walk L := by
  obtain ⟨gap, m?, -, h⟩ :=
    script.blocks.runFrom_text L script.text [] [] none [] script.before [] (by simp)
  rw [List.append_nil, List.append_nil] at h
  rw [Language.run, Vocabulary.run, Position.start, script.start_written_eq_place, h,
    Vocabulary.runFrom_of_end (Scanner.next_end gap)]
  exact bind_pure _

/-- **Running a script is walking its tree.** For every language and every script, running the text
has the result of the walk and leaves the state that the walk leaves. So it does in the language
that keeps a log: the same tests are asked for, and the same code of commands is called, in the same
order and each with the same name, arguments and depth.

**Proof sketch.** The language with a log is a language like any other. -/
theorem Script.run_written (L : Language σ) (script : Script) :
    L.run script.written = script.walk L ∧
      L.recorded.run script.written = script.walk L.recorded :=
  ⟨script.run_eq_walk L, script.run_eq_walk L.recorded⟩

/-- A set of commands whose only intrinsic is the conditional runs a script by walking its tree. -/
theorem CommandSet.run_eq_walk {κ ω : Type} {cs : CommandSet κ}
    (h : cs.intrinsics = (CommandSet.standard : CommandSet κ).intrinsics) (host : Host κ ω)
    (script : Script) : cs.run host script.written = script.walk (cs.language host) := by
  rw [CommandSet.run, CommandSet.vocabulary_eq h]
  exact script.run_eq_walk (cs.language host)

end BracketScript
