import Mathlib.Data.List.Basic
import Mathlib.Data.List.TakeWhile

/-! # Programs whose actions may throw

A program is a list of blocks. An action that throws has no effect of its own; it ends a block
that catches exceptions, and with any other block the whole program. Which actions throw is
arbitrary, and given as a predicate. -/

namespace Exceptions

variable {α σ : Type*}

/-- Actions one after the other, alone or in a block that catches what they throw. -/
inductive Block (α : Type*)
  | run (actions : List α)
  | tryCatch (actions : List α)
deriving DecidableEq, Repr

def Block.actions : Block α → List α
  | .run actions => actions
  | .tryCatch actions => actions

/-- The actions whose exceptions nothing catches. -/
def uncaught : List (Block α) → List α
  | [] => []
  | .run actions :: blocks => actions ++ uncaught blocks
  | .tryCatch _ :: blocks => uncaught blocks

section Run

variable (throws : α → Bool) (perform : σ → α → σ)

/-- The state that is reached, and whether all actions were performed. -/
def runActions : σ → List α → σ × Bool
  | s, [] => (s, true)
  | s, a :: as => if throws a then (s, false) else runActions (perform s a) as

def runBlocks : σ → List (Block α) → σ × Bool
  | s, [] => (s, true)
  | s, .run actions :: blocks =>
    match runActions throws perform s actions with
    | (s', true) => runBlocks s' blocks
    | (s', false) => (s', false)
  | s, .tryCatch actions :: blocks =>
    runBlocks (runActions throws perform s actions).1 blocks

end Run

variable {throws : α → Bool} {perform : σ → α → σ}

theorem runActions_snd_iff (s : σ) (as : List α) :
    (runActions throws perform s as).2 = true ↔ ∀ a ∈ as, throws a = false := by
  induction as generalizing s with
  | nil => simp [runActions]
  | cons a as ih =>
    rw [runActions]
    cases h : throws a with
    | true => simp [h]
    | false => simpa [h] using ih (perform s a)

/-- Where a list of actions is not performed to its end, its last action had no effect. -/
theorem runActions_concat_of_incomplete (s : σ) (as : List α) (a : α)
    (h : (runActions throws perform s (as ++ [a])).2 = false) :
    (runActions throws perform s (as ++ [a])).1 = (runActions throws perform s as).1 := by
  induction as generalizing s with
  | nil =>
    rw [List.nil_append, runActions] at h ⊢
    cases ha : throws a with
    | true => rfl
    | false => rw [ha] at h; cases h
  | cons b as ih =>
    rw [List.cons_append, runActions] at h ⊢
    rw [runActions]
    cases hb : throws b with
    | true => rfl
    | false =>
      rw [hb] at h
      exact ih (perform s b) h

/-- Without exceptions all actions are performed. -/
theorem runActions_of_not_throws (s : σ) {as : List α} (h : ∀ a ∈ as, throws a = false) :
    runActions throws perform s as = (as.foldl perform s, true) := by
  induction as generalizing s with
  | nil => rfl
  | cons a as ih =>
    rw [runActions, h a List.mem_cons_self]
    exact ih (perform s a) fun b hb => h b (List.mem_cons_of_mem a hb)

theorem runBlocks_run (s : σ) (as : List α) :
    runBlocks throws perform s [.run as] = runActions throws perform s as := by
  rw [runBlocks]
  split
  next heq => rw [heq]; rfl
  next heq => rw [heq]

/-- A program completes exactly if nothing throws that is not caught. -/
theorem runBlocks_snd_iff (s : σ) (blocks : List (Block α)) :
    (runBlocks throws perform s blocks).2 = true ↔ ∀ a ∈ uncaught blocks, throws a = false := by
  induction blocks generalizing s with
  | nil => simp [runBlocks, uncaught]
  | cons b blocks ih =>
    cases b with
    | tryCatch actions => exact ih _
    | run actions =>
      have hactions : (runActions throws perform s actions).2 = true ↔ _ :=
        runActions_snd_iff s actions
      rw [runBlocks, uncaught, List.forall_mem_append, ← hactions]
      split
      next s' heq =>
        rw [heq]
        exact (ih s').trans (iff_and_self.mpr fun _ => rfl)
      next s' heq =>
        rw [heq]
        exact iff_of_false Bool.false_ne_true fun h => Bool.false_ne_true h.1

/-- Without exceptions the blocks do not matter. -/
theorem runBlocks_of_not_throws (s : σ) (blocks : List (Block α)) :
    runBlocks (fun _ => false) perform s blocks =
      ((blocks.flatMap Block.actions).foldl perform s, true) := by
  induction blocks generalizing s with
  | nil => rfl
  | cons b blocks ih =>
    have hactions : ∀ as, runActions (fun _ => false) perform s as = (as.foldl perform s, true) :=
      fun as => runActions_of_not_throws s fun _ _ => rfl
    rw [List.flatMap_cons, List.foldl_append, ← ih]
    cases b with
    | run actions =>
      rw [runBlocks, hactions]
      rfl
    | tryCatch actions =>
      rw [runBlocks, hactions]
      rfl

/-- The invariant rule: what every action keeps, the run keeps. -/
theorem runActions_invariant {P : σ → Prop} {s : σ} {as : List α}
    (keeps : ∀ a ∈ as, ∀ s, P s → P (perform s a)) (h : P s) :
    P (runActions throws perform s as).1 := by
  induction as generalizing s with
  | nil => exact h
  | cons a as ih =>
    rw [runActions]
    cases throws a with
    | true => exact h
    | false =>
      exact ih (fun b hb => keeps b (List.mem_cons_of_mem a hb)) (keeps a List.mem_cons_self s h)

theorem runBlocks_invariant {P : σ → Prop} {s : σ} {blocks : List (Block α)}
    (keeps : ∀ b ∈ blocks, ∀ a ∈ b.actions, ∀ s, P s → P (perform s a)) (h : P s) :
    P (runBlocks throws perform s blocks).1 := by
  induction blocks generalizing s with
  | nil => exact h
  | cons b blocks ih =>
    have hactions : P (runActions throws perform s b.actions).1 :=
      runActions_invariant (keeps b List.mem_cons_self) h
    have hrest := fun b' hb' => keeps b' (List.mem_cons_of_mem b hb')
    cases b with
    | tryCatch actions => exact ih hrest hactions
    | run actions =>
      rw [runBlocks]
      split
      next s' heq => exact ih hrest (by rw [Block.actions, heq] at hactions; exact hactions)
      next s' heq => rw [Block.actions, heq] at hactions; exact hactions

/-- A program after another one is run where the first one completes. -/
theorem runBlocks_append (s : σ) (bs cs : List (Block α)) :
    runBlocks throws perform s (bs ++ cs) =
      if (runBlocks throws perform s bs).2 then
        runBlocks throws perform (runBlocks throws perform s bs).1 cs
      else runBlocks throws perform s bs := by
  induction bs generalizing s with
  | nil => rfl
  | cons b bs ih =>
    cases b with
    | tryCatch actions => exact ih _
    | run actions =>
      rw [List.cons_append, runBlocks, runBlocks]
      split
      next s' heq => exact ih s'
      next s' heq => rfl

end Exceptions
