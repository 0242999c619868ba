import Mathlib.Data.List.Basic

/-! # Runs of a deterministic machine

A machine is a step function on a state and an input; nondeterminism (schedules, answers of
the environment) is carried by the inputs. A property of a run is stated about the state
before each step together with that step's input, so that it can speak of what the step
hands out, or about every state the run visits. The rules below turn a step lemma into the
corresponding fact about every run. -/

namespace Machine

variable {σ ι : Type*}

/-- The state a list of inputs leads to. -/
def run (step : σ → ι → σ) : σ → List ι → σ
  | s, [] => s
  | s, i :: is => run step (step s i) is

theorem run_append (step : σ → ι → σ) (s : σ) (is js : List ι) :
    run step s (is ++ js) = run step (run step s is) js := by
  induction is generalizing s with
  | nil => rfl
  | cons i is ih => exact ih (step s i)

/-- Every step of the run satisfies `P`, seen as its state before and its input. -/
def EveryStep (step : σ → ι → σ) (P : σ → ι → Prop) : σ → List ι → Prop
  | _, [] => True
  | s, i :: is => P s i ∧ EveryStep step P (step s i) is

/-- Every state of the run satisfies `P`, the first and the last included. -/
def EveryState (step : σ → ι → σ) (P : σ → Prop) : σ → List ι → Prop
  | s, [] => P s
  | s, i :: is => P s ∧ EveryState step P (step s i) is

variable {step : σ → ι → σ} {P Q : σ → ι → Prop} {Inv : σ → Prop}

instance EveryStep.decidable [∀ s i, Decidable (P s i)] :
    (s : σ) → (is : List ι) → Decidable (EveryStep step P s is)
  | _, [] => inferInstanceAs (Decidable True)
  | s, i :: is => @instDecidableAnd _ _ _ (EveryStep.decidable (step s i) is)

instance EveryState.decidable {P : σ → Prop} [∀ s, Decidable (P s)] :
    (s : σ) → (is : List ι) → Decidable (EveryState step P s is)
  | s, [] => inferInstanceAs (Decidable (P s))
  | s, i :: is => @instDecidableAnd _ _ _ (EveryState.decidable (step s i) is)

/-- The invariant rule for what steps do: an invariant kept by every good step makes `Q`
hold of every step of a good run. -/
theorem everyStep_of_invariant (keeps : ∀ s i, Inv s → P s i → Inv (step s i))
    (gives : ∀ s i, Inv s → P s i → Q s i) {s : σ} {is : List ι} (hi : Inv s)
    (h : EveryStep step P s is) : EveryStep step Q s is := by
  induction is generalizing s with
  | nil => trivial
  | cons i is ih => exact ⟨gives s i hi h.1, ih (keeps s i hi h.1) h.2⟩

/-- The invariant rule for the states of a run: what an invariant gives holds in all of them. -/
theorem everyState_of_invariant {G : σ → Prop} (keeps : ∀ s i, Inv s → P s i → Inv (step s i))
    (gives : ∀ s, Inv s → G s) {s : σ} {is : List ι} (hi : Inv s)
    (h : EveryStep step P s is) : EveryState step G s is := by
  induction is generalizing s with
  | nil => exact gives s hi
  | cons i is ih => exact ⟨gives s hi, ih (keeps s i hi h.1) h.2⟩

theorem EveryState.head {G : σ → Prop} {s : σ} {is : List ι} (h : EveryState step G s is) :
    G s := by
  cases is with
  | nil => exact h
  | cons i is => exact h.1

theorem EveryState.last {G : σ → Prop} {s : σ} {is : List ι} (h : EveryState step G s is) :
    G (run step s is) := by
  induction is generalizing s with
  | nil => exact h
  | cons i is ih => exact ih h.2

/-- Where a step out of an invariant state reaches a good state exactly if `P` holds of it, and
then keeps the invariant, every state of a run is good exactly if `P` holds of every step. -/
theorem everyState_iff_everyStep {G : σ → Prop} (gives : ∀ s, Inv s → G s)
    (good : ∀ s i, Inv s → (G (step s i) ↔ P s i))
    (keeps : ∀ s i, Inv s → P s i → Inv (step s i)) {s : σ} (hi : Inv s) (is : List ι) :
    EveryState step G s is ↔ EveryStep step P s is := by
  induction is generalizing s with
  | nil => simp [EveryState, EveryStep, gives s hi]
  | cons i is ih =>
    constructor
    · rintro ⟨-, h⟩
      have hp := (good s i hi).mp h.head
      exact ⟨hp, (ih (keeps s i hi hp)).mp h⟩
    · rintro ⟨hp, h⟩
      exact ⟨gives s hi, (ih (keeps s i hi hp)).mpr h⟩

/-- The same for the runs whose steps are all admissible. -/
theorem everyState_iff_everyStep_of_admissible {G : σ → Prop} {A : σ → ι → Prop}
    (gives : ∀ s, Inv s → G s) (good : ∀ s i, Inv s → A s i → (G (step s i) ↔ P s i))
    (keeps : ∀ s i, Inv s → A s i → P s i → Inv (step s i)) {s : σ} (hi : Inv s) (is : List ι)
    (ha : EveryStep step A s is) : EveryState step G s is ↔ EveryStep step P s is := by
  induction is generalizing s with
  | nil => simp [EveryState, EveryStep, gives s hi]
  | cons i is ih =>
    constructor
    · rintro ⟨-, h⟩
      have hp := (good s i hi ha.1).mp h.head
      exact ⟨hp, (ih (keeps s i hi ha.1 hp) ha.2).mp h⟩
    · rintro ⟨hp, h⟩
      exact ⟨gives s hi, (ih (keeps s i hi ha.1 hp) ha.2).mpr h⟩

/-- Two step properties that agree under an invariant, which the second one keeps, agree along
every run. -/
theorem everyStep_congr (agree : ∀ s i, Inv s → (P s i ↔ Q s i))
    (keeps : ∀ s i, Inv s → Q s i → Inv (step s i)) {s : σ} (hi : Inv s) (is : List ι) :
    EveryStep step P s is ↔ EveryStep step Q s is := by
  induction is generalizing s with
  | nil => exact Iff.rfl
  | cons i is ih =>
    constructor
    · rintro ⟨hp, h⟩
      have hq := (agree s i hi).mp hp
      exact ⟨hq, (ih (keeps s i hi hq)).mp h⟩
    · rintro ⟨hq, h⟩
      exact ⟨(agree s i hi).mpr hq, (ih (keeps s i hi hq)).mpr h⟩

/-- What holds of every input holds of every step. -/
theorem everyStep_of_forall_mem {A : ι → Prop} (s : σ) {is : List ι} (h : ∀ i ∈ is, A i) :
    EveryStep step (fun _ i => A i) s is := by
  induction is generalizing s with
  | nil => trivial
  | cons i is ih => exact ⟨h i (by simp), ih (step s i) fun j hj => h j (by simp [hj])⟩

theorem EveryStep.and {s : σ} {is : List ι} (hp : EveryStep step P s is)
    (hq : EveryStep step Q s is) : EveryStep step (fun s i => P s i ∧ Q s i) s is := by
  induction is generalizing s with
  | nil => trivial
  | cons i is ih => exact ⟨⟨hp.1, hq.1⟩, ih hp.2 hq.2⟩

end Machine
