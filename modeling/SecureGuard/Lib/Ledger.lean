import Mathlib.Data.Finset.SDiff
import Mathlib.Data.Finset.Lattice.Basic

/-! # Shared resources and the owners that rely on them

Several owners establish resources in one set that is shared and not counted: whoever lifts a
resource takes it from everybody. The ledger records beside that set what each owner has
established, and which owners are on. It is sound as long as nothing is lifted that an owner
that is on relies on. -/

/-- The resources in force, what was established by whom, and the owners that are on. -/
structure Ledger (ω ρ : Type*) where
  inForce : Finset ρ
  claims : List (ω × ρ)
  on : ω → Bool

namespace Ledger

variable {ω ρ : Type*}

def empty : Ledger ω ρ := ⟨∅, [], fun _ => false⟩

/-- Everything any owner has established is in force. -/
def Sound (l : Ledger ω ρ) : Prop := ∀ c ∈ l.claims, c.2 ∈ l.inForce

/-- What the owners that are on have established is in force. -/
def InForce (l : Ledger ω ρ) : Prop := ∀ c ∈ l.claims, l.on c.1 = true → c.2 ∈ l.inForce

theorem Sound.inForce {l : Ledger ω ρ} (h : l.Sound) : l.InForce := fun c hc _ => h c hc

/-- No owner that is on relies on one of the resources. -/
def Free (l : Ledger ω ρ) (rs : Finset ρ) : Prop :=
  ∀ c ∈ l.claims, l.on c.1 = true → c.2 ∉ rs

/-! ## Resources -/

section Resources

variable [DecidableEq ρ]

instance (l : Ledger ω ρ) : Decidable l.InForce :=
  inferInstanceAs (Decidable (∀ c ∈ l.claims, l.on c.1 = true → c.2 ∈ l.inForce))

def impose (l : Ledger ω ρ) (rs : Finset ρ) : Ledger ω ρ := { l with inForce := l.inForce ∪ rs }

def establish (l : Ledger ω ρ) (o : ω) (r : ρ) : Ledger ω ρ :=
  { l with inForce := insert r l.inForce, claims := (o, r) :: l.claims }

/-- Lifting takes the resources from everybody; what an owner that is off had established of
them is forgotten. -/
def lift (l : Ledger ω ρ) (rs : Finset ρ) : Ledger ω ρ :=
  { l with
    inForce := l.inForce \ rs
    claims := l.claims.filter fun c => l.on c.1 || decide (c.2 ∉ rs) }

theorem mem_claims_lift {l : Ledger ω ρ} {rs : Finset ρ} {c : ω × ρ} :
    c ∈ (l.lift rs).claims ↔ c ∈ l.claims ∧ (l.on c.1 = true ∨ c.2 ∉ rs) := by
  simp [lift, List.mem_filter]

theorem sound_impose {l : Ledger ω ρ} (h : l.Sound) (rs : Finset ρ) : (l.impose rs).Sound :=
  fun c hc => Finset.mem_union_left rs (h c hc)

theorem sound_establish {l : Ledger ω ρ} (h : l.Sound) (o : ω) (r : ρ) :
    (l.establish o r).Sound := by
  intro c hc
  rcases List.mem_cons.mp hc with rfl | hc
  · exact Finset.mem_insert_self _ _
  · exact Finset.mem_insert_of_mem (h c hc)

theorem sound_lift {l : Ledger ω ρ} (h : l.Sound) {rs : Finset ρ} (hfree : l.Free rs) :
    (l.lift rs).Sound := by
  intro c hc
  obtain ⟨hc, hkept⟩ := mem_claims_lift.mp hc
  refine Finset.mem_sdiff.mpr ⟨h c hc, ?_⟩
  rcases hkept with hon | hother
  · exact hfree c hc hon
  · exact hother

/-- Lifting takes nothing from an owner that is on exactly if it is free. -/
theorem inForce_lift_iff {l : Ledger ω ρ} (h : l.Sound) (rs : Finset ρ) :
    (l.lift rs).InForce ↔ l.Free rs := by
  constructor
  · intro hin c hc hon hr
    have hkept : c ∈ (l.lift rs).claims := mem_claims_lift.mpr ⟨hc, Or.inl hon⟩
    exact (Finset.mem_sdiff.mp (hin c hkept hon)).2 hr
  · intro hfree
    exact (sound_lift h hfree).inForce

end Resources

/-! ## Owners -/

section Owners

variable [DecidableEq ω]

def switchOn (l : Ledger ω ρ) (o : ω) : Ledger ω ρ :=
  { l with on := Function.update l.on o true }

/-- An owner that is switched off relies on nothing any more. -/
def switchOff (l : Ledger ω ρ) (o : ω) : Ledger ω ρ :=
  { l with
    on := Function.update l.on o false
    claims := l.claims.filter fun c => decide (c.1 ≠ o) }

theorem switchOn_on_of_ne (l : Ledger ω ρ) {o o' : ω} (h : o' ≠ o) :
    (l.switchOn o).on o' = l.on o' :=
  Function.update_of_ne h _ _

@[simp] theorem switchOff_on_self (l : Ledger ω ρ) (o : ω) : (l.switchOff o).on o = false :=
  Function.update_self _ _ _

theorem switchOff_on_of_ne (l : Ledger ω ρ) {o o' : ω} (h : o' ≠ o) :
    (l.switchOff o).on o' = l.on o' :=
  Function.update_of_ne h _ _

theorem mem_claims_switchOff {l : Ledger ω ρ} {o : ω} {c : ω × ρ} :
    c ∈ (l.switchOff o).claims ↔ c ∈ l.claims ∧ c.1 ≠ o := by
  simp [switchOff, List.mem_filter]

theorem sound_switchOn {l : Ledger ω ρ} (h : l.Sound) (o : ω) : (l.switchOn o).Sound := h

theorem sound_switchOff {l : Ledger ω ρ} (h : l.Sound) (o : ω) : (l.switchOff o).Sound :=
  fun c hc => h c (mem_claims_switchOff.mp hc).1

theorem free_switchOff_iff (l : Ledger ω ρ) (o : ω) (rs : Finset ρ) :
    (l.switchOff o).Free rs ↔ ∀ c ∈ l.claims, c.1 ≠ o → l.on c.1 = true → c.2 ∉ rs := by
  constructor
  · intro h c hc hne hon
    rw [← l.switchOff_on_of_ne hne] at hon
    exact h c (mem_claims_switchOff.mpr ⟨hc, hne⟩) hon
  · intro h c hc hon
    obtain ⟨hc, hne⟩ := mem_claims_switchOff.mp hc
    rw [l.switchOff_on_of_ne hne] at hon
    exact h c hc hne hon

/-- It does not matter whether an owner is switched off before or after its resources are
lifted. -/
theorem switchOff_lift [DecidableEq ρ] (l : Ledger ω ρ) (o : ω) (rs : Finset ρ) :
    (l.lift rs).switchOff o = (l.switchOff o).lift rs := by
  simp only [lift, switchOff, List.filter_filter, mk.injEq, true_and, and_true]
  refine List.filter_congr fun c _ => ?_
  by_cases hc : c.1 = o
  · simp [hc]
  · simp [hc, Function.update_of_ne]

end Owners

end Ledger
