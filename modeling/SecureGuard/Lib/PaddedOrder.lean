import Mathlib.Order.Lattice
import Mathlib.Data.List.GetD

/-! # Lists compared component by component

The first components that differ decide, and a missing component is zero. -/

namespace PaddedOrder

variable {α β : Type*} [LinearOrder α] [Zero α] [LinearOrder β] [Zero β] {a b c : List α}

def Greater (a b : List α) : Prop :=
  ∃ i, (∀ j < i, a.getD j 0 = b.getD j 0) ∧ b.getD i 0 < a.getD i 0

theorem Greater.irrefl (a : List α) : ¬Greater a a := by
  rintro ⟨i, -, hlt⟩
  exact lt_irrefl _ hlt

theorem Greater.trans (hab : Greater a b) (hbc : Greater b c) : Greater a c := by
  obtain ⟨i, hi, hlt⟩ := hab
  obtain ⟨k, hk, hlt'⟩ := hbc
  obtain h | rfl | h := Nat.lt_trichotomy i k
  · refine ⟨i, fun j hj => (hi j hj).trans (hk j (Nat.lt_trans hj h)), ?_⟩
    rw [← hk i h]
    exact hlt
  · exact ⟨i, fun j hj => (hi j hj).trans (hk j hj), hlt'.trans hlt⟩
  · refine ⟨k, fun j hj => (hi j (Nat.lt_trans hj h)).trans (hk j hj), ?_⟩
    rw [hi k h]
    exact hlt'

theorem Greater.asymm (h : Greater a b) : ¬Greater b a := fun h' => irrefl a (h.trans h')

/-- Where the first component of a list is greater, the list is. -/
theorem greater_of_head {x : α} (h : b.getD 0 0 < x) : Greater (x :: a) b :=
  ⟨0, fun _ hj => absurd hj (Nat.not_lt_zero _), h⟩

theorem Greater.cons (x : α) (h : Greater a b) : Greater (x :: a) (x :: b) := by
  obtain ⟨i, hi, hlt⟩ := h
  refine ⟨i + 1, fun j hj => ?_, hlt⟩
  cases j with
  | zero => rfl
  | succ j => exact hi j (Nat.lt_of_succ_lt_succ hj)

/-- What keeps zero and the order of the components keeps the order of the lists. -/
theorem greater_map_iff {f : α → β} (hf : StrictMono f) (hzero : f 0 = 0) :
    Greater (a.map f) (b.map f) ↔ Greater a b := by
  have hget : ∀ (l : List α) i, (l.map f).getD i 0 = f (l.getD i 0) := fun l i => by
    rw [← hzero, List.getD_map]
  unfold Greater
  simp only [hget, hf.injective.eq_iff, hf.lt_iff_lt]

/-- A list with components that are greater than any other is greater without them left out. -/
theorem greater_filter {p : α → Bool} {x : α} (hx : x ∈ a) (hp : p x = false)
    (hlt : ∀ y, p y = true → ∀ z, p z = false → y < z) (hzero : p 0 = true) :
    Greater a (a.filter p) := by
  induction a with
  | nil => cases hx
  | cons y a ih =>
    cases hy : p y with
    | true =>
      rw [List.filter_cons_of_pos hy]
      obtain rfl | hx := List.mem_cons.mp hx
      · exact absurd (hp.symm.trans hy) Bool.false_ne_true
      · exact (ih hx).cons y
    | false =>
      rw [List.filter_cons_of_neg (by simp [hy])]
      refine greater_of_head ?_
      cases hf : a.filter p with
      | nil => exact hlt 0 hzero y hy
      | cons z l =>
        have hz : z ∈ a.filter p := by
          rw [hf]
          exact List.mem_cons_self
        exact hlt z (List.mem_filter.mp hz).2 y hy

end PaddedOrder
