import Mathlib.Data.List.Basic

/-! # Loops that may not end

The body of a loop goes round again or leaves the loop with a value. It may hold loops of its
own, so it may not end either. Fuel bounds the rounds, and `none` says that it has run out;
`Ends x Q` says that it has not, and that the value satisfies `Q`. -/

namespace Loops

variable {α β σ τ : Type*}

/-- `fuel` rounds of a loop: `.inl` goes round again, `.inr` leaves. -/
def loop (body : σ → Option (σ ⊕ τ)) : (fuel : Nat) → σ → Option τ
  | 0, _ => none
  | fuel + 1, s =>
    (body s).bind fun
      | .inl s' => loop body fuel s'
      | .inr t => some t

/-- `x` ends, with a value that satisfies `Q`. -/
def Ends (x : Option α) (Q : α → Prop) : Prop := ∃ a, x = some a ∧ Q a

theorem Ends.some {a : α} {Q : α → Prop} (h : Q a) : Ends (some a) Q := ⟨a, rfl, h⟩

theorem Ends.mono {x : Option α} {P Q : α → Prop} (h : Ends x P) (hq : ∀ a, P a → Q a) :
    Ends x Q := by
  obtain ⟨a, ha, hp⟩ := h
  exact ⟨a, ha, hq a hp⟩

theorem Ends.bind {x : Option α} {f : α → Option β} {P : α → Prop} {Q : β → Prop}
    (hx : Ends x P) (hf : ∀ a, P a → Ends (f a) Q) : Ends (x.bind f) Q := by
  obtain ⟨a, ha, hp⟩ := hx
  rw [ha]
  exact hf a hp

/-- What a round out of `s` has to do: keep the invariant and come closer to the end, or
leave with a value that satisfies `Q`. -/
def Round (I : σ → Prop) (μ : σ → Nat) (Q : τ → Prop) (s : σ) : σ ⊕ τ → Prop
  | .inl s' => I s' ∧ μ s' < μ s
  | .inr t => Q t

/-- The rule for loops: with more fuel than the measure of the state it starts in, a loop ends,
and what holds on leaving it from an invariant state holds of its value. -/
theorem loop_ends {body : σ → Option (σ ⊕ τ)} {I : σ → Prop} {μ : σ → Nat} {Q : τ → Prop}
    (round : ∀ s, I s → Ends (body s) (Round I μ Q s)) (fuel : Nat) (s : σ) (hi : I s)
    (hf : μ s < fuel) : Ends (loop body fuel s) Q := by
  induction fuel generalizing s with
  | zero => omega
  | succ fuel ih =>
    refine (round s hi).bind ?_
    intro r hr
    cases r with
    | inl s' =>
      obtain ⟨hi', hlt⟩ := hr
      exact ih s' hi' (by omega)
    | inr t => exact Ends.some hr

end Loops
