import Mathlib.Data.Nat.ModEq
import Mathlib.Tactic.Ring
import SecureGuard.Lib.NetworkOrder

/-! # The checksum of the internet protocols

The one's complement of the one's complement sum of 16 bit words. That sum is a matter of the
words modulo 0xFFFF: 0x10000 counts as one, so a shift by one byte only multiplies it by 256. -/

namespace InternetChecksum

open NetworkOrder

/-- The sum of the 16 bit words in network order; the last byte is padded with zero. -/
def wordSum : List UInt8 → Nat
  | [] => 0
  | [b] => b.toNat * 256
  | b :: b' :: rest => b.toNat * 256 + b'.toNat + wordSum rest

/-- The sum with all its carries folded in is 0xFFFF: the bytes, the checksum with them, are
accepted by a receiver. -/
def Verifies (bytes : List UInt8) : Prop := wordSum bytes ≠ 0 ∧ wordSum bytes ≡ 0 [MOD 0xffff]

instance (bytes : List UInt8) : Decidable (Verifies bytes) := inferInstanceAs (Decidable (_ ∧ _))

@[simp] theorem wordSum_nil : wordSum [] = 0 := rfl

theorem wordSum_u16 {n : Nat} (h : n < 0x10000) : wordSum (u16 n) = n := by
  simp only [u16, wordSum, UInt8.toNat_ofNat']
  omega

theorem wordSum_u16_append {n : Nat} (h : n < 0x10000) (rest : List UInt8) :
    wordSum (u16 n ++ rest) = n + wordSum rest := by
  simp only [u16, wordSum, List.cons_append, List.nil_append, UInt8.toNat_ofNat']
  omega

/-- Words that start at an even offset keep their places. -/
theorem wordSum_append {a : List UInt8} (h : a.length % 2 = 0) (b : List UInt8) :
    wordSum (a ++ b) = wordSum a + wordSum b := by
  induction a using wordSum.induct with
  | case1 => simp
  | case2 x => simp at h
  | case3 x y rest ih =>
    have hr : rest.length % 2 = 0 := by
      simp only [List.length_cons] at h
      omega
    rw [List.cons_append, List.cons_append, wordSum, wordSum, ih hr]
    omega

theorem wordSum_cons_modEq (b : UInt8) (rest : List UInt8) :
    wordSum (b :: rest) ≡ b.toNat * 256 + 256 * wordSum rest [MOD 0xffff] := by
  induction rest using wordSum.induct generalizing b with
  | case1 =>
    simp only [wordSum, Nat.ModEq]
    omega
  | case2 x =>
    simp only [wordSum, Nat.ModEq]
    omega
  | case3 x y rest ih =>
    have h := ih y
    simp only [wordSum, Nat.ModEq] at h ⊢
    omega

/-- Words are shifted by one byte behind an odd number of them. -/
theorem wordSum_append_modEq (a b : List UInt8) :
    wordSum (a ++ b) ≡ wordSum a + 256 ^ a.length * wordSum b [MOD 0xffff] := by
  induction a with
  | nil => simp [Nat.ModEq]
  | cons x a ih =>
    calc wordSum (x :: (a ++ b))
        ≡ x.toNat * 256 + 256 * wordSum (a ++ b) [MOD 0xffff] := wordSum_cons_modEq x (a ++ b)
      _ ≡ x.toNat * 256 + 256 * (wordSum a + 256 ^ a.length * wordSum b) [MOD 0xffff] :=
          (ih.mul_left 256).add_left _
      _ = (x.toNat * 256 + 256 * wordSum a) + 256 ^ (x :: a).length * wordSum b := by
          rw [List.length_cons, pow_succ]
          ring
      _ ≡ wordSum (x :: a) + 256 ^ (x :: a).length * wordSum b [MOD 0xffff] :=
          (wordSum_cons_modEq x a).symm.add_right _

end InternetChecksum
