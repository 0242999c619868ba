import Mathlib.Data.List.Basic
import Mathlib.Tactic.Ring

/-! # Numbers in network order -/

namespace NetworkOrder

/-- The two bytes of a 16 bit number, the high one first. -/
def u16 (n : Nat) : List UInt8 := [UInt8.ofNat (n / 256), UInt8.ofNat n]

/-- The four bytes of a 32 bit number, the high one first. -/
def u32 (n : Nat) : List UInt8 := u16 (n / 0x10000) ++ u16 n

/-- The number in a string of bytes. -/
def beNat (bytes : List UInt8) : Nat := bytes.foldl (fun acc b => acc * 256 + b.toNat) 0

@[simp] theorem u16_length (n : Nat) : (u16 n).length = 2 := rfl

@[simp] theorem u32_length (n : Nat) : (u32 n).length = 4 := rfl

@[simp] theorem beNat_nil : beNat [] = 0 := rfl

theorem beNat_append (a b : List UInt8) : beNat (a ++ b) = beNat a * 256 ^ b.length + beNat b := by
  have h : ∀ (b : List UInt8) (n : Nat), b.foldl (fun acc b => acc * 256 + b.toNat) n =
      n * 256 ^ b.length + beNat b := by
    intro b
    induction b with
    | nil => simp
    | cons x b ih =>
      intro n
      have hx : beNat (x :: b) = x.toNat * 256 ^ b.length + beNat b := by
        simpa [beNat] using ih x.toNat
      rw [List.foldl_cons, ih, hx, List.length_cons, pow_succ]
      ring
  rw [beNat, List.foldl_append, h]
  rfl

theorem beNat_cons (x : UInt8) (b : List UInt8) :
    beNat (x :: b) = x.toNat * 256 ^ b.length + beNat b := by
  simpa [beNat] using beNat_append [x] b

theorem beNat_lt (b : List UInt8) : beNat b < 256 ^ b.length := by
  induction b with
  | nil => simp
  | cons x b ih =>
    have hx := x.toNat_lt
    rw [beNat_cons, List.length_cons, pow_succ]
    have hm : (x.toNat + 1) * 256 ^ b.length ≤ 256 * 256 ^ b.length :=
      Nat.mul_le_mul_right _ (by omega)
    calc x.toNat * 256 ^ b.length + beNat b < (x.toNat + 1) * 256 ^ b.length := by
          rw [Nat.add_mul, Nat.one_mul]
          omega
      _ ≤ 256 ^ b.length * 256 := by rwa [Nat.mul_comm _ 256]

theorem beNat_u16 {n : Nat} (h : n < 0x10000) : beNat (u16 n) = n := by
  simp only [u16, beNat, List.foldl_cons, List.foldl_nil, UInt8.toNat_ofNat']
  omega

/-- The number in the last `n` bytes of a number. -/
theorem beNat_bytes (n x : Nat) :
    beNat ((List.range n).map fun k => UInt8.ofNat (x >>> (8 * (n - 1 - k)))) = x % 256 ^ n := by
  induction n generalizing x with
  | zero => simp [Nat.mod_one]
  | succ n ih =>
    have hfirst : (List.range n).map (fun k => UInt8.ofNat (x >>> (8 * (n + 1 - 1 - k)))) =
        (List.range n).map fun k => UInt8.ofNat ((x / 256) >>> (8 * (n - 1 - k))) := by
      refine List.map_congr_left fun k hk => ?_
      have hlt := List.mem_range.mp hk
      have he : 8 * (n + 1 - 1 - k) = 8 + 8 * (n - 1 - k) := by omega
      rw [he, Nat.shiftRight_add, Nat.shiftRight_eq_div_pow x 8]
    have hlast : beNat [UInt8.ofNat (x >>> (8 * (n + 1 - 1 - n)))] = x % 256 := by
      have he : n + 1 - 1 - n = 0 := by omega
      rw [he, Nat.mul_zero, Nat.shiftRight_zero]
      simp [beNat]
    rw [List.range_succ, List.map_append, List.map_singleton, beNat_append, hfirst, ih, hlast,
      List.length_singleton, pow_one, pow_succ, Nat.mul_comm (256 ^ n) 256, Nat.mod_mul]
    omega

end NetworkOrder
