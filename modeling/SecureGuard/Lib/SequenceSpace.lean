import Mathlib.Data.List.Basic

/-! # Sequence numbers

Numbers that count the elements of a stream modulo `2 ^ 32`. The place `n` of a stream that starts
at `start` has the number `seqAt start n`. Two places less than `2 ^ 32` apart have different
numbers, so a receiver that knows roughly where it is can tell from the number which place is
meant. A list of packets is `Consecutive` if each starts where the one before it ends. -/

namespace SequenceSpace

/-- The number of place `n`. -/
def seqAt (start : UInt32) (n : Nat) : UInt32 := start + UInt32.ofNat n

@[simp] theorem seqAt_zero (start : UInt32) : seqAt start 0 = start := UInt32.add_zero start

theorem seqAt_add (start : UInt32) (m n : Nat) :
    seqAt start (m + n) = seqAt start m + UInt32.ofNat n := by
  unfold seqAt
  rw [UInt32.ofNat_add, UInt32.add_assoc]

theorem seqAt_seqAt (start : UInt32) (m n : Nat) :
    seqAt (seqAt start m) n = seqAt start (m + n) := (seqAt_add start m n).symm

theorem seqAt_succ (start : UInt32) (n : Nat) : seqAt start (n + 1) = seqAt start n + 1 :=
  seqAt_add start n 1

/-- Of two places with one number, the later one is a multiple of `2 ^ 32` behind. -/
theorem seqAt_inj {start : UInt32} {m n : Nat} (h : seqAt start m = seqAt start n)
    (hm : m < n + 4294967296) (hn : n < m + 4294967296) : m = n := by
  have hcancel : UInt32.ofNat m = UInt32.ofNat n := UInt32.add_right_inj start |>.mp h
  have hmod := congrArg UInt32.toNat hcancel
  rw [UInt32.toNat_ofNat', UInt32.toNat_ofNat'] at hmod
  omega

/-! ## Packets in order -/

variable {α : Type*} (num : α → UInt32) (size : α → Nat)

/-- How many numbers a list of packets takes. -/
def total : List α → Nat
  | [] => 0
  | x :: xs => size x + total xs

/-- Each packet starts where the one before it ends, the first one at `start`. -/
def Consecutive : UInt32 → List α → Prop
  | _, [] => True
  | start, x :: xs => num x = start ∧ Consecutive (seqAt start (size x)) xs

theorem total_concat (xs : List α) (x : α) : total size (xs ++ [x]) = total size xs + size x := by
  induction xs with
  | nil => exact Nat.add_comm _ _
  | cons y xs ih => rw [List.cons_append, total, ih, total, Nat.add_assoc]

/-- One more packet at the end. -/
theorem consecutive_concat (start : UInt32) (xs : List α) (x : α) :
    Consecutive num size start (xs ++ [x]) ↔
      Consecutive num size start xs ∧ num x = seqAt start (total size xs) := by
  induction xs generalizing start with
  | nil => simp [Consecutive, total]
  | cons y xs ih =>
    rw [List.cons_append, Consecutive, ih, seqAt_seqAt, Consecutive, and_assoc]
    rfl

/-! ## Taking a stream in order -/

/-- What is taken where the last packet ended stays a prefix of the stream. -/
theorem prefix_append {β : Type*} {taken packet stream : List β} (ht : taken <+: stream)
    (hp : packet <+: stream.drop taken.length) : taken ++ packet <+: stream := by
  obtain ⟨rest, rfl⟩ := ht
  rw [List.drop_left] at hp
  exact List.prefix_append_right_inj taken |>.mpr hp

end SequenceSpace
