import Mathlib.Data.List.Basic

/-! # Maps that forget the least recently used key

What such a map has to answer is told by the calls made of it: adding a key uses it, and so does
finding one that is still held. A list of past calls has the latest one first. -/

namespace LruMap

variable {α β : Type*}

inductive Call (α β : Type*)
  | add (key : α) (value : β)
  | find (key : α)

variable [DecidableEq α] (n : Nat)

/-- The keys by their last use, the latest first. A key that is found to be forgotten is not
used. -/
def recent : List (Call α β) → List α
  | [] => []
  | .add k _ :: past => k :: (recent past).erase k
  | .find k :: past =>
    if k ∈ (recent past).take n then k :: (recent past).erase k else recent past

/-- The keys a map of size `n` holds. -/
def held (past : List (Call α β)) : List α := (recent n past).take n

def lastAdded (k : α) : List (Call α β) → Option β
  | [] => none
  | .add k' v :: past => if k' = k then some v else lastAdded k past
  | .find _ :: past => lastAdded k past

/-- What finding a key has to return. -/
def answer (past : List (Call α β)) (k : α) : Option β :=
  if k ∈ held n past then lastAdded k past else none

theorem length_held_le (past : List (Call α β)) : (held n past).length ≤ n :=
  List.length_take_le n _

variable {n} {past : List (Call α β)} {k : α}

@[simp] theorem lastAdded_add (v : β) : lastAdded k (.add k v :: past) = some v := if_pos rfl

theorem lastAdded_add_of_ne {k' : α} (h : k' ≠ k) (v : β) :
    lastAdded k (.add k' v :: past) = lastAdded k past := if_neg h

@[simp] theorem lastAdded_find (k' : α) : lastAdded k (.find k' :: past) = lastAdded k past := rfl

/-- A key within the first `n` stays there when it is used. -/
theorem take_use_of_mem {l : List α} (h : k ∈ l.take n) :
    (k :: l.erase k).take n = k :: (l.take n).erase k := by
  have hsplit : l.erase k = (l.take n).erase k ++ l.drop n := by
    rw [← List.erase_append_left _ h, List.take_append_drop]
  have hpos := List.length_pos_of_mem h
  have hlen : (k :: (l.take n).erase k).length = min n l.length := by
    rw [List.length_cons, List.length_erase_of_mem h, ← List.length_take]
    omega
  rw [hsplit, ← List.cons_append]
  obtain hle | hlt := Nat.le_total n l.length
  · exact List.take_left' (by omega)
  · rw [List.drop_eq_nil_of_le hlt, List.append_nil, List.take_of_length_le (by omega)]

/-- Any other key makes room for itself. -/
theorem take_use_of_not_mem {l : List α} (h : k ∉ l.take n) :
    (k :: l.erase k).take n = (k :: l.take n).take n := by
  have hsplit : l.erase k = l.take n ++ (l.drop n).erase k := by
    rw [← List.erase_append_right _ h, List.take_append_drop]
  rw [hsplit, ← List.cons_append]
  obtain hle | hlt := Nat.le_total n l.length
  · refine List.take_append_of_le_length ?_
    rw [List.length_cons, List.length_take]
    omega
  · rw [List.drop_eq_nil_of_le hlt, List.erase_nil, List.append_nil]

theorem held_add_of_mem (h : k ∈ held n past) (v : β) :
    held n (.add k v :: past) = k :: (held n past).erase k := take_use_of_mem h

theorem held_add_of_not_mem (h : k ∉ held n past) (v : β) :
    held n (.add k v :: past) = (k :: held n past).take n := take_use_of_not_mem h

theorem held_find_of_mem (h : k ∈ held n past) :
    held n (.find k :: past) = k :: (held n past).erase k := by
  have hrecent : recent n (.find k :: past) = k :: (recent n past).erase k := if_pos h
  rw [held, hrecent]
  exact take_use_of_mem h

theorem held_find_of_not_mem (h : k ∉ held n past) : held n (.find k :: past) = held n past := by
  have hrecent : recent n (.find k :: past) = recent n past := if_neg h
  rw [held, hrecent, held]

end LruMap
