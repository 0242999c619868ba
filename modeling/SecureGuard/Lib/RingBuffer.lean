import Mathlib.Data.List.Basic
import Mathlib.Data.List.GetD
import Mathlib.Data.Nat.ModEq

/-! # Rings that overwrite their oldest item

A ring of a fixed size holds the last items that were put into it. It is kept as an array of
slots, the position of the next slot to write and the number of items; the items it holds, the
oldest first, are what its operations are about. -/

namespace RingBuffer

variable {α : Type*}

structure Buffer (α : Type*) where
  slots : List (Option α)
  tail : Nat
  count : Nat

namespace Buffer

def size (r : Buffer α) : Nat := r.slots.length

/-- The position of the oldest item. -/
def firstPos (r : Buffer α) : Nat := if r.count < r.size then 0 else r.tail

/-- The position of the newest item. -/
def lastPos (r : Buffer α) : Nat := (r.tail + r.size - 1) % r.size

/-- What is at a position. -/
def item (r : Buffer α) (pos : Nat) : Option α := r.slots[pos]?.join

/-- The position of the `i`-th oldest item. -/
def posOf (r : Buffer α) (i : Nat) : Nat := (r.firstPos + i) % r.size

def put (r : Buffer α) (x : α) : Buffer α where
  slots := r.slots.set r.tail (some x)
  tail := (r.tail + 1) % r.size
  count := min (r.count + 1) r.size

/-- An item takes the place of another. -/
def replace (r : Buffer α) (pos : Nat) (x : α) : Buffer α :=
  { r with slots := r.slots.set pos (some x) }

def empty (size : Nat) : Buffer α := ⟨List.replicate size none, 0, 0⟩

/-- The items, the oldest first. -/
def items (r : Buffer α) : List α := (List.range r.count).filterMap fun i => r.item (r.posOf i)

/-- The ring holds exactly these items, the oldest first. -/
structure Holds (r : Buffer α) (l : List α) : Prop where
  length : l.length = r.count
  le : r.count ≤ r.size
  tail : r.count < r.size → r.tail = r.count
  lt : 0 < r.size → r.tail < r.size
  item : ∀ i < r.count, r.item (r.posOf i) = l[i]?

variable {r : Buffer α} {l : List α} {x : α} {i pos : Nat}

@[simp]
theorem size_put : (r.put x).size = r.size := List.length_set

@[simp]
theorem size_replace : (r.replace pos x).size = r.size := List.length_set

theorem holds_empty (size : Nat) : (empty size : Buffer α).Holds [] where
  length := rfl
  le := Nat.zero_le _
  tail := fun _ => rfl
  lt := id
  item := fun i hi => absurd hi (Nat.not_lt_zero i)

theorem Holds.items_eq (h : r.Holds l) : r.items = l := by
  have hmap : (List.range r.count).filterMap (fun i => r.item (r.posOf i)) =
      (List.range r.count).filterMap fun i => l[i]? := by
    refine List.filterMap_congr fun i hi => h.item i (List.mem_range.mp hi)
  rw [items, hmap, ← h.length]
  clear hmap h
  induction l with
  | nil => rfl
  | cons a l ih =>
    rw [List.length_cons, List.range_succ_eq_map, List.filterMap_cons, List.filterMap_map]
    simpa using ih

/-- A number below twice the size, modulo the size. -/
theorem mod_of_lt_two_mul {a n : Nat} (h : a < 2 * n) : a % n = if a < n then a else a - n := by
  split
  case isTrue hlt => exact Nat.mod_eq_of_lt hlt
  case isFalse hge =>
    rw [Nat.mod_eq_sub_mod (by omega)]
    exact Nat.mod_eq_of_lt (by omega)

/-- The positions of the items, without the modulus. -/
theorem posOf_eq (hlt : r.tail < r.size) (hle : r.count ≤ r.size) (hi : i < r.count) :
    r.posOf i = if r.count < r.size then i else if r.tail + i < r.size then r.tail + i
      else r.tail + i - r.size := by
  rw [posOf, firstPos]
  split
  · rw [Nat.zero_add, Nat.mod_eq_of_lt (by omega)]
  · exact mod_of_lt_two_mul (by omega)

theorem Holds.posOf_lt (h : r.Holds l) (hi : i < r.count) : r.posOf i < r.size :=
  Nat.mod_lt _ (by have := h.le; omega)

theorem Holds.posOf_inj (h : r.Holds l) {j : Nat} (hi : i < r.count) (hj : j < r.count)
    (heq : r.posOf i = r.posOf j) : i = j := by
  have hle := h.le
  have hlt := h.lt (by omega)
  rw [posOf_eq hlt hle hi, posOf_eq hlt hle hj] at heq
  split at heq
  · exact heq
  · split at heq <;> split at heq <;> omega

theorem item_set (pos q : Nat) (hpos : pos < r.slots.length) :
    (r.slots.set pos (some x))[q]?.join = if q = pos then some x else r.item q := by
  rw [List.getElem?_set, item]
  by_cases hq : q = pos
  · rw [if_pos hq.symm, if_pos hpos, if_pos hq]
    rfl
  · rw [if_neg (Ne.symm hq), if_neg hq]

theorem tail_put (hlt : r.tail < r.size) :
    (r.put x).tail = if r.tail + 1 < r.size then r.tail + 1 else 0 := by
  have hmod := mod_of_lt_two_mul (show r.tail + 1 < 2 * r.size by omega)
  have htail : (r.put x).tail = (r.tail + 1) % r.size := rfl
  rw [htail, hmod]
  split <;> omega

theorem item_put (hlt : r.tail < r.size) (q : Nat) :
    (r.put x).item q = if q = r.tail then some x else r.item q := item_set r.tail q hlt

/-- With room, every item stays where it is. -/
theorem Holds.posOf_put_of_lt (h : r.Holds l) (hroom : r.count < r.size) (hi : i ≤ r.count) :
    (r.put x).posOf i = i := by
  have hslot := h.tail hroom
  have hlt := h.lt (by omega)
  have hcount : (r.put x).count = min (r.count + 1) r.size := rfl
  have htail := tail_put (x := x) hlt
  split at htail <;>
    rw [posOf_eq (by rw [size_put]; omega) (by rw [size_put]; omega) (by omega), size_put] <;>
    split <;> first | rfl | (split <;> omega)

/-- In a full ring, the second oldest item becomes the oldest. -/
theorem Holds.posOf_put_of_full (h : r.Holds l) (hfull : r.count = r.size) (hi : i < r.count) :
    (r.put x).posOf i = if i + 1 = r.count then r.tail else r.posOf (i + 1) := by
  have hlt := h.lt (by omega)
  have hcount : (r.put x).count = min (r.count + 1) r.size := rfl
  have htail := tail_put (x := x) hlt
  have hlt' : (r.put x).tail < (r.put x).size := by
    rw [size_put, htail]
    split <;> omega
  have hle' : (r.put x).count ≤ (r.put x).size := by
    rw [size_put]
    omega
  rw [posOf_eq hlt' hle' (by omega), size_put, if_neg (by omega), htail]
  by_cases hlast : i + 1 = r.count
  · rw [if_pos hlast]
    split <;> split <;> omega
  · have hnotroom : ¬ r.count < r.size := by omega
    rw [if_neg hlast, posOf_eq hlt h.le (by omega), if_neg hnotroom]
    split <;> split <;> split <;> omega

/-- An item that is put in is the newest, and takes the place of the oldest if the ring is full. -/
theorem Holds.put (h : r.Holds l) (hsize : 0 < r.size) :
    (r.put x).Holds ((l ++ [x]).drop (l.length + 1 - r.size)) := by
  have hle := h.le
  have hlt := h.lt hsize
  have hlen := h.length
  have hcount : (r.put x).count = min (r.count + 1) r.size := rfl
  have htail := tail_put (x := x) hlt
  refine ⟨?_, ?_, fun hroom => ?_, fun _ => ?_, fun i hi => ?_⟩
  · rw [List.length_drop, List.length_append, List.length_singleton, hcount]
    omega
  · rw [size_put]
    omega
  · rw [size_put, hcount] at hroom
    rw [htail, hcount, h.tail (by omega)]
    split <;> omega
  · rw [size_put, htail]
    split <;> omega
  · rw [item_put hlt, List.getElem?_drop]
    by_cases hroom : r.count < r.size
    · have hslot := h.tail hroom
      have hdrop : l.length + 1 - r.size + i = i := by omega
      rw [h.posOf_put_of_lt hroom (by omega), hdrop]
      by_cases hlast : i = r.count
      · rw [if_pos (by omega), hlast, ← hlen, List.getElem?_concat_length]
      · have hpos : r.posOf i = i := by rw [posOf_eq hlt hle (by omega), if_pos hroom]
        rw [if_neg (by omega), List.getElem?_append_left (by omega), ← h.item i (by omega), hpos]
    · have hdrop : l.length + 1 - r.size + i = i + 1 := by omega
      rw [h.posOf_put_of_full (by omega) (by omega), hdrop]
      by_cases hlast : i + 1 = r.count
      · rw [if_pos hlast, if_pos rfl, hlast, ← hlen, List.getElem?_concat_length]
      · have hne : r.posOf (i + 1) ≠ r.tail := by
          have hzero : r.posOf 0 = r.tail := by
            rw [posOf_eq hlt hle (by omega), if_neg hroom, if_pos (by omega), Nat.add_zero]
          intro heq
          have := h.posOf_inj (by omega) (by omega) (heq.trans hzero.symm)
          omega
        rw [if_neg hlast, if_neg hne, List.getElem?_append_left (by omega), h.item _ (by omega)]

/-- Of many items that are put in, the last ones remain. -/
theorem Holds.puts (xs : List α) (h : r.Holds l) (hsize : 0 < r.size) :
    (xs.foldl Buffer.put r).Holds ((l ++ xs).drop (l.length + xs.length - r.size)) := by
  induction xs generalizing r l with
  | nil =>
    have hle := h.le
    have hdrop : l.length + 0 - r.size = 0 := by have := h.length; omega
    rw [List.append_nil, List.length_nil, hdrop]
    exact h
  | cons x xs ih =>
    have hput := h.put (x := x) hsize
    have hnext := ih hput (by rw [size_put]; exact hsize)
    rw [size_put, List.length_drop, List.length_append, List.length_singleton] at hnext
    rw [List.foldl_cons, List.length_cons]
    have hle := h.le
    have hlen := h.length
    have heq : ((l ++ [x]).drop (l.length + 1 - r.size) ++ xs).drop
        (l.length + 1 - (l.length + 1 - r.size) + xs.length - r.size) =
        (l ++ x :: xs).drop (l.length + (xs.length + 1) - r.size) := by
      have hcons : l ++ x :: xs = (l ++ [x]) ++ xs := by simp
      rw [hcons, ← List.drop_append_of_le_length (by simp), List.drop_drop]
      congr 1
      omega
    rw [← heq]
    exact hnext

/-- The items one after the other, by their positions. -/
theorem Holds.replace (h : r.Holds l) (hi : i < r.count) :
    (r.replace (r.posOf i) x).Holds (l.set i x) where
  length := by rw [List.length_set]; exact h.length
  le := by rw [size_replace]; exact h.le
  tail := by rw [size_replace]; exact h.tail
  lt := by rw [size_replace]; exact h.lt
  item := by
    intro j hj
    have hpos : (r.replace (r.posOf i) x).posOf j = r.posOf j := by
      rw [posOf, posOf, firstPos, firstPos, size_replace]
      rfl
    have hitem : ∀ q, (r.replace (r.posOf i) x).item q =
        if q = r.posOf i then some x else r.item q :=
      fun q => item_set (r.posOf i) q (h.posOf_lt hi)
    rw [hpos, hitem, List.getElem?_set, h.length]
    by_cases heq : i = j
    · subst heq
      rw [if_pos rfl, if_pos rfl, if_pos hi]
    · have hne : r.posOf j ≠ r.posOf i := fun he => heq (h.posOf_inj hj hi he).symm
      rw [if_neg hne, if_neg heq]
      exact h.item j hj

theorem posOf_zero (h : r.Holds l) (hcount : 0 < r.count) : r.posOf 0 = r.firstPos := by
  have hle := h.le
  have hlt := h.lt (by omega)
  rw [posOf_eq hlt hle hcount, firstPos]
  split
  · rfl
  · rw [if_pos (by omega), Nat.add_zero]

theorem posOf_last (h : r.Holds l) (hcount : 0 < r.count) : r.posOf (r.count - 1) = r.lastPos := by
  have hle := h.le
  have hlt := h.lt (by omega)
  rw [posOf_eq hlt hle (by omega), lastPos, mod_of_lt_two_mul (by omega)]
  split
  case isTrue hroom =>
    have := h.tail hroom
    split <;> omega
  case isFalse hfull => split <;> split <;> omega

theorem Holds.item_firstPos (h : r.Holds l) (hcount : 0 < r.count) :
    r.item r.firstPos = l.head? := by
  rw [← posOf_zero h hcount, h.item 0 hcount, List.head?_eq_getElem?]

theorem Holds.item_lastPos (h : r.Holds l) (hcount : 0 < r.count) :
    r.item r.lastPos = l.getLast? := by
  rw [← posOf_last h hcount, h.item _ (by omega), List.getLast?_eq_getElem?, h.length]

/-- The items are those at the first positions of the array. -/
theorem Holds.mem_iff (h : r.Holds l) : x ∈ l ↔ ∃ pos < r.count, r.item pos = some x := by
  have hle := h.le
  constructor
  · intro hx
    obtain ⟨i, hi⟩ := List.mem_iff_getElem?.mp hx
    obtain ⟨hlt, -⟩ := List.getElem?_eq_some_iff.mp hi
    rw [h.length] at hlt
    refine ⟨r.posOf i, ?_, (h.item i hlt).trans hi⟩
    have htail := h.lt (by omega)
    rw [posOf_eq htail hle hlt]
    split
    · exact hlt
    · split <;> omega
  · rintro ⟨pos, hpos, hitem⟩
    have htail := h.lt (by omega)
    have hindex : ∃ i < r.count, r.posOf i = pos := by
      by_cases hroom : r.count < r.size
      · exact ⟨pos, hpos, by rw [posOf_eq htail hle hpos, if_pos hroom]⟩
      · by_cases hwrap : r.tail ≤ pos
        · refine ⟨pos - r.tail, by omega, ?_⟩
          rw [posOf_eq htail hle (by omega), if_neg hroom, if_pos (by omega)]
          omega
        · refine ⟨pos + r.size - r.tail, by omega, ?_⟩
          rw [posOf_eq htail hle (by omega), if_neg hroom, if_neg (by omega)]
          omega
    obtain ⟨i, hi, rfl⟩ := hindex
    rw [h.item i hi] at hitem
    exact List.mem_of_getElem? hitem

end Buffer

end RingBuffer
