import Mathlib.Algebra.Order.Ring.Nat
import SecureGuard.Lib.Machine
import SecureGuard.Native.Blacklist

/-! # The statuses of the loaded lists (`load_new_blacklists`)

Each list that is loaded adds an entry to an array. The array is extended where its size is not
below the number of entries, which is the test of `notif_connection` the other way round: it
doubles with every list, and where `realloc` failed after an entry it is never extended again. -/

namespace SecureGuard.Native
open Machine

/-- `bl_status_t`. -/
structure BlStatus where
  fname : CStr
  numRules : Int

/-- `bl_status_arr_t`, with what has been stored where `items` is not `NULL`. The size is not
wrapped: a turn that takes it past an `int` is not safe. -/
structure BlStatusArr where
  items : Option (List BlStatus)
  size : Nat
  curItems : Nat

/-- What a turn of the loop finds: whether `blacklist_load_file` succeeds and what it counts,
whether `pd_realloc` does, and what `pd_strdup` returns. -/
structure ListLoad where
  loaded : Bool
  numRules : Int
  reallocated : Bool
  fname : Option CStr

/-- `INT_MAX`. -/
def cIntMax : Nat := 0x7FFFFFFF

namespace BlStatusArr

/-- `pd_calloc`. -/
def calloc : BlStatusArr := ⟨none, 0, 0⟩

/-- `status_arr->size >= status_arr->cur_items`. -/
def isExtended (arr : BlStatusArr) : Bool := arr.curItems ≤ arr.size

/-- The doubled array. -/
def extend (arr : BlStatusArr) (reallocated : Bool) : BlStatusArr where
  items := if reallocated then some (arr.items.getD []) else none
  size := if arr.size = 0 then 8 else arr.size * 2
  curItems := arr.curItems

/-- The array when a loaded list comes to the test of `items`, or past it. -/
def prepared (arr : BlStatusArr) (l : ListLoad) : BlStatusArr :=
  if arr.isExtended then arr.extend l.reallocated else arr

/-- `status_arr->items[status_arr->cur_items++] = ...`. -/
def store (arr : BlStatusArr) (status : BlStatus) : BlStatusArr :=
  { arr with items := arr.items.map (· ++ [status]), curItems := arr.curItems + 1 }

/-- The array was to be extended and is `NULL` instead. -/
def fails (arr : BlStatusArr) (l : ListLoad) : Bool := arr.isExtended && !l.reallocated

/-- A turn of the loop. -/
def step (arr : BlStatusArr) (l : ListLoad) : BlStatusArr :=
  if !l.loaded then arr
  else if arr.fails l then { arr.prepared l with size := 0 }
  else
    match l.fname with
    | none => arr.prepared l
    | some fname => (arr.prepared l).store ⟨fname, l.numRules⟩

/-- A turn comes to its write. -/
def writes (arr : BlStatusArr) (l : ListLoad) : Bool :=
  l.loaded && !arr.fails l && l.fname.isSome

/-! ## What every turn has to keep to -/

/-- The bounds of the size. -/
structure Bounded (arr : BlStatusArr) : Prop where
  growth : arr.size ≤ max 8 (2 * arr.curItems)
  fits : arr.size ≤ cIntMax

/-- There is an array, and it has room for an entry. -/
structure HasRoom (arr : BlStatusArr) : Prop where
  notNull : arr.items.isSome = true
  below : arr.curItems < arr.size

/-- The size is within its bounds when it is set and when the turn is over, and an entry is
written where there is room for it. -/
structure Safe (arr : BlStatusArr) (l : ListLoad) : Prop where
  extended : l.loaded = true → (arr.prepared l).Bounded
  bounded : (arr.step l).Bounded
  inRange : arr.writes l = true → (arr.prepared l).HasRoom

/-- The first `realloc` has succeeded. -/
structure Allocated (arr : BlStatusArr) : Prop where
  size : arr.size = 8
  entries : arr.curItems ≤ 1

variable {arr : BlStatusArr} {l : ListLoad}

theorem bounded_calloc : calloc.Bounded := ⟨Nat.zero_le _, Nat.zero_le _⟩

theorem Allocated.bounded (h : arr.Allocated) : arr.Bounded where
  growth := by
    rw [h.size]
    exact Nat.le_max_left 8 _
  fits := by
    rw [h.size, cIntMax]
    omega

theorem step_of_not_loaded (h : l.loaded = false) : arr.step l = arr := by
  rw [step, h]
  rfl

theorem safe_of_not_loaded (hb : arr.Bounded) (h : l.loaded = false) : arr.Safe l where
  extended hl := by
    rw [h] at hl
    cases hl
  bounded := (step_of_not_loaded h).symm ▸ hb
  inRange hw := by
    rw [writes, h] at hw
    cases hw

/-! ## The first turns -/

theorem fails_calloc (l : ListLoad) : calloc.fails l = !l.reallocated := rfl

/-- A failed `realloc` leaves the empty array as it was. -/
theorem step_calloc_of_failed (h : l.reallocated = false) : calloc.step l = calloc := by
  rw [step, fails_calloc, prepared, h]
  split
  · rfl
  · rfl

theorem safe_calloc_of_failed (h : l.reallocated = false) : calloc.Safe l where
  extended _ := by
    rw [prepared, h]
    exact ⟨Nat.le_max_left 8 _, by decide⟩
  bounded := (step_calloc_of_failed h).symm ▸ bounded_calloc
  inRange hw := by
    rw [writes, fails_calloc, h, Bool.not_false, Bool.not_true, Bool.and_false] at hw
    cases hw

theorem prepared_calloc (h : l.reallocated = true) : calloc.prepared l = ⟨some [], 8, 0⟩ := by
  rw [prepared, h]
  rfl

theorem allocated_step_calloc (hl : l.loaded = true) (h : l.reallocated = true) :
    (calloc.step l).Allocated := by
  rw [step, fails_calloc, prepared_calloc h, hl, h]
  dsimp only [Bool.not_true]
  cases l.fname with
  | none => exact ⟨rfl, Nat.zero_le 1⟩
  | some fname => exact ⟨rfl, Nat.le_refl 1⟩

theorem safe_calloc_of_allocated (hl : l.loaded = true) (h : l.reallocated = true) :
    calloc.Safe l where
  extended _ := by
    rw [prepared_calloc h]
    exact ⟨Nat.le_max_left 8 _, by decide⟩
  bounded := (allocated_step_calloc hl h).bounded
  inRange _ := by
    rw [prepared_calloc h]
    exact ⟨rfl, Nat.succ_pos 7⟩

/-- A second list doubles the array at once. -/
theorem Allocated.safe_iff (h : arr.Allocated) : arr.Safe l ↔ l.loaded = false := by
  refine ⟨fun hsafe => ?_, safe_of_not_loaded h.bounded⟩
  rw [← Bool.not_eq_true]
  intro hl
  have hgrowth := (hsafe.extended hl).growth
  have hsize := h.size
  have hentries := h.entries
  have hext : arr.isExtended = true := decide_eq_true (by omega)
  rw [prepared, if_pos hext, extend, hsize] at hgrowth
  change 16 ≤ max 8 (2 * arr.curItems) at hgrowth
  omega

theorem Allocated.everyStep_safe_iff (h : arr.Allocated) (loads : List ListLoad) :
    EveryStep step Safe arr loads ↔ ∀ l ∈ loads, l.loaded = false := by
  induction loads with
  | nil => simp [EveryStep]
  | cons l loads ih =>
    rw [List.forall_mem_cons, EveryStep, h.safe_iff]
    refine and_congr_right fun hl => ?_
    rw [step_of_not_loaded hl, ih]

end BlStatusArr

open BlStatusArr

/-- **The status array is within its bounds** in exactly the runs of the loop in which no list is
loaded after one whose extension succeeds. -/
theorem statusArr_safe_iff (loads : List ListLoad) :
    EveryStep BlStatusArr.step Safe calloc loads ↔ loads.Pairwise fun l l' =>
      l.loaded = true → l.reallocated = true → l'.loaded = false := by
  induction loads with
  | nil => simp [EveryStep]
  | cons l loads ih =>
    rw [List.pairwise_cons, EveryStep]
    by_cases hl : l.loaded = true
    · by_cases hr : l.reallocated = true
      · have hall := (allocated_step_calloc hl hr).everyStep_safe_iff loads
        rw [hall]
        constructor
        · intro h
          obtain ⟨-, hnone⟩ := h
          exact ⟨fun l' hl' _ _ => hnone l' hl',
            List.pairwise_of_forall_mem_list fun _ _ l' hl' _ _ => hnone l' hl'⟩
        · intro h
          obtain ⟨hnone, -⟩ := h
          exact ⟨safe_calloc_of_allocated hl hr, fun l' hl' => hnone l' hl' hl hr⟩
      · have hfail : l.reallocated = false := (Bool.not_eq_true _).mp hr
        rw [step_calloc_of_failed hfail, ih]
        exact and_congr_left fun _ =>
          iff_of_true (safe_calloc_of_failed hfail) fun _ _ _ hr' => absurd hr' hr
    · have hno : l.loaded = false := (Bool.not_eq_true _).mp hl
      rw [step_of_not_loaded hno, ih]
      exact and_congr_left fun _ =>
        iff_of_true (safe_of_not_loaded bounded_calloc hno) fun _ _ hl' => absurd hl' hl

/-- The two lists that the app loads. -/
theorem statusArr_unsafe_appLists : ¬EveryStep BlStatusArr.step Safe calloc
    [⟨true, 100, true, some (cstr "domainswhite.txt")⟩,
      ⟨true, 100, true, some (cstr "ipswhite.txt")⟩] := by
  intro h
  obtain ⟨-, hsafe, -⟩ := h
  exact absurd (hsafe.extended rfl).growth (by decide)

/-! ## What becomes of the array -/

namespace BlStatusArr

variable {arr : BlStatusArr} {l : ListLoad}

/-- The array doubles with every list. -/
theorem size_run {loads : List ListLoad}
    (hall : ∀ l ∈ loads, l.loaded = true ∧ l.reallocated = true) (hpos : 0 < arr.size)
    (hle : arr.curItems ≤ arr.size) : (run step arr loads).size = arr.size * 2 ^ loads.length := by
  induction loads generalizing arr with
  | nil => simp [run]
  | cons l loads ih =>
    obtain ⟨⟨hl, hr⟩, hrest⟩ := List.forall_mem_cons.mp hall
    have hext : arr.isExtended = true := decide_eq_true hle
    have hstep : (arr.step l).size = arr.size * 2 ∧ (arr.step l).curItems ≤ arr.curItems + 1 := by
      have hsize : (arr.extend true).size = arr.size * 2 := if_neg (by omega)
      rw [step, fails, prepared, hext, hl, hr]
      cases l.fname with
      | none => exact ⟨hsize, Nat.le_succ _⟩
      | some fname => exact ⟨hsize, Nat.le_refl _⟩
    obtain ⟨hsize, hentries⟩ := hstep
    rw [run, ih hrest (by omega) (by omega), hsize, List.length_cons, Nat.pow_succ',
      Nat.mul_assoc]

/-- From 8 on: with the 29th list the size is no `int` any more. -/
theorem size_run_calloc {l : ListLoad} {loads : List ListLoad}
    (hall : ∀ l' ∈ l :: loads, l'.loaded = true ∧ l'.reallocated = true) :
    (run step calloc (l :: loads)).size = 8 * 2 ^ loads.length := by
  obtain ⟨⟨hl, hr⟩, hrest⟩ := List.forall_mem_cons.mp hall
  have hfirst := allocated_step_calloc hl hr
  have hsize := hfirst.size
  have hentries := hfirst.entries
  rw [run, size_run hrest (by omega) (by omega), hsize]

/-- The array had an entry when `realloc` failed. -/
structure Lost (arr : BlStatusArr) : Prop where
  isNull : arr.items = none
  size : arr.size = 0
  entries : 0 < arr.curItems

theorem Lost.isExtended (h : arr.Lost) : arr.isExtended = false :=
  decide_eq_false (by rw [h.size]; exact Nat.not_le.mpr h.entries)

theorem lost_of_fails (hl : l.loaded = true) (h : arr.fails l = true) (hpos : 0 < arr.curItems) :
    (arr.step l).Lost := by
  have hboth := h
  rw [fails, Bool.and_eq_true, Bool.not_eq_true'] at hboth
  obtain ⟨hext, hr⟩ := hboth
  rw [step, h, hl, prepared, hext, hr]
  exact ⟨rfl, rfl, hpos⟩

/-- A lost array is never allocated anew. -/
theorem Lost.step (h : arr.Lost) (l : ListLoad) : (arr.step l).Lost := by
  have hprepared : arr.prepared l = arr := by
    rw [prepared, h.isExtended]
    rfl
  unfold BlStatusArr.step
  rw [fails, h.isExtended, hprepared]
  split
  · exact h
  · cases l.fname with
    | none => exact h
    | some fname => exact ⟨congrArg (Option.map _) h.isNull, h.size, Nat.succ_pos _⟩

/-- Every later entry is written to `NULL`. -/
theorem Lost.not_hasRoom (h : arr.Lost) (l : ListLoad) : ¬(arr.prepared l).HasRoom := by
  rw [prepared, h.isExtended]
  intro hroom
  have hnull := hroom.notNull
  rw [if_neg Bool.false_ne_true, h.isNull] at hnull
  cases hnull

end BlStatusArr

end SecureGuard.Native
