import Mathlib.Data.List.Nodup
import Mathlib.Logic.Function.Basic
import SecureGuard.Lib.Machine

/-! # Connections to report

Connections that are new or have changed wait in two arrays until they are sent to Java, and those
that are marked are freed after that. The flag `pending_notification` says of a connection that it
waits. A dump clears the flags one by one as it goes, but the arrays are emptied even where it is
aborted halfway. Allocations succeed. -/

namespace SecureGuard.Native

open Machine

/-- What of a `pd_conn_t` the notifications look at. -/
structure Notified where
  pendingNotification : Bool
  toPurge : Bool
deriving DecidableEq, Repr

inductive ConnArray
  | newConns
  | connsUpdates
deriving DecidableEq, Repr

/-- How a dump ends: it is complete, or aborted once it has come to as many connections. -/
inductive Dump
  | complete
  | aborted (reached : Nat)
deriving DecidableEq, Repr

/-- The connections by their ids and the two arrays. The connections freed are noted, each with
whether the last dump included it or was aborted. -/
structure Notifier where
  heap : Nat → Option Notified
  newConnId : Nat
  newConns : List Nat
  connsUpdates : List Nat
  included : List Nat
  aborted : Bool
  freed : List (Nat × Bool)

/-- A connection is only used while it is allocated. The last dump comes when the packet loop has
ended. -/
inductive NotifierInput
  | newConnection
  | notifyUpdate (id : Nat)
  | connectionClosed (id : Nat)
  | dump (d : Dump)
  | finish (d : Dump)
deriving DecidableEq, Repr

namespace Notifier

def init : Notifier := ⟨fun _ => none, 0, [], [], [], false, []⟩

/-- The connections that wait, in the order of a dump. -/
def queue (pd : Notifier) : List Nat := pd.newConns ++ pd.connsUpdates

def modify (pd : Notifier) (id : Nat) (change : Notified → Notified) : Notifier :=
  { pd with heap := Function.update pd.heap id ((pd.heap id).map change) }

def isPending (pd : Notifier) (id : Nat) : Bool := (pd.heap id).any Notified.pendingNotification

/-! ## Queueing -/

def append (pd : Notifier) : ConnArray → Nat → Notifier
  | .newConns, id => { pd with newConns := pd.newConns ++ [id] }
  | .connsUpdates, id => { pd with connsUpdates := pd.connsUpdates ++ [id] }

def notifConnection (pd : Notifier) (arr : ConnArray) (id : Nat) : Notifier :=
  if pd.isPending id then pd
  else (pd.append arr id).modify id ({ · with pendingNotification := true })

def pdNotifyConnectionUpdate (pd : Notifier) (id : Nat) : Notifier :=
  pd.notifConnection .connsUpdates id

/-- The next id, for a connection just allocated. -/
def allocate (pd : Notifier) : Notifier :=
  { pd with
    heap := Function.update pd.heap pd.newConnId (some ⟨false, false⟩)
    newConnId := pd.newConnId + 1 }

def pdNewConnection (pd : Notifier) : Notifier :=
  pd.allocate.notifConnection .newConns pd.newConnId

def connectionClosed (pd : Notifier) (id : Nat) : Notifier :=
  (pd.pdNotifyConnectionUpdate id).modify id ({ · with toPurge := true })

/-! ## Dumping -/

/-- The connections that a dump comes to. -/
def reached (pd : Notifier) : Dump → List Nat
  | .complete => pd.queue
  | .aborted k => pd.queue.take k

/-- The flag of a connection is cleared before it is dumped. -/
def sendConnectionsDump (pd : Notifier) (d : Dump) : Notifier :=
  (pd.reached d).foldl (fun pd id => pd.modify id ({ · with pendingNotification := false }))
    { pd with included := pd.reached d, aborted := d ≠ .complete }

def pdPurgeConnection (pd : Notifier) (id : Nat) : Notifier :=
  { pd with
    heap := Function.update pd.heap id none
    freed := pd.freed ++ [(id, pd.included.contains id || pd.aborted)] }

/-- A slot of `conns_clear`; what has been freed before is taken to be freed again. -/
def clearSlot (freeAll : Bool) (pd : Notifier) (id : Nat) : Notifier :=
  match pd.heap id with
  | some data => if data.toPurge || freeAll then pd.pdPurgeConnection id else pd
  | none => pd.pdPurgeConnection id

/-- `conns_clear` on both arrays. -/
def connsClear (pd : Notifier) (freeAll : Bool) : Notifier :=
  { pd.queue.foldl (clearSlot freeAll) pd with newConns := [], connsUpdates := [] }

/-- The part of `pd_housekeeping` that dumps the connections. -/
def dumpConnections (pd : Notifier) (d : Dump) : Notifier :=
  if pd.queue.length ≠ 0 then (pd.sendConnectionsDump d).connsClear false else pd

def step (pd : Notifier) : NotifierInput → Notifier
  | .newConnection => pd.pdNewConnection
  | .notifyUpdate id => if (pd.heap id).isSome then pd.pdNotifyConnectionUpdate id else pd
  | .connectionClosed id => if (pd.heap id).isSome then pd.connectionClosed id else pd
  | .dump d => pd.dumpConnections d
  | .finish d => (pd.sendConnectionsDump d).connsClear true

/-! ## What is to hold -/

/-- A connection's flag is set exactly if it waits, and then it waits once. What is marked waits
until it is freed; every connection is allocated or has been freed, and that once, after a dump
that included it or was aborted. -/
structure Queued (pd : Notifier) : Prop where
  pending : ∀ id data, pd.heap id = some data → (data.pendingNotification = true ↔ id ∈ pd.queue)
  once : pd.queue.Nodup
  marked : ∀ id data, pd.heap id = some data → data.toPurge = true → id ∈ pd.queue
  kept : ∀ id, id < pd.newConnId → pd.heap id = none → id ∈ pd.freed.map Prod.fst
  freedOnce : (pd.freed.map Prod.fst).Nodup
  reported : ∀ f ∈ pd.freed, f.2 = true

/-- What holds besides: what waits is allocated, what was freed is not, and the ids to come are
those of no connection. -/
structure Tracked (pd : Notifier) : Prop extends pd.Queued where
  allocated : ∀ id ∈ pd.queue, ∃ data, pd.heap id = some data
  gone : ∀ f ∈ pd.freed, pd.heap f.1 = none ∧ f.1 < pd.newConnId
  fresh : ∀ id, pd.newConnId ≤ id → pd.heap id = none

/-- An aborted dump has come to every connection that waits and is not marked. -/
def DumpsUnmarked (pd : Notifier) : NotifierInput → Prop
  | .dump (.aborted k) =>
    ∀ id ∈ pd.queue.drop k, (pd.heap id).all Notified.toPurge = true
  | _ => True

theorem tracked_init : init.Tracked where
  pending := nofun
  once := List.nodup_nil
  marked := nofun
  kept := nofun
  freedOnce := List.nodup_nil
  reported := nofun
  allocated := nofun
  gone := nofun
  fresh _ _ := rfl

variable {pd : Notifier}

theorem isPending_of_heap {id : Nat} {data : Notified} (h : pd.heap id = some data) :
    pd.isPending id = data.pendingNotification := by
  rw [isPending, h]
  rfl

/-! ## Queueing keeps track -/

theorem queue_append_perm (pd : Notifier) (arr : ConnArray) (id : Nat) :
    (pd.append arr id).queue.Perm (id :: pd.queue) := by
  cases arr with
  | newConns =>
    show ((pd.newConns ++ [id]) ++ pd.connsUpdates).Perm (id :: (pd.newConns ++ pd.connsUpdates))
    rw [List.append_assoc]
    exact List.perm_middle
  | connsUpdates =>
    show (pd.newConns ++ (pd.connsUpdates ++ [id])).Perm (id :: (pd.newConns ++ pd.connsUpdates))
    rw [← List.append_assoc]
    exact List.perm_append_singleton id _

/-- A connection that does not wait is put into the queue, and its flag set. -/
theorem Tracked.enqueue (h : pd.Tracked) {pd' : Notifier} {id : Nat} {data : Notified}
    (hdata : pd.heap id = some data) (hnot : data.pendingNotification = false)
    (hqueue : pd'.queue.Perm (id :: pd.queue))
    (hheap : pd'.heap = Function.update pd.heap id (some { data with pendingNotification := true }))
    (hfreed : pd'.freed = pd.freed) (hids : pd'.newConnId = pd.newConnId) : pd'.Tracked := by
  have hmem : ∀ x, x ∈ pd'.queue ↔ x = id ∨ x ∈ pd.queue :=
    fun x => hqueue.mem_iff.trans List.mem_cons
  have habsent : id ∉ pd.queue := by
    intro hid
    have hflag := (h.pending id data hdata).mpr hid
    rw [hnot] at hflag
    cases hflag
  have hself : pd'.heap id = some { data with pendingNotification := true } := by
    rw [hheap, Function.update_self]
  have hother : ∀ x, x ≠ id → pd'.heap x = pd.heap x := by
    intro x hx
    rw [hheap, Function.update_of_ne hx]
  refine ⟨⟨?_, ?_, ?_, ?_, ?_, ?_⟩, ?_, ?_, ?_⟩
  · intro x d hd
    by_cases hx : x = id
    · subst hx
      obtain rfl := Option.some.inj (hself.symm.trans hd)
      exact iff_of_true rfl ((hmem x).mpr (Or.inl rfl))
    · rw [hother x hx] at hd
      rw [hmem, or_iff_right hx]
      exact h.pending x d hd
  · exact hqueue.nodup_iff.mpr (List.nodup_cons.mpr ⟨habsent, h.once⟩)
  · intro x d hd hpurge
    by_cases hx : x = id
    · exact (hmem x).mpr (Or.inl hx)
    · rw [hother x hx] at hd
      exact (hmem x).mpr (Or.inr (h.marked x d hd hpurge))
  · intro x hx hnone
    rw [hids] at hx
    rw [hfreed]
    refine h.kept x hx ?_
    rw [← hother x fun he => ?_, hnone]
    rw [he, hself] at hnone
    cases hnone
  · rw [hfreed]
    exact h.freedOnce
  · rw [hfreed]
    exact h.reported
  · intro x hx
    rcases (hmem x).mp hx with rfl | hx
    · exact ⟨_, hself⟩
    · rw [hother x fun he => habsent (he ▸ hx)]
      exact h.allocated x hx
  · intro f hf
    rw [hfreed] at hf
    obtain ⟨hgone, hlt⟩ := h.gone f hf
    rw [hids, hother f.1 fun he => by rw [he, hdata] at hgone; cases hgone]
    exact ⟨hgone, hlt⟩
  · intro x hx
    rw [hids] at hx
    have hfresh := h.fresh x hx
    rw [hother x fun he => by rw [he, hdata] at hfresh; cases hfresh]
    exact hfresh

theorem Tracked.notifConnection (h : pd.Tracked) (arr : ConnArray) {id : Nat}
    (hid : (pd.heap id).isSome = true) : (pd.notifConnection arr id).Tracked := by
  obtain ⟨data, hdata⟩ := Option.isSome_iff_exists.mp hid
  unfold Notifier.notifConnection
  rw [isPending_of_heap hdata]
  split
  · exact h
  next hnot =>
    have hheap : (pd.append arr id).heap = pd.heap := by cases arr <;> rfl
    refine h.enqueue hdata (eq_false_of_ne_true hnot) (pd.queue_append_perm arr id) ?_ ?_ ?_
    · rw [modify, hheap, hdata]
      rfl
    · cases arr <;> rfl
    · cases arr <;> rfl

/-- Once notified, a connection waits. -/
theorem Tracked.mem_queue_notifConnection (h : pd.Tracked) (arr : ConnArray) {id : Nat}
    (hid : (pd.heap id).isSome = true) : id ∈ (pd.notifConnection arr id).queue := by
  obtain ⟨data, hdata⟩ := Option.isSome_iff_exists.mp hid
  unfold Notifier.notifConnection
  rw [isPending_of_heap hdata]
  split
  next hflag => exact (h.pending id data hdata).mp hflag
  next => exact (pd.queue_append_perm arr id).mem_iff.mpr List.mem_cons_self

/-- What waits may be marked. -/
theorem Tracked.mark (h : pd.Tracked) {id : Nat} (hid : id ∈ pd.queue) :
    (pd.modify id ({ · with toPurge := true })).Tracked := by
  obtain ⟨data, hdata⟩ := h.allocated id hid
  have hself : (pd.modify id ({ · with toPurge := true })).heap id =
      some { data with toPurge := true } := by
    rw [modify, hdata]
    exact Function.update_self _ _ _
  have hother : ∀ x, x ≠ id → (pd.modify id ({ · with toPurge := true })).heap x = pd.heap x :=
    fun x hx => Function.update_of_ne hx _ _
  refine ⟨⟨?_, h.once, ?_, ?_, h.freedOnce, h.reported⟩, ?_, ?_, ?_⟩
  · intro x d hd
    by_cases hx : x = id
    · subst hx
      obtain rfl := Option.some.inj (hself.symm.trans hd)
      exact h.pending x data hdata
    · exact h.pending x d ((hother x hx).symm.trans hd)
  · intro x d hd hpurge
    by_cases hx : x = id
    · exact hx ▸ hid
    · exact h.marked x d ((hother x hx).symm.trans hd) hpurge
  · intro x hx hnone
    refine h.kept x hx ((hother x fun he => ?_).symm.trans hnone)
    rw [he, hself] at hnone
    cases hnone
  · intro x hx
    by_cases he : x = id
    · subst he
      exact ⟨_, hself⟩
    · rw [hother x he]
      exact h.allocated x hx
  · intro f hf
    obtain ⟨hgone, hlt⟩ := h.gone f hf
    refine ⟨(hother f.1 fun he => ?_).trans hgone, hlt⟩
    rw [he, hdata] at hgone
    cases hgone
  · intro x hx
    have hfresh := h.fresh x hx
    refine (hother x fun he => ?_).trans hfresh
    rw [he, hdata] at hfresh
    cases hfresh

theorem Tracked.connectionClosed (h : pd.Tracked) {id : Nat} (hid : (pd.heap id).isSome = true) :
    (pd.connectionClosed id).Tracked :=
  (h.notifConnection .connsUpdates hid).mark (h.mem_queue_notifConnection .connsUpdates hid)

theorem heap_allocate_self (pd : Notifier) :
    pd.allocate.heap pd.newConnId = some ⟨false, false⟩ :=
  Function.update_self _ _ _

theorem heap_allocate_of_ne (pd : Notifier) {x : Nat} (hx : x ≠ pd.newConnId) :
    pd.allocate.heap x = pd.heap x :=
  Function.update_of_ne hx _ _

/-- The next id is that of a connection that does not wait. -/
theorem Tracked.allocate (h : pd.Tracked) : pd.allocate.Tracked := by
  have hfresh := h.fresh pd.newConnId (Nat.le_refl _)
  have habsent : pd.newConnId ∉ pd.queue := by
    intro hmem
    obtain ⟨data, hdata⟩ := h.allocated _ hmem
    cases hfresh.symm.trans hdata
  refine ⟨⟨?_, h.once, ?_, ?_, h.freedOnce, h.reported⟩, ?_, ?_, ?_⟩
  · intro x d hd
    by_cases hx : x = pd.newConnId
    · subst hx
      obtain rfl := Option.some.inj (pd.heap_allocate_self.symm.trans hd)
      exact iff_of_false Bool.false_ne_true habsent
    · exact h.pending x d ((pd.heap_allocate_of_ne hx).symm.trans hd)
  · intro x d hd hpurge
    by_cases hx : x = pd.newConnId
    · subst hx
      obtain rfl := Option.some.inj (pd.heap_allocate_self.symm.trans hd)
      cases hpurge
    · exact h.marked x d ((pd.heap_allocate_of_ne hx).symm.trans hd) hpurge
  · intro x hx hnone
    have hne : x ≠ pd.newConnId := by
      rintro rfl
      cases pd.heap_allocate_self.symm.trans hnone
    refine h.kept x ?_ ((pd.heap_allocate_of_ne hne).symm.trans hnone)
    exact Nat.lt_of_le_of_ne (Nat.le_of_lt_succ hx) hne
  · intro x hx
    have hne : x ≠ pd.newConnId := fun he => habsent (he ▸ hx)
    obtain ⟨data, hdata⟩ := h.allocated x hx
    exact ⟨data, (pd.heap_allocate_of_ne hne).trans hdata⟩
  · intro f hf
    obtain ⟨hgone, hlt⟩ := h.gone f hf
    exact ⟨(pd.heap_allocate_of_ne (Nat.ne_of_lt hlt)).trans hgone, Nat.lt_succ_of_lt hlt⟩
  · intro x hx
    have hlt : pd.newConnId < x := hx
    exact (pd.heap_allocate_of_ne (Nat.ne_of_gt hlt)).trans (h.fresh x (Nat.le_of_lt hlt))

theorem Tracked.pdNewConnection (h : pd.Tracked) : pd.pdNewConnection.Tracked :=
  h.allocate.notifConnection .newConns (by rw [heap_allocate_self]; rfl)

/-! ## Dumping -/

/-- The flags of the connections that a dump came to are cleared. -/
theorem heap_foldl_clear (pd : Notifier) (ids : List Nat) (x : Nat) :
    (ids.foldl (fun pd id => pd.modify id ({ · with pendingNotification := false })) pd).heap x =
      if x ∈ ids then (pd.heap x).map ({ · with pendingNotification := false }) else pd.heap x := by
  induction ids generalizing pd with
  | nil => rfl
  | cons id ids ih =>
    rw [List.foldl_cons, ih]
    by_cases hx : x = id
    · subst hx
      have hself : (pd.modify x ({ · with pendingNotification := false })).heap x =
          (pd.heap x).map ({ · with pendingNotification := false }) := Function.update_self _ _ _
      rw [hself, if_pos List.mem_cons_self]
      split
      · cases pd.heap x <;> rfl
      · rfl
    · have hother : (pd.modify id ({ · with pendingNotification := false })).heap x = pd.heap x :=
        Function.update_of_ne hx _ _
      rw [hother, if_congr (List.mem_cons.trans (or_iff_right hx)) rfl rfl]

/-- Beside the heap a dump only notes what it included. -/
theorem foldl_clear_rest (pd : Notifier) (ids : List Nat) :
    ids.foldl (fun pd id => pd.modify id ({ · with pendingNotification := false })) pd =
      { pd with
        heap := (ids.foldl
          (fun pd id => pd.modify id ({ · with pendingNotification := false })) pd).heap } := by
  induction ids generalizing pd with
  | nil => rfl
  | cons id ids ih =>
    rw [List.foldl_cons, ih]
    rfl

theorem heap_sendConnectionsDump (pd : Notifier) (d : Dump) (x : Nat) :
    (pd.sendConnectionsDump d).heap x =
      if x ∈ pd.reached d then (pd.heap x).map ({ · with pendingNotification := false })
      else pd.heap x :=
  heap_foldl_clear _ _ _

theorem sendConnectionsDump_rest (pd : Notifier) (d : Dump) :
    pd.sendConnectionsDump d =
      { pd with
        heap := (pd.sendConnectionsDump d).heap
        included := pd.reached d
        aborted := d ≠ .complete } :=
  foldl_clear_rest _ _

/-- The connection of a slot is freed. -/
def purges (pd : Notifier) (freeAll : Bool) (id : Nat) : Bool :=
  (pd.heap id).all fun data => data.toPurge || freeAll

/-- Whether the last dump included a connection or was aborted. -/
def isReported (pd : Notifier) (id : Nat) : Bool := pd.included.contains id || pd.aborted

theorem clearSlot_eq (pd : Notifier) (freeAll : Bool) (id : Nat) :
    clearSlot freeAll pd id = if pd.purges freeAll id then pd.pdPurgeConnection id else pd := by
  unfold clearSlot purges
  cases pd.heap id <;> rfl

theorem heap_clearSlot_of_ne (pd : Notifier) (freeAll : Bool) {id x : Nat} (hx : x ≠ id) :
    (clearSlot freeAll pd id).heap x = pd.heap x := by
  rw [clearSlot_eq]
  split
  · exact Function.update_of_ne hx _ _
  · rfl

theorem heap_clearSlot_self (pd : Notifier) (freeAll : Bool) (id : Nat) :
    (clearSlot freeAll pd id).heap id = if pd.purges freeAll id then none else pd.heap id := by
  rw [clearSlot_eq]
  split
  · exact Function.update_self _ _ _
  · rfl

theorem purges_clearSlot_of_ne (pd : Notifier) (freeAll : Bool) {id x : Nat} (hx : x ≠ id) :
    (clearSlot freeAll pd id).purges freeAll x = pd.purges freeAll x := by
  rw [purges, heap_clearSlot_of_ne pd freeAll hx]
  rfl

theorem isReported_clearSlot (pd : Notifier) (freeAll : Bool) (id : Nat) :
    (clearSlot freeAll pd id).isReported = pd.isReported := by
  rw [clearSlot_eq]
  split <;> rfl

theorem newConnId_foldl_clearSlot (pd : Notifier) (freeAll : Bool) (ids : List Nat) :
    (ids.foldl (clearSlot freeAll) pd).newConnId = pd.newConnId := by
  induction ids generalizing pd with
  | nil => rfl
  | cons id ids ih =>
    rw [List.foldl_cons, ih, clearSlot_eq]
    split <;> rfl

/-- Slots that are all different are cleared each by itself. -/
theorem heap_foldl_clearSlot (pd : Notifier) (freeAll : Bool) {ids : List Nat} (hids : ids.Nodup)
    (x : Nat) :
    (ids.foldl (clearSlot freeAll) pd).heap x =
      if x ∈ ids ∧ pd.purges freeAll x = true then none else pd.heap x := by
  induction ids generalizing pd with
  | nil => simp
  | cons id ids ih =>
    obtain ⟨hid, hids⟩ := List.nodup_cons.mp hids
    rw [List.foldl_cons, ih _ hids]
    by_cases hx : x = id
    · subst hx
      rw [if_neg fun h => hid h.1, heap_clearSlot_self]
      exact if_congr (and_iff_right List.mem_cons_self).symm rfl rfl
    · have hmem : x ∈ ids ↔ x ∈ id :: ids := (List.mem_cons.trans (or_iff_right hx)).symm
      rw [purges_clearSlot_of_ne pd freeAll hx, heap_clearSlot_of_ne pd freeAll hx]
      exact if_congr (and_congr_left' hmem) rfl rfl

theorem freed_foldl_clearSlot (pd : Notifier) (freeAll : Bool) {ids : List Nat}
    (hids : ids.Nodup) :
    (ids.foldl (clearSlot freeAll) pd).freed =
      pd.freed ++ (ids.filter (pd.purges freeAll)).map fun id => (id, pd.isReported id) := by
  induction ids generalizing pd with
  | nil => simp
  | cons id ids ih =>
    obtain ⟨hid, hids⟩ := List.nodup_cons.mp hids
    have hpurges : ∀ x ∈ ids, (clearSlot freeAll pd id).purges freeAll x = pd.purges freeAll x :=
      fun x hx => pd.purges_clearSlot_of_ne freeAll fun he => hid (he ▸ hx)
    rw [List.foldl_cons, ih _ hids, List.filter_congr hpurges, isReported_clearSlot,
      List.filter_cons, clearSlot_eq]
    split
    · rw [List.map_cons, pdPurgeConnection, List.append_assoc]
      rfl
    · rfl

/-! ## Dumping keeps track -/

/-- What a dump and the clearing after it come to. -/
def dumpAll (pd : Notifier) (d : Dump) (freeAll : Bool) : Notifier :=
  (pd.sendConnectionsDump d).connsClear freeAll

theorem queue_sendConnectionsDump (pd : Notifier) (d : Dump) :
    (pd.sendConnectionsDump d).queue = pd.queue := by
  rw [sendConnectionsDump_rest]
  rfl

theorem purges_sendConnectionsDump (pd : Notifier) (d : Dump) (freeAll : Bool) (id : Nat) :
    (pd.sendConnectionsDump d).purges freeAll id = pd.purges freeAll id := by
  rw [purges, purges, heap_sendConnectionsDump]
  split
  · cases pd.heap id <;> rfl
  · rfl

theorem newConnId_dumpAll (pd : Notifier) (d : Dump) (freeAll : Bool) :
    (pd.dumpAll d freeAll).newConnId = pd.newConnId := by
  show ((pd.sendConnectionsDump d).queue.foldl (clearSlot freeAll) _).newConnId = _
  rw [newConnId_foldl_clearSlot, sendConnectionsDump_rest]

theorem Tracked.heap_dumpAll (h : pd.Tracked) (d : Dump) (freeAll : Bool) (x : Nat) :
    (pd.dumpAll d freeAll).heap x =
      if x ∈ pd.queue ∧ pd.purges freeAll x = true then none
      else if x ∈ pd.reached d then (pd.heap x).map ({ · with pendingNotification := false })
      else pd.heap x := by
  show ((pd.sendConnectionsDump d).queue.foldl (clearSlot freeAll) _).heap x = _
  rw [queue_sendConnectionsDump, heap_foldl_clearSlot _ _ h.once, purges_sendConnectionsDump,
    heap_sendConnectionsDump]

theorem Tracked.freed_dumpAll (h : pd.Tracked) (d : Dump) (freeAll : Bool) :
    (pd.dumpAll d freeAll).freed = pd.freed ++ (pd.queue.filter (pd.purges freeAll)).map
      fun id => (id, (pd.reached d).contains id || decide (d ≠ .complete)) := by
  show ((pd.sendConnectionsDump d).queue.foldl (clearSlot freeAll) _).freed = _
  rw [queue_sendConnectionsDump, freed_foldl_clearSlot _ _ h.once]
  have hpurges : ∀ x ∈ pd.queue, (pd.sendConnectionsDump d).purges freeAll x =
      pd.purges freeAll x := fun x _ => pd.purges_sendConnectionsDump d freeAll x
  rw [List.filter_congr hpurges, sendConnectionsDump_rest]
  rfl

theorem purges_iff {freeAll : Bool} {id : Nat} {data : Notified} (h : pd.heap id = some data) :
    pd.purges freeAll id = true ↔ data.toPurge = true ∨ freeAll = true := by
  rw [purges, h, Option.all_some, Bool.or_eq_true]

/-- A connection that is still allocated was not freed, and keeps its mark. -/
theorem Tracked.of_heap_dumpAll (h : pd.Tracked) {d : Dump} {freeAll : Bool} {x : Nat}
    {data : Notified} (hdata : (pd.dumpAll d freeAll).heap x = some data) :
    ¬ (x ∈ pd.queue ∧ pd.purges freeAll x = true) ∧
      ∃ data', pd.heap x = some data' ∧ data.toPurge = data'.toPurge ∧
        data.pendingNotification =
          (data'.pendingNotification && !decide (x ∈ pd.reached d)) := by
  rw [h.heap_dumpAll] at hdata
  split at hdata
  · cases hdata
  next hnot =>
    refine ⟨hnot, ?_⟩
    split at hdata
    next hreached =>
      obtain ⟨data', hdata', rfl⟩ := Option.map_eq_some_iff.mp hdata
      exact ⟨data', hdata', rfl, by simp [hreached]⟩
    next hreached => exact ⟨data, hdata, rfl, by simp [hreached]⟩

/-- A connection that is not allocated is one that has just been freed, or was not before. -/
theorem Tracked.heap_dumpAll_eq_none (h : pd.Tracked) (d : Dump) (freeAll : Bool) (x : Nat) :
    (pd.dumpAll d freeAll).heap x = none ↔
      (x ∈ pd.queue ∧ pd.purges freeAll x = true) ∨ pd.heap x = none := by
  rw [h.heap_dumpAll]
  split
  next hfree => exact iff_of_true rfl (Or.inl hfree)
  next hnot =>
    rw [or_iff_right hnot]
    split
    · exact Option.map_eq_none_iff
    · exact Iff.rfl

theorem Tracked.ids_dumpAll (h : pd.Tracked) (d : Dump) (freeAll : Bool) :
    (pd.dumpAll d freeAll).freed.map Prod.fst =
      pd.freed.map Prod.fst ++ pd.queue.filter (pd.purges freeAll) := by
  rw [h.freed_dumpAll, List.map_append, List.map_map]
  exact congrArg _ (List.map_id _)

/-- What waits is allocated, and so has not been freed before. -/
theorem Tracked.freedOnce_dumpAll (h : pd.Tracked) (d : Dump) (freeAll : Bool) :
    ((pd.dumpAll d freeAll).freed.map Prod.fst).Nodup := by
  rw [h.ids_dumpAll]
  refine h.freedOnce.append (h.once.filter _) fun x hold hnew => ?_
  obtain ⟨f, hf, rfl⟩ := List.mem_map.mp hold
  obtain ⟨data, hdata⟩ := h.allocated _ (List.mem_of_mem_filter hnew)
  cases (h.gone f hf).1.symm.trans hdata

theorem Tracked.reported_dumpAll (h : pd.Tracked) (d : Dump) (freeAll : Bool) :
    ∀ f ∈ (pd.dumpAll d freeAll).freed, f.2 = true := by
  intro f hf
  rw [h.freed_dumpAll] at hf
  obtain hf | hf := List.mem_append.mp hf
  · exact h.reported f hf
  · obtain ⟨x, hx, rfl⟩ := List.mem_map.mp hf
    have hqueue := List.mem_of_mem_filter hx
    cases d with
    | complete => simpa [reached] using hqueue
    | aborted k => simp

/-- A dump leaves nothing behind where the connections that it does not come to are freed. -/
theorem Tracked.dumpAll (h : pd.Tracked) (d : Dump) (freeAll : Bool)
    (hrest : ∀ id ∈ pd.queue, id ∉ pd.reached d → pd.purges freeAll id = true) :
    (pd.dumpAll d freeAll).Tracked := by
  have hnone := h.heap_dumpAll_eq_none d freeAll
  have hids : ∀ x, x ∈ (pd.dumpAll d freeAll).freed.map Prod.fst ↔
      x ∈ pd.freed.map Prod.fst ∨ (x ∈ pd.queue ∧ pd.purges freeAll x = true) := by
    intro x
    rw [h.ids_dumpAll, List.mem_append, List.mem_filter]
  refine ⟨⟨?_, List.nodup_nil, ?_, ?_, h.freedOnce_dumpAll d freeAll,
    h.reported_dumpAll d freeAll⟩, nofun, ?_, ?_⟩
  · intro x data hdata
    obtain ⟨hnot, data', hdata', -, hflag⟩ := h.of_heap_dumpAll hdata
    refine iff_of_false (fun hpending => ?_) List.not_mem_nil
    rw [hpending] at hflag
    obtain ⟨hwaits, hreached⟩ := Bool.and_eq_true_iff.mp hflag.symm
    have hqueue := (h.pending x data' hdata').mp hwaits
    exact hnot ⟨hqueue, hrest x hqueue (by simpa using hreached)⟩
  · intro x data hdata hpurge
    obtain ⟨hnot, data', hdata', hmark, -⟩ := h.of_heap_dumpAll hdata
    rw [hpurge] at hmark
    exact absurd ⟨h.marked x data' hdata' hmark.symm, (purges_iff hdata').mpr (Or.inl hmark.symm)⟩
      hnot
  · intro x hx hgone
    rw [newConnId_dumpAll] at hx
    rw [hids]
    obtain hfree | hbefore := (hnone x).mp hgone
    · exact Or.inr hfree
    · exact Or.inl (h.kept x hx hbefore)
  · intro f hf
    rw [newConnId_dumpAll, hnone]
    obtain hold | hfree := (hids f.1).mp (List.mem_map_of_mem hf)
    · obtain ⟨g, hg, hgf⟩ := List.mem_map.mp hold
      rw [← hgf]
      exact ⟨Or.inr (h.gone g hg).1, (h.gone g hg).2⟩
    · refine ⟨Or.inl hfree, ?_⟩
      obtain ⟨data, hdata⟩ := h.allocated _ hfree.1
      by_contra hge
      cases (h.fresh _ (Nat.le_of_not_lt hge)).symm.trans hdata
  · intro x hx
    rw [newConnId_dumpAll] at hx
    exact (hnone x).mpr (Or.inr (h.fresh x hx))

/-- A connection that a dump does not come to and that is not freed keeps its flag. -/
theorem Tracked.not_queued_dumpAll (h : pd.Tracked) {d : Dump} {freeAll : Bool} {id : Nat}
    (hid : id ∈ pd.queue) (hreached : id ∉ pd.reached d) (hpurges : pd.purges freeAll id ≠ true) :
    ¬ (pd.dumpAll d freeAll).Queued := by
  intro hqueued
  obtain ⟨data, hdata⟩ := h.allocated id hid
  have hheap : (pd.dumpAll d freeAll).heap id = some data := by
    rw [h.heap_dumpAll, if_neg fun hp => hpurges hp.2, if_neg hreached, hdata]
  have hwaits := (hqueued.pending id data hheap).mp ((h.pending id data hdata).mpr hid)
  exact List.not_mem_nil hwaits

/-! ## Runs -/

theorem Tracked.mem_drop_iff (h : pd.Tracked) (k id : Nat) :
    id ∈ pd.queue.drop k ↔ id ∈ pd.queue ∧ id ∉ pd.reached (.aborted k) := by
  have hsplit := List.take_append_drop k pd.queue
  have hnodup := h.once
  rw [← hsplit] at hnodup
  have hapart := (List.nodup_append.mp hnodup).2.2
  constructor
  · intro hid
    exact ⟨List.mem_of_mem_drop hid, fun htake => hapart id htake id hid rfl⟩
  · rintro ⟨hid, hnot⟩
    rw [← hsplit] at hid
    exact (List.mem_append.mp hid).resolve_left hnot

theorem purges_false (pd : Notifier) (id : Nat) :
    pd.purges false id = (pd.heap id).all Notified.toPurge := by
  rw [purges]
  cases pd.heap id with
  | none => rfl
  | some data => simp

theorem Tracked.dumpConnections (h : pd.Tracked) {d : Dump} (hd : pd.DumpsUnmarked (.dump d)) :
    (pd.dumpConnections d).Tracked := by
  unfold Notifier.dumpConnections
  split
  · refine h.dumpAll d false fun id hid hnot => ?_
    cases d with
    | complete => exact absurd hid hnot
    | aborted k =>
      rw [purges_false]
      exact hd id ((h.mem_drop_iff k id).mpr ⟨hid, hnot⟩)
  · exact h

/-- The last dump frees everything that waits. -/
theorem Tracked.finish (h : pd.Tracked) (d : Dump) : (pd.dumpAll d true).Tracked := by
  refine h.dumpAll d true fun id hid _ => ?_
  obtain ⟨data, hdata⟩ := h.allocated id hid
  exact (purges_iff hdata).mpr (Or.inr rfl)

theorem Tracked.step (pd : Notifier) (i : NotifierInput) (h : pd.Tracked)
    (hi : pd.DumpsUnmarked i) : (pd.step i).Tracked := by
  cases i with
  | newConnection => exact h.pdNewConnection
  | notifyUpdate id =>
    show (if (pd.heap id).isSome then pd.pdNotifyConnectionUpdate id else pd).Tracked
    split
    next hid => exact h.notifConnection .connsUpdates hid
    next => exact h
  | connectionClosed id =>
    show (if (pd.heap id).isSome then pd.connectionClosed id else pd).Tracked
    split
    next hid => exact h.connectionClosed hid
    next => exact h
  | dump d => exact h.dumpConnections hi
  | finish d => exact h.finish d

/-- A step keeps track exactly if its dump, if it is one, comes to every connection that waits and
is not marked. -/
theorem queued_step_iff (pd : Notifier) (i : NotifierInput) (h : pd.Tracked) :
    (pd.step i).Queued ↔ pd.DumpsUnmarked i := by
  refine ⟨fun hqueued => ?_, fun hi => (Tracked.step pd i h hi).toQueued⟩
  cases i with
  | dump d =>
    cases d with
    | complete => trivial
    | aborted k =>
      intro id hid
      obtain ⟨hqueue, hnot⟩ := (h.mem_drop_iff k id).mp hid
      by_contra hmark
      have hne : pd.queue.length ≠ 0 := Nat.ne_of_gt (List.length_pos_of_mem hqueue)
      rw [Notifier.step, Notifier.dumpConnections, if_pos hne] at hqueued
      rw [← purges_false] at hmark
      exact h.not_queued_dumpAll hqueue hnot hmark hqueued
  | newConnection | notifyUpdate | connectionClosed | finish => trivial

end Notifier

/-- One connection; the dump that would report it is aborted before it comes to it. Its flag stays
set, so that it is neither reported nor freed when it closes. -/
theorem notifications_lost :
    ¬ EveryState Notifier.step Notifier.Queued Notifier.init
      [.newConnection, .dump (.aborted 0)] := by
  intro h
  have hwaits := (h.last.pending 0 ⟨true, false⟩ (by decide)).mp rfl
  exact absurd hwaits (by decide)

/-- **In every state of a run the flags are those of the connections that wait, and marked
connections are freed once, exactly if every dump comes to the connections that wait and are not
marked.** -/
theorem notifications_queued_iff (inputs : List NotifierInput) :
    EveryState Notifier.step Notifier.Queued Notifier.init inputs ↔
      EveryStep Notifier.step Notifier.DumpsUnmarked Notifier.init inputs :=
  everyState_iff_everyStep (fun _ h => h.toQueued) Notifier.queued_step_iff Notifier.Tracked.step
    Notifier.tracked_init inputs

end SecureGuard.Native
