import Mathlib.Data.List.Nodup
import Mathlib.Data.List.Perm.Basic
import SecureGuard.Lib.Machine

/-! # Updating the blacklists

An update starts one download a list on its own thread and counts those that are pending. The
downloads end on a thread pool and hand their result to the main thread, which counts down and
ends the update at zero; so does the thread of the update if nothing is pending after its loop.
The main thread also learns, from the capture, that the lists have been loaded. -/

namespace SecureGuard.Capture.BlacklistsUpdate
open Machine

/-! ## Updates, downloads and the main thread -/

structure BlacklistDescriptor where
  fname : String
  url : String
  updating : Bool := false
  upToDate : Bool := false

def BlacklistDescriptor.setUpdating (bl : BlacklistDescriptor) : BlacklistDescriptor :=
  { bl with updating := true, upToDate := false }

def BlacklistDescriptor.setOutdated (bl : BlacklistDescriptor) : BlacklistDescriptor :=
  { bl with updating := false, upToDate := false }

def BlacklistDescriptor.setUpdated (bl : BlacklistDescriptor) : BlacklistDescriptor :=
  { bl with updating := false, upToDate := true }

/-- What the thread of an update has still to do: all of it, the lists it has not come to, or to
finalize the update after the loop. -/
inductive Thread
  | start
  | lists (todo : List Nat)
  | finalizing
  | ended
deriving DecidableEq

/-- A call of `update` that has found no other in progress, and how often it called
`finalizeUpdate` so far. -/
structure Run where
  thread : Thread
  pendingTasks : Int
  finalized : Nat
deriving DecidableEq

/-- A download that was started and has not ended, for a list of a run. -/
structure Download where
  run : Nat
  list : Nat
  path : String
deriving DecidableEq

/-- What is posted to the main thread. -/
inductive Message
  | callback (run list : Nat) (success : Bool)
  | finalizeUpdate (run : Nat)
  | notifyListeners
  | onNativeLoaded
deriving DecidableEq

/-- `Blacklists`, with the runs of `update` in their order and the queue of the main thread. -/
structure Blacklists where
  lists : List BlacklistDescriptor
  prefs : String → String
  updateInProgress : Bool
  stopRequest : Bool
  runs : List Run
  downloads : List Download
  main : List Message

/-- `update` is called, the thread of the run `k` goes on, a download ends, the main thread takes
its next message, or the lists are loaded, the update is to stop, or a setting changes. -/
inductive Action
  | update
  | goOn (k : Nat)
  | downloadEnds (d : Download) (success : Bool)
  | handle
  | nativeLoaded
  | abortUpdate
  | setPref (key value : String)

namespace Blacklists

/-- Below the directory of the application's files. -/
def getListPath (bl : BlacklistDescriptor) : String := "/malware_bl/" ++ bl.fname

def modifyList (s : Blacklists) (i : Nat) (f : BlacklistDescriptor → BlacklistDescriptor) :
    Blacklists :=
  { s with lists := s.lists.modify i f }

def setRun (s : Blacklists) (k : Nat) (r : Run) : Blacklists := { s with runs := s.runs.set k r }

def post (s : Blacklists) (m : Message) : Blacklists := { s with main := s.main ++ [m] }

/-- The main thread takes its next message. -/
def taken (s : Blacklists) : Blacklists := { s with main := s.main.tail }

def update (s : Blacklists) : Blacklists :=
  if s.updateInProgress then s
  else { s with updateInProgress := true, runs := s.runs ++ [⟨.start, 0, 0⟩] }

/-- `Utils.startDownload`: nothing is started for a file that is being downloaded. -/
def startDownload (s : Blacklists) (d : Download) : Blacklists :=
  if d.path ∈ s.downloads.map (·.path) then s else { s with downloads := s.downloads ++ [d] }

/-- `murl`. -/
def murl (s : Blacklists) (bl : BlacklistDescriptor) : String :=
  if bl.url = "manualink" then
    s.prefs (if bl.fname = "manualdomlink.txt" then "manualdomlink" else "manualiplink")
  else bl.url

/-- The loop of `update` at the list `i`. -/
def updateList (s : Blacklists) (k i : Nat) (r : Run) (bl : BlacklistDescriptor) : Blacklists :=
  if bl.url = "manual" then (s.setRun k r).modifyList i .setUpdated
  else if s.murl bl ≠ "" then
    (s.setRun k { r with pendingTasks := r.pendingTasks + 1 }).startDownload
      ⟨k, i, getListPath bl⟩
  else s.setRun k r

def finalizeUpdate (s : Blacklists) (k : Nat) (r : Run) : Blacklists :=
  { s with updateInProgress := false }.setRun k { r with finalized := r.finalized + 1 }

/-- The thread of the run `k` goes on. -/
def goOn (s : Blacklists) (k : Nat) (r : Run) : Blacklists :=
  match r.thread with
  | .start =>
    { s with stopRequest := false, lists := s.lists.map .setUpdating }.setRun k
      { r with thread := .lists (List.range s.lists.length) }
  | .lists [] =>
    s.setRun k { r with thread := if r.pendingTasks = 0 then .finalizing else .ended }
  | .lists (i :: todo) =>
    if s.stopRequest then s.setRun k { r with thread := .lists [] }
    else s.lists[i]?.elim s fun bl => s.updateList k i { r with thread := .lists todo } bl
  | .finalizing => s.finalizeUpdate k { r with thread := .ended }
  | .ended => s

/-- The thread of a download has ended; its callback is posted to the main thread. -/
def downloadEnds (s : Blacklists) (d : Download) (success : Bool) : Blacklists :=
  if d ∈ s.downloads then
    { s with downloads := s.downloads.erase d }.post (.callback d.run d.list success)
  else s

/-- `checkIfFinished`. -/
def checkIfFinished (s : Blacklists) (k : Nat) (r : Run) : Blacklists :=
  (s.setRun k { r with pendingTasks := r.pendingTasks - 1 }).post
    (if r.pendingTasks - 1 ≤ 0 then .finalizeUpdate k else .notifyListeners)

/-- The main thread handles a message; the listeners keep no state here. -/
def handle (s : Blacklists) : Message → Blacklists
  | .callback k i success =>
    s.runs[k]?.elim s fun r =>
      (s.modifyList i (if success then .setUpdated else .setOutdated)).checkIfFinished k r
  | .finalizeUpdate k => s.runs[k]?.elim s (s.finalizeUpdate k)
  | .notifyListeners => s
  | .onNativeLoaded => { s with updateInProgress := false }

def step (s : Blacklists) : Action → Blacklists
  | .update => s.update
  | .goOn k => s.runs[k]?.elim s (s.goOn k)
  | .downloadEnds d success => s.downloadEnds d success
  | .handle => s.main.head?.elim s s.taken.handle
  | .nativeLoaded => s.post .onNativeLoaded
  | .abortUpdate => { s with stopRequest := true }
  | .setPref key value => { s with prefs := fun k => if k = key then value else s.prefs k }

/-- No update has been made. -/
def created (lists : List BlacklistDescriptor) (prefs : String → String) : Blacklists :=
  ⟨lists, prefs, false, false, [], [], []⟩

end Blacklists

/-! ## What is to hold -/

def Message.isCallback (k : Nat) : Message → Bool
  | .callback run _ _ => run = k
  | _ => false

def Message.isFinalize (k : Nat) : Message → Bool
  | .finalizeUpdate run => run = k
  | _ => false

def Thread.inLoop : Thread → Bool
  | .start => true
  | .lists _ => true
  | _ => false

namespace Blacklists

/-- The downloads and callbacks of the run `k` that are outstanding. -/
def tasks (s : Blacklists) (k : Nat) : Nat :=
  s.downloads.countP (·.run = k) + s.main.countP (·.isCallback k)

/-- The calls of `finalizeUpdate` that are posted for the run `k`. -/
def posted (s : Blacklists) (k : Nat) : Nat := s.main.countP (·.isFinalize k)

/-- The run `k` finalizes once, after its loop and its downloads; the update is in progress until
then, and once there is nothing left to do for it, it has finalized. -/
structure FinalizesOnce (s : Blacklists) (k : Nat) (r : Run) : Prop where
  once : r.finalized ≤ 1
  after : 0 < r.finalized → r.thread.inLoop = false ∧ s.tasks k = 0
  inProgress : r.finalized = 0 → s.updateInProgress = true
  settled : r.thread = .ended → s.tasks k = 0 → s.posted k = 0 → r.finalized = 1

/-- So it is with every run, and no two downloads write the same file. -/
def Good (s : Blacklists) : Prop :=
  (∀ k r, s.runs[k]? = some r → s.FinalizesOnce k r) ∧ (s.downloads.map (·.path)).Nodup

/-- The last pending callback of a run is handled only after its loop, and the lists are reported
as loaded only while no update is in progress. -/
def mayHandle (s : Blacklists) : Message → Bool
  | .callback k _ _ => s.runs[k]?.all fun r => 1 < r.pendingTasks || !r.thread.inLoop
  | .onNativeLoaded => !s.updateInProgress
  | _ => true

/-- Moreover a download is started only for a file that is not being downloaded. -/
def fits (s : Blacklists) : Action → Bool
  | .goOn k => s.runs[k]?.all fun r =>
    match r.thread with
    | .lists (i :: _) => s.stopRequest || s.lists[i]?.all fun bl =>
        bl.url = "manual" || s.murl bl = "" || getListPath bl ∉ s.downloads.map (·.path)
    | _ => true
  | .handle => s.main.head?.all s.mayHandle
  | _ => true

end Blacklists

/-! ## What every run keeps -/

/-- Whether the thread is about to finalize. -/
def Thread.finalizes : Thread → Nat
  | .finalizing => 1
  | _ => 0

namespace Blacklists

variable {s t : Blacklists} {k j : Nat} {r r' : Run}

/-- The counter counts what is outstanding. In the loop nothing is finalized; after it, there is
one call of `finalizeUpdate`, made or to come. -/
structure RunInv (s : Blacklists) (k : Nat) (r : Run) : Prop where
  pending : r.pendingTasks = s.tasks k
  inProgress : r.finalized = 0 → s.updateInProgress = true
  looping : r.thread.inLoop = true → r.finalized = 0 ∧ s.posted k = 0
  left : r.thread.inLoop = false →
    r.finalized + s.posted k + r.thread.finalizes + min 1 (s.tasks k) = 1

structure Inv (s : Blacklists) : Prop where
  run : ∀ k r, s.runs[k]? = some r → s.RunInv k r
  fresh : ∀ k, s.runs.length ≤ k → s.tasks k = 0 ∧ s.posted k = 0
  one : ∀ (k j : Nat) (r r' : Run), s.runs[k]? = some r → s.runs[j]? = some r' → r.finalized = 0 →
    r'.finalized = 0 → k = j
  paths : (s.downloads.map (·.path)).Nodup

theorem RunInv.finalizesOnce (h : s.RunInv k r) : s.FinalizesOnce k r := by
  have hleft := h.left
  have hloop := h.looping
  cases hin : r.thread.inLoop with
  | true =>
    obtain ⟨hzero, -⟩ := hloop hin
    refine ⟨by omega, fun hpos => by omega, h.inProgress, fun hend => ?_⟩
    rw [hend] at hin
    cases hin
  | false =>
    have heq := hleft hin
    refine ⟨by omega, fun hpos => ⟨hin, by omega⟩, h.inProgress, fun hend htasks hposted => ?_⟩
    have hzero : Thread.ended.finalizes = 0 := rfl
    rw [hend, hzero] at heq
    omega

theorem Inv.good (hs : s.Inv) : s.Good :=
  ⟨fun k r hk => (hs.run k r hk).finalizesOnce, hs.paths⟩

/-- What is kept of a run is about its own tasks, and about the update being in progress while
that lasts. -/
theorem RunInv.congr (h : s.RunInv k r) (htasks : t.tasks k = s.tasks k)
    (hposted : t.posted k = s.posted k)
    (hprogress : r.finalized = 0 → s.updateInProgress = true → t.updateInProgress = true) :
    t.RunInv k r where
  pending := by rw [h.pending, htasks]
  inProgress := fun hzero => hprogress hzero (h.inProgress hzero)
  looping := by rw [hposted]; exact h.looping
  left := by rw [hposted, htasks]; exact h.left

/-- A step that is of no run. -/
theorem Inv.same (hs : s.Inv) (hruns : t.runs = s.runs) (htasks : ∀ k, t.tasks k = s.tasks k)
    (hposted : ∀ k, t.posted k = s.posted k) (hprogress : t.updateInProgress = s.updateInProgress)
    (hpaths : (t.downloads.map (·.path)).Nodup) : t.Inv where
  run := by
    intro k r hk
    rw [hruns] at hk
    exact (hs.run k r hk).congr (htasks k) (hposted k) fun _ h => hprogress.trans h
  fresh := by
    intro k hk
    rw [hruns] at hk
    rw [htasks, hposted]
    exact hs.fresh k hk
  one := by
    rw [hruns]
    exact hs.one
  paths := hpaths

/-- A step of the run `k`: it does not touch the others, and keeps the update in progress for
them. -/
theorem Inv.set (hs : s.Inv) (hk : s.runs[k]? = some r) (hruns : t.runs = s.runs.set k r')
    (htasks : ∀ j ≠ k, t.tasks j = s.tasks j) (hposted : ∀ j ≠ k, t.posted j = s.posted j)
    (hprogress : t.updateInProgress = s.updateInProgress ∨ r.finalized = 0)
    (hfinalized : r'.finalized = 0 → r.finalized = 0)
    (hpaths : (t.downloads.map (·.path)).Nodup) (hself : t.RunInv k r') : t.Inv := by
  obtain ⟨hlt, -⟩ := List.getElem?_eq_some_iff.mp hk
  have hget : ∀ j, t.runs[j]? = if k = j then some r' else s.runs[j]? := by
    intro j
    rw [hruns, List.getElem?_set, if_pos hlt]
  have hback : ∀ (j : Nat) (q : Run), t.runs[j]? = some q → q.finalized = 0 →
      ∃ q' : Run, s.runs[j]? = some q' ∧ q'.finalized = 0 := by
    intro j q hj hzero
    rw [hget] at hj
    split at hj
    case isTrue h =>
      cases hj
      exact ⟨r, h ▸ hk, hfinalized hzero⟩
    case isFalse h => exact ⟨q, hj, hzero⟩
  refine ⟨fun j q hj => ?_, fun j hj => ?_, fun i j q q' hi hj hq hq' => ?_, hpaths⟩
  · rw [hget] at hj
    split at hj
    case isTrue h =>
      cases hj
      exact h ▸ hself
    case isFalse h =>
      have hne : j ≠ k := fun heq => h heq.symm
      refine (hs.run j q hj).congr (htasks j hne) (hposted j hne) fun hzero hin => ?_
      obtain heq | hr := hprogress
      · exact heq.trans hin
      · exact absurd (hs.one k j r q hk hj hr hzero) h
  · rw [hruns, List.length_set] at hj
    rw [htasks j (by omega), hposted j (by omega)]
    exact hs.fresh j hj
  · obtain ⟨p, hp, hpz⟩ := hback i q hi hq
    obtain ⟨p', hp', hpz'⟩ := hback j q' hj hq'
    exact hs.one i j p p' hp hp' hpz hpz'

@[simp]
theorem tasks_setRun : (s.setRun k r).tasks j = s.tasks j := rfl

@[simp]
theorem posted_setRun : (s.setRun k r).posted j = s.posted j := rfl

theorem tasks_post (m : Message) :
    (s.post m).tasks j = s.tasks j + if m.isCallback j then 1 else 0 := by
  simp only [tasks, post, List.countP_append, List.countP_singleton]
  omega

theorem posted_post (m : Message) :
    (s.post m).posted j = s.posted j + if m.isFinalize j then 1 else 0 := by
  simp only [posted, post, List.countP_append, List.countP_singleton]

theorem tasks_taken {m : Message} (hm : s.main.head? = some m) :
    s.tasks j = s.taken.tasks j + if m.isCallback j then 1 else 0 := by
  obtain ⟨l, hl⟩ := List.head?_eq_some_iff.mp hm
  simp only [tasks, taken, hl, List.countP_cons, List.tail_cons]
  omega

theorem posted_taken {m : Message} (hm : s.main.head? = some m) :
    s.posted j = s.taken.posted j + if m.isFinalize j then 1 else 0 := by
  obtain ⟨l, hl⟩ := List.head?_eq_some_iff.mp hm
  simp only [posted, taken, hl, List.countP_cons, List.tail_cons]

theorem inv_update (hs : s.Inv) : s.update.Inv := by
  rw [update]
  split
  case isTrue => exact hs
  case isFalse hprogress =>
    have hdone : ∀ (k : Nat) (r : Run), s.runs[k]? = some r → r.finalized ≠ 0 :=
      fun k r hk hzero => hprogress ((hs.run k r hk).inProgress hzero)
    have hget : ∀ {k r}, (s.runs ++ [⟨.start, 0, 0⟩])[k]? = some r →
        s.runs[k]? = some r ∨ k = s.runs.length ∧ r = ⟨.start, 0, 0⟩ := by
      intro k r hk
      rw [List.getElem?_append] at hk
      split at hk
      · exact Or.inl hk
      · obtain ⟨hlt, hr⟩ := List.getElem?_eq_some_iff.mp hk
        rw [List.length_singleton] at hlt
        refine Or.inr ⟨by omega, ?_⟩
        rw [← hr, List.getElem_singleton]
    obtain ⟨htasks, hposted⟩ := hs.fresh s.runs.length (Nat.le_refl _)
    refine ⟨fun k r hk => ?_, fun k hk => ?_, fun k j r r' hk hj hr hr' => ?_, hs.paths⟩
    · obtain hk | ⟨rfl, rfl⟩ := hget hk
      · exact (hs.run k r hk).congr rfl rfl fun _ _ => rfl
      · exact ⟨congrArg Nat.cast htasks.symm, fun _ => rfl, fun _ => ⟨rfl, hposted⟩,
          fun h => by cases h⟩
    · rw [List.length_append] at hk
      exact hs.fresh k (by omega)
    · obtain hk | ⟨rfl, rfl⟩ := hget hk
      · exact absurd hr (hdone k r hk)
      · obtain hj | ⟨rfl, rfl⟩ := hget hj
        · exact absurd hr' (hdone j r' hj)
        · rfl

theorem inv_downloadEnds (hs : s.Inv) (d : Download) (success : Bool) :
    (s.downloadEnds d success).Inv := by
  rw [downloadEnds]
  split
  case isFalse => exact hs
  case isTrue hd =>
    have hpaths : ((s.downloads.erase d).map (·.path)).Nodup :=
      hs.paths.sublist ((List.erase_sublist).map _)
    refine hs.same rfl (fun j => ?_) (fun j => ?_) rfl hpaths
    · have hcount := (List.perm_cons_erase hd).countP_eq (·.run = j)
      rw [List.countP_cons] at hcount
      have hcallback : (Message.callback d.run d.list success).isCallback j = decide (d.run = j) :=
        rfl
      rw [tasks_post, hcallback]
      simp only [tasks, hcount]
      omega
    · rw [posted_post]
      rfl

/-- The thread goes from one list to the next. -/
theorem inv_loop (hs : s.Inv) (hk : s.runs[k]? = some r) (hin : r.thread.inLoop = true)
    {thread : Thread} (hthread : thread.inLoop = true)
    (hruns : t.runs = s.runs.set k { r with thread := thread }) (hdown : t.downloads = s.downloads)
    (hmain : t.main = s.main) (hprogress : t.updateInProgress = s.updateInProgress) : t.Inv := by
  have htasks : ∀ j, t.tasks j = s.tasks j := fun j => by rw [tasks, tasks, hdown, hmain]
  have hposted : ∀ j, t.posted j = s.posted j := fun j => by rw [posted, posted, hmain]
  have hr := hs.run k r hk
  refine hs.set hk hruns (fun j _ => htasks j) (fun j _ => hposted j) (Or.inl hprogress)
    (fun h => h) (hdown ▸ hs.paths) ⟨?_, fun h => ?_, fun _ => ?_, fun h => ?_⟩
  · rw [htasks]
    exact hr.pending
  · exact hprogress.trans (hr.inProgress h)
  · rw [hposted]
    exact hr.looping hin
  · rw [hthread] at h
    cases h

/-- The loop is left: nothing is pending, or the last callback finalizes. -/
theorem inv_test (hs : s.Inv) (hk : s.runs[k]? = some r) (hin : r.thread.inLoop = true) :
    (s.setRun k { r with
      thread := if r.pendingTasks = 0 then .finalizing else .ended }).Inv := by
  have hr := hs.run k r hk
  obtain ⟨hzero, hposted⟩ := hr.looping hin
  have hpending := hr.pending
  by_cases hnone : r.pendingTasks = 0
  · rw [if_pos hnone]
    refine hs.set hk rfl (fun _ _ => rfl) (fun _ _ => rfl) (Or.inl rfl) (fun h => h) hs.paths
      ⟨hpending, hr.inProgress, nofun, fun _ => ?_⟩
    rw [tasks_setRun, posted_setRun]
    simp only [Thread.finalizes]
    omega
  · rw [if_neg hnone]
    refine hs.set hk rfl (fun _ _ => rfl) (fun _ _ => rfl) (Or.inl rfl) (fun h => h) hs.paths
      ⟨hpending, hr.inProgress, nofun, fun _ => ?_⟩
    rw [tasks_setRun, posted_setRun]
    simp only [Thread.finalizes]
    omega

/-- A download is started for the run. -/
theorem inv_startDownload (hs : s.Inv) (hk : s.runs[k]? = some r) (hin : r.thread.inLoop = true)
    {thread : Thread} (hthread : thread.inLoop = true) {d : Download} (hd : d.run = k)
    (hfree : d.path ∉ s.downloads.map (·.path)) :
    ((s.setRun k { r with thread := thread, pendingTasks := r.pendingTasks + 1 }).startDownload
      d).Inv := by
  have hr := hs.run k r hk
  rw [startDownload, if_neg (show d.path ∉ (s.setRun k _).downloads.map (·.path) from hfree)]
  refine hs.set hk rfl (fun j hj => ?_) (fun _ _ => rfl) (Or.inl rfl) (fun h => h) ?_
    ⟨?_, hr.inProgress, fun _ => hr.looping hin, fun h => ?_⟩
  · have hne : ¬ d.run = j := fun h => hj (h.symm.trans hd)
    simp [tasks, setRun, List.countP_append, hne]
  · have hpaths := hs.paths
    simp only [setRun, List.map_append, List.map_cons, List.map_nil]
    exact List.nodup_append.mpr ⟨hpaths, List.nodup_singleton _, fun p hp q hq heq => by
      rw [List.mem_singleton.mp hq] at heq
      exact hfree (heq ▸ hp)⟩
  · have hpending := hr.pending
    simp only [tasks, setRun, List.countP_append, List.countP_singleton, hd, decide_true,
      if_true, hpending]
    push_cast
    omega
  · rw [hthread] at h
    cases h

/-- `finalizeUpdate`, on the thread of the run or on the main thread: nothing else is left. -/
theorem inv_finalizeUpdate (hs : s.Inv) (hk : s.runs[k]? = some r) {thread : Thread}
    (hthread : thread = .ended ∨ thread = r.thread) (hin : r.thread.inLoop = false)
    (hmain : ∀ j ≠ k, t.posted j = s.posted j) (htasks : ∀ j, t.tasks j = s.tasks j)
    (hdown : t.downloads = s.downloads) (hruns : t.runs = s.runs)
    (hleft : t.posted k + thread.finalizes + 1 = s.posted k + r.thread.finalizes) :
    (t.finalizeUpdate k { r with thread := thread }).Inv := by
  have hr := hs.run k r hk
  have hone := hr.left hin
  have hzero : r.finalized = 0 := by omega
  have hout : thread.inLoop = false := by
    obtain rfl | rfl := hthread
    · rfl
    · exact hin
  have htask : ∀ j, (t.finalizeUpdate k { r with thread := thread }).tasks j = s.tasks j := htasks
  have hpost : (t.finalizeUpdate k { r with thread := thread }).posted k = t.posted k := rfl
  refine hs.set hk (congrArg (List.set · k _) hruns) (fun j _ => htask j) hmain (Or.inr hzero)
    (fun h => absurd h (Nat.succ_ne_zero _)) (hdown ▸ hs.paths) ⟨?_, fun h => ?_, fun h => ?_,
    fun _ => ?_⟩
  · rw [htask]
    exact hr.pending
  · exact absurd h (Nat.succ_ne_zero _)
  · rw [hout] at h
    cases h
  · rw [htask, hpost]
    simp only
    omega

theorem inv_goOn (hs : s.Inv) (hk : s.runs[k]? = some r) (h : s.fits (.goOn k) = true) :
    (s.goOn k r).Inv := by
  rw [fits, hk, Option.all_some] at h
  have hr := hs.run k r hk
  rw [goOn]
  split
  case h_1 hthread =>
    exact inv_loop hs hk (by rw [hthread]; rfl) rfl rfl rfl rfl rfl
  case h_2 hthread => exact inv_test hs hk (by rw [hthread]; rfl)
  case h_3 i todo hthread =>
    have hin : r.thread.inLoop = true := by rw [hthread]; rfl
    rw [hthread] at h
    split
    case isTrue => exact inv_loop hs hk hin rfl rfl rfl rfl rfl
    case isFalse hstop =>
      simp only [hstop, Bool.false_or] at h
      cases hi : s.lists[i]? with
      | none => exact hs
      | some bl =>
        rw [hi, Option.all_some] at h
        rw [Option.elim_some, updateList]
        split
        case isTrue => exact inv_loop hs hk hin rfl rfl rfl rfl rfl
        case isFalse hmanual =>
          split
          case isTrue hurl =>
            refine inv_startDownload hs hk hin rfl rfl ?_
            simpa [hmanual, hurl] using h
          case isFalse => exact inv_loop hs hk hin rfl rfl rfl rfl rfl
  case h_4 hthread =>
    refine inv_finalizeUpdate hs hk (Or.inl rfl) (by rw [hthread]; rfl) (fun _ _ => rfl)
      (fun _ => rfl) rfl rfl ?_
    rw [hthread]
    rfl
  case h_5 => exact hs

/-- What a message is about is a run. -/
theorem Inv.exists_run (hs : s.Inv) (h : 0 < s.tasks k ∨ 0 < s.posted k) :
    ∃ r, s.runs[k]? = some r := by
  obtain hlt | hge := Nat.lt_or_ge k s.runs.length
  · exact ⟨s.runs[k], List.getElem?_eq_getElem hlt⟩
  · have hfresh := hs.fresh k hge
    omega

theorem tasks_checkIfFinished : (s.checkIfFinished k r).tasks j = s.tasks j := by
  rw [checkIfFinished, tasks_post, tasks_setRun]
  split <;> rfl

theorem posted_checkIfFinished : (s.checkIfFinished k r).posted j =
    s.posted j + if k = j ∧ r.pendingTasks ≤ 1 then 1 else 0 := by
  rw [checkIfFinished, posted_post, posted_setRun]
  by_cases hlast : r.pendingTasks ≤ 1
  · rw [if_pos (show r.pendingTasks - 1 ≤ 0 by omega)]
    by_cases hj : k = j <;> simp [Message.isFinalize, hlast, hj]
  · rw [if_neg (show ¬ r.pendingTasks - 1 ≤ 0 by omega)]
    simp [Message.isFinalize, hlast]

theorem inv_callback (hs : s.Inv) {i : Nat} {success : Bool}
    (hm : s.main.head? = some (.callback k i success))
    (h : s.mayHandle (.callback k i success) = true) :
    (s.taken.handle (.callback k i success)).Inv := by
  have htaken : ∀ j, s.tasks j = s.taken.tasks j + if k = j then 1 else 0 := by
    intro j
    rw [tasks_taken hm]
    simp [Message.isCallback]
  have hposted : ∀ j, s.posted j = s.taken.posted j := by
    intro j
    rw [posted_taken hm]
    simp [Message.isFinalize]
  have hpos := htaken k
  rw [if_pos rfl] at hpos
  obtain ⟨r, hk⟩ := hs.exists_run (k := k) (by omega)
  rw [mayHandle, hk, Option.all_some, Bool.or_eq_true, decide_eq_true_eq] at h
  have hr := hs.run k r hk
  have hpending := hr.pending
  have hk' : s.taken.runs[k]? = some r := hk
  rw [handle, hk', Option.elim_some]
  generalize ht : s.taken.modifyList i (if success then .setUpdated else .setOutdated) = t
  have htasks : ∀ j, t.tasks j = s.taken.tasks j := fun j => by rw [← ht]; rfl
  have hpost : ∀ j, t.posted j = s.taken.posted j := fun j => by rw [← ht]; rfl
  have hruns : t.runs = s.runs := by rw [← ht]; rfl
  have hprogress : t.updateInProgress = s.updateInProgress := by rw [← ht]; rfl
  have hdown : t.downloads = s.downloads := by rw [← ht]; rfl
  refine hs.set hk (congrArg (List.set · k _) hruns) (fun j hj => ?_) (fun j hj => ?_)
    (Or.inl hprogress) (fun h => h) (hdown ▸ hs.paths) ⟨?_, fun hzero => ?_, fun hin => ?_,
    fun hin => ?_⟩
  · rw [tasks_checkIfFinished, htasks, htaken, if_neg (Ne.symm hj), Nat.add_zero]
  · rw [posted_checkIfFinished, hpost, hposted, if_neg (fun hand => hj hand.1.symm), Nat.add_zero]
  · rw [tasks_checkIfFinished, htasks]
    simp only
    omega
  · exact hprogress.trans (hr.inProgress hzero)
  · -- In the loop this is not the last callback that is pending.
    have hmore : 1 < r.pendingTasks := h.resolve_right fun hout => by
      rw [hin] at hout
      cases hout
    obtain ⟨hzero, hnone⟩ := hr.looping hin
    rw [posted_checkIfFinished, hpost, ← hposted, hnone, if_neg fun hand => by omega]
    exact ⟨hzero, rfl⟩
  · have hleft := hr.left hin
    have hfin : ({ r with pendingTasks := r.pendingTasks - 1 } : Run).finalized = r.finalized := rfl
    rw [tasks_checkIfFinished, posted_checkIfFinished, htasks, hpost, ← hposted, hfin]
    simp only [true_and]
    split <;> omega

theorem inv_handle (hs : s.Inv) {m : Message} (hm : s.main.head? = some m)
    (h : s.mayHandle m = true) : (s.taken.handle m).Inv := by
  cases m with
  | callback k i success => exact inv_callback hs hm h
  | finalizeUpdate k =>
    have htasks : ∀ j, s.taken.tasks j = s.tasks j := by
      intro j
      rw [tasks_taken hm]
      simp [Message.isCallback]
    have hposted : ∀ j, s.posted j = s.taken.posted j + if k = j then 1 else 0 := by
      intro j
      rw [posted_taken hm]
      simp [Message.isFinalize]
    have hpos := hposted k
    rw [if_pos rfl] at hpos
    obtain ⟨r, hk⟩ := hs.exists_run (k := k) (by omega)
    have hk' : s.taken.runs[k]? = some r := hk
    have hout : r.thread.inLoop = false := by
      by_contra hin
      have hloop := (hs.run k r hk).looping (Bool.not_eq_false _ ▸ hin)
      omega
    rw [handle, hk', Option.elim_some]
    refine inv_finalizeUpdate hs hk (Or.inr rfl) hout (fun j hj => ?_) htasks rfl rfl (by omega)
    rw [hposted, if_neg (Ne.symm hj), Nat.add_zero]
  | notifyListeners =>
    refine hs.same rfl (fun j => ?_) (fun j => ?_) rfl hs.paths
    · rw [tasks_taken hm]
      rfl
    · rw [posted_taken hm]
      rfl
  | onNativeLoaded =>
    have hidle : s.updateInProgress = false := by simpa [mayHandle] using h
    refine hs.same rfl (fun j => ?_) (fun j => ?_) hidle.symm hs.paths
    · rw [tasks_taken hm]
      rfl
    · rw [posted_taken hm]
      rfl

theorem inv_step (hs : s.Inv) {a : Action} (h : s.fits a = true) : (s.step a).Inv := by
  cases a with
  | update => exact inv_update hs
  | goOn k =>
    rw [step]
    cases hk : s.runs[k]? with
    | none => exact hs
    | some r => exact inv_goOn hs hk h
  | downloadEnds d success => exact inv_downloadEnds hs d success
  | handle =>
    rw [step]
    rw [fits] at h
    cases hm : s.main.head? with
    | none => exact hs
    | some m =>
      rw [hm, Option.all_some] at h
      exact inv_handle hs hm h
  | nativeLoaded =>
    refine hs.same rfl (fun j => ?_) (fun j => ?_) rfl hs.paths
    · rw [step, tasks_post]
      rfl
    · rw [step, posted_post]
      rfl
  | abortUpdate => exact hs.same rfl (fun _ => rfl) (fun _ => rfl) rfl hs.paths
  | setPref key value => exact hs.same rfl (fun _ => rfl) (fun _ => rfl) rfl hs.paths

theorem inv_created (lists : List BlacklistDescriptor) (prefs : String → String) :
    (created lists prefs).Inv where
  run := by simp [created]
  fresh := by simp [created, tasks, posted]
  one := by simp [created]
  paths := List.nodup_nil

end Blacklists

/-! ## Every run -/

/-- **An update finalizes once**: in every run whose steps fit, each update finalizes exactly once,
after its loop and its downloads, and no other one starts before. -/
theorem everyState_good (lists : List BlacklistDescriptor) (prefs : String → String)
    (actions : List Action)
    (h : EveryStep Blacklists.step (fun s a => s.fits a = true) (Blacklists.created lists prefs)
      actions) :
    EveryState Blacklists.step Blacklists.Good (Blacklists.created lists prefs) actions := by
  have hgives : ∀ s : Blacklists, s.Inv → s.Good := fun s hs => hs.good
  exact everyState_of_invariant (fun s a hs hfits => Blacklists.inv_step hs hfits) hgives
    (Blacklists.inv_created lists prefs) h

/-- The directory that the links lead to. -/
def linked (fname : String) : BlacklistDescriptor where
  fname
  url := "https://raw.githubusercontent.com/efraimzz/Mywhitelistdomains/refs/heads/main/" ++ fname

/-- Two lists with a link each. -/
def twoLists : List BlacklistDescriptor := [linked "domainswhite.txt", linked "ipswhite.txt"]

def domains (run : Nat) : Download := ⟨run, 0, "/malware_bl/domainswhite.txt"⟩

def ips (run : Nat) : Download := ⟨run, 1, "/malware_bl/ipswhite.txt"⟩

/-- Both downloads end after the loop. -/
def slowDownloads : List Action :=
  [.update, .goOn 0, .goOn 0, .goOn 0, .goOn 0, .downloadEnds (ips 0) false, .handle, .handle,
    .downloadEnds (domains 0) true, .handle, .handle]

theorem everyState_good_slowDownloads :
    EveryStep Blacklists.step (fun s a => s.fits a = true)
        (Blacklists.created twoLists fun _ => "") slowDownloads ∧
      EveryState Blacklists.step Blacklists.Good (Blacklists.created twoLists fun _ => "")
        slowDownloads := by
  have h : EveryStep Blacklists.step (fun s a => s.fits a = true)
      (Blacklists.created twoLists fun _ => "") slowDownloads := by decide +kernel
  exact ⟨h, everyState_good twoLists (fun _ => "") slowDownloads h⟩

/-- The first download ends, and the main thread learns of it, before the second one starts. -/
def fastDownload : List Action :=
  [.update, .goOn 0, .goOn 0, .downloadEnds (domains 0) true, .handle, .goOn 0, .goOn 0, .handle,
    .downloadEnds (ips 0) true, .handle, .handle]

/-- The update counts as over while its second download runs, and finalizes once more after it. -/
theorem fastDownload_finalizes_twice :
    ¬ EveryState Blacklists.step Blacklists.Good (Blacklists.created twoLists fun _ => "")
        fastDownload ∧
      (run Blacklists.step (Blacklists.created twoLists fun _ => "") fastDownload).runs =
        [⟨.ended, 0, 2⟩] := by
  have hruns : (run Blacklists.step (Blacklists.created twoLists fun _ => "")
      fastDownload).runs = [⟨.ended, 0, 2⟩] := by decide +kernel
  refine ⟨fun h => ?_, hruns⟩
  have honce := (h.last.1 0 ⟨.ended, 0, 2⟩ (by rw [hruns]; rfl)).once
  exact absurd honce (by decide)

end SecureGuard.Capture.BlacklistsUpdate
