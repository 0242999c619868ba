import SecureGuard.Lib.Machine

/-! # The NetFree flag and the periodic check

The native flag `isNetfree` is written when the application starts, by `onStartCommand`, and
by the periodic check. The check writes it only when its result differs from the service's
own copy of the last result, `previousNetfree`, which the other two writers leave alone, and
which the check itself updates also where it skips the flag. The two copies may so drift
apart; the main theorem says that the flag is right exactly as long as no completed check
meets such a drift. -/

namespace SecureGuard.Capture
open Machine

/-! ## Preferences and the check -/

inductive NetfreeKey
  | netfree
  | netfreeB
  | rimon
deriving DecidableEq, Repr

structure Prefs where
  netfree : Bool
  netfreeB : Bool
  rimon : Bool
deriving DecidableEq, Repr

/-- `Prefs.isNetfree`: no filter preference is enabled. -/
def Prefs.isNetfree (p : Prefs) : Bool := !p.netfree && !p.netfreeB && !p.rimon

def Prefs.putBoolean (p : Prefs) : NetfreeKey → Bool → Prefs
  | .netfree, value => { p with netfree := value }
  | .netfreeB, value => { p with netfreeB := value }
  | .rimon, value => { p with rimon := value }

/-- The answer to the check's request: its code, the two headers the check reads, and the
field `isNetFree` of a JSON body. -/
structure Response where
  responseCode : Nat
  location : Option String
  rimon : Option String
  isNetFree : Bool
deriving DecidableEq, Repr

/-- `doInBackground`, `none` standing for a request that threw. -/
def doInBackground (p : Prefs) : Option Response → Bool
  | none => false
  | some r =>
    if p.netfreeB then
      r.responseCode == 200 || (r.responseCode == 302 &&
        r.location == some "https://netfree.link/go/install-cert-x2")
    else if p.netfree then
      r.responseCode == 200 && r.isNetFree
    else if p.rimon then
      r.responseCode == 200 && r.rimon == some "RWC_BLOCK"
    else
      false

/-! ## The services of one process -/

structure Service where
  previousNetfree : Bool
  /-- `mCaptureThread` is not null. -/
  capturing : Bool
deriving DecidableEq, Repr

/-- A posted runnable, named by the service whose check it starts, with the handler it was
posted to. -/
structure Posted where
  handler : Nat
  service : Nat
deriving DecidableEq, Repr

/-- A `CheckNetfreeTask` that has not completed. `startedAt` counts the preference changes
before it was started, and is read by no code. -/
structure CheckNetfreeTask where
  service : Nat
  startedAt : Nat
  result : Option Bool
deriving DecidableEq, Repr

/-- The process: preferences, native flag, every service created so far (the last one is
`INSTANCE`), the static handler and runnable, what is posted, and the checks under way. The
last three fields are read by no code: the number of preference changes, whether a check
started after the last of them has completed, and the latest result. -/
structure App where
  prefs : Prefs
  isNetfree : Bool
  services : List Service
  handler : Nat
  runnable : Option Nat
  posted : List Posted
  tasks : List CheckNetfreeTask
  changes : Nat
  fresh : Bool
  latest : Bool
deriving DecidableEq, Repr

/-- `PCAPdroid.onCreate`. -/
def appStarted (prefs : Prefs) : App :=
  { prefs, isNetfree := prefs.isNetfree, services := [], handler := 0, runnable := none,
    posted := [], tasks := [], changes := 0, fresh := false, latest := false }

def startPeriodicCheck (s : App) (i : Nat) : App :=
  { s with runnable := some i, posted := s.posted ++ [⟨s.handler, i⟩] }

def onCreate (s : App) : App :=
  let i := s.services.length
  let s := { s with services := s.services ++ [⟨false, false⟩], handler := i }
  if !s.prefs.isNetfree then startPeriodicCheck s i else s

/-- `handler.removeCallbacks(runnable)`, the last act of `stopService` and of `onDestroy`. -/
def removeCallbacks (s : App) : App :=
  match s.runnable with
  | none => s
  | some i => { s with posted := s.posted.filter fun p => p != ⟨s.handler, i⟩ }

def setCapturing (s : App) (i : Nat) (capturing : Bool) : App :=
  { s with services := s.services.modify i fun v => { v with capturing } }

/-- `onStartCommand` of the newest service; `started` says whether it gets as far as the
capture thread or aborts after the flag was set. -/
def onStartCommand (s : App) (started : Bool) : App :=
  match s.services.getLast? with
  | none => s
  | some v =>
    if v.capturing then
      removeCallbacks s
    else
      let s := { s with isNetfree := s.prefs.isNetfree }
      if started then setCapturing s (s.services.length - 1) true else removeCallbacks s

/-- The posted runnable runs: it starts a check and posts itself again. -/
def runPosted (s : App) (p : Posted) : App :=
  { s with
    tasks := s.tasks ++ [⟨p.service, s.changes, none⟩]
    posted := s.posted.erase p ++ [⟨s.handler, p.service⟩] }

def previousNetfree (s : App) (i : Nat) : Bool :=
  s.services[i]?.any fun v => v.previousNetfree

def onPostExecute (s : App) (t : CheckNetfreeTask) (netfree : Bool) : App :=
  let s := { s with fresh := s.fresh || t.startedAt == s.changes, latest := netfree }
  if netfree != previousNetfree s t.service then
    { s with
      isNetfree := if !s.prefs.isNetfree then netfree else s.isNetfree
      services := s.services.modify t.service fun v => { v with previousNetfree := netfree } }
  else
    s

/-- A switch of the tracks screen; writing the value a preference has is no change. -/
def putBoolean (s : App) (key : NetfreeKey) (value : Bool) : App :=
  let prefs := s.prefs.putBoolean key value
  if prefs = s.prefs then s else { s with prefs, changes := s.changes + 1, fresh := false }

inductive Event
  | onCreate
  | onStartCommand (started : Bool)
  | stopService
  | onDestroy
  /-- The capture thread of a service ends. -/
  | captureEnded (service : Nat)
  | runPosted (p : Posted)
  /-- A check reads the preferences and gets its answer. -/
  | doInBackground (task : Nat) (answer : Option Response)
  | onPostExecute (task : Nat)
  | putBoolean (key : NetfreeKey) (value : Bool)
deriving DecidableEq, Repr

/-- The check an `onPostExecute` event completes, with its result. -/
def completed (s : App) (task : Nat) : Option (CheckNetfreeTask × Bool) :=
  s.tasks[task]?.bind fun t => t.result.map fun r => (t, r)

def step (s : App) : Event → App
  | .onCreate => onCreate s
  | .onStartCommand started => onStartCommand s started
  | .stopService | .onDestroy => removeCallbacks s
  | .captureEnded i => setCapturing (removeCallbacks s) i false
  | .runPosted p => if p ∈ s.posted then runPosted s p else s
  | .doInBackground k answer =>
    { s with
      tasks := s.tasks.modify k fun t =>
        { t with result := some (t.result.getD (doInBackground s.prefs answer)) } }
  | .onPostExecute k =>
    match completed s k with
    | none => s
    | some (t, r) => onPostExecute { s with tasks := s.tasks.eraseIdx k } t r
  | .putBoolean key value => putBoolean s key value

/-! ## Synchronisation -/

/-- Once a check started after the last preference change has completed, the flag is what
the preferences and the latest result say. -/
def Synced (s : App) : Prop :=
  s.fresh = true → s.isNetfree = (s.prefs.isNetfree || s.latest)

instance (s : App) : Decidable (Synced s) := inferInstanceAs (Decidable (_ → _))

/-- A completed check that meets no drift: with a filter preference on, a result that equals
`previousNetfree` finds the flag equal to it too; with none on, it finds the flag set. -/
def meetsNoDrift (s : App) (t : CheckNetfreeTask) (netfree : Bool) : Bool :=
  if s.prefs.isNetfree then s.isNetfree
  else netfree != previousNetfree s t.service || s.isNetfree == previousNetfree s t.service

/-- The step lets the copies drift apart where the flag is due: `onStartCommand` does not
fall back to the preferences against a positive latest result, and a completed check that is
due meets no drift. -/
def keepsInSync (s : App) : Event → Bool
  | .onStartCommand _ =>
    !s.fresh || s.services.getLast?.all (fun v => v.capturing) || s.prefs.isNetfree || !s.latest
  | .onPostExecute k => (completed s k).all fun (t, r) =>
    !(s.fresh || t.startedAt == s.changes) || meetsNoDrift s t r
  | _ => true

/-- The step leaves what `Synced` speaks of as it is. -/
structure SameFlags (s s' : App) : Prop where
  prefs : s'.prefs = s.prefs
  isNetfree : s'.isNetfree = s.isNetfree
  fresh : s'.fresh = s.fresh
  latest : s'.latest = s.latest

theorem SameFlags.synced_iff {s s' : App} (h : SameFlags s s') : Synced s' ↔ Synced s := by
  rw [Synced, Synced, h.prefs, h.isNetfree, h.fresh, h.latest]

theorem removeCallbacks_sameFlags (s : App) : SameFlags s (removeCallbacks s) := by
  unfold removeCallbacks
  split <;> exact ⟨rfl, rfl, rfl, rfl⟩

theorem onCreate_sameFlags (s : App) : SameFlags s (onCreate s) := by
  unfold onCreate
  dsimp only
  split <;> exact ⟨rfl, rfl, rfl, rfl⟩

/-- Every service that may start the capture sets the flag to what the preferences say. -/
theorem synced_onStartCommand_iff {s : App} (h : Synced s) (started : Bool) :
    Synced (onStartCommand s started) ↔ keepsInSync s (.onStartCommand started) = true := by
  have hset : ∀ s', SameFlags { s with isNetfree := s.prefs.isNetfree } s' →
      (Synced s' ↔ (!s.fresh || s.prefs.isNetfree || !s.latest) = true) := by
    intro s' hs'
    rw [hs'.synced_iff, Synced]
    cases s.fresh <;> cases s.prefs.isNetfree <;> cases s.latest <;> simp
  unfold onStartCommand keepsInSync
  cases hlast : s.services.getLast? with
  | none => simpa using h
  | some v =>
    cases hcap : v.capturing with
    | true => simpa [hcap] using (removeCallbacks_sameFlags s).synced_iff.mpr h
    | false =>
      simp only [Option.all_some, hcap, Bool.or_false]
      refine hset _ ?_
      cases started with
      | true => exact ⟨rfl, rfl, rfl, rfl⟩
      | false => exact removeCallbacks_sameFlags _

theorem synced_onPostExecute_iff (s : App) (t : CheckNetfreeTask) (r : Bool) :
    Synced (onPostExecute s t r) ↔
      (!(s.fresh || t.startedAt == s.changes) || meetsNoDrift s t r) = true := by
  have hprev : ∀ fresh, previousNetfree { s with fresh, latest := r } t.service =
      previousNetfree s t.service := fun _ => rfl
  unfold onPostExecute meetsNoDrift
  simp only [hprev, Synced]
  cases hfresh : (s.fresh || t.startedAt == s.changes) with
  | false => split <;> simp
  | true =>
    cases hpref : s.prefs.isNetfree <;> cases hp : previousNetfree s t.service <;> cases r <;>
      simp [hpref]

theorem synced_putBoolean {s : App} (h : Synced s) (key : NetfreeKey) (value : Bool) :
    Synced (putBoolean s key value) := by
  unfold putBoolean
  dsimp only
  split
  · exact h
  · intro hfresh
    cases hfresh

/-- What one step does to the synchronisation. -/
theorem synced_step_iff (s : App) (e : Event) (h : Synced s) :
    Synced (step s e) ↔ keepsInSync s e = true := by
  cases e with
  | onCreate => exact iff_of_true ((onCreate_sameFlags s).synced_iff.mpr h) rfl
  | onStartCommand started => exact synced_onStartCommand_iff h started
  | stopService => exact iff_of_true ((removeCallbacks_sameFlags s).synced_iff.mpr h) rfl
  | onDestroy => exact iff_of_true ((removeCallbacks_sameFlags s).synced_iff.mpr h) rfl
  | captureEnded i => exact iff_of_true ((removeCallbacks_sameFlags s).synced_iff.mpr h) rfl
  | runPosted p =>
    refine iff_of_true ?_ rfl
    unfold step
    dsimp only
    split <;> exact h
  | doInBackground k answer => exact iff_of_true h rfl
  | onPostExecute k =>
    unfold step keepsInSync
    dsimp only
    cases hdone : completed s k with
    | none => simpa using h
    | some done => exact synced_onPostExecute_iff _ done.1 done.2
  | putBoolean key value => exact iff_of_true (synced_putBoolean h key value) rfl

/-- The answer of a filtered and of an unfiltered network. -/
def answeredNetFree (isNetFree : Bool) : Option Response := some ⟨200, none, none, isNetFree⟩

/-- A check of the first service, from its start to its completion. -/
def checked (answer : Option Response) : List Event :=
  [.runPosted ⟨0, 0⟩, .doInBackground 0 answer, .onPostExecute 0]

/-- The filter is switched off and on again; the check in between moves the service's copy
alone, and the flag stays set on a network that is not filtered. -/
theorem netfreeSync_drifts :
    ¬ EveryState step Synced (appStarted ⟨true, false, false⟩)
      ([.onCreate, .onStartCommand true] ++ checked (answeredNetFree true) ++
        [.putBoolean .netfree false] ++ checked (answeredNetFree true) ++
        [.putBoolean .netfree true] ++ checked (answeredNetFree false)) := by
  decide

/-- **The flag is in sync in every state of a run exactly if every step keeps it so.** -/
theorem netfreeSync_iff (prefs : Prefs) (es : List Event) :
    EveryState step Synced (appStarted prefs) es ↔
      EveryStep step (fun s e => keepsInSync s e = true) (appStarted prefs) es :=
  everyState_iff_everyStep (fun _ h => h) synced_step_iff
    (fun s e h hkeep => (synced_step_iff s e h).mpr hkeep) (by intro h; cases h) es

end SecureGuard.Capture
