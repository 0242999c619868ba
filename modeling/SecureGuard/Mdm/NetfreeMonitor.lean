import SecureGuard.Lib.Machine

/-! # The NetFree monitor and the always-on VPN

`NetfreeMonitorService` checks every network that comes up and takes the lockdown off while
an approved one is connected; `BlockInternetVpnFeature` sets the same always-on VPN when it
is toggled. Commands run on the main thread, network callbacks on the connectivity thread,
checks and writes of settings in coroutines of their own. What a thread still has to do is a
list of actions, each atomic; the threads interleave between actions. Below Android 7 nobody
touches the always-on VPN, and whoever does catches what the call throws. -/

namespace SecureGuard.Mdm

/-! ## Data -/

abbrev Network := Nat

inductive Transport
  | wifi
  | cellular
deriving DecidableEq, Repr

/-- The always-on VPN as `setAlwaysOnVpnPackage` was last called: with `(null, false)`, or
with the own package and a lockdown flag. -/
inductive AlwaysOnVpn
  | off
  | own (lockdown : Bool)
deriving DecidableEq, Repr

/-- The saved status, `none` where the key is absent. -/
structure NetfreeStatus where
  isBlocked : Option Bool
  approvedNetworkType : Option Transport
deriving DecidableEq, Repr

/-- One instance of the service, with its network watcher's `networkCallback`. -/
structure Service where
  approvedNetworks : List (Network × Transport)
  networkCallback : Option Nat
  stopSelf : Bool
  destroyed : Bool
deriving DecidableEq, Repr

/-- A callback registered with the connectivity manager, and the service it reports to. -/
structure Callback where
  id : Nat
  service : Nat
deriving DecidableEq, Repr

inductive Command
  | startMonitoring
  | stopMonitoring
  | forceRecheck
deriving DecidableEq, Repr

/-- The two features that write the always-on VPN, directly and through the service. -/
inductive VpnFeature
  | blockInternetVpn
  | netfreeOnlyMode
deriving DecidableEq, Repr

inductive Action
  | enablePersistentFirewall
  | disablePersistentFirewall
  | clearApprovedNetworks
  | determinePreferredNetwork
  /-- The rest of `applyCurrentNetworkPolicy`, with the network determined. -/
  | applyPolicy (preferred : Option (Network × Transport))
  | startWatching
  | stopWatching
  | setServiceActive (isActive : Bool)
  | stopSelf
  | performNetfreeCheck (network : Network)
  /-- The body of the check's `try`; `started` is its number, read by no code. -/
  | checkNetwork (network : Network) (started : Nat)
  | setFeatureState (feature : VpnFeature) (isActive : Bool)
deriving DecidableEq, Repr

/-- What a thread still has to do, and for which instance of the service. -/
structure Task where
  service : Nat
  todo : List Action
deriving DecidableEq, Repr

inductive Thread
  | main
  | connectivity
  | worker (k : Nat)
deriving DecidableEq, Repr

/-- The capabilities of a network the check asks for. -/
structure Capabilities where
  wifi : Bool
  cellular : Bool
deriving DecidableEq, Repr

/-- What an action is answered with: the field `isNetFree` of the user, `none` where the request
of a check threw, the capabilities of the network, `none` where it is gone, and whether
`setAlwaysOnVpnPackage` throws. -/
structure Answer where
  user : Option Bool
  capabilities : Option Capabilities
  vpnThrows : Bool
deriving DecidableEq, Repr

/-- The level of Android, the VPN setting, the saved values, every instance of the service created
so far (the last one is current), the registered callbacks, the commands on their way, and the
threads. The last four fields are read by no code: the networks whose last callback was
`onAvailable`, the number of checks started, for every network the number and result of the
completed check that was started last, and whether a stop was processed after the last start. -/
structure Monitor where
  sdkInt : Nat
  vpn : AlwaysOnVpn
  serviceActive : Bool
  status : NetfreeStatus
  blockInternetVpn : Bool
  netfreeOnlyMode : Bool
  services : List Service
  callbacks : List Callback
  callbacksMade : Nat
  commands : List Command
  main : Task
  connectivity : Task
  workers : List Task
  connected : List Network
  checksStarted : Nat
  lastCheck : Network → Nat × Bool
  stopped : Bool

namespace Monitor

/-- No feature is on, and nothing runs. -/
def init (sdkInt : Nat) : Monitor :=
  { sdkInt, vpn := .off, serviceActive := false, status := ⟨none, none⟩, blockInternetVpn := false,
    netfreeOnlyMode := false, services := [], callbacks := [], callbacksMade := 0,
    commands := [], main := ⟨0, []⟩, connectivity := ⟨0, []⟩, workers := [], connected := [],
    checksStarted := 0, lastCheck := fun _ => (0, false), stopped := false }

def approvedNetworks (s : Monitor) (i : Nat) : List (Network × Transport) :=
  (s.services[i]?.map fun v => v.approvedNetworks).getD []

def setApprovedNetworks (s : Monitor) (i : Nat) (approved : List (Network × Transport)) :
    Monitor :=
  { s with services := s.services.modify i fun v => { v with approvedNetworks := approved } }

def destroyed (s : Monitor) (i : Nat) : Bool := s.services[i]?.any fun v => v.destroyed

end Monitor

/-! ## The service -/

/-- `determinePreferredNetwork`: some approved Wi-Fi network, else some cellular one. The
source's map has no order of its own; here it is the order of approval. -/
def preferredNetwork (approved : List (Network × Transport)) : Option (Network × Transport) :=
  match approved.find? fun e => e.2 == .wifi with
  | some e => some e
  | none => approved.find? fun e => e.2 == .cellular

def transportType (capabilities : Option Capabilities) : Option Transport :=
  if capabilities.any (·.wifi) then some .wifi
  else if capabilities.any (·.cellular) then some .cellular
  else none

/-- `NetfreeChecker.isNetfreeFiltered`. Every exception is caught there, the one that cancels
the coroutine of a destroyed service included. -/
def isNetfreeFiltered (s : Monitor) (i : Nat) (answer : Answer) : Bool :=
  !s.destroyed i && answer.user.getD false

def removeNetwork (approved : List (Network × Transport)) (n : Network) :
    List (Network × Transport) :=
  approved.filter fun e => e.1 != n

namespace Monitor

/-- `serviceScope.launch` of a check; the scope of a destroyed service launches nothing. -/
def performNetfreeCheck (s : Monitor) (i : Nat) (n : Network) : Monitor :=
  if s.destroyed i then
    s
  else
    { s with
      checksStarted := s.checksStarted + 1
      workers := s.workers ++
        [⟨i, [.checkNetwork n (s.checksStarted + 1), .determinePreferredNetwork]⟩] }

/-- The record of the completed check that was started last. -/
def recordCheck (s : Monitor) (n : Network) (started : Nat) (isFiltered : Bool) : Monitor :=
  if (s.lastCheck n).1 < started then
    { s with lastCheck := Function.update s.lastCheck n (started, isFiltered) }
  else
    s

def checkNetwork (s : Monitor) (i : Nat) (n : Network) (started : Nat) (answer : Answer) :
    Monitor :=
  let isFiltered := isNetfreeFiltered s i answer
  let s := s.recordCheck n started isFiltered
  if isFiltered then
    match transportType answer.capabilities with
    | some t => s.setApprovedNetworks i (removeNetwork (s.approvedNetworks i) n ++ [(n, t)])
    | none => s
  else
    s.setApprovedNetworks i (removeNetwork (s.approvedNetworks i) n)

/-- `startWatching` registers a new callback and forgets the one it had. -/
def startWatching (s : Monitor) (i : Nat) : Monitor :=
  { s with
    services := s.services.modify i fun v => { v with networkCallback := some s.callbacksMade }
    callbacks := s.callbacks ++ [⟨s.callbacksMade, i⟩]
    callbacksMade := s.callbacksMade + 1 }

def stopWatching (s : Monitor) (i : Nat) : Monitor :=
  match s.services[i]?.bind fun v => v.networkCallback with
  | none => s
  | some id =>
    { s with
      services := s.services.modify i fun v => { v with networkCallback := none }
      callbacks := s.callbacks.filter fun c => c.id != id }

def setServiceActive (s : Monitor) (isActive : Bool) : Monitor :=
  { s with
    serviceActive := isActive
    status := if isActive then s.status else ⟨none, none⟩ }

def setFeatureState (s : Monitor) (isActive : Bool) : VpnFeature → Monitor
  | .blockInternetVpn => { s with blockInternetVpn := isActive }
  | .netfreeOnlyMode => { s with netfreeOnlyMode := isActive }

/-- `Build.VERSION_CODES.N`. -/
def versionCodeN : Nat := 24

/-- A call of `setAlwaysOnVpnPackage` is made, and succeeds. -/
def writesVpn (s : Monitor) (throws : Bool) : Bool := decide (versionCodeN ≤ s.sdkInt) && !throws

def saveNetfreeStatus (s : Monitor) (isBlocked : Bool)
    (approvedNetworkType : Option Transport) : Monitor :=
  { s with status := ⟨some isBlocked, approvedNetworkType⟩ }

/-- `dpm.setAlwaysOnVpnPackage`, in its `if` and its `try`. -/
def setAlwaysOnVpnPackage (s : Monitor) (throws : Bool) (vpn : AlwaysOnVpn) : Monitor :=
  if s.writesVpn throws then { s with vpn } else s

/-- One action for the service `i`. -/
def perform (s : Monitor) (i : Nat) (answer : Answer) : Action → Monitor
  | .enablePersistentFirewall => s.setAlwaysOnVpnPackage answer.vpnThrows (.own false)
  | .disablePersistentFirewall => s.setAlwaysOnVpnPackage answer.vpnThrows .off
  | .clearApprovedNetworks => s.setApprovedNetworks i []
  | .determinePreferredNetwork => s
  | .applyPolicy preferred =>
    let s := s.saveNetfreeStatus preferred.isNone (preferred.map fun e => e.2)
    s.setAlwaysOnVpnPackage answer.vpnThrows (.own preferred.isNone)
  | .startWatching => s.startWatching i
  | .stopWatching => s.stopWatching i
  | .setServiceActive isActive => s.setServiceActive isActive
  | .stopSelf =>
    { s with
      services := s.services.modify i fun v => { v with stopSelf := true }
      stopped := true }
  | .performNetfreeCheck n => s.performNetfreeCheck i n
  | .checkNetwork n started => s.checkNetwork i n started answer
  | .setFeatureState feature isActive => s.setFeatureState isActive feature

/-- What an action leaves to be done: the network once determined has to be applied. -/
def continuation (s : Monitor) (i : Nat) : Action → List Action
  | .determinePreferredNetwork => [.applyPolicy (preferredNetwork (s.approvedNetworks i))]
  | _ => []

/-! ## Threads -/

def task (s : Monitor) : Thread → Task
  | .main => s.main
  | .connectivity => s.connectivity
  | .worker k => s.workers[k]?.getD ⟨0, []⟩

def setTask (s : Monitor) (t : Task) : Thread → Monitor
  | .main => { s with main := t }
  | .connectivity => { s with connectivity := t }
  | .worker k => { s with workers := s.workers.set k t }

def tasks (s : Monitor) : List Task := s.main :: s.connectivity :: s.workers

/-- The thread performs its next action. -/
def runThread (s : Monitor) (thread : Thread) (answer : Answer) : Monitor :=
  let t := s.task thread
  match t.todo with
  | [] => s
  | a :: rest =>
    (s.perform t.service answer a).setTask ⟨t.service, s.continuation t.service a ++ rest⟩ thread

end Monitor

/-! ## Events -/

/-- `onStartCommand`, `activeNetwork` being read by a forced recheck. -/
def Command.program (activeNetwork : Option Network) : Command → List Action
  | .startMonitoring => [.enablePersistentFirewall, .clearApprovedNetworks,
      .determinePreferredNetwork, .startWatching, .setServiceActive true]
  | .stopMonitoring => [.disablePersistentFirewall, .stopWatching, .setServiceActive false,
      .stopSelf]
  | .forceRecheck =>
    match activeNetwork with
    | some n => [.performNetfreeCheck n]
    | none => [.determinePreferredNetwork]

inductive Event
  /-- A feature is switched, by the settings or by a preset: its policy is applied, which catches
  what its call throws, and its state is saved by a coroutine. -/
  | toggle (feature : VpnFeature) (enable throws : Bool)
  /-- The dashboard, the watchdog or the boot task sends a command. -/
  | startService (command : Command)
  /-- The next command is delivered. -/
  | onStartCommand (activeNetwork : Option Network)
  | onAvailable (callback : Callback) (network : Network)
  | onLost (callback : Callback) (network : Network)
  | run (thread : Thread) (answer : Answer)
  | onDestroy
deriving DecidableEq, Repr

namespace Monitor

/-- The two `applyPolicy`, on the main thread: one writes the VPN setting, the other sends a
command to the service. -/
def applyFeature (s : Monitor) (enable throws : Bool) : VpnFeature → Monitor
  | .blockInternetVpn => s.setAlwaysOnVpnPackage throws (if enable then .own true else .off)
  | .netfreeOnlyMode =>
    if throws then s
    else
      { s with commands := s.commands ++ [if enable then .startMonitoring else .stopMonitoring] }

def toggle (s : Monitor) (feature : VpnFeature) (enable throws : Bool) : Monitor :=
  let s := s.applyFeature enable throws feature
  { s with workers := s.workers ++ [⟨0, [.setFeatureState feature enable]⟩] }

/-- A command for a destroyed service, or for none, creates a new one. -/
def ensureService (s : Monitor) : Monitor :=
  if s.services.getLast?.any fun v => !v.destroyed then s
  else { s with services := s.services ++ [⟨[], none, false, false⟩] }

/-- Below Android 6 the active network is not asked for. -/
def deliver (s : Monitor) (command : Command) (activeNetwork : Option Network) : Monitor :=
  let s := s.ensureService
  { s with
    main := ⟨s.services.length - 1,
      command.program (if 23 ≤ s.sdkInt then activeNetwork else none)⟩
    stopped := s.stopped && command != .startMonitoring }

def onNetworkAvailable (s : Monitor) (i : Nat) (n : Network) : Monitor :=
  let s := { s with connected := n :: s.connected.filter fun m => m != n }
  s.performNetfreeCheck i n

def onNetworkLost (s : Monitor) (i : Nat) (n : Network) : Monitor :=
  let s := { s with connected := s.connected.filter fun m => m != n }
  if (s.approvedNetworks i).any fun e => e.1 == n then
    let s := s.setApprovedNetworks i (removeNetwork (s.approvedNetworks i) n)
    { s with connectivity := ⟨i, [.determinePreferredNetwork]⟩ }
  else
    s

/-- `onDestroy` of the current service, due once it has called `stopSelf`. -/
def destroy (s : Monitor) : Monitor :=
  let i := s.services.length - 1
  if s.services.getLast?.any fun v => v.stopSelf && !v.destroyed then
    let s := { s with services := s.services.modify i fun v => { v with destroyed := true } }
    s.stopWatching i
  else
    s

end Monitor

/-- Commands, toggles and `onDestroy` wait for the main thread to be idle, callbacks for the
connectivity thread. -/
def step (s : Monitor) : Event → Monitor
  | .toggle feature enable throws =>
    if s.main.todo = [] then s.toggle feature enable throws else s
  | .startService command => { s with commands := s.commands ++ [command] }
  | .onStartCommand activeNetwork =>
    if s.main.todo = [] then
      match s.commands with
      | [] => s
      | command :: commands => { s with commands }.deliver command activeNetwork
    else
      s
  | .onAvailable callback n =>
    if s.connectivity.todo = [] ∧ callback ∈ s.callbacks then
      s.onNetworkAvailable callback.service n
    else
      s
  | .onLost callback n =>
    if s.connectivity.todo = [] ∧ callback ∈ s.callbacks then
      s.onNetworkLost callback.service n
    else
      s
  | .run thread answer => s.runThread thread answer
  | .onDestroy => if s.main.todo = [] then s.destroy else s

/-! ## What one action of a thread does -/

/-- The VPN setting where the call succeeds. -/
def Action.vpnAfter (vpn : AlwaysOnVpn) : Action → AlwaysOnVpn
  | .enablePersistentFirewall => .own false
  | .disablePersistentFirewall => .off
  | .applyPolicy preferred => .own preferred.isNone
  | _ => vpn

def Action.blockInternetVpnAfter (isActive : Bool) : Action → Bool
  | .setFeatureState .blockInternetVpn isActive => isActive
  | _ => isActive

def Action.serviceActiveAfter (isActive : Bool) : Action → Bool
  | .setServiceActive isActive => isActive
  | _ => isActive

def Action.stoppedAfter (stopped : Bool) : Action → Bool
  | .stopSelf => true
  | _ => stopped

/-- The coroutines an action starts. -/
def Monitor.spawned (s : Monitor) (i : Nat) : Action → List Task
  | .performNetfreeCheck n =>
    if s.destroyed i then []
    else [⟨i, [.checkNetwork n (s.checksStarted + 1), .determinePreferredNetwork]⟩]
  | _ => []

/-- What an action does to everything but the service's own data and the callbacks. -/
structure Performed (s s' : Monitor) (i : Nat) (answer : Answer) (a : Action) : Prop where
  vpn : s'.vpn = if s.writesVpn answer.vpnThrows then a.vpnAfter s.vpn else s.vpn
  blockInternetVpn : s'.blockInternetVpn = a.blockInternetVpnAfter s.blockInternetVpn
  serviceActive : s'.serviceActive = a.serviceActiveAfter s.serviceActive
  stopped : s'.stopped = a.stoppedAfter s.stopped
  main : s'.main = s.main
  connectivity : s'.connectivity = s.connectivity
  workers : s'.workers = s.workers ++ s.spawned i a
  commands : s'.commands = s.commands
  connected : s'.connected = s.connected

namespace Monitor

variable (s : Monitor) (i : Nat) (answer : Answer) (a : Action)

/-- Recording a completed check touches the approved networks and the record only. -/
theorem checkNetwork_frame (n : Network) (started : Nat) : ∃ services lastCheck,
    s.checkNetwork i n started answer = { s with services, lastCheck } := by
  unfold checkNetwork recordCheck
  dsimp only
  split
  · split <;> split <;> exact ⟨_, _, rfl⟩
  · split <;> exact ⟨_, _, rfl⟩

theorem services_recordCheck (n : Network) (started : Nat) (isFiltered : Bool) :
    (s.recordCheck n started isFiltered).services = s.services := by
  unfold recordCheck
  split <;> rfl

theorem ensureService_frame : ∃ services, s.ensureService = { s with services } := by
  unfold ensureService
  split <;> exact ⟨_, rfl⟩

/-- A call of `setAlwaysOnVpnPackage` touches the VPN setting alone. -/
theorem setAlwaysOnVpnPackage_eq (throws : Bool) (vpn : AlwaysOnVpn) :
    s.setAlwaysOnVpnPackage throws vpn =
      { s with vpn := if s.writesVpn throws then vpn else s.vpn } := by
  unfold setAlwaysOnVpnPackage
  split <;> rfl

/-- A toggle starts the coroutine that saves the state, and changes the VPN setting or the
commands besides. -/
theorem toggle_frame (feature : VpnFeature) (enable throws : Bool) : ∃ vpn commands,
    s.toggle feature enable throws =
      { s with
        vpn, commands
        workers := s.workers ++ [⟨0, [.setFeatureState feature enable]⟩] } := by
  unfold toggle
  cases feature with
  | blockInternetVpn =>
    rw [applyFeature, setAlwaysOnVpnPackage_eq]
    exact ⟨_, _, rfl⟩
  | netfreeOnlyMode =>
    rw [applyFeature]
    split
    · exact ⟨_, _, rfl⟩
    · exact ⟨_, _, rfl⟩

theorem stopWatching_frame : ∃ services callbacks,
    s.stopWatching i = { s with services, callbacks } := by
  unfold stopWatching
  split <;> exact ⟨_, _, rfl⟩

theorem performed : Performed s (s.perform i answer a) i answer a := by
  have hnone : s.workers ++ [] = s.workers := List.append_nil _
  have hvpn : s.vpn = if s.writesVpn answer.vpnThrows then s.vpn else s.vpn := (ite_self _).symm
  cases a with
  | enablePersistentFirewall | disablePersistentFirewall | applyPolicy =>
    rw [perform, setAlwaysOnVpnPackage_eq]
    exact ⟨rfl, rfl, rfl, rfl, rfl, rfl, hnone.symm, rfl, rfl⟩
  | performNetfreeCheck n =>
    unfold perform performNetfreeCheck
    dsimp only
    split
    · next h => exact ⟨hvpn, rfl, rfl, rfl, rfl, rfl, by simp [spawned, h], rfl, rfl⟩
    · next h => exact ⟨hvpn, rfl, rfl, rfl, rfl, rfl, by simp [spawned, h], rfl, rfl⟩
  | checkNetwork n started =>
    obtain ⟨services, lastCheck, he⟩ := s.checkNetwork_frame i answer n started
    rw [perform, he]
    exact ⟨hvpn, rfl, rfl, rfl, rfl, rfl, hnone.symm, rfl, rfl⟩
  | stopWatching =>
    obtain ⟨services, callbacks, he⟩ := s.stopWatching_frame i
    rw [perform, he]
    exact ⟨hvpn, rfl, rfl, rfl, rfl, rfl, hnone.symm, rfl, rfl⟩
  | setFeatureState feature isActive =>
    cases feature <;> exact ⟨hvpn, rfl, rfl, rfl, rfl, rfl, hnone.symm, rfl, rfl⟩
  | _ => exact ⟨hvpn, rfl, rfl, rfl, rfl, rfl, hnone.symm, rfl, rfl⟩

/-- The thread's task is replaced by what is left of it, and its coroutines are added. -/
theorem runThread_tasks {thread : Thread} {rest : List Action}
    (h : (s.task thread).todo = a :: rest) : ∃ before after,
    s.tasks = before ++ s.task thread :: after ∧
    (s.runThread thread answer).tasks = before ++
      ⟨(s.task thread).service, s.continuation (s.task thread).service a ++ rest⟩ ::
        (after ++ s.spawned (s.task thread).service a) := by
  obtain ⟨-, -, -, -, hmain, hconn, hwork, -, -⟩ := s.performed (s.task thread).service answer a
  cases thread with
  | main =>
    refine ⟨[], s.connectivity :: s.workers, rfl, ?_⟩
    simp only [runThread, h]
    simp only [tasks, setTask, hconn, hwork, List.nil_append, List.cons_append]
  | connectivity =>
    refine ⟨[s.main], s.workers, rfl, ?_⟩
    simp only [runThread, h]
    simp only [tasks, setTask, hmain, hwork, List.nil_append, List.cons_append]
  | worker k =>
    have hk : k < s.workers.length := by
      by_contra hk
      simp [task, hk] at h
    have htask : s.task (.worker k) = s.workers[k] := by simp [task, hk]
    refine ⟨s.main :: s.connectivity :: s.workers.take k, s.workers.drop (k + 1), ?_, ?_⟩
    · rw [htask, tasks, List.cons_append, List.cons_append, ← List.drop_eq_getElem_cons hk,
        List.take_append_drop]
    · simp only [runThread, h]
      simp only [tasks, setTask, hmain, hconn, hwork, List.cons_append]
      rw [List.set_append_left _ _ hk, List.set_eq_take_append_cons_drop, if_pos hk,
        List.append_assoc, List.cons_append]

/-- Handing the rest of a task back changes no field but the threads. -/
theorem runThread_performed {thread : Thread} {rest : List Action}
    (h : (s.task thread).todo = a :: rest) :
    (s.runThread thread answer).vpn =
      (if s.writesVpn answer.vpnThrows then a.vpnAfter s.vpn else s.vpn) ∧
    (s.runThread thread answer).blockInternetVpn = a.blockInternetVpnAfter s.blockInternetVpn ∧
    (s.runThread thread answer).serviceActive = a.serviceActiveAfter s.serviceActive ∧
    (s.runThread thread answer).stopped = a.stoppedAfter s.stopped := by
  have hp := s.performed (s.task thread).service answer a
  simp only [runThread, h]
  cases thread <;> exact ⟨hp.vpn, hp.blockInternetVpn, hp.serviceActive, hp.stopped⟩

theorem runThread_main {rest : List Action} (h : s.main.todo = a :: rest) :
    (s.runThread .main answer).main =
      ⟨s.main.service, s.continuation s.main.service a ++ rest⟩ := by
  simp [runThread, task, h, setTask]

theorem runThread_main_of_ne {thread : Thread} (h : thread ≠ .main) :
    (s.runThread thread answer).main = s.main := by
  unfold runThread
  dsimp only
  split
  · rfl
  · next b rest he =>
    have hmain := (s.performed (s.task thread).service answer b).main
    cases thread with
    | main => exact absurd rfl h
    | connectivity => exact hmain
    | worker k => exact hmain

/-- The threads other than the main one. -/
def others : List Task := s.connectivity :: s.workers

theorem task_mem_others {thread : Thread} (hne : thread ≠ .main)
    (h : (s.task thread).todo ≠ []) : s.task thread ∈ s.others := by
  cases thread with
  | main => exact absurd rfl hne
  | connectivity => exact List.mem_cons_self
  | worker k =>
    have hk : k < s.workers.length := by
      by_contra hk
      simp [task, hk] at h
    simp [task, hk, others]

theorem mem_others_runThread {thread : Thread} {rest : List Action}
    (h : (s.task thread).todo = a :: rest) {t : Task}
    (ht : t ∈ (s.runThread thread answer).others) :
    t ∈ s.others ∨ t ∈ s.spawned (s.task thread).service a ∨ (thread ≠ .main ∧
      t.todo = s.continuation (s.task thread).service a ++ rest) := by
  obtain ⟨-, -, -, -, hmain, hconn, hwork, -, -⟩ := s.performed (s.task thread).service answer a
  cases thread with
  | main =>
    simp only [runThread, h, others, setTask, hconn, hwork, List.mem_cons, List.mem_append] at ht ⊢
    tauto
  | connectivity =>
    simp only [runThread, h, others, setTask, hwork, List.mem_cons, List.mem_append] at ht ⊢
    rcases ht with rfl | ht | ht
    · exact Or.inr (Or.inr ⟨by simp, rfl⟩)
    · exact Or.inl (Or.inr ht)
    · exact Or.inr (Or.inl ht)
  | worker k =>
    simp only [runThread, h, others, setTask, hconn, hwork, List.mem_cons] at ht ⊢
    rcases ht with rfl | ht
    · exact Or.inl (Or.inl rfl)
    · rcases List.mem_or_eq_of_mem_set ht with ht | rfl
      · rcases List.mem_append.mp ht with ht | ht
        · exact Or.inl (Or.inr ht)
        · exact Or.inr (Or.inl ht)
      · exact Or.inr (Or.inr ⟨by simp, rfl⟩)

theorem runThread_idle {thread : Thread} (h : (s.task thread).todo = []) :
    s.runThread thread answer = s := by
  simp [runThread, h]

end Monitor

/-! ## Parts of runs -/

/-- A request that threw, and a call that did not. -/
def noAnswer : Answer := ⟨none, none, false⟩

/-- The next command is delivered and carried out. -/
def carriedOut (actions : Nat) : List Event :=
  .onStartCommand none :: List.replicate actions (.run .main noAnswer)

/-- The NetFree feature is switched on, as the first thing that happens, and carried out. -/
def monitoring : List Event :=
  [.toggle .netfreeOnlyMode true false, .run (.worker 0) noAnswer] ++ carriedOut 6

end SecureGuard.Mdm
