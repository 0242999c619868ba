import SecureGuard.Mdm.NetfreeMonitor

/-! # The approved networks are current

Every approved network should be connected, with a positive result of the check that was
started last, and without one the lockdown should be on. A check knows only its own answer:
it may complete after its network was lost, or after a later check of the same network. And
a policy is written some time after the approved networks were read. The main theorem holds
for the runs in which neither happens at a wrong moment. -/

namespace SecureGuard.Mdm
open Machine

/-! ## The property -/

/-- The thread has nothing to do, or waits for the answer of a check. -/
def Task.waits (t : Task) : Bool :=
  match t.todo with
  | [] | .checkNetwork _ _ :: _ => true
  | _ => false

namespace Monitor

/-- The approved networks of the current service. -/
def approved (s : Monitor) : List (Network × Transport) :=
  s.approvedNetworks (s.services.length - 1)

/-- The network is connected, and the completed check of it started last was positive. -/
def Vouched (s : Monitor) (n : Network) : Prop := n ∈ s.connected ∧ (s.lastCheck n).2 = true

end Monitor

/-- What every reachable state should satisfy. -/
def ApprovalsCurrent (s : Monitor) : Prop :=
  (∀ e ∈ s.approved, s.Vouched e.1) ∧
    (s.tasks.all Task.waits = true → s.approved = [] → s.vpn = .own true)

instance (s : Monitor) (n : Network) : Decidable (s.Vouched n) :=
  inferInstanceAs (Decidable (_ ∧ _))

instance (s : Monitor) : Decidable (ApprovalsCurrent s) := inferInstanceAs (Decidable (_ ∧ _))

/-- An approval is for a connected network of which no check started later has failed; a policy
with an approved network is written while there is one, and a policy without one is written at
all. -/
def keepsCurrent (s : Monitor) : Event → Bool
  | .run thread answer =>
    let t := s.task thread
    match t.todo with
    | .checkNetwork n started :: _ =>
      !isNetfreeFiltered s t.service answer || (transportType answer.capabilities).isNone ||
        (s.connected.contains n &&
          (decide ((s.lastCheck n).1 < started) || (s.lastCheck n).2))
    | .applyPolicy (some _) :: _ => !s.approved.isEmpty
    | .applyPolicy none :: _ => s.writesVpn answer.vpnThrows
    | _ => true
  | _ => true

/-- The events of a monitor that is running: starts and rechecks, callbacks, and the threads. -/
def monitors : Event → Bool
  | .startService command => command != .stopMonitoring
  | .onStartCommand _ | .onAvailable _ _ | .onLost _ _ | .run _ _ => true
  | .toggle _ _ _ | .onDestroy => false

/-- The first start is being carried out. -/
def started (sdkInt : Nat) : Monitor := (Monitor.init sdkInt).deliver .startMonitoring none

/-! ## Every list of actions ends with a policy where it needs one -/

/-- The action leaves a policy to be applied. -/
def Action.unsettles : Action → Bool
  | .enablePersistentFirewall | .clearApprovedNetworks | .checkNetwork _ _ => true
  | _ => false

/-- The action turns the lockdown on if no network is approved by then. -/
def Action.locks : Action → Bool
  | .determinePreferredNetwork | .applyPolicy none => true
  | _ => false

def Action.isCheck : Action → Bool
  | .checkNetwork _ _ => true
  | _ => false

/-- A policy follows every action that leaves one to be applied, nothing waits for an answer
but the first action, and the firewall is not disabled. -/
def wellFormed : List Action → Bool
  | [] => true
  | a :: rest => (!a.unsettles || rest.any Action.locks) && !rest.any Action.isCheck &&
      a != .disablePersistentFirewall && wellFormed rest

theorem wellFormed_program {c : Command} (hc : c ≠ .stopMonitoring)
    (activeNetwork : Option Network) : wellFormed (c.program activeNetwork) = true := by
  cases c with
  | startMonitoring => rfl
  | stopMonitoring => exact absurd rfl hc
  | forceRecheck => cases activeNetwork <;> rfl

/-- The thread will turn the lockdown on, without waiting, if no network is approved. -/
def Task.settles (t : Task) : Bool := !t.waits && t.todo.any Action.locks

theorem settles_of_locks {i : Nat} {todo : List Action} (hlocks : todo.any Action.locks = true)
    (hcheck : todo.any Action.isCheck = false) : Task.settles ⟨i, todo⟩ = true := by
  cases todo with
  | nil => simp at hlocks
  | cons a rest =>
    rw [Task.settles, hlocks, Bool.and_true]
    cases a <;> simp_all [Task.waits, Action.isCheck]

/-! ## The invariant -/

structure Current (s : Monitor) : Prop where
  service : ∃ v, s.services = [v] ∧ v.destroyed = false
  tasks : ∀ t ∈ s.tasks, t.service = 0 ∧ wellFormed t.todo = true
  callbacks : ∀ c ∈ s.callbacks, c.service = 0
  commands : .stopMonitoring ∉ s.commands
  vouched : ∀ e ∈ s.approvedNetworks 0, s.Vouched e.1
  locked : s.approvedNetworks 0 = [] → s.vpn = .own true ∨ ∃ t ∈ s.tasks, t.settles = true

theorem Current.approved_eq {s : Monitor} (h : Current s) : s.approved = s.approvedNetworks 0 := by
  obtain ⟨v, hv, -⟩ := h.service
  simp [Monitor.approved, hv]

theorem Current.approvalsCurrent {s : Monitor} (h : Current s) : ApprovalsCurrent s := by
  rw [ApprovalsCurrent, h.approved_eq]
  refine ⟨h.vouched, fun hidle hnone => ?_⟩
  rcases h.locked hnone with hvpn | ⟨t, ht, hsettles⟩
  · exact hvpn
  · have hwaits := List.all_eq_true.mp hidle t ht
    simp [Task.settles, hwaits] at hsettles

/-! ## A thread runs -/

theorem vouched_recordCheck_of_ne (s : Monitor) {m n : Network} (h : m ≠ n) (k : Nat)
    (isFiltered : Bool) : (s.recordCheck n k isFiltered).Vouched m ↔ s.Vouched m := by
  unfold Monitor.recordCheck
  split
  · simp [Monitor.Vouched, Function.update_of_ne h]
  · exact Iff.rfl

/-- A positive check vouches for its network, unless a later one has failed. -/
theorem vouched_recordCheck {s : Monitor} {n : Network} {k : Nat} (hconn : n ∈ s.connected)
    (h : (s.lastCheck n).1 < k ∨ (s.lastCheck n).2 = true) :
    (s.recordCheck n k true).Vouched n := by
  unfold Monitor.recordCheck
  split
  · exact ⟨hconn, by simp⟩
  · next hk => exact ⟨hconn, h.resolve_left hk⟩

theorem mem_removeNetwork {approved : List (Network × Transport)} {n : Network}
    {e : Network × Transport} : e ∈ removeNetwork approved n ↔ e ∈ approved ∧ e.1 ≠ n := by
  simp [removeNetwork]

section Perform

variable {s : Monitor} {v : Service} (hv : s.services = [v]) (answer : Answer)
include hv

theorem approvedNetworks_eq : s.approvedNetworks 0 = v.approvedNetworks := by
  simp [Monitor.approvedNetworks, hv]

theorem services_setApprovedNetworks (approved : List (Network × Transport)) :
    (s.setApprovedNetworks 0 approved).services = [{ v with approvedNetworks := approved }] := by
  simp [Monitor.setApprovedNetworks, hv]

/-- The data of the service after an action: only a check and a start change its networks. -/
theorem services_perform (a : Action) : ∃ v', (s.perform 0 answer a).services = [v'] ∧
    v'.destroyed = v.destroyed ∧
    (v'.approvedNetworks = v.approvedNetworks ∨ a.unsettles = true) := by
  cases a with
  | clearApprovedNetworks =>
    exact ⟨_, services_setApprovedNetworks hv [], rfl, Or.inr rfl⟩
  | startWatching =>
    exact ⟨{ v with networkCallback := some s.callbacksMade },
      by simp [Monitor.perform, Monitor.startWatching, hv], rfl, Or.inl rfl⟩
  | stopWatching =>
    simp only [Monitor.perform, Monitor.stopWatching]
    split
    · exact ⟨v, hv, rfl, Or.inl rfl⟩
    · exact ⟨{ v with networkCallback := none }, by simp [hv], rfl, Or.inl rfl⟩
  | stopSelf =>
    exact ⟨{ v with stopSelf := true }, by simp [Monitor.perform, hv], rfl, Or.inl rfl⟩
  | performNetfreeCheck n =>
    simp only [Monitor.perform, Monitor.performNetfreeCheck]
    split <;> exact ⟨v, hv, rfl, Or.inl rfl⟩
  | checkNetwork n k =>
    have hrecord : ∀ f, (s.recordCheck n k f).services = [v] := by
      intro f
      rw [Monitor.services_recordCheck, hv]
    simp only [Monitor.perform, Monitor.checkNetwork]
    split
    · split
      · exact ⟨_, services_setApprovedNetworks (hrecord _) _, rfl, Or.inr rfl⟩
      · exact ⟨v, hrecord _, rfl, Or.inl rfl⟩
    · exact ⟨_, services_setApprovedNetworks (hrecord _) _, rfl, Or.inr rfl⟩
  | setFeatureState feature isActive => cases feature <;> exact ⟨v, hv, rfl, Or.inl rfl⟩
  | enablePersistentFirewall | disablePersistentFirewall | applyPolicy =>
    rw [Monitor.perform, Monitor.setAlwaysOnVpnPackage_eq]
    exact ⟨v, hv, rfl, Or.inl rfl⟩
  | _ => exact ⟨v, hv, rfl, Or.inl rfl⟩

theorem vouched_checkNetwork (h : ∀ e ∈ s.approvedNetworks 0, s.Vouched e.1) (n : Network)
    (k : Nat) (hkeep : isNetfreeFiltered s 0 answer = true →
      (transportType answer.capabilities).isSome = true → n ∈ s.connected ∧
        ((s.lastCheck n).1 < k ∨ (s.lastCheck n).2 = true)) :
    ∀ e ∈ (s.checkNetwork 0 n k answer).approvedNetworks 0,
      (s.checkNetwork 0 n k answer).Vouched e.1 := by
  have hrecord : ∀ f, (s.recordCheck n k f).services = [v] := by
    intro f
    rw [Monitor.services_recordCheck, hv]
  have happroved : ∀ f, (s.recordCheck n k f).approvedNetworks 0 = s.approvedNetworks 0 := by
    intro f
    rw [approvedNetworks_eq (hrecord f), approvedNetworks_eq hv]
  have hset : ∀ f l, ((s.recordCheck n k f).setApprovedNetworks 0 l).approvedNetworks 0 = l :=
    fun f l => approvedNetworks_eq (services_setApprovedNetworks (hrecord f) l)
  have hremoved : ∀ f, ∀ e ∈ removeNetwork (s.approvedNetworks 0) n,
      (s.recordCheck n k f).Vouched e.1 := by
    intro f e he
    obtain ⟨he, hne⟩ := mem_removeNetwork.mp he
    exact (vouched_recordCheck_of_ne s hne k f).mpr (h e he)
  intro e
  unfold Monitor.checkNetwork
  dsimp only
  cases hfiltered : isNetfreeFiltered s 0 answer with
  | false =>
    rw [if_neg (by decide), hset, happroved]
    exact hremoved false e
  | true =>
    rw [if_pos rfl]
    cases htransport : transportType answer.capabilities with
    | none =>
      rw [happroved]
      intro he
      by_cases hn : e.1 = n
      · rw [hn]
        have hvouched := h e he
        rw [hn] at hvouched
        exact vouched_recordCheck hvouched.1 (Or.inr hvouched.2)
      · exact (vouched_recordCheck_of_ne s hn k true).mpr (h e he)
    | some t =>
      obtain ⟨hconn, hlast⟩ := hkeep hfiltered (by simp [htransport])
      dsimp only
      rw [hset, happroved]
      intro he
      rcases List.mem_append.mp he with he | he
      · exact hremoved true e he
      · rw [List.mem_singleton.mp he]
        exact vouched_recordCheck hconn hlast

/-- The approved networks stay vouched for. -/
theorem vouched_perform (h : ∀ e ∈ s.approvedNetworks 0, s.Vouched e.1) (a : Action)
    (hkeep : ∀ n k, a = .checkNetwork n k → isNetfreeFiltered s 0 answer = true →
      (transportType answer.capabilities).isSome = true → n ∈ s.connected ∧
        ((s.lastCheck n).1 < k ∨ (s.lastCheck n).2 = true)) :
    ∀ e ∈ (s.perform 0 answer a).approvedNetworks 0, (s.perform 0 answer a).Vouched e.1 := by
  cases a with
  | checkNetwork n k => exact vouched_checkNetwork hv answer h n k (hkeep n k rfl)
  | clearApprovedNetworks =>
    intro e he
    rw [Monitor.perform, approvedNetworks_eq (services_setApprovedNetworks hv [])] at he
    cases he
  | startWatching =>
    intro e he
    refine h e ?_
    simpa [Monitor.perform, Monitor.startWatching, Monitor.approvedNetworks, hv] using he
  | stopWatching =>
    simp only [Monitor.perform, Monitor.stopWatching]
    split
    · exact h
    · intro e he
      refine h e ?_
      simpa [Monitor.approvedNetworks, hv] using he
  | stopSelf =>
    intro e he
    refine h e ?_
    simpa [Monitor.perform, Monitor.approvedNetworks, hv] using he
  | performNetfreeCheck n =>
    simp only [Monitor.perform, Monitor.performNetfreeCheck]
    split <;> exact h
  | setFeatureState feature isActive => cases feature <;> exact h
  | enablePersistentFirewall | disablePersistentFirewall | applyPolicy =>
    rw [Monitor.perform, Monitor.setAlwaysOnVpnPackage_eq]
    exact h
  | _ => exact h

end Perform

namespace Monitor

variable (s : Monitor) (t : Task) (thread : Thread)

@[simp] theorem setTask_services : (s.setTask t thread).services = s.services := by
  cases thread <;> rfl

@[simp] theorem setTask_callbacks : (s.setTask t thread).callbacks = s.callbacks := by
  cases thread <;> rfl

@[simp] theorem setTask_commands : (s.setTask t thread).commands = s.commands := by
  cases thread <;> rfl

theorem setTask_approvedNetworks (i : Nat) :
    (s.setTask t thread).approvedNetworks i = s.approvedNetworks i := by
  cases thread <;> rfl

theorem setTask_vouched (n : Network) : (s.setTask t thread).Vouched n ↔ s.Vouched n := by
  cases thread <;> exact Iff.rfl

end Monitor

section Run

variable {s : Monitor} {thread : Thread} {a : Action} {rest : List Action}

theorem service_eq_zero (hc : Current s) (htodo : (s.task thread).todo = a :: rest) :
    s.task thread ∈ s.tasks ∧ (s.task thread).service = 0 ∧ wellFormed (a :: rest) = true := by
  have hmem : s.task thread ∈ s.tasks := by
    obtain ⟨before, after, hs, -⟩ := s.runThread_tasks noAnswer a htodo
    rw [hs]
    simp
  obtain ⟨hzero, hwell⟩ := hc.tasks _ hmem
  exact ⟨hmem, hzero, htodo ▸ hwell⟩

theorem callbacks_perform (h : ∀ c ∈ s.callbacks, c.service = 0) (answer : Answer) (a : Action) :
    ∀ c ∈ (s.perform 0 answer a).callbacks, c.service = 0 := by
  cases a with
  | startWatching =>
    intro c hc
    rcases List.mem_append.mp hc with hc | hc
    · exact h c hc
    · rw [List.mem_singleton.mp hc]
  | stopWatching =>
    simp only [Monitor.perform, Monitor.stopWatching]
    split
    · exact h
    · exact fun c hc => h c (List.mem_filter.mp hc).1
  | performNetfreeCheck n =>
    simp only [Monitor.perform, Monitor.performNetfreeCheck]
    split <;> exact h
  | checkNetwork n k =>
    obtain ⟨services, lastCheck, he⟩ := s.checkNetwork_frame 0 answer n k
    rw [Monitor.perform, he]
    exact h
  | setFeatureState feature isActive => cases feature <;> exact h
  | enablePersistentFirewall | disablePersistentFirewall | applyPolicy =>
    rw [Monitor.perform, Monitor.setAlwaysOnVpnPackage_eq]
    exact h
  | _ => exact h

/-- Where the action leaves no policy to be applied and applies none, whoever settles the
lockdown still does. -/
theorem lockdown_runThread_of_same (hc : Current s) (htodo : (s.task thread).todo = a :: rest)
    (answer : Answer) (hlocks : a.locks = false) (hvpn : a.vpnAfter s.vpn = s.vpn)
    (hnone : s.approvedNetworks 0 = []) :
    (s.runThread thread answer).vpn = .own true ∨
      ∃ t ∈ (s.runThread thread answer).tasks, t.settles = true := by
  obtain ⟨before, after, hs, hrun⟩ := s.runThread_tasks answer a htodo
  obtain ⟨-, -, hwell⟩ := service_eq_zero hc htodo
  simp only [wellFormed, Bool.and_eq_true, Bool.not_eq_true'] at hwell
  rcases hc.locked hnone with h | ⟨t, ht, hsettles⟩
  · exact Or.inl (by rw [(s.runThread_performed answer a htodo).1, hvpn, ite_self, h])
  · right
    rw [hrun]
    rw [hs] at ht
    rcases List.mem_append.mp ht with ht | ht
    · exact ⟨t, by simp [ht], hsettles⟩
    · rcases List.mem_cons.mp ht with rfl | ht
      · refine ⟨_, List.mem_append_right _ List.mem_cons_self, settles_of_locks ?_ ?_⟩
        · have hrest := (Bool.and_eq_true_iff.mp hsettles).2
          rw [htodo, List.any_cons, hlocks, Bool.false_or] at hrest
          rw [List.any_append, hrest, Bool.or_true]
        · rw [List.any_append, hwell.1.1.2, Bool.or_false]
          cases a <;> rfl
      · exact ⟨t, by simp [ht], hsettles⟩

/-- Without an approved network, the lockdown is on or about to be. -/
theorem lockdown_runThread (hc : Current s) (htodo : (s.task thread).todo = a :: rest)
    (answer : Answer) (hkeep : keepsCurrent s (.run thread answer) = true)
    (hnone : a.unsettles = true ∨ s.approvedNetworks 0 = []) :
    (s.runThread thread answer).vpn = .own true ∨
      ∃ t ∈ (s.runThread thread answer).tasks, t.settles = true := by
  obtain ⟨-, hzero, hwell⟩ := service_eq_zero hc htodo
  simp only [wellFormed, Bool.and_eq_true, Bool.or_eq_true, Bool.not_eq_true', bne_iff_ne] at hwell
  obtain ⟨⟨⟨hfollowed, hnocheck⟩, hdisable⟩, -⟩ := hwell
  by_cases hun : a.unsettles = true
  · -- The policy that follows is next, or after actions that do not wait.
    obtain ⟨before, after, -, hrun⟩ := s.runThread_tasks answer a htodo
    have hcont : s.continuation (s.task thread).service a = [] := by
      cases a <;> simp_all [Action.unsettles, Monitor.continuation]
    rw [hcont, List.nil_append] at hrun
    refine Or.inr ⟨_, by rw [hrun]; exact List.mem_append_right _ List.mem_cons_self, ?_⟩
    exact settles_of_locks (hfollowed.resolve_left (by simp [hun])) hnocheck
  · have hempty := hnone.resolve_left hun
    cases a with
    | determinePreferredNetwork =>
      obtain ⟨before, after, -, hrun⟩ := s.runThread_tasks answer _ htodo
      refine Or.inr ⟨_, by rw [hrun]; exact List.mem_append_right _ List.mem_cons_self, ?_⟩
      simp [Monitor.continuation, hzero, hempty, preferredNetwork, Task.settles, Task.waits,
        Action.locks]
    | applyPolicy preferred =>
      cases preferred with
      | none =>
        have hwrites : s.writesVpn answer.vpnThrows = true := by
          simpa [keepsCurrent, htodo] using hkeep
        exact Or.inl ((s.runThread_performed answer _ htodo).1.trans (if_pos hwrites))
      | some e => simp [keepsCurrent, htodo, hc.approved_eq, hempty] at hkeep
    | disablePersistentFirewall => exact absurd rfl hdisable
    | enablePersistentFirewall => exact absurd rfl hun
    | _ => exact lockdown_runThread_of_same hc htodo answer rfl rfl hempty

theorem current_runThread (hc : Current s) (answer : Answer)
    (hkeep : keepsCurrent s (.run thread answer) = true) :
    Current (s.runThread thread answer) := by
  cases htodo : (s.task thread).todo with
  | nil => rwa [s.runThread_idle answer htodo]
  | cons a rest =>
    obtain ⟨v, hv, hdestroyed⟩ := hc.service
    obtain ⟨-, hzero, hwell⟩ := service_eq_zero hc htodo
    obtain ⟨before, after, hs, hrun⟩ := s.runThread_tasks answer a htodo
    have hperform : s.runThread thread answer = (s.perform 0 answer a).setTask
        ⟨0, s.continuation 0 a ++ rest⟩ thread := by
      simp only [Monitor.runThread, htodo, hzero]
    obtain ⟨v', hv', hdestroyed', hsame⟩ := services_perform hv answer a
    have hservices : (s.runThread thread answer).services = [v'] := by
      rw [hperform, Monitor.setTask_services, hv']
    refine ⟨⟨v', hservices, hdestroyed'.trans hdestroyed⟩, fun t ht => ?_, ?_, ?_, ?_,
      fun hnone => ?_⟩
    · rw [hrun] at ht
      rcases List.mem_append.mp ht with ht | ht
      · exact hc.tasks t (by rw [hs]; simp [ht])
      · rcases List.mem_cons.mp ht with rfl | ht
        · refine ⟨hzero, ?_⟩
          simp only [wellFormed, Bool.and_eq_true, Bool.not_eq_true'] at hwell
          cases a <;> simp_all [Monitor.continuation, wellFormed, Action.unsettles]
        · rcases List.mem_append.mp ht with ht | ht
          · exact hc.tasks t (by rw [hs]; simp [ht])
          · cases a <;> simp only [Monitor.spawned, List.not_mem_nil] at ht
            split at ht
            · cases ht
            · rw [List.mem_singleton.mp ht]
              exact ⟨hzero, rfl⟩
    · rw [hperform, Monitor.setTask_callbacks]
      exact callbacks_perform hc.callbacks answer a
    · rw [hperform, Monitor.setTask_commands, (s.performed 0 answer a).commands]
      exact hc.commands
    · have hvouched := vouched_perform hv answer hc.vouched a (by
        rintro n k rfl hfiltered htransport
        simp only [keepsCurrent, htodo, hzero, hfiltered, Bool.not_true, Bool.false_or,
          Bool.or_eq_true, Bool.and_eq_true, decide_eq_true_eq, List.contains_iff_mem] at hkeep
        exact hkeep.resolve_left fun hgone => by
          rw [Option.isNone_iff_eq_none] at hgone
          simp [hgone] at htransport)
      rw [hperform]
      exact fun e he => (Monitor.setTask_vouched _ _ _ _).mpr
        (hvouched e (by rwa [Monitor.setTask_approvedNetworks] at he))
    · refine lockdown_runThread hc htodo answer hkeep ?_
      rcases hsame with hsame | hun
      · right
        rw [approvedNetworks_eq hservices, hsame] at hnone
        rw [approvedNetworks_eq hv, hnone]
      · exact Or.inl hun

end Run

/-! ## The other events -/

section Events

variable {s : Monitor} (hc : Current s)
include hc

theorem current_onStartCommand (activeNetwork : Option Network) :
    Current (step s (.onStartCommand activeNetwork)) := by
  obtain ⟨v, hv, hdestroyed⟩ := hc.service
  simp only [step]
  split
  · next hidle =>
    split
    · exact hc
    · next command commands hcommands =>
      have hstart : command ≠ .stopMonitoring := by
        rintro rfl
        exact hc.commands (by simp [hcommands])
      have hensure : ({ s with commands } : Monitor).ensureService = { s with commands } := by
        simp [Monitor.ensureService, hv, hdestroyed]
      simp only [Monitor.deliver, hensure]
      refine ⟨⟨v, hv, hdestroyed⟩, fun t ht => ?_, hc.callbacks,
        fun h => hc.commands (by simp [hcommands, h]), hc.vouched, fun hnone => ?_⟩
      · rcases List.mem_cons.mp ht with rfl | ht
        · exact ⟨by simp [hv], wellFormed_program hstart _⟩
        · exact hc.tasks t (List.mem_cons_of_mem _ ht)
      · rcases hc.locked hnone with h | ⟨t, ht, hsettles⟩
        · exact Or.inl h
        · rcases List.mem_cons.mp ht with rfl | ht
          · simp [Task.settles, hidle] at hsettles
          · exact Or.inr ⟨t, List.mem_cons_of_mem _ ht, hsettles⟩
  · exact hc

theorem current_onAvailable {i : Nat} (hi : i = 0) (n : Network) :
    Current (s.onNetworkAvailable i n) := by
  have hconn : ∀ m, s.Vouched m → m ∈ n :: s.connected.filter fun m => m != n := by
    intro m hm
    by_cases h : m = n
    · simp [h]
    · simp [h, hm.1]
  unfold Monitor.onNetworkAvailable Monitor.performNetfreeCheck
  dsimp only
  split
  · exact ⟨hc.service, hc.tasks, hc.callbacks, hc.commands,
      fun e he => ⟨hconn e.1 (hc.vouched e he), (hc.vouched e he).2⟩, hc.locked⟩
  · refine ⟨hc.service, fun t ht => ?_, hc.callbacks, hc.commands,
      fun e he => ⟨hconn e.1 (hc.vouched e he), (hc.vouched e he).2⟩, fun hnone => ?_⟩
    · rcases List.mem_append.mp (show t ∈ s.tasks ++ _ from ht) with ht | ht
      · exact hc.tasks t ht
      · rw [List.mem_singleton.mp ht]
        exact ⟨hi, rfl⟩
    · rcases hc.locked hnone with h | ⟨t, ht, hsettles⟩
      · exact Or.inl h
      · exact Or.inr ⟨t, List.mem_append_left _ ht, hsettles⟩

theorem current_onLost {i : Nat} (hi : i = 0) (n : Network) : Current (s.onNetworkLost i n) := by
  subst hi
  obtain ⟨v, hv, hdestroyed⟩ := hc.service
  have hconn : ∀ m, m ≠ n → s.Vouched m →
      m ∈ s.connected.filter (fun m => m != n) ∧ (s.lastCheck m).2 = true := by
    intro m hne hm
    exact ⟨by simp [hm.1, hne], hm.2⟩
  unfold Monitor.onNetworkLost
  dsimp only
  split
  · have hset : ∀ s' : Monitor, s'.services = [v] → (s'.setApprovedNetworks 0
        (removeNetwork (s.approvedNetworks 0) n)).approvedNetworks 0 =
        removeNetwork (s.approvedNetworks 0) n :=
      fun s' hs' => approvedNetworks_eq (services_setApprovedNetworks hs' _)
    refine ⟨⟨_, services_setApprovedNetworks (s := { s with connected := _ }) hv _, hdestroyed⟩,
      fun t ht => ?_, hc.callbacks, hc.commands, fun e he => ?_, fun _ => ?_⟩
    · simp only [Monitor.tasks, List.mem_cons] at ht
      rcases ht with rfl | rfl | ht
      · exact hc.tasks _ (by simp [Monitor.tasks, Monitor.setApprovedNetworks])
      · exact ⟨rfl, rfl⟩
      · exact hc.tasks t (by simp only [Monitor.tasks, List.mem_cons]; exact Or.inr (Or.inr ht))
    · have he' : e ∈ removeNetwork (s.approvedNetworks 0) n := by
        rw [← hset { s with connected := s.connected.filter fun m => m != n } hv]
        exact he
      obtain ⟨he', hne⟩ := mem_removeNetwork.mp he'
      exact hconn e.1 hne (hc.vouched e he')
    · exact Or.inr ⟨_, List.mem_cons_of_mem _ List.mem_cons_self, rfl⟩
  · next hany =>
    refine ⟨⟨v, hv, hdestroyed⟩, hc.tasks, hc.callbacks, hc.commands, fun e he => ?_, hc.locked⟩
    refine hconn e.1 ?_ (hc.vouched e he)
    rintro rfl
    exact hany (List.any_eq_true.mpr ⟨e, he, by simp⟩)

theorem current_step (e : Event) (hmonitors : monitors e = true)
    (hkeep : keepsCurrent s e = true) : Current (step s e) := by
  cases e with
  | toggle feature enable throws => cases hmonitors
  | onDestroy => cases hmonitors
  | startService command =>
    refine ⟨hc.service, hc.tasks, hc.callbacks, ?_, hc.vouched, hc.locked⟩
    have hstart : command ≠ .stopMonitoring := by simpa [monitors] using hmonitors
    simp [step, hc.commands, hstart.symm]
  | onStartCommand activeNetwork => exact current_onStartCommand hc activeNetwork
  | onAvailable callback n =>
    simp only [step]
    split
    · next h => exact current_onAvailable hc (hc.callbacks callback h.2) n
    · exact hc
  | onLost callback n =>
    simp only [step]
    split
    · next h => exact current_onLost hc (hc.callbacks callback h.2) n
    · exact hc
  | run thread answer => exact current_runThread hc answer hkeep

end Events

theorem current_started (sdkInt : Nat) : Current (started sdkInt) where
  service := ⟨_, rfl, rfl⟩
  tasks := by
    intro t ht
    rcases List.mem_cons.mp ht with rfl | ht
    · exact ⟨rfl, rfl⟩
    · rw [List.mem_singleton.mp ht]
      exact ⟨rfl, rfl⟩
  callbacks := by
    intro c hc
    cases hc
  commands := by
    intro hc
    cases hc
  vouched := by
    intro e he
    cases he
  locked := fun _ => Or.inr ⟨_, List.mem_cons_self, rfl⟩

/-! ## Runs -/

/-- **The approvals are current in every state of a run that keeps them so.** -/
theorem approvals_current {sdkInt : Nat} {es : List Event}
    (hmonitors : ∀ e ∈ es, monitors e = true)
    (hkeep : EveryStep step (fun s e => keepsCurrent s e = true) (started sdkInt) es) :
    EveryState step ApprovalsCurrent (started sdkInt) es := by
  refine everyState_of_invariant (fun s e hc h => ?_) (fun _ hc => hc.approvalsCurrent)
    (current_started sdkInt) ((everyStep_of_forall_mem (started sdkInt) hmonitors).and hkeep)
  exact current_step hc e h.1 h.2

/-- The answer of a filtered Wi-Fi network. -/
def filteredWifi : Answer := ⟨some true, some ⟨true, false⟩, false⟩

/-- The start is carried out, and network 7 comes up. -/
def cameUp : List Event := List.replicate 6 (.run .main noAnswer) ++ [.onAvailable ⟨0, 0⟩ 7]

/-- The network is approved, its policy applied, and it is lost. -/
theorem approvals_current_until_lost : EveryState step ApprovalsCurrent (started 34)
    (cameUp ++ List.replicate 3 (.run (.worker 0) filteredWifi) ++ [.onLost ⟨0, 0⟩ 7] ++
      List.replicate 2 (.run .connectivity noAnswer)) :=
  approvals_current (by decide) (by decide)

/-- The network is lost while its check is under way, which then approves it. -/
theorem approvals_of_lost_network : ¬ EveryState step ApprovalsCurrent (started 34)
    (cameUp ++ [.onLost ⟨0, 0⟩ 7] ++ List.replicate 3 (.run (.worker 0) filteredWifi)) := by
  decide

end SecureGuard.Mdm
