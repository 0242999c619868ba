import SecureGuard.Mdm.NetfreeMonitor

/-! # The lockdown of a blocked internet

While `block_internet_vpn` is on, the always-on VPN should be the own package with lockdown.
The feature sets it once, when it is switched on; the NetFree monitor writes the same setting
for reasons of its own. Its start undoes what it writes, by the policy it applies after it;
its stop and a policy that found an approved network do not. A call that throws, or is not made
below Android 7, is noticed by nobody. -/

namespace SecureGuard.Mdm
open Machine

namespace Monitor

/-- A state of `block_internet_vpn` waits to be saved. -/
def saving (s : Monitor) (isActive : Bool) : Bool :=
  s.tasks.any fun t => t.todo.contains (.setFeatureState .blockInternetVpn isActive)

/-- `block_internet_vpn` is on and not being switched off, or it is being switched on. -/
def internetBlocked (s : Monitor) : Bool :=
  (s.blockInternetVpn && !s.saving false) || s.saving true

/-- No command is being carried out, and no toggle waits to be saved. -/
def settled (s : Monitor) : Bool :=
  s.main.todo.isEmpty && !s.saving true && !s.saving false

end Monitor

/-- What every reachable state should satisfy. -/
def LockdownInForce (s : Monitor) : Prop :=
  s.blockInternetVpn = true → s.settled = true → s.vpn = .own true

instance (s : Monitor) : Decidable (LockdownInForce s) := inferInstanceAs (Decidable (_ → _ → _))

/-- The feature is switched on where its call succeeds, and not switched off while it is being
switched on; and while the internet is blocked, a stop does not write the VPN setting, and a
policy has found no approved network and does write it. -/
def keepsLockdown (s : Monitor) : Event → Bool
  | .toggle .blockInternetVpn true throws => !s.main.todo.isEmpty || s.writesVpn throws
  | .toggle .blockInternetVpn false _ => !s.main.todo.isEmpty || !s.saving true
  | .run thread answer =>
    match (s.task thread).todo with
    | .disablePersistentFirewall :: _ => !s.internetBlocked || !s.writesVpn answer.vpnThrows
    | .applyPolicy none :: _ => !s.internetBlocked || s.writesVpn answer.vpnThrows
    | .applyPolicy (some _) :: _ => !s.internetBlocked
    | _ => true
  | _ => true

/-! ## The start of the monitor applies a policy after it has enabled the firewall -/

def Action.appliesPolicy : Action → Bool
  | .determinePreferredNetwork | .applyPolicy _ => true
  | _ => false

/-- Whenever the list enables the firewall, it applies a policy later. -/
def reapplies : List Action → Bool
  | [] => true
  | a :: rest =>
    (a != .enablePersistentFirewall || rest.any Action.appliesPolicy) && reapplies rest

theorem reapplies_program (activeNetwork : Option Network) (c : Command) :
    reapplies (c.program activeNetwork) = true := by
  cases c with
  | startMonitoring => rfl
  | stopMonitoring => rfl
  | forceRecheck => cases activeNetwork <;> rfl

/-- The invariant: the lockdown is on, or the main thread will still apply a policy. Only the
main thread enables the firewall. -/
structure Locked (s : Monitor) : Prop where
  locked : s.internetBlocked = true →
    s.vpn = .own true ∨ s.main.todo.any Action.appliesPolicy = true
  main : reapplies s.main.todo = true
  others : ∀ t ∈ s.others, .enablePersistentFirewall ∉ t.todo

theorem Locked.lockdownInForce {s : Monitor} (h : Locked s) : LockdownInForce s := by
  intro hon hsettled
  simp only [Monitor.settled, Bool.and_eq_true, Bool.not_eq_true', List.isEmpty_iff] at hsettled
  obtain ⟨⟨hidle, -⟩, hoff⟩ := hsettled
  have hlocked := h.locked (by simp [Monitor.internetBlocked, hon, hoff])
  simpa [hidle] using hlocked

/-! ## A thread runs -/

theorem saving_runThread {s : Monitor} {thread : Thread} {a : Action} {rest : List Action}
    (h : (s.task thread).todo = a :: rest) (answer : Answer) (isActive : Bool) :
    s.saving isActive = (a == .setFeatureState .blockInternetVpn isActive ||
      (s.runThread thread answer).saving isActive) := by
  obtain ⟨before, after, hs, hrun⟩ := s.runThread_tasks answer a h
  have hcont : (s.continuation (s.task thread).service a).contains
      (.setFeatureState .blockInternetVpn isActive) = false := by
    cases a <;> simp [Monitor.continuation]
  have hspawn : ((s.spawned (s.task thread).service a).any fun t =>
      t.todo.contains (.setFeatureState .blockInternetVpn isActive)) = false := by
    cases a <;> simp [Monitor.spawned]
  have hsym : (Action.setFeatureState .blockInternetVpn isActive == a) =
      (a == .setFeatureState .blockInternetVpn isActive) := Bool.beq_comm
  simp only [Monitor.saving]
  rw [hs, hrun]
  simp only [List.any_append, List.any_cons, h, List.contains_cons, hsym, List.contains_append,
    hcont, hspawn, Bool.false_or, Bool.or_false]
  ac_rfl

theorem internetBlocked_runThread {s : Monitor} {thread : Thread} {a : Action}
    {rest : List Action} (h : (s.task thread).todo = a :: rest) (answer : Answer)
    (hb : (s.runThread thread answer).internetBlocked = true) : s.internetBlocked = true := by
  have htrue := saving_runThread h answer true
  have hfalse := saving_runThread h answer false
  have hflag := (s.runThread_performed answer a h).2.1
  simp only [Monitor.internetBlocked, Bool.or_eq_true, Bool.and_eq_true, Bool.not_eq_true']
    at hb ⊢
  rcases hb with ⟨hon, hoff⟩ | hon
  · rw [hflag] at hon
    rw [hoff, Bool.or_false] at hfalse
    cases a with
    | setFeatureState feature isActive =>
      cases feature with
      | netfreeOnlyMode => exact Or.inl ⟨hon, by rw [hfalse]; rfl⟩
      | blockInternetVpn =>
        -- The state being saved is `true`, so it was waiting.
        have hsaved : isActive = true := hon
        exact Or.inr (by rw [htrue, hsaved, beq_self_eq_true, Bool.true_or])
    | _ => exact Or.inl ⟨hon, by rw [hfalse]; rfl⟩
  · exact Or.inr (by rw [htrue, hon, Bool.or_true])

/-- The threads that never enable the firewall never will. -/
theorem others_runThread {s : Monitor} (hs : Locked s) {thread : Thread} {a : Action}
    {rest : List Action} (h : (s.task thread).todo = a :: rest) (answer : Answer) :
    ∀ t ∈ (s.runThread thread answer).others, .enablePersistentFirewall ∉ t.todo := by
  intro t ht
  rcases s.mem_others_runThread answer a h ht with hold | hspawn | ⟨hne, htodo⟩
  · exact hs.others t hold
  · cases a <;> simp only [Monitor.spawned, List.not_mem_nil] at hspawn
    split at hspawn
    · cases hspawn
    · rw [List.mem_singleton.mp hspawn]
      simp
  · have hrest := hs.others _ (s.task_mem_others hne (by simp [h]))
    rw [htodo]
    simp only [h, List.mem_cons, not_or] at hrest
    cases a <;> simp [Monitor.continuation, hrest.2]

/-- An action that keeps the lockdown sets it or leaves the setting as it is; a policy sets it. -/
theorem vpn_runThread_of_keeps {s : Monitor} {thread : Thread} {a : Action} {rest : List Action}
    (htodo : (s.task thread).todo = a :: rest) {answer : Answer}
    (hkeep : keepsLockdown s (.run thread answer) = true) (hb : s.internetBlocked = true)
    (henable : a ≠ .enablePersistentFirewall) :
    (s.runThread thread answer).vpn = .own true ∨
      (∀ preferred, a ≠ .applyPolicy preferred) ∧ (s.runThread thread answer).vpn = s.vpn := by
  simp only [keepsLockdown, htodo, hb] at hkeep
  rw [(s.runThread_performed answer a htodo).1]
  cases a with
  | enablePersistentFirewall => exact absurd rfl henable
  | disablePersistentFirewall =>
    simp only [Bool.not_true, Bool.false_or, Bool.not_eq_true'] at hkeep
    exact Or.inr ⟨nofun, by rw [hkeep, if_neg Bool.false_ne_true]⟩
  | applyPolicy preferred =>
    cases preferred with
    | none =>
      simp only [Bool.not_true, Bool.false_or] at hkeep
      exact Or.inl (if_pos hkeep)
    | some e => simp at hkeep
  | _ => exact Or.inr ⟨nofun, ite_self s.vpn⟩

/-- What was to apply a policy still is, but for the application itself. -/
theorem appliesPolicy_continuation {s : Monitor} {i : Nat} {a : Action} {rest : List Action}
    (ha : ∀ preferred, a ≠ .applyPolicy preferred)
    (h : (a :: rest).any Action.appliesPolicy = true) :
    (s.continuation i a ++ rest).any Action.appliesPolicy = true := by
  cases a with
  | applyPolicy preferred => exact absurd rfl (ha preferred)
  | determinePreferredNetwork => rfl
  | _ => exact h

/-- The main thread enables the firewall only where it applies a policy later. -/
theorem locked_runMain {s : Monitor} (hs : Locked s) {a : Action} {rest : List Action}
    (htodo : s.main.todo = a :: rest) {answer : Answer}
    (hkeep : keepsLockdown s (.run .main answer) = true) : Locked (s.runThread .main answer) := by
  have htask : (s.task .main).todo = a :: rest := htodo
  have hmain := congrArg Task.todo (s.runThread_main answer a htodo)
  have hre := hs.main
  rw [htodo, reapplies, Bool.and_eq_true] at hre
  refine ⟨fun hb => ?_, ?_, others_runThread hs htask answer⟩
  · have hb' := internetBlocked_runThread htask answer hb
    rw [hmain]
    by_cases henable : a = .enablePersistentFirewall
    · subst henable
      exact Or.inr (by simpa [Monitor.continuation] using hre.1)
    · rcases vpn_runThread_of_keeps htask hkeep hb' henable with hown | ⟨hpolicy, hsame⟩
      · exact Or.inl hown
      · have hlocked := hs.locked hb'
        rw [htodo] at hlocked
        rw [hsame]
        exact hlocked.imp_right (appliesPolicy_continuation hpolicy)
  · rw [hmain]
    cases a <;> simpa [Monitor.continuation, reapplies] using hre.2

theorem locked_runOther {s : Monitor} (hs : Locked s) {thread : Thread} (hne : thread ≠ .main)
    {a : Action} {rest : List Action} (htodo : (s.task thread).todo = a :: rest) {answer : Answer}
    (hkeep : keepsLockdown s (.run thread answer) = true) :
    Locked (s.runThread thread answer) := by
  have hmain := s.runThread_main_of_ne answer hne
  have henable : a ≠ .enablePersistentFirewall := by
    rintro rfl
    exact hs.others _ (s.task_mem_others hne (by simp [htodo])) (by simp [htodo])
  refine ⟨fun hb => ?_, hmain ▸ hs.main, others_runThread hs htodo answer⟩
  have hb' := internetBlocked_runThread htodo answer hb
  rw [hmain]
  rcases vpn_runThread_of_keeps htodo hkeep hb' henable with hown | ⟨-, hsame⟩
  · exact Or.inl hown
  · rw [hsame]
    exact hs.locked hb'

theorem locked_runThread {s : Monitor} (hs : Locked s) (thread : Thread) (answer : Answer)
    (hkeep : keepsLockdown s (.run thread answer) = true) :
    Locked (s.runThread thread answer) := by
  cases htodo : (s.task thread).todo with
  | nil => rwa [s.runThread_idle answer htodo]
  | cons a rest =>
    by_cases hth : thread = .main
    · subst hth
      exact locked_runMain hs htodo hkeep
    · exact locked_runOther hs hth htodo hkeep

/-! ## The other events -/

/-- What leaves the setting and the feature alone, and starts nothing but programs of the
main thread and threads that never enable the firewall, keeps the invariant. -/
theorem Locked.frame {s s' : Monitor} (hs : Locked s) (hvpn : s'.vpn = s.vpn)
    (hflag : s'.blockInternetVpn = s.blockInternetVpn)
    (hsaving : ∀ b, s'.saving b = s.saving b)
    (hmain : s'.main.todo = s.main.todo ∨
      s.main.todo = [] ∧ reapplies s'.main.todo = true)
    (hothers : ∀ t ∈ s'.others, t ∈ s.others ∨ .enablePersistentFirewall ∉ t.todo) :
    Locked s' := by
  refine ⟨fun hb => ?_, ?_, fun t ht => ?_⟩
  · have hlocked := hs.locked (by simpa [Monitor.internetBlocked, hflag, hsaving] using hb)
    rw [hvpn]
    rcases hmain with hmain | ⟨hidle, -⟩
    · rwa [hmain]
    · exact Or.inl (by simpa [hidle] using hlocked)
  · rcases hmain with hmain | ⟨-, hmain⟩
    · rw [hmain]
      exact hs.main
    · exact hmain
  · rcases hothers t ht with h | h
    · exact hs.others t h
    · exact h

/-- A toggle waits to be saved. -/
theorem saving_toggle (s : Monitor) (feature : VpnFeature) (enable throws b : Bool) :
    (s.toggle feature enable throws).saving b = (s.saving b ||
      (Action.setFeatureState .blockInternetVpn b == .setFeatureState feature enable)) := by
  obtain ⟨vpn, commands, he⟩ := s.toggle_frame feature enable throws
  rw [he, Monitor.saving, Monitor.saving, Monitor.tasks, Monitor.tasks]
  simp only [List.any_cons, List.any_append, List.any_nil, List.contains_cons, List.contains_nil,
    Bool.or_false, Bool.or_assoc]

theorem locked_toggle {s : Monitor} (hs : Locked s) (feature : VpnFeature)
    (enable throws : Bool) (hkeep : keepsLockdown s (.toggle feature enable throws) = true)
    (hidle : s.main.todo = []) : Locked (s.toggle feature enable throws) := by
  have hothers : ∀ t ∈ s.others ++ [(⟨0, [.setFeatureState feature enable]⟩ : Task)],
      t ∈ s.others ∨ .enablePersistentFirewall ∉ t.todo := by
    intro t ht
    rcases List.mem_append.mp ht with h | h
    · exact Or.inl h
    · rw [List.mem_singleton.mp h]
      exact Or.inr (by simp)
  cases feature with
  | netfreeOnlyMode =>
    obtain ⟨commands, he⟩ : ∃ commands, s.toggle .netfreeOnlyMode enable throws =
        { s with
          commands
          workers := s.workers ++ [⟨0, [.setFeatureState .netfreeOnlyMode enable]⟩] } := by
      unfold Monitor.toggle
      rw [Monitor.applyFeature]
      split
      · exact ⟨_, rfl⟩
      · exact ⟨_, rfl⟩
    rw [he]
    refine hs.frame rfl rfl (fun b => ?_) (Or.inl rfl) hothers
    simp [Monitor.saving, Monitor.tasks]
  | blockInternetVpn =>
    have hon := saving_toggle s .blockInternetVpn enable throws true
    have hoff := saving_toggle s .blockInternetVpn enable throws false
    have he : s.toggle .blockInternetVpn enable throws =
        { s with
          vpn := if s.writesVpn throws then if enable then .own true else .off else s.vpn
          workers := s.workers ++ [⟨0, [.setFeatureState .blockInternetVpn enable]⟩] } := by
      rw [Monitor.toggle, Monitor.applyFeature, Monitor.setAlwaysOnVpnPackage_eq]
    refine ⟨fun hb => ?_, ?_, fun t ht => ?_⟩
    · cases enable with
      | true =>
        have hwrites : s.writesVpn throws = true := by simpa [keepsLockdown, hidle] using hkeep
        rw [he]
        exact Or.inl (if_pos hwrites)
      | false =>
        -- Nothing is being switched on, so the feature counts as off from here.
        have hnone : s.saving true = false := by simpa [keepsLockdown, hidle] using hkeep
        rw [Monitor.internetBlocked, hon, hoff, hnone] at hb
        simp at hb
    · rw [he]
      exact hs.main
    · rw [he] at ht
      rcases hothers t ht with h | h
      · exact hs.others t h
      · exact h

theorem locked_onStartCommand {s : Monitor} (hs : Locked s) (activeNetwork : Option Network) :
    Locked (step s (.onStartCommand activeNetwork)) := by
  simp only [step]
  split
  · next hidle =>
    split
    · exact hs
    · next command commands hcommands =>
      have hprogram : ∀ b activeNetwork,
          .setFeatureState .blockInternetVpn b ∉ command.program activeNetwork := by
        intro b activeNetwork
        cases command with
        | forceRecheck => cases activeNetwork <;> simp [Command.program]
        | _ => simp [Command.program]
      obtain ⟨services, he⟩ := Monitor.ensureService_frame { s with commands }
      simp only [Monitor.deliver, he]
      refine hs.frame rfl rfl (fun b => ?_)
        (Or.inr ⟨hidle, reapplies_program _ command⟩) fun t ht => Or.inl ht
      simp [Monitor.saving, Monitor.tasks, hidle, hprogram b]
  · exact hs

theorem locked_onAvailable {s : Monitor} (hs : Locked s) (i : Nat) (n : Network) :
    Locked (s.onNetworkAvailable i n) := by
  unfold Monitor.onNetworkAvailable Monitor.performNetfreeCheck
  dsimp only
  split
  · exact hs.frame rfl rfl (fun _ => rfl) (Or.inl rfl) fun t ht => Or.inl ht
  · refine hs.frame rfl rfl (fun b => ?_) (Or.inl rfl) fun t ht => ?_
    · simp [Monitor.saving, Monitor.tasks]
    · simp only [Monitor.others, List.mem_cons, List.mem_append, List.not_mem_nil,
        or_false] at ht ⊢
      rcases ht with h | h | rfl
      · exact Or.inl (Or.inl h)
      · exact Or.inl (Or.inr h)
      · exact Or.inr (by simp)

theorem locked_onLost {s : Monitor} (hs : Locked s) (i : Nat) (n : Network)
    (hidle : s.connectivity.todo = []) : Locked (s.onNetworkLost i n) := by
  unfold Monitor.onNetworkLost
  dsimp only
  split
  · refine hs.frame rfl rfl (fun b => ?_) (Or.inl rfl) fun t ht => ?_
    · simp [Monitor.saving, Monitor.tasks, Monitor.setApprovedNetworks, hidle]
    · rcases List.mem_cons.mp ht with rfl | h
      · exact Or.inr (by simp)
      · exact Or.inl (List.mem_cons_of_mem _ h)
  · exact hs.frame rfl rfl (fun _ => rfl) (Or.inl rfl) fun t ht => Or.inl ht

theorem locked_destroy {s : Monitor} (hs : Locked s) : Locked s.destroy := by
  unfold Monitor.destroy
  dsimp only
  split
  · obtain ⟨services, callbacks, he⟩ := Monitor.stopWatching_frame
      { s with services := s.services.modify (s.services.length - 1)
                  fun v => { v with destroyed := true } } (s.services.length - 1)
    rw [he]
    exact hs.frame rfl rfl (fun _ => rfl) (Or.inl rfl) fun t ht => Or.inl ht
  · exact hs

theorem locked_step (s : Monitor) (e : Event) (hs : Locked s) (hkeep : keepsLockdown s e = true) :
    Locked (step s e) := by
  cases e with
  | toggle feature enable throws =>
    simp only [step]
    split
    · next hidle => exact locked_toggle hs feature enable throws hkeep hidle
    · exact hs
  | startService command =>
    exact hs.frame rfl rfl (fun _ => rfl) (Or.inl rfl) fun t ht => Or.inl ht
  | onStartCommand activeNetwork => exact locked_onStartCommand hs activeNetwork
  | onAvailable callback n =>
    simp only [step]
    split
    · exact locked_onAvailable hs callback.service n
    · exact hs
  | onLost callback n =>
    simp only [step]
    split
    · next h => exact locked_onLost hs callback.service n h.1
    · exact hs
  | run thread answer => exact locked_runThread hs thread answer hkeep
  | onDestroy =>
    simp only [step]
    split
    · exact locked_destroy hs
    · exact hs

theorem locked_init (sdkInt : Nat) : Locked (.init sdkInt) where
  locked := by simp [Monitor.init, Monitor.internetBlocked, Monitor.saving, Monitor.tasks]
  main := rfl
  others := by simp [Monitor.init, Monitor.others]

/-! ## Runs -/

/-- **The lockdown is in force in every state of a run whose steps keep it.** -/
theorem lockdown_inForce {sdkInt : Nat} {es : List Event}
    (hkeep : EveryStep step (fun s e => keepsLockdown s e = true) (.init sdkInt) es) :
    EveryState step LockdownInForce (.init sdkInt) es :=
  everyState_of_invariant locked_step (fun _ h => h.lockdownInForce) (locked_init sdkInt) hkeep

/-- Both features are switched on, the blocked internet first. -/
def bothOn : List Event :=
  [.toggle .blockInternetVpn true false, .run (.worker 0) noAnswer,
    .toggle .netfreeOnlyMode true false, .run (.worker 1) noAnswer] ++ carriedOut 6

/-- With both on the lockdown is in force. -/
theorem lockdown_inForce_bothOn : EveryState step LockdownInForce (.init 34) bothOn :=
  lockdown_inForce (by decide)

/-- Switching the NetFree feature off takes the VPN away from the other one. -/
theorem lockdown_lost_by_stop :
    (run step (.init 34) (bothOn ++ [.toggle .netfreeOnlyMode false false,
      .run (.worker 2) noAnswer] ++ carriedOut 4)).tasks.all (fun t => t.todo.isEmpty) = true ∧
    ¬ EveryState step LockdownInForce (.init 34)
      (bothOn ++ [.toggle .netfreeOnlyMode false false, .run (.worker 2) noAnswer] ++
        carriedOut 4) := by
  decide

end SecureGuard.Mdm
