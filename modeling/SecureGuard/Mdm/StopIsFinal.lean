import SecureGuard.Mdm.NetfreeMonitor

/-! # A stop of the NetFree monitor

Once a stop was processed, and until the next start, the service should not set the always-on
VPN again. What may do so is what the stop leaves behind: a check under way, whose `finally`
applies the policy even if the coroutine is cancelled, a policy half applied by a callback, a
callback that a second start has made the watcher forget, and a forced recheck. -/

namespace SecureGuard.Mdm
open Machine

/-- The calls of `setAlwaysOnVpnPackage` with the own package. -/
def Action.setsVpn : Action → Bool
  | .enablePersistentFirewall | .applyPolicy _ => true
  | _ => false

/-- The step sets the always-on VPN for the service. -/
def setsVpn (s : Monitor) : Event → Bool
  | .run thread _ => (s.task thread).todo.head?.any Action.setsVpn
  | _ => false

/-- Any other step leaves the always-on VPN as it is or takes it off, but for the feature's
own toggle. -/
theorem vpn_of_not_setsVpn {s : Monitor} {e : Event} (h : setsVpn s e = false)
    (hother : ∀ enable throws, e ≠ .toggle .blockInternetVpn enable throws) :
    (step s e).vpn = s.vpn ∨ (step s e).vpn = .off := by
  cases e with
  | toggle feature enable throws =>
    cases feature with
    | blockInternetVpn => exact absurd rfl (hother enable throws)
    | netfreeOnlyMode =>
      simp only [step, Monitor.toggle, Monitor.applyFeature]
      split
      · split <;> exact Or.inl rfl
      · exact Or.inl rfl
  | startService command => exact Or.inl rfl
  | onStartCommand activeNetwork =>
    simp only [step]
    split
    · split
      · exact Or.inl rfl
      · unfold Monitor.deliver Monitor.ensureService
        dsimp only
        split <;> exact Or.inl rfl
    · exact Or.inl rfl
  | onAvailable callback n =>
    simp only [step, Monitor.onNetworkAvailable, Monitor.performNetfreeCheck]
    split
    · split <;> exact Or.inl rfl
    · exact Or.inl rfl
  | onLost callback n =>
    simp only [step, Monitor.onNetworkLost]
    split
    · split <;> exact Or.inl rfl
    · exact Or.inl rfl
  | run thread answer =>
    cases htodo : (s.task thread).todo with
    | nil => exact Or.inl (by rw [step, s.runThread_idle answer htodo])
    | cons a rest =>
      rw [step, (s.runThread_performed answer a htodo).1]
      split
      · cases a <;> simp_all [setsVpn, Action.setsVpn, Action.vpnAfter]
      · exact Or.inl rfl
  | onDestroy =>
    simp only [step, Monitor.destroy, Monitor.stopWatching]
    split
    · split
      · split <;> exact Or.inl rfl
      · exact Or.inl rfl
    · exact Or.inl rfl

/-- What every step should satisfy. -/
def StopIsFinal (s : Monitor) (e : Event) : Prop :=
  s.stopped = true → s.serviceActive = false ∧ setsVpn s e = false

instance (s : Monitor) (e : Event) : Decidable (StopIsFinal s e) :=
  inferInstanceAs (Decidable (_ → _ ∧ _))

def Action.savesFeature : Action → Bool
  | .setFeatureState _ _ => true
  | _ => false

/-- No callback is registered, and nothing but saving of features is under way. -/
def Monitor.drained (s : Monitor) : Bool :=
  s.callbacks.isEmpty && s.others.all fun t => t.todo.all Action.savesFeature

/-- A stop ends only when nothing is left, and no recheck is delivered after it. -/
def stopsCleanly (s : Monitor) : Event → Bool
  | .run thread _ => (s.task thread).todo.head? != some .stopSelf || s.drained
  | .onStartCommand _ =>
    !s.main.todo.isEmpty || !s.stopped || s.commands.head? != some .forceRecheck
  | _ => true

/-! ## What threads do besides the main one -/

/-- The actions of coroutines and callbacks. -/
def Action.inBackground : Action → Bool
  | .determinePreferredNetwork | .applyPolicy _ | .checkNetwork _ _ | .setFeatureState _ _ => true
  | _ => false

def Task.inBackground (t : Task) : Bool := t.todo.all Action.inBackground

def stopProgram : List Action := Command.program none .stopMonitoring

/-- The invariant: a stop under way is a rest of its program, and makes the service inactive
before it ends; a stop that has ended has left nothing behind. -/
structure Final (s : Monitor) : Prop where
  others : ∀ t ∈ s.others, t.inBackground = true
  stopping : .stopSelf ∈ s.main.todo → s.main.todo <:+ stopProgram ∧
    (.setServiceActive false ∈ s.main.todo ∨ s.serviceActive = false)
  stopped : s.stopped = true →
    s.serviceActive = false ∧ s.drained = true ∧ s.main.todo <:+ stopProgram

theorem head_of_stopping {todo rest : List Action} {a : Action} (htodo : todo = a :: rest)
    (h : todo <:+ stopProgram) : a = .disablePersistentFirewall ∨ a = .stopWatching ∨
      a = .setServiceActive false ∨ a = .stopSelf := by
  have ha : a ∈ stopProgram := h.subset (by simp [htodo])
  simpa [stopProgram, Command.program] using ha

theorem savesFeature_of_drained {s : Monitor} (h : s.drained = true) {t : Task}
    (ht : t ∈ s.others) {a : Action} {rest : List Action} (htodo : t.todo = a :: rest) :
    a.savesFeature = true := by
  simp only [Monitor.drained, Bool.and_eq_true, List.all_eq_true] at h
  exact h.2 t ht a (by simp [htodo])

theorem Final.stopIsFinal {s : Monitor} (h : Final s) (e : Event) : StopIsFinal s e := by
  intro hstopped
  obtain ⟨hactive, hdrained, hmain⟩ := h.stopped hstopped
  refine ⟨hactive, ?_⟩
  cases e with
  | run thread answer =>
    cases htodo : (s.task thread).todo with
    | nil => simp [setsVpn, htodo]
    | cons a rest =>
      have hquiet : a.setsVpn = false := by
        by_cases hth : thread = .main
        · subst hth
          rcases head_of_stopping htodo hmain with rfl | rfl | rfl | rfl <;> rfl
        · have ha := savesFeature_of_drained hdrained
            (s.task_mem_others hth (by simp [htodo])) htodo
          cases a <;> simp_all [Action.savesFeature, Action.setsVpn]
      simp [setsVpn, htodo, hquiet]
  | _ => rfl

/-! ## A thread runs -/

section Run

variable {s : Monitor} {thread : Thread} {a : Action} {rest : List Action}

theorem callbacks_runThread (htodo : (s.task thread).todo = a :: rest) (answer : Answer)
    (ha : a ≠ .startWatching) (h : s.callbacks = []) :
    (s.runThread thread answer).callbacks = [] := by
  have hperform : (s.perform (s.task thread).service answer a).callbacks = [] := by
    cases a with
    | startWatching => exact absurd rfl ha
    | performNetfreeCheck n =>
      simp only [Monitor.perform, Monitor.performNetfreeCheck]
      split <;> exact h
    | checkNetwork n started =>
      obtain ⟨services, lastCheck, he⟩ :=
        s.checkNetwork_frame (s.task thread).service answer n started
      rw [Monitor.perform, he]
      exact h
    | stopWatching =>
      simp only [Monitor.perform, Monitor.stopWatching]
      split
      · exact h
      · simp [h]
    | enablePersistentFirewall | disablePersistentFirewall | applyPolicy =>
      rw [Monitor.perform, Monitor.setAlwaysOnVpnPackage_eq]
      exact h
    | setFeatureState feature isActive => cases feature <;> exact h
    | _ => exact h
  simp only [Monitor.runThread, htodo]
  cases thread <;> exact hperform

/-- An action that registers nothing and starts nothing leaves nothing behind. -/
theorem drained_runThread (htodo : (s.task thread).todo = a :: rest) (answer : Answer)
    (hwatch : a ≠ .startWatching) (hspawn : ∀ i, s.spawned i a = [])
    (hsaves : thread ≠ .main → a.savesFeature = true) (hd : s.drained = true) :
    (s.runThread thread answer).drained = true := by
  simp only [Monitor.drained, Bool.and_eq_true, List.isEmpty_iff, List.all_eq_true] at hd ⊢
  refine ⟨callbacks_runThread htodo answer hwatch hd.1, fun t ht b hb => ?_⟩
  rcases s.mem_others_runThread answer a htodo ht with hold | hnew | ⟨hne, hleft⟩
  · exact hd.2 t hold b hb
  · simp [hspawn] at hnew
  · have hcont : ∀ i, s.continuation i a = [] := by
      have := hsaves hne
      cases a <;> simp_all [Action.savesFeature, Monitor.continuation]
    rw [hleft, hcont, List.nil_append] at hb
    exact hd.2 _ (s.task_mem_others hne (by simp [htodo])) b (by simp [htodo, hb])

theorem inBackground_runThread (hf : Final s) (htodo : (s.task thread).todo = a :: rest)
    (answer : Answer) : ∀ t ∈ (s.runThread thread answer).others, t.inBackground = true := by
  intro t ht
  rcases s.mem_others_runThread answer a htodo ht with hold | hnew | ⟨hne, hleft⟩
  · exact hf.others t hold
  · cases a <;> simp only [Monitor.spawned, List.not_mem_nil] at hnew
    split at hnew
    · cases hnew
    · rw [List.mem_singleton.mp hnew]
      rfl
  · have hold := hf.others _ (s.task_mem_others hne (by simp [htodo]))
    simp only [Task.inBackground, htodo, List.all_cons, Bool.and_eq_true] at hold
    rw [Task.inBackground, hleft, List.all_append, hold.2, Bool.and_true]
    cases a <;> rfl

/-- The main thread performs an action. -/
theorem final_runMain (hf : Final s) (htodo : s.main.todo = a :: rest) (answer : Answer)
    (hclean : stopsCleanly s (.run .main answer) = true) : Final (s.runThread .main answer) := by
  have htask : (s.task .main).todo = a :: rest := htodo
  obtain ⟨-, -, hactive, hstopped⟩ := s.runThread_performed answer a htask
  have hmain := s.runThread_main answer a htodo
  have hleft : s.main.todo <:+ stopProgram →
      s.continuation s.main.service a ++ rest <:+ stopProgram := by
    intro hsuffix
    have hcont : s.continuation s.main.service a = [] := by
      rcases head_of_stopping htodo hsuffix with rfl | rfl | rfl | rfl <;> rfl
    rw [hcont, List.nil_append]
    rw [htodo] at hsuffix
    exact (List.suffix_cons a rest).trans hsuffix
  refine ⟨inBackground_runThread hf htask answer, fun hmem => ?_, fun h => ?_⟩
  · rw [hmain] at hmem ⊢
    have hrest : .stopSelf ∈ rest := by cases a <;> simpa [Monitor.continuation] using hmem
    obtain ⟨hsuffix, hoff⟩ := hf.stopping (by simp [htodo, hrest])
    refine ⟨hleft hsuffix, ?_⟩
    rw [hactive]
    rw [htodo] at hoff
    rcases head_of_stopping htodo hsuffix with rfl | rfl | rfl | rfl
    · simpa [Action.serviceActiveAfter, Monitor.continuation] using hoff
    · simpa [Action.serviceActiveAfter, Monitor.continuation] using hoff
    · exact Or.inr rfl
    · simpa [Action.serviceActiveAfter, Monitor.continuation] using hoff
  · by_cases ha : a = .stopSelf
    · -- The stop ends: the service is inactive by now, and nothing is left.
      subst ha
      obtain ⟨hsuffix, hoff⟩ := hf.stopping (by simp [htodo])
      have hnil : rest = [] := by
        rw [htodo] at hsuffix
        simpa [stopProgram, Command.program, List.suffix_cons_iff] using hsuffix
      have hdrained : s.drained = true := by
        simpa [stopsCleanly, Monitor.task, htodo] using hclean
      refine ⟨?_, drained_runThread htask answer (by simp) (fun _ => rfl)
        (fun hne => absurd rfl hne) hdrained, hmain ▸ hleft hsuffix⟩
      rw [hactive]
      simpa [htodo, hnil, Action.serviceActiveAfter] using hoff
    · have hwas : s.stopped = true := by
        rw [hstopped] at h
        cases a <;> simp_all [Action.stoppedAfter]
      obtain ⟨hoff, hdrained, hsuffix⟩ := hf.stopped hwas
      have hhead := head_of_stopping htodo hsuffix
      refine ⟨?_, drained_runThread htask answer ?_ ?_ (fun hne => absurd rfl hne) hdrained,
        hmain ▸ hleft hsuffix⟩
      · rw [hactive]
        rcases hhead with rfl | rfl | rfl | rfl <;> simp [Action.serviceActiveAfter, hoff]
      · rcases hhead with rfl | rfl | rfl | rfl <;> simp
      · rcases hhead with rfl | rfl | rfl | rfl <;> exact fun _ => rfl

/-- Another thread performs an action. -/
theorem final_runOther (hf : Final s) (hne : thread ≠ .main)
    (htodo : (s.task thread).todo = a :: rest) (answer : Answer) :
    Final (s.runThread thread answer) := by
  obtain ⟨-, -, hactive, hstopped⟩ := s.runThread_performed answer a htodo
  have hmain := s.runThread_main_of_ne answer hne
  have hback := hf.others _ (s.task_mem_others hne (by simp [htodo]))
  simp only [Task.inBackground, htodo, List.all_cons, Bool.and_eq_true] at hback
  have hactive' : (s.runThread thread answer).serviceActive = s.serviceActive := by
    rw [hactive]
    cases a <;> simp_all [Action.inBackground, Action.serviceActiveAfter]
  have hstopped' : (s.runThread thread answer).stopped = s.stopped := by
    rw [hstopped]
    cases a <;> simp_all [Action.inBackground, Action.stoppedAfter]
  refine ⟨inBackground_runThread hf htodo answer, ?_, fun h => ?_⟩
  · rw [hmain, hactive']
    exact hf.stopping
  · obtain ⟨hoff, hdrained, hrest⟩ := hf.stopped (hstopped' ▸ h)
    have hsaves := savesFeature_of_drained hdrained (s.task_mem_others hne (by simp [htodo])) htodo
    refine ⟨hactive'.trans hoff, ?_, hmain ▸ hrest⟩
    refine drained_runThread htodo answer ?_ ?_ (fun _ => hsaves) hdrained
    · cases a <;> simp_all [Action.savesFeature]
    · cases a <;> simp_all [Action.savesFeature, Monitor.spawned]

end Run

/-! ## The other events -/

theorem drained_toggle {s : Monitor} (feature : VpnFeature) (enable throws : Bool)
    (h : s.drained = true) : (s.toggle feature enable throws).drained = true := by
  obtain ⟨vpn, commands, he⟩ := s.toggle_frame feature enable throws
  simp only [Monitor.drained, Bool.and_eq_true] at h ⊢
  rw [he]
  simpa [Monitor.others, Action.savesFeature, and_assoc] using h

theorem final_toggle {s : Monitor} (hf : Final s) (feature : VpnFeature)
    (enable throws : Bool) : Final (s.toggle feature enable throws) := by
  have hothers : ∀ t ∈ s.others ++ [(⟨0, [.setFeatureState feature enable]⟩ : Task)],
      t.inBackground = true := by
    intro t ht
    rcases List.mem_append.mp ht with h | h
    · exact hf.others t h
    · rw [List.mem_singleton.mp h]
      rfl
  have hdrained : s.stopped = true → (s.toggle feature enable throws).drained = true :=
    fun h => drained_toggle feature enable throws (hf.stopped h).2.1
  obtain ⟨vpn, commands, he⟩ := s.toggle_frame feature enable throws
  rw [he] at hdrained ⊢
  exact ⟨hothers, hf.stopping, fun h => ⟨(hf.stopped h).1, hdrained h, (hf.stopped h).2.2⟩⟩

theorem final_onStartCommand {s : Monitor} (hf : Final s) (activeNetwork : Option Network)
    (hclean : stopsCleanly s (.onStartCommand activeNetwork) = true) :
    Final (step s (.onStartCommand activeNetwork)) := by
  simp only [step]
  split
  · next hidle =>
    split
    · exact hf
    · next command commands hcommands =>
      obtain ⟨services, he⟩ := Monitor.ensureService_frame { s with commands }
      simp only [Monitor.deliver, he]
      cases command with
      | startMonitoring =>
        exact ⟨hf.others, by simp [Command.program], by simp⟩
      | stopMonitoring =>
        refine ⟨hf.others, fun _ => ⟨List.suffix_rfl, Or.inl (by simp [Command.program])⟩,
          fun h => ?_⟩
        have hwas : s.stopped = true := by simpa using h
        exact ⟨(hf.stopped hwas).1, (hf.stopped hwas).2.1, List.suffix_rfl⟩
      | forceRecheck =>
        refine ⟨hf.others, ?_, ?_⟩
        · simp only [Command.program]
          split <;> simp
        · intro h
          have hwas : s.stopped = true := by simpa using h
          simp [stopsCleanly, hidle, hwas, hcommands] at hclean
  · exact hf

/-- After a stop no callback is delivered. -/
theorem not_stopped_of_callback {s : Monitor} (hf : Final s) {callback : Callback}
    (h : callback ∈ s.callbacks) : s.stopped = false := by
  by_contra hs
  have hd := (hf.stopped (by simpa using hs)).2.1
  simp only [Monitor.drained, Bool.and_eq_true, List.isEmpty_iff] at hd
  simp [hd.1] at h

theorem final_onAvailable {s : Monitor} (hf : Final s) (hstopped : s.stopped = false) (i : Nat)
    (n : Network) : Final (s.onNetworkAvailable i n) := by
  unfold Monitor.onNetworkAvailable Monitor.performNetfreeCheck
  dsimp only
  split
  · exact ⟨hf.others, hf.stopping, fun h => absurd (hstopped.symm.trans h) (by decide)⟩
  · refine ⟨fun t ht => ?_, hf.stopping, fun h => absurd (hstopped.symm.trans h) (by decide)⟩
    simp only [Monitor.others, List.mem_cons, List.mem_append, List.not_mem_nil,
      or_false] at ht
    rcases ht with h | h | rfl
    · exact hf.others t (List.mem_cons.mpr (Or.inl h))
    · exact hf.others t (List.mem_cons_of_mem _ h)
    · rfl

theorem final_onLost {s : Monitor} (hf : Final s) (hstopped : s.stopped = false) (i : Nat)
    (n : Network) : Final (s.onNetworkLost i n) := by
  unfold Monitor.onNetworkLost
  dsimp only
  split
  · refine ⟨fun t ht => ?_, hf.stopping, fun h => absurd (hstopped.symm.trans h) (by decide)⟩
    rcases List.mem_cons.mp ht with rfl | h
    · rfl
    · exact hf.others t (List.mem_cons_of_mem _ h)
  · exact ⟨hf.others, hf.stopping, fun h => absurd (hstopped.symm.trans h) (by decide)⟩

theorem final_destroy {s : Monitor} (hf : Final s) : Final s.destroy := by
  unfold Monitor.destroy Monitor.stopWatching
  dsimp only
  split
  · split
    · exact ⟨hf.others, hf.stopping, hf.stopped⟩
    · refine ⟨hf.others, hf.stopping, fun h => ?_⟩
      obtain ⟨hoff, hdrained, hsuffix⟩ := hf.stopped h
      simp only [Monitor.drained, Bool.and_eq_true, List.isEmpty_iff] at hdrained
      refine ⟨hoff, ?_, hsuffix⟩
      simp only [Monitor.drained, Bool.and_eq_true, List.isEmpty_iff, hdrained.1,
        List.filter_nil, true_and]
      exact hdrained.2
  · exact hf

theorem final_step (s : Monitor) (e : Event) (hf : Final s) (hclean : stopsCleanly s e = true) :
    Final (step s e) := by
  cases e with
  | toggle feature enable throws =>
    simp only [step]
    split
    · exact final_toggle hf feature enable throws
    · exact hf
  | startService command => exact ⟨hf.others, hf.stopping, hf.stopped⟩
  | onStartCommand activeNetwork => exact final_onStartCommand hf activeNetwork hclean
  | onAvailable callback n =>
    simp only [step]
    split
    · next h => exact final_onAvailable hf (not_stopped_of_callback hf h.2) callback.service n
    · exact hf
  | onLost callback n =>
    simp only [step]
    split
    · next h => exact final_onLost hf (not_stopped_of_callback hf h.2) callback.service n
    · exact hf
  | run thread answer =>
    cases htodo : (s.task thread).todo with
    | nil => rwa [step, s.runThread_idle answer htodo]
    | cons a rest =>
      by_cases hth : thread = .main
      · subst hth
        exact final_runMain hf htodo answer hclean
      · exact final_runOther hf hth htodo answer
  | onDestroy =>
    simp only [step]
    split
    · exact final_destroy hf
    · exact hf

theorem final_init (sdkInt : Nat) : Final (.init sdkInt) where
  others := by simp [Monitor.init, Monitor.others, Task.inBackground]
  stopping := by simp [Monitor.init]
  stopped := by simp [Monitor.init]

/-! ## Runs -/

/-- **Along a run in which every stop is clean, a stop is final.** -/
theorem stop_isFinal {sdkInt : Nat} {es : List Event}
    (hclean : EveryStep step (fun s e => stopsCleanly s e = true) (.init sdkInt) es) :
    EveryStep step StopIsFinal (.init sdkInt) es :=
  everyStep_of_invariant final_step (fun _ e hf _ => hf.stopIsFinal e) (final_init sdkInt) hclean

/-- The monitor is switched off with no check under way. -/
theorem stop_isFinal_alone : EveryStep step StopIsFinal (.init 34)
    (monitoring ++ [.toggle .netfreeOnlyMode false false, .run (.worker 1) noAnswer] ++
      carriedOut 4 ++ [.onDestroy]) :=
  stop_isFinal (by decide)

/-- The monitor is switched off during a check. The service is destroyed, the request is
cancelled, and the `finally` of the check turns the lockdown on. -/
theorem stop_undone_by_check : ¬ EveryStep step StopIsFinal (.init 34)
    (monitoring ++ [.onAvailable ⟨0, 0⟩ 7, .toggle .netfreeOnlyMode false false,
      .run (.worker 2) noAnswer] ++ carriedOut 4 ++
      [.onDestroy] ++ List.replicate 3 (.run (.worker 1) noAnswer)) := by
  decide

end SecureGuard.Mdm
