import SecureGuard.Mdm.AppBlocker
import SecureGuard.Mdm.FeaturesInForce

/-! # The persisted sets and the device

The app blocker keeps two sets of packages and sets the device accordingly. What is hidden
always follows; what is suspended does not, where a save suspends everything marked although
the persisted set leaves out what is blocked. -/

namespace SecureGuard.Mdm

open Machine

namespace Device

/-- A package is hidden exactly if it is in the persisted blocked set, and suspended exactly if
it is in the persisted suspended set. -/
structure Mirrors (d : Device) : Prop where
  hidden : ∀ p, .hidden p ∈ d.ledger.inForce ↔ p ∈ d.blockedApps
  suspended : ∀ p, p ∈ d.suspended ↔ p ∈ d.suspendedApps

/-- Where there is something to save, the app itself is in no set and under no mark, and
nothing marked for suspension is blocked or marked for blocking. -/
def SavesApart (d : Device) (newlySelectedApps newlySuspendedApps : Finset Package) : Prop :=
  d.Saves newlySelectedApps newlySuspendedApps →
    (ownPackage ∉ d.blockedApps ∪ newlySelectedApps ∧
      ownPackage ∉ d.suspendedApps ∪ newlySuspendedApps) ∧
    Disjoint newlySuspendedApps (d.blockedApps ∪ newlySelectedApps)

instance (d : Device) (newlySelectedApps newlySuspendedApps : Finset Package) :
    Decidable (d.SavesApart newlySelectedApps newlySuspendedApps) :=
  inferInstanceAs (Decidable (_ → (_ ∧ _) ∧ _))

@[simp] theorem performAll_nil (d : Device) : d.performAll [] = d := rfl

@[simp] theorem performAll_cons (d : Device) (a : Action) (as : List Action) :
    d.performAll (a :: as) = (d.perform a).performAll as := rfl

theorem hidden_mem_hiddenPolicies {p : Package} {packages : Finset Package} :
    .hidden p ∈ hiddenPolicies packages ↔ p ∈ packages := by
  simp [hiddenPolicies]

/-! ## What the operations leave -/

variable {d : Device}

theorem saveAndApplyChanges_eq (selected suspended : Finset Package) :
    d.saveAndApplyChanges selected suspended =
      if d.finalBlockedSet selected = d.blockedApps ∧
          d.finalSuspendedSet selected suspended = d.suspendedApps then []
      else if (selected ∪ suspended) ∩ criticalSystemPackages ≠ ∅ then []
      else
        [.setBlockedAppPackages (d.finalBlockedSet selected \ {ownPackage}),
          .setSuspendedAppPackages (d.finalSuspendedSet selected suspended \ {ownPackage}),
          .setPackagesSuspended (d.suspendedApps \ d.finalSuspendedSet selected suspended) false,
          .setApplicationHidden selected true, .setPackagesSuspended suspended true] := rfl

theorem saveAndApplyChanges_of_not_saves {selected suspended : Finset Package}
    (h : ¬ d.Saves selected suspended) : d.saveAndApplyChanges selected suspended = [] := by
  rw [saveAndApplyChanges_eq]
  by_cases hsame : d.finalBlockedSet selected = d.blockedApps ∧
      d.finalSuspendedSet selected suspended = d.suspendedApps
  · rw [if_pos hsame]
  · rw [if_neg hsame, if_pos fun hcritical => h ⟨hsame, hcritical⟩]

/-- The device once a save has written. -/
theorem performAll_saveAndApplyChanges {selected suspended : Finset Package}
    (h : d.Saves selected suspended) :
    d.performAll (d.saveAndApplyChanges selected suspended) =
      { d with
        blockedApps := d.finalBlockedSet selected \ {ownPackage}
        suspendedApps := d.finalSuspendedSet selected suspended \ {ownPackage}
        suspended :=
          (d.suspended \ (d.suspendedApps \ d.finalSuspendedSet selected suspended)) ∪ suspended
        ledger := d.ledger.impose (hiddenPolicies selected) } := by
  rw [saveAndApplyChanges_eq, if_neg h.1, if_neg (not_not.mpr h.2)]
  rfl

theorem performAll_unblockSelectedApps (selection : Finset Package) :
    d.performAll (d.unblockSelectedApps selection) =
      { d with
        blockedApps := d.blockedApps \ selection
        ledger :=
          if selection = ∅ then d.ledger else d.ledger.lift (hiddenPolicies selection) } := by
  unfold unblockSelectedApps
  split
  next hempty => simp [hempty]
  next hne => rfl

theorem performAll_unsuspendSelectedApps (selection : Finset Package) :
    d.performAll (d.unsuspendSelectedApps selection) =
      { d with
        suspendedApps := d.suspendedApps \ selection
        suspended := d.suspended \ selection } := by
  unfold unsuspendSelectedApps
  split
  next hempty => simp [hempty]
  next hne => rfl

/-! ## Each operation keeps the device in step -/

theorem mem_hidden_impose {l : Ledger String Policy} {p : Package} {packages : Finset Package} :
    .hidden p ∈ (l.impose (hiddenPolicies packages)).inForce ↔
      .hidden p ∈ l.inForce ∨ p ∈ packages := by
  rw [Ledger.impose, Finset.mem_union, hidden_mem_hiddenPolicies]

theorem mem_hidden_lift {l : Ledger String Policy} {p : Package} {packages : Finset Package} :
    .hidden p ∈ (l.lift (hiddenPolicies packages)).inForce ↔
      .hidden p ∈ l.inForce ∧ p ∉ packages := by
  rw [Ledger.lift, Finset.mem_sdiff, hidden_mem_hiddenPolicies]

/-- What a save hides beside what is hidden already is what it adds to the blocked set. -/
theorem Mirrors.save_hidden_iff (h : d.Mirrors) (selected : Finset Package) :
    (∀ p, .hidden p ∈ (d.ledger.impose (hiddenPolicies selected)).inForce ↔
        p ∈ d.finalBlockedSet selected \ {ownPackage}) ↔
      ownPackage ∉ d.finalBlockedSet selected := by
  have hfinal : ∀ p, .hidden p ∈ (d.ledger.impose (hiddenPolicies selected)).inForce ↔
      p ∈ d.finalBlockedSet selected := by
    intro p
    rw [mem_hidden_impose, h.hidden, finalBlockedSet, Finset.mem_union]
  constructor
  · intro hsame hown
    have hkept := (hsame ownPackage).mp ((hfinal ownPackage).mpr hown)
    exact (Finset.mem_sdiff.mp hkept).2 (Finset.mem_singleton_self _)
  · intro hown p
    rw [hfinal, Finset.sdiff_singleton_eq_erase, Finset.erase_eq_of_notMem hown]

/-- What a save leaves suspended is its suspended set, and everything marked beside it. -/
theorem Mirrors.save_suspended_iff (h : d.Mirrors) (selected suspended : Finset Package) :
    (∀ p, p ∈ (d.suspended \ (d.suspendedApps \ d.finalSuspendedSet selected suspended)) ∪
          suspended ↔ p ∈ d.finalSuspendedSet selected suspended \ {ownPackage}) ↔
      ownPackage ∉ d.finalSuspendedSet selected suspended ∧
        Disjoint suspended (d.finalBlockedSet selected) := by
  have hleft : ∀ p, p ∈ (d.suspended \ (d.suspendedApps \
      d.finalSuspendedSet selected suspended)) ∪ suspended ↔
        p ∈ d.finalSuspendedSet selected suspended ∨ p ∈ suspended := by
    intro p
    have hsub : p ∈ d.finalSuspendedSet selected suspended → p ∈ d.suspendedApps ∨ p ∈ suspended :=
      fun hp => Finset.mem_union.mp (Finset.mem_sdiff.mp hp).1
    rw [Finset.mem_union, Finset.mem_sdiff, Finset.mem_sdiff, h.suspended]
    tauto
  constructor
  · intro hsame
    constructor
    · intro hown
      have hkept := (hsame ownPackage).mp ((hleft ownPackage).mpr (Or.inl hown))
      exact (Finset.mem_sdiff.mp hkept).2 (Finset.mem_singleton_self _)
    · refine Finset.disjoint_left.mpr fun p hp hblocked => ?_
      have hkept := (hsame p).mp ((hleft p).mpr (Or.inr hp))
      exact (Finset.mem_sdiff.mp (Finset.mem_sdiff.mp hkept).1).2 hblocked
  · rintro ⟨hown, hapart⟩ p
    rw [hleft, Finset.sdiff_singleton_eq_erase, Finset.erase_eq_of_notMem hown]
    refine ⟨fun hp => hp.elim id fun hp => ?_, Or.inl⟩
    exact Finset.mem_sdiff.mpr ⟨Finset.mem_union_right _ hp, Finset.disjoint_left.mp hapart hp⟩

/-- The app itself is in neither set that a save makes exactly if it is in none it starts from. -/
theorem ownPackage_notMem_final_iff (selected suspended : Finset Package) :
    (ownPackage ∉ d.finalBlockedSet selected ∧
        ownPackage ∉ d.finalSuspendedSet selected suspended) ↔
      ownPackage ∉ d.blockedApps ∪ selected ∧ ownPackage ∉ d.suspendedApps ∪ suspended := by
  refine and_congr_right fun hblocked => ?_
  rw [finalSuspendedSet, Finset.mem_sdiff, not_and, not_not]
  exact ⟨fun h hmem => hblocked (h hmem), fun h hmem => absurd hmem h⟩

/-- A save keeps the device in step exactly if it saves apart. -/
theorem Mirrors.save_iff (h : d.Mirrors) (selected suspended : Finset Package) :
    (d.performAll (d.saveAndApplyChanges selected suspended)).Mirrors ↔
      d.SavesApart selected suspended := by
  by_cases hsaves : d.Saves selected suspended
  · rw [performAll_saveAndApplyChanges hsaves]
    constructor
    · rintro ⟨hhidden, hsuspended⟩ -
      have hblocked := (h.save_hidden_iff selected).mp hhidden
      obtain ⟨hown, hapart⟩ := (h.save_suspended_iff selected suspended).mp hsuspended
      exact ⟨(ownPackage_notMem_final_iff selected suspended).mp ⟨hblocked, hown⟩, hapart⟩
    · intro hsave
      obtain ⟨hown, hapart⟩ := hsave hsaves
      obtain ⟨hblocked, hown⟩ := (ownPackage_notMem_final_iff selected suspended).mpr hown
      exact ⟨(h.save_hidden_iff selected).mpr hblocked,
        (h.save_suspended_iff selected suspended).mpr ⟨hown, hapart⟩⟩
  · rw [saveAndApplyChanges_of_not_saves hsaves]
    exact iff_of_true h fun hno => absurd hno hsaves

theorem Mirrors.unblock (h : d.Mirrors) (selection : Finset Package) :
    (d.performAll (d.unblockSelectedApps selection)).Mirrors := by
  rw [performAll_unblockSelectedApps]
  refine ⟨fun p => ?_, h.suspended⟩
  dsimp only
  split
  next hempty => rw [h.hidden, hempty, Finset.sdiff_empty]
  next hne => rw [mem_hidden_lift, h.hidden, Finset.mem_sdiff]

theorem Mirrors.unsuspend (h : d.Mirrors) (selection : Finset Package) :
    (d.performAll (d.unsuspendSelectedApps selection)).Mirrors := by
  rw [performAll_unsuspendSelectedApps]
  refine ⟨h.hidden, fun p => ?_⟩
  dsimp only
  rw [Finset.mem_sdiff, Finset.mem_sdiff, h.suspended]

end Device

/-! ## Runs -/

namespace AppBlocker

def Mirrors (s : AppBlocker) : Prop := s.device.Mirrors

/-- A save, if the event is one, saves apart. -/
def SavesApart (s : AppBlocker) : AppBlockerEvent → Prop
  | .onSaveRequest => s.device.SavesApart s.newlySelectedApps s.newlySuspendedApps
  | _ => True

/-- What an event makes of the device. -/
theorem device_store (s : AppBlocker) (k : Nat) : (s.store k).device = s.device := by
  unfold store
  split <;> rfl

theorem device_onAppSuspensionChanged (s : AppBlocker) (p : Package) (b : Bool) :
    (s.onAppSuspensionChanged p b).device = s.device := by
  unfold onAppSuspensionChanged
  split <;> rfl

theorem device_addPackageManually (s : AppBlocker) (p : Package) (b : Bool) :
    (s.addPackageManually p b).device = s.device := by
  unfold addPackageManually
  repeat' split
  all_goals rfl

theorem mirrors_onEvent_iff (s : AppBlocker) (e : AppBlockerEvent) (h : s.Mirrors) :
    (s.onEvent e).Mirrors ↔ s.SavesApart e := by
  cases e with
  | onSaveRequest => exact Device.Mirrors.save_iff h _ _
  | onUnblockSelectedRequest => exact iff_of_true (Device.Mirrors.unblock h _) trivial
  | onUnsuspendSelectedRequest => exact iff_of_true (Device.Mirrors.unsuspend h _) trivial
  | store k =>
    refine iff_of_true ?_ trivial
    show (s.store k).device.Mirrors
    rw [device_store]
    exact h
  | onAppSuspensionChanged p b =>
    refine iff_of_true ?_ trivial
    show (s.onAppSuspensionChanged p b).device.Mirrors
    rw [device_onAppSuspensionChanged]
    exact h
  | onAddPackageManually p b =>
    refine iff_of_true ?_ trivial
    show (s.addPackageManually p b).device.Mirrors
    rw [device_addPackageManually]
    exact h
  | getInstalledApps | getPackages | onAppSelectionChanged | onToggleUnblockSelection
  | onToggleUnsuspendSelection | onDismissCriticalAppsWarning => exact iff_of_true h trivial

end AppBlocker

/-- **From a device in step with the persisted sets, every state of a run of the app blocker is
in step exactly if every save saves apart.** -/
theorem blockedSets_mirrored_iff {s : AppBlocker} (h : s.Mirrors) (es : List AppBlockerEvent) :
    EveryState AppBlocker.onEvent AppBlocker.Mirrors s es ↔
      EveryStep AppBlocker.onEvent AppBlocker.SavesApart s es :=
  everyState_iff_everyStep (fun _ h => h) AppBlocker.mirrors_onEvent_iff
    (fun s e h hapart => (AppBlocker.mirrors_onEvent_iff s e h).mpr hapart) h es

/-! ## A run that leaves a blocked app suspended -/

namespace AppBlocker

theorem opened_mirrors (sdkInt : Nat) (dialer : Option Package) :
    (opened (Device.unconfigured sdkInt dialer)).Mirrors :=
  ⟨fun p => by simp [opened, Device.unconfigured, Ledger.empty], fun p => Iff.rfl⟩

/-- Two apps are listed; the first is blocked, and marked for suspension before the list is
read again; the second is marked for blocking, and saved. -/
def suspendBlocked : List AppBlockerEvent :=
  [.getInstalledApps ["com.first", "com.second"], .store 0,
    .onAppSelectionChanged "com.first" true, .onSaveRequest,
    .onAppSuspensionChanged "com.first" true, .onAppSelectionChanged "com.second" true,
    .onSaveRequest]

end AppBlocker

theorem blockedSets_diverge :
    (AppBlocker.opened (Device.unconfigured 30 none)).Mirrors ∧
      ¬ EveryState AppBlocker.onEvent AppBlocker.Mirrors
        (AppBlocker.opened (Device.unconfigured 30 none)) AppBlocker.suspendBlocked := by
  refine ⟨AppBlocker.opened_mirrors 30 none, fun h => ?_⟩
  have hlast := (h.last.suspended "com.first").mp (by decide)
  exact absurd hlast (by decide)

/-- The first save blocks an app that is not marked for suspension. -/
theorem blockedSets_mirrored_iff_opened :
    EveryState AppBlocker.onEvent AppBlocker.Mirrors
        (AppBlocker.opened (Device.unconfigured 30 none)) (AppBlocker.suspendBlocked.take 4) ↔
      EveryStep AppBlocker.onEvent AppBlocker.SavesApart
        (AppBlocker.opened (Device.unconfigured 30 none)) (AppBlocker.suspendBlocked.take 4) :=
  blockedSets_mirrored_iff (AppBlocker.opened_mirrors 30 none) _

end SecureGuard.Mdm
