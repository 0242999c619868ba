import SecureGuard.Kiosk.HomeActivity

/-! # The packages that may run in the kiosk

The list is made of the kiosk's apps and of its action buttons, which are edited in two view
models. Enabling the kiosk hands it to the device policy manager, and so does a button that is
toggled while the view model shows the kiosk as enabled; toggling an app does not. View models
load their state once. -/

namespace SecureGuard.Kiosk
open Mdm (KioskSettings Package)
open Mdm.Device (ownPackage)
open Machine

/-! ## View models -/

/-- What `KioskManagementViewModel` shows; its other fields are not read here. -/
structure KioskManagementState where
  isKioskModeEnabled : Bool
  enabledActions : Finset String

/-- The device and the view models, by the order in which their screens were opened. The state of
a `KioskAppSelectionViewModel` is `selectedPackages`. -/
structure Session where
  phone : Phone
  management : List KioskManagementState
  selection : List (Finset Package)

inductive Action
  | openManagement
  | openAppSelection
  | toggleActionButton (vm : Nat) (actionId : String) (isEnabled : Bool)
  | toggleApp (vm : Nat) (packageName : Package)
  | setKioskModeEnabled (vm : Nat) (enabled : Bool)

/-- `settingsRepository.setKioskActionButtons`. -/
def Phone.saveKioskActionButtons (p : Phone) (buttons : Finset String) : Phone :=
  { p with settings := { p.settings with kioskActionButtons := buttons } }

/-- `settingsRepository.setKioskAppPackages`. -/
def Phone.saveKioskAppPackages (p : Phone) (packageNames : Finset Package) : Phone :=
  { p with settings := { p.settings with kioskAppPackages := packageNames } }

/-- `loadState`. -/
def KioskManagementState.load (settings : KioskSettings) : KioskManagementState :=
  ⟨settings.kioskModeEnabled, settings.kioskActionButtons⟩

/-- `current + actionId` or `current - actionId`. -/
def KioskManagementState.updated (vm : KioskManagementState) (actionId : String)
    (isEnabled : Bool) : Finset String :=
  if isEnabled then insert actionId vm.enabledActions else vm.enabledActions.erase actionId

/-- `newSelected`. -/
def newSelected (currentSelected : Finset Package) (packageName : Package) : Finset Package :=
  if packageName ∈ currentSelected then currentSelected.erase packageName
  else insert packageName currentSelected

namespace Session

def toggleActionButton (s : Session) (k : Nat) (vm : KioskManagementState) (actionId : String)
    (isEnabled : Bool) : Session :=
  let updated := vm.updated actionId isEnabled
  let phone := s.phone.saveKioskActionButtons updated
  { s with
    phone := if vm.isKioskModeEnabled then phone.setLockTaskPackages else phone
    management := s.management.set k { vm with enabledActions := updated } }

def toggleApp (s : Session) (k : Nat) (currentSelected : Finset Package)
    (packageName : Package) : Session :=
  { s with
    phone := s.phone.saveKioskAppPackages (newSelected currentSelected packageName)
    selection := s.selection.set k (newSelected currentSelected packageName) }

def setKioskModeEnabled (s : Session) (k : Nat) (vm : KioskManagementState) (enabled : Bool) :
    Session :=
  { s with
    phone := s.phone.setKioskModeEnabled enabled
    management := s.management.set k { vm with isKioskModeEnabled := enabled } }

/-- What a screen that is not open would do does not happen. -/
def step (s : Session) : Action → Session
  | .openManagement => { s with management := s.management ++ [.load s.phone.settings] }
  | .openAppSelection => { s with selection := s.selection ++ [s.phone.settings.kioskAppPackages] }
  | .toggleActionButton k actionId isEnabled =>
    s.management[k]?.elim s fun vm => s.toggleActionButton k vm actionId isEnabled
  | .toggleApp k packageName =>
    s.selection[k]?.elim s fun selected => s.toggleApp k selected packageName
  | .setKioskModeEnabled k enabled =>
    s.management[k]?.elim s fun vm => s.setKioskModeEnabled k vm enabled

def installed (isDeviceOwner : Bool) (homeActivities : List Component) : Session :=
  ⟨Phone.installed isDeviceOwner homeActivities, [], []⟩

end Session

/-! ## What is to hold -/

/-- A Wi-Fi or a Bluetooth button needs the system settings. -/
def NeedsSettings (settings : KioskSettings) : Prop :=
  "wifi" ∈ settings.kioskActionButtons ∨ "bluetooth" ∈ settings.kioskActionButtons

instance (settings : KioskSettings) : Decidable (NeedsSettings settings) :=
  inferInstanceAs (Decidable (_ ∨ _))

/-- The kiosk's apps, the system settings if a button needs them, and the application itself. -/
def allowed (settings : KioskSettings) : Finset Package :=
  settings.kioskAppPackages ∪ (if NeedsSettings settings then {"com.android.settings"} else ∅) ∪
    {ownPackage}

theorem mem_allowed {settings : KioskSettings} {packageName : Package} :
    packageName ∈ allowed settings ↔ packageName ∈ settings.kioskAppPackages ∨
      (packageName = "com.android.settings" ∧ NeedsSettings settings) ∨
      packageName = ownPackage := by
  rw [allowed, Finset.mem_union, Finset.mem_union, Finset.mem_singleton, or_assoc]
  by_cases h : NeedsSettings settings <;> simp [h]

/-- While the kiosk is enabled, the device policy manager has the list. -/
def Session.ListInForce (s : Session) : Prop :=
  s.phone.settings.kioskModeEnabled = true → s.phone.lockTaskPackages = allowed s.phone.settings

namespace Session

/-- While the kiosk is enabled, an app is toggled only where that leaves the list as it is, and a
button only there or where the view model shows the kiosk as enabled; only the device owner
enables it. -/
def fits (s : Session) : Action → Bool
  | .toggleActionButton k actionId isEnabled => s.management[k]?.all fun vm =>
      !s.phone.settings.kioskModeEnabled || vm.isKioskModeEnabled ||
        allowed (s.phone.saveKioskActionButtons (vm.updated actionId isEnabled)).settings =
          allowed s.phone.settings
  | .toggleApp k packageName => s.selection[k]?.all fun selected =>
      !s.phone.settings.kioskModeEnabled ||
        allowed (s.phone.saveKioskAppPackages (newSelected selected packageName)).settings =
          allowed s.phone.settings
  | .setKioskModeEnabled k enabled =>
    s.management[k]?.isNone || !enabled || s.phone.isDeviceOwner
  | _ => true

end Session

/-- In a view model that shows the persisted apps, toggling one changes the list unless it is on
the list anyway. -/
theorem allowed_toggle_iff (p : Phone) (packageName : Package) :
    allowed (p.saveKioskAppPackages
        (newSelected p.settings.kioskAppPackages packageName)).settings = allowed p.settings ↔
      packageName = ownPackage ∨
        (packageName = "com.android.settings" ∧ NeedsSettings p.settings) := by
  have hneeds : ∀ apps, NeedsSettings (p.saveKioskAppPackages apps).settings ↔
      NeedsSettings p.settings := fun _ => Iff.rfl
  have happs : ∀ apps, (p.saveKioskAppPackages apps).settings.kioskAppPackages = apps :=
    fun _ => rfl
  have hself : packageName ∈ newSelected p.settings.kioskAppPackages packageName ↔
      packageName ∉ p.settings.kioskAppPackages := by
    rw [newSelected]
    split <;> simp_all
  have hother : ∀ q ≠ packageName, (q ∈ newSelected p.settings.kioskAppPackages packageName ↔
      q ∈ p.settings.kioskAppPackages) := by
    intro q hq
    rw [newSelected]
    split <;> simp [hq]
  constructor
  · intro h
    have hmem := Finset.ext_iff.mp h packageName
    rw [mem_allowed, mem_allowed, happs, hneeds, hself] at hmem
    by_contra hne
    rw [not_or] at hne
    simp only [hne.1, hne.2, or_false] at hmem
    exact iff_not_self hmem.symm
  · intro h
    ext q
    rw [mem_allowed, mem_allowed, happs, hneeds]
    by_cases hq : q = packageName
    · subst hq
      exact iff_of_true (Or.inr h.symm) (Or.inr h.symm)
    · rw [hother q hq]

/-! ## Each action -/

theorem Phone.setLockTaskPackages_eq {p : Phone} (h : p.isDeviceOwner = true) :
    p.setLockTaskPackages = { p with lockTaskPackages := allowed p.settings } := by
  have hallowed : allowed p.settings = insert ownPackage (p.settings.kioskAppPackages ∪
      if NeedsSettings p.settings then {"com.android.settings"} else ∅) := by
    rw [allowed, Finset.union_comm, ← Finset.insert_eq]
  rw [setLockTaskPackages, h, Bool.not_true, if_neg Bool.false_ne_true, hallowed]
  rfl

theorem Phone.lockTaskPackages_setKiosk (p : Phone) (b : Bool) :
    (p.setKioskAsDefaultLauncher b).lockTaskPackages = p.lockTaskPackages := by
  rw [setKioskAsDefaultLauncher]
  cases p.isDeviceOwner <;> cases b <;> rfl

/-- Enabling hands over the list. -/
theorem Phone.lockTaskPackages_enable {p : Phone} (h : p.isDeviceOwner = true) :
    (p.setKioskModeEnabled true).lockTaskPackages = allowed p.settings := by
  have hlist : p.setLockTaskPackages.enableKioskModeFeatures.lockTaskPackages =
      allowed p.settings := by
    rw [enableKioskModeFeatures, setLockTaskPackages_eq h]
    split <;> rfl
  exact (lockTaskPackages_setKiosk _ _).trans hlist

/-- But for the mode, an operation on the kiosk leaves the settings. -/
theorem Phone.settings_enable (p : Phone) :
    (p.setKioskModeEnabled true).settings = { p.settings with kioskModeEnabled := true } := by
  rw [setKioskModeEnabled, saveKioskModeEnabled]
  simp only [if_true, settings_setKiosk, p.sameHome_enable.settings]

theorem Phone.lockTaskPackages_of_not_owner {p : Phone} (h : p.isDeviceOwner = false)
    (enabled : Bool) : (p.setKioskModeEnabled enabled).lockTaskPackages = p.lockTaskPackages := by
  cases enabled with
  | true =>
    refine (lockTaskPackages_setKiosk _ _).trans ?_
    simp [enableKioskModeFeatures, setLockTaskPackages, h]
  | false =>
    cases hchosen : p.chosenHomeLauncherPackage <;>
      simp [setKioskModeEnabled, saveKioskModeEnabled, clearLockTaskPackages,
        disableKioskModeFeatures, setSpecificAsDefaultLauncher, clearKioskAsDefaultLauncher, h,
        hchosen]

/-- The mode is not read. -/
theorem allowed_mode (settings : KioskSettings) (b : Bool) :
    allowed { settings with kioskModeEnabled := b } = allowed settings := rfl

namespace Session

/-- Without the device owner the list stays empty. -/
structure Inv (s : Session) : Prop where
  inForce : s.ListInForce
  owned : s.phone.isDeviceOwner = false → s.phone.lockTaskPackages = ∅

variable {s : Session}

theorem Inv.owner (hs : s.Inv) (h : s.phone.settings.kioskModeEnabled = true) :
    s.phone.isDeviceOwner = true := by
  by_contra howner
  have hempty := hs.owned (Bool.eq_false_iff.mpr howner)
  have hmem : ownPackage ∈ allowed s.phone.settings := mem_allowed.mpr (Or.inr (Or.inr rfl))
  rw [← hs.inForce h, hempty] at hmem
  exact Finset.notMem_empty _ hmem

/-- What is persisted changes, and the list does not. -/
theorem inForce_save_iff (hs : s.Inv) (settings : KioskSettings)
    (hmode : settings.kioskModeEnabled = s.phone.settings.kioskModeEnabled) :
    (settings.kioskModeEnabled = true → s.phone.lockTaskPackages = allowed settings) ↔
      (!s.phone.settings.kioskModeEnabled || allowed settings = allowed s.phone.settings) =
        true := by
  rw [hmode]
  cases h : s.phone.settings.kioskModeEnabled with
  | false => simp
  | true => simp [hs.inForce h, eq_comm]

theorem inForce_toggleActionButton_iff (hs : s.Inv) {k : Nat} {vm : KioskManagementState}
    {actionId : String} {isEnabled : Bool} :
    (s.toggleActionButton k vm actionId isEnabled).ListInForce ↔
      (!s.phone.settings.kioskModeEnabled || vm.isKioskModeEnabled ||
        allowed (s.phone.saveKioskActionButtons (vm.updated actionId isEnabled)).settings =
          allowed s.phone.settings) = true := by
  cases hvm : vm.isKioskModeEnabled with
  | false =>
    have hphone : (s.toggleActionButton k vm actionId isEnabled).phone =
        s.phone.saveKioskActionButtons (vm.updated actionId isEnabled) := by
      rw [toggleActionButton, hvm]
      rfl
    rw [Bool.or_false, ListInForce, hphone]
    exact inForce_save_iff hs _ rfl
  | true =>
    have hphone : (s.toggleActionButton k vm actionId isEnabled).phone =
        (s.phone.saveKioskActionButtons (vm.updated actionId isEnabled)).setLockTaskPackages := by
      rw [toggleActionButton, hvm]
      rfl
    rw [Bool.or_true, Bool.true_or, ListInForce, hphone]
    refine iff_of_true (fun h => ?_) rfl
    have hmode : s.phone.settings.kioskModeEnabled = true := by
      rw [Phone.setLockTaskPackages] at h
      split at h <;> exact h
    have howner : (s.phone.saveKioskActionButtons
        (vm.updated actionId isEnabled)).isDeviceOwner = true := hs.owner hmode
    rw [Phone.setLockTaskPackages_eq howner]

theorem inForce_toggleApp_iff (hs : s.Inv) {k : Nat} {selected : Finset Package}
    {packageName : Package} :
    (s.toggleApp k selected packageName).ListInForce ↔
      (!s.phone.settings.kioskModeEnabled ||
        allowed (s.phone.saveKioskAppPackages (newSelected selected packageName)).settings =
          allowed s.phone.settings) = true :=
  inForce_save_iff hs _ rfl

theorem inForce_setKioskModeEnabled_iff (hs : s.Inv) {k : Nat} {vm : KioskManagementState}
    {enabled : Bool} :
    (s.setKioskModeEnabled k vm enabled).ListInForce ↔
      (!enabled || s.phone.isDeviceOwner) = true := by
  cases enabled with
  | false => exact iff_of_true (fun h => by cases h) rfl
  | true =>
    rw [ListInForce, setKioskModeEnabled, Phone.settings_enable, allowed_mode]
    cases howner : s.phone.isDeviceOwner with
    | true => exact iff_of_true (fun _ => Phone.lockTaskPackages_enable howner) rfl
    | false =>
      rw [Phone.lockTaskPackages_of_not_owner howner, hs.owned howner]
      refine iff_of_false (fun h => ?_) (by decide)
      have hmem : ownPackage ∈ allowed s.phone.settings := mem_allowed.mpr (Or.inr (Or.inr rfl))
      rw [← h rfl] at hmem
      exact Finset.notMem_empty _ hmem

theorem inForce_step_iff (hs : s.Inv) (a : Action) : (s.step a).ListInForce ↔ s.fits a = true := by
  cases a with
  | openManagement => exact iff_of_true hs.inForce rfl
  | openAppSelection => exact iff_of_true hs.inForce rfl
  | toggleActionButton k actionId isEnabled =>
    rw [step, fits]
    cases s.management[k]? with
    | none => exact iff_of_true hs.inForce rfl
    | some vm => exact inForce_toggleActionButton_iff hs
  | toggleApp k packageName =>
    rw [step, fits]
    cases s.selection[k]? with
    | none => exact iff_of_true hs.inForce rfl
    | some selected => exact inForce_toggleApp_iff hs
  | setKioskModeEnabled k enabled =>
    rw [step, fits]
    cases s.management[k]? with
    | none => exact iff_of_true hs.inForce rfl
    | some vm => exact inForce_setKioskModeEnabled_iff hs

theorem isDeviceOwner_step (s : Session) (a : Action) :
    (s.step a).phone.isDeviceOwner = s.phone.isDeviceOwner := by
  cases a with
  | openManagement => rfl
  | openAppSelection => rfl
  | toggleActionButton k actionId isEnabled =>
    rw [step]
    cases s.management[k]? with
    | none => rfl
    | some vm =>
      simp only [Option.elim_some, toggleActionButton, Phone.setLockTaskPackages]
      split
      · split <;> rfl
      · rfl
  | toggleApp k packageName =>
    rw [step]
    cases s.selection[k]? <;> rfl
  | setKioskModeEnabled k enabled =>
    rw [step]
    cases s.management[k]? with
    | none => rfl
    | some vm => exact s.phone.isDeviceOwner_step (.setKioskModeEnabled enabled)

/-- Without the device owner, no step changes the list. -/
theorem lockTaskPackages_step (h : s.phone.isDeviceOwner = false) (a : Action) :
    (s.step a).phone.lockTaskPackages = s.phone.lockTaskPackages := by
  cases a with
  | openManagement => rfl
  | openAppSelection => rfl
  | toggleActionButton k actionId isEnabled =>
    rw [step]
    cases s.management[k]? with
    | none => rfl
    | some vm =>
      simp only [Option.elim_some, toggleActionButton, Phone.setLockTaskPackages]
      split <;> simp [Phone.saveKioskActionButtons, h]
  | toggleApp k packageName =>
    rw [step]
    cases s.selection[k]? <;> rfl
  | setKioskModeEnabled k enabled =>
    rw [step]
    cases s.management[k]? with
    | none => rfl
    | some vm => exact Phone.lockTaskPackages_of_not_owner h enabled

theorem inv_step (hs : s.Inv) {a : Action} (h : s.fits a = true) : (s.step a).Inv := by
  refine ⟨(inForce_step_iff hs a).mpr h, fun hstep => ?_⟩
  have howner := (s.isDeviceOwner_step a).symm.trans hstep
  rw [lockTaskPackages_step howner]
  exact hs.owned howner

theorem inv_installed (isDeviceOwner : Bool) (homeActivities : List Component) :
    (installed isDeviceOwner homeActivities).Inv where
  inForce := by simp [ListInForce, installed, Phone.installed]
  owned := fun _ => rfl

end Session

/-! ## Every run -/

theorem everyState_inForce_iff {s : Session} (hs : s.Inv) (actions : List Action) :
    EveryState Session.step Session.ListInForce s actions ↔
      EveryStep Session.step (fun s a => s.fits a = true) s actions := by
  have hgives : ∀ s : Session, s.Inv → s.ListInForce := fun s h => h.inForce
  exact everyState_iff_everyStep hgives (fun s a h => Session.inForce_step_iff h a)
    (fun s a h hfits => Session.inv_step h hfits) hs actions

/-- **The list of the kiosk is in force** in every state of a run exactly if every action of
the run fits. -/
theorem kioskList_inForce_iff (isDeviceOwner : Bool) (homeActivities : List Component)
    (actions : List Action) :
    EveryState Session.step Session.ListInForce
        (Session.installed isDeviceOwner homeActivities) actions ↔
      EveryStep Session.step (fun s a => s.fits a = true)
        (Session.installed isDeviceOwner homeActivities) actions :=
  everyState_inForce_iff (Session.inv_installed isDeviceOwner homeActivities) actions

/-- An app is selected, the kiosk enabled, and the app deselected. -/
def deselected : List Action :=
  [.openManagement, .openAppSelection, .toggleApp 0 "com.android.chrome",
    .setKioskModeEnabled 0 true, .toggleApp 0 "com.android.chrome"]

/-- The app that is deselected while the kiosk is enabled may still run. -/
theorem kioskList_stale :
    ¬ EveryState Session.step Session.ListInForce (Session.installed true []) deselected ∧
      "com.android.chrome" ∉
        (run Session.step (Session.installed true []) deselected).phone.settings.kioskAppPackages ∧
      "com.android.chrome" ∈
        (run Session.step (Session.installed true []) deselected).phone.lockTaskPackages := by
  rw [everyState_inForce_iff (Session.inv_installed true [])]
  decide +kernel

end SecureGuard.Kiosk
