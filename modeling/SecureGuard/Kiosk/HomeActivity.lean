import SecureGuard.Kiosk.LockManager

/-! # The kiosk is the home activity exactly while it is enabled

What is registered for another launcher when the kiosk is disabled is never taken back, so it is
still there when the kiosk is enabled again; and a launcher that is gone by then leaves the kiosk
in place. -/

namespace SecureGuard.Kiosk
open Mdm (Package)
open Mdm.Device (ownPackage)
open Machine

/-! ## What is to hold -/

namespace Phone

/-- `KioskActivity` is a persistent preferred home activity. -/
def KioskIsHome (p : Phone) : Prop := ⟨.home, kioskActivity⟩ ∈ p.persistentPreferred

/-- No other package has one. -/
def NoOtherHome (p : Phone) : Prop :=
  ∀ r ∈ p.persistentPreferred, r.filter = .home → r.component.packageName = ownPackage

instance (p : Phone) : Decidable p.KioskIsHome := inferInstanceAs (Decidable (_ ∈ _))

instance (p : Phone) : Decidable p.NoOtherHome := inferInstanceAs (Decidable (∀ r ∈ _, _))

/-- The kiosk is the home activity if and only if it is enabled; then its component is enabled
too, and it is the only one. -/
structure HomeMatches (p : Phone) : Prop where
  home : p.KioskIsHome ↔ p.settings.kioskModeEnabled = true
  component : p.settings.kioskModeEnabled = true → p.kioskComponentEnabled = true
  alone : p.settings.kioskModeEnabled = true → p.NoOtherHome

/-- The package has a home activity now. -/
def hasHomeActivity (p : Phone) (packageName : Package) : Bool :=
  (p.queryHomeActivities.find? fun c => c.packageName == packageName).isSome

/-- The kiosk is enabled by the device owner while no other launcher is registered, and disabled
while the launcher to return to is none, or one of another package that is there. -/
def fits (p : Phone) : Event → Bool
  | .setKioskModeEnabled true => p.isDeviceOwner && decide p.NoOtherHome
  | .setKioskModeEnabled false => !p.isDeviceOwner ||
      p.chosenHomeLauncherPackage.all fun packageName =>
        if p.hasHomeActivity packageName then packageName != ownPackage
        else !p.settings.kioskModeEnabled
  | _ => true

/-! ## Registering and clearing -/

variable {p q : Phone} {r : Registration} {packageName : Package}

theorem mem_clearPackage :
    r ∈ (p.clearPackagePersistentPreferredActivities packageName).persistentPreferred ↔
      r ∈ p.persistentPreferred ∧ r.component.packageName ≠ packageName := by
  rw [clearPackagePersistentPreferredActivities, List.mem_filter, bne_iff_ne]

theorem mem_addPersistent {filter : IntentFilter} {component : Component} :
    r ∈ (p.addPersistentPreferredActivity filter component).persistentPreferred ↔
      r ∈ p.persistentPreferred ∨ r = ⟨filter, component⟩ := by
  rw [addPersistentPreferredActivity, List.mem_append, List.mem_singleton]

/-- Other packages keep what they have. -/
theorem mem_setKioskAsDefaultLauncher (h : p.isDeviceOwner = true) {b : Bool} :
    r ∈ (p.setKioskAsDefaultLauncher b).persistentPreferred ↔
      r ∈ p.persistentPreferred ∧ r.component.packageName ≠ ownPackage ∨
        r = ⟨.home, kioskActivity⟩ ∨ b = true ∧ r = ⟨.view, kioskActivity⟩ := by
  rw [setKioskAsDefaultLauncher, h, Bool.not_true, if_neg Bool.false_ne_true]
  cases b with
  | true =>
    simp only [if_true, mem_addPersistent, mem_clearPackage, setKioskComponentEnabled, true_and,
      or_assoc]
  | false =>
    simp only [Bool.false_eq_true, if_false, mem_addPersistent, mem_clearPackage,
      setKioskComponentEnabled, false_and, or_false]

theorem kioskIsHome_setKiosk (h : p.isDeviceOwner = true) (b : Bool) :
    (p.setKioskAsDefaultLauncher b).KioskIsHome :=
  (mem_setKioskAsDefaultLauncher h).mpr (Or.inr (Or.inl rfl))

theorem noOtherHome_setKiosk (h : p.isDeviceOwner = true) (b : Bool) :
    (p.setKioskAsDefaultLauncher b).NoOtherHome ↔ p.NoOtherHome := by
  constructor
  · intro hq r hr hfilter
    by_contra hne
    exact hne (hq r ((mem_setKioskAsDefaultLauncher h).mpr (Or.inl ⟨hr, hne⟩)) hfilter)
  · intro hp r hr hfilter
    rcases (mem_setKioskAsDefaultLauncher h).mp hr with ⟨hr, -⟩ | rfl | ⟨-, rfl⟩
    · exact hp r hr hfilter
    · rfl
    · rfl

theorem component_setKiosk (h : p.isDeviceOwner = true) (b : Bool) :
    (p.setKioskAsDefaultLauncher b).kioskComponentEnabled = true := by
  rw [setKioskAsDefaultLauncher, h, Bool.not_true, if_neg Bool.false_ne_true]
  cases b <;> rfl

theorem not_kioskIsHome_clear (h : p.isDeviceOwner = true) :
    ¬ p.clearKioskAsDefaultLauncher.KioskIsHome := by
  rw [clearKioskAsDefaultLauncher, h, Bool.not_true, if_neg Bool.false_ne_true]
  intro hhome
  exact (mem_clearPackage.mp hhome).2 rfl

/-- Of the application itself, only the kiosk is found. -/
theorem eq_kioskActivity_of_find {c : Component}
    (h : p.queryHomeActivities.find? (fun c => c.packageName == ownPackage) = some c) :
    c = kioskActivity := by
  have hname := List.find?_some h
  rw [beq_iff_eq] at hname
  have hmem := List.mem_of_find?_eq_some h
  rw [queryHomeActivities, List.mem_append, List.mem_filter, bne_iff_ne] at hmem
  rcases hmem with ⟨-, hne⟩ | hmem
  · exact absurd hname hne
  · split at hmem
    · exact List.mem_singleton.mp hmem
    · cases hmem

/-- After a launcher has been set, the kiosk is home only if it was the launcher, or if the
launcher is not there and the kiosk was home. -/
theorem kioskIsHome_setSpecific (h : p.isDeviceOwner = true) :
    (p.setSpecificAsDefaultLauncher packageName).KioskIsHome ↔
      if p.hasHomeActivity packageName = true then packageName = ownPackage
      else p.KioskIsHome := by
  rw [setSpecificAsDefaultLauncher, h, Bool.not_true, if_neg Bool.false_ne_true, hasHomeActivity]
  cases hfind : p.queryHomeActivities.find? fun c => c.packageName == packageName with
  | none => simp
  | some target =>
    simp only [Option.elim_some, Option.isSome_some, if_true]
    rw [KioskIsHome, mem_addPersistent]
    constructor
    · rintro (hhome | he)
      · exact absurd hhome (not_kioskIsHome_clear h)
      · have hname := congrArg (·.component.packageName) he
        exact hname.symm
    · rintro rfl
      rw [eq_kioskActivity_of_find hfind]
      exact Or.inr rfl

/-- What the registrations and the settings are, whatever happens to the lock task. -/
structure SameHome (p q : Phone) : Prop where
  owner : q.isDeviceOwner = p.isDeviceOwner
  registrations : q.persistentPreferred = p.persistentPreferred
  component : q.kioskComponentEnabled = p.kioskComponentEnabled
  activities : q.homeActivities = p.homeActivities
  settings : q.settings = p.settings
  chosen : q.chosenHomeLauncherPackage = p.chosenHomeLauncherPackage

theorem sameHome_enable (p : Phone) : p.SameHome p.setLockTaskPackages.enableKioskModeFeatures := by
  rw [enableKioskModeFeatures, setLockTaskPackages]
  cases h : p.isDeviceOwner <;> constructor <;> simp [h]

theorem sameHome_disable (p : Phone) :
    p.SameHome p.clearLockTaskPackages.disableKioskModeFeatures := by
  rw [disableKioskModeFeatures, clearLockTaskPackages]
  cases h : p.isDeviceOwner <;> constructor <;> simp [h]

namespace SameHome

theorem kioskIsHome (h : p.SameHome q) : q.KioskIsHome ↔ p.KioskIsHome := by
  rw [KioskIsHome, KioskIsHome, h.registrations]

theorem noOtherHome (h : p.SameHome q) : q.NoOtherHome ↔ p.NoOtherHome := by
  rw [NoOtherHome, NoOtherHome, h.registrations]

theorem hasHomeActivity (h : p.SameHome q) (packageName : Package) :
    q.hasHomeActivity packageName = p.hasHomeActivity packageName := by
  rw [Phone.hasHomeActivity, Phone.hasHomeActivity, queryHomeActivities, queryHomeActivities,
    h.activities, h.component]

end SameHome

/-! ## Operations -/

/-- Without the device owner an operation registers nothing. -/
theorem registrations_of_not_owner (h : p.isDeviceOwner = false) (enabled : Bool) :
    (p.setKioskModeEnabled enabled).persistentPreferred = p.persistentPreferred := by
  cases enabled with
  | true =>
    have hsame := p.sameHome_enable
    simp [setKioskModeEnabled, saveKioskModeEnabled, setKioskAsDefaultLauncher, hsame.owner, h,
      hsame.registrations]
  | false =>
    have hsame := p.sameHome_disable
    cases hchosen : p.chosenHomeLauncherPackage <;>
      simp [setKioskModeEnabled, saveKioskModeEnabled, setSpecificAsDefaultLauncher,
        clearKioskAsDefaultLauncher, hsame.owner, hsame.chosen, hchosen, h, hsame.registrations]

@[simp] theorem isDeviceOwner_setKiosk (b : Bool) :
    (p.setKioskAsDefaultLauncher b).isDeviceOwner = p.isDeviceOwner := by
  rw [setKioskAsDefaultLauncher]
  cases h : p.isDeviceOwner <;> cases b <;> exact h

@[simp] theorem isDeviceOwner_clear :
    p.clearKioskAsDefaultLauncher.isDeviceOwner = p.isDeviceOwner := by
  rw [clearKioskAsDefaultLauncher]
  cases h : p.isDeviceOwner <;> exact h

@[simp] theorem isDeviceOwner_setSpecific :
    (p.setSpecificAsDefaultLauncher packageName).isDeviceOwner = p.isDeviceOwner := by
  rw [setSpecificAsDefaultLauncher]
  split
  · rfl
  · cases p.queryHomeActivities.find? fun c => c.packageName == packageName with
    | none => rfl
    | some target => exact isDeviceOwner_clear

/-- Without the device owner nothing is registered. -/
structure Inv (p : Phone) : Prop extends p.HomeMatches where
  owned : p.isDeviceOwner = false → p.persistentPreferred = []

theorem Inv.not_enabled (hp : p.Inv) (h : p.isDeviceOwner = false) :
    p.settings.kioskModeEnabled = false := by
  rw [← Bool.not_eq_true, ← hp.home, KioskIsHome, hp.owned h]
  exact List.not_mem_nil

theorem homeMatches_enable_iff (hp : p.Inv) :
    (p.setKioskModeEnabled true).HomeMatches ↔ p.isDeviceOwner = true ∧ p.NoOtherHome := by
  have hsame := p.sameHome_enable
  cases howner : p.isDeviceOwner with
  | false =>
    constructor
    · intro h
      have hhome := h.home.mpr rfl
      rw [KioskIsHome, registrations_of_not_owner howner, hp.owned howner] at hhome
      cases hhome
    · rintro ⟨h, -⟩
      cases h
  | true =>
    have hq := hsame.owner.trans howner
    constructor
    · intro h
      exact ⟨rfl, hsame.noOtherHome.mp ((noOtherHome_setKiosk hq _).mp (h.alone rfl))⟩
    · rintro ⟨-, halone⟩
      exact ⟨⟨fun _ => rfl, fun _ => kioskIsHome_setKiosk hq _⟩,
        fun _ => component_setKiosk hq _,
        fun _ => (noOtherHome_setKiosk hq _).mpr (hsame.noOtherHome.mpr halone)⟩

/-- When the setting says that the kiosk is disabled, only being home matters. -/
theorem homeMatches_disabled_iff (h : p.settings.kioskModeEnabled = false) :
    p.HomeMatches ↔ ¬ p.KioskIsHome := by
  constructor
  · intro hp hhome
    exact absurd (hp.home.mp hhome) (by rw [h]; decide)
  · intro hhome
    refine ⟨?_, ?_, ?_⟩
    · rw [h]
      exact iff_of_false hhome (by decide)
    · intro hen
      rw [h] at hen
      cases hen
    · intro hen
      rw [h] at hen
      cases hen

/-- Disabling makes the chosen launcher home, if there is one, and else just clears the kiosk. -/
theorem kioskIsHome_disable (p : Phone) :
    (p.setKioskModeEnabled false).KioskIsHome ↔
      (p.chosenHomeLauncherPackage.elim
        p.clearLockTaskPackages.disableKioskModeFeatures.clearKioskAsDefaultLauncher
        p.clearLockTaskPackages.disableKioskModeFeatures.setSpecificAsDefaultLauncher
      ).KioskIsHome := by
  rw [← p.sameHome_disable.chosen]
  rfl

theorem homeMatches_disable_iff (hp : p.Inv) :
    (p.setKioskModeEnabled false).HomeMatches ↔
      p.fits (.setKioskModeEnabled false) = true := by
  have hsame := p.sameHome_disable
  rw [homeMatches_disabled_iff rfl, fits]
  cases howner : p.isDeviceOwner with
  | false =>
    rw [KioskIsHome, registrations_of_not_owner howner, hp.owned howner]
    simp
  | true =>
    have hq := hsame.owner.trans howner
    rw [p.kioskIsHome_disable]
    cases p.chosenHomeLauncherPackage with
    | none => exact iff_of_true (not_kioskIsHome_clear hq) rfl
    | some packageName =>
      rw [Option.elim_some, kioskIsHome_setSpecific hq, hsame.hasHomeActivity, hsame.kioskIsHome,
        hp.home]
      cases hhas : p.hasHomeActivity packageName <;> simp [hhas]

@[simp] theorem settings_setKiosk (b : Bool) :
    (p.setKioskAsDefaultLauncher b).settings = p.settings := by
  rw [setKioskAsDefaultLauncher]
  cases p.isDeviceOwner <;> cases b <;> rfl

/-- The kiosk is registered again if it is enabled, and else the setting does not matter. -/
theorem homeMatches_monitor (hp : p.Inv) (enabled : Bool) :
    (p.setMonitorEnabled enabled).HomeMatches := by
  have hq : (p.saveKioskAppMonitorEnabled enabled).Inv :=
    ⟨⟨hp.home, hp.component, hp.alone⟩, hp.owned⟩
  rw [setMonitorEnabled]
  by_cases hen : (p.saveKioskAppMonitorEnabled enabled).settings.kioskModeEnabled = true
  · have howner : (p.saveKioskAppMonitorEnabled enabled).isDeviceOwner = true := by
      by_contra h
      rw [hq.not_enabled (Bool.eq_false_iff.mpr h)] at hen
      cases hen
    rw [if_pos hen]
    refine ⟨?_, fun _ => component_setKiosk howner _,
      fun _ => (noOtherHome_setKiosk howner _).mpr (hq.alone hen)⟩
    rw [settings_setKiosk]
    exact iff_of_true (kioskIsHome_setKiosk howner _) hen
  · rw [if_neg hen]
    exact hq.toHomeMatches

theorem homeMatches_step_iff (hp : p.Inv) (e : Event) :
    (p.step e).HomeMatches ↔ p.fits e = true := by
  cases e with
  | setKioskModeEnabled enabled =>
    cases enabled with
    | true => rw [step, homeMatches_enable_iff hp, fits, Bool.and_eq_true, decide_eq_true_iff]
    | false => exact homeMatches_disable_iff hp
  | setMonitorEnabled enabled => exact iff_of_true (homeMatches_monitor hp enabled) rfl
  | setChosenHomeLauncherPackage packageName =>
    exact iff_of_true ⟨hp.home, hp.component, hp.alone⟩ rfl
  | launchersChanged homeActivities => exact iff_of_true ⟨hp.home, hp.component, hp.alone⟩ rfl

theorem isDeviceOwner_step (p : Phone) (e : Event) :
    (p.step e).isDeviceOwner = p.isDeviceOwner := by
  cases e with
  | setKioskModeEnabled enabled =>
    cases enabled with
    | true => exact (isDeviceOwner_setKiosk _).trans p.sameHome_enable.owner
    | false =>
      have hsame := p.sameHome_disable
      rw [← hsame.owner, step, setKioskModeEnabled, saveKioskModeEnabled]
      simp only [Bool.false_eq_true, if_false]
      cases p.clearLockTaskPackages.disableKioskModeFeatures.chosenHomeLauncherPackage with
      | none => exact isDeviceOwner_clear
      | some packageName => exact isDeviceOwner_setSpecific
  | setMonitorEnabled enabled =>
    rw [step, setMonitorEnabled]
    split
    · exact isDeviceOwner_setKiosk _
    · rfl
  | setChosenHomeLauncherPackage packageName => rfl
  | launchersChanged homeActivities => rfl

theorem inv_step (hp : p.Inv) {e : Event} (h : p.fits e = true) : (p.step e).Inv := by
  refine ⟨(homeMatches_step_iff hp e).mpr h, fun hstep => ?_⟩
  have howner : p.isDeviceOwner = false := (p.isDeviceOwner_step e).symm.trans hstep
  rw [← hp.owned howner]
  cases e with
  | setKioskModeEnabled enabled => exact registrations_of_not_owner howner enabled
  | setMonitorEnabled enabled =>
    rw [step, setMonitorEnabled]
    split <;> simp [saveKioskAppMonitorEnabled, setKioskAsDefaultLauncher, howner]
  | setChosenHomeLauncherPackage packageName => rfl
  | launchersChanged homeActivities => rfl

theorem inv_installed (isDeviceOwner : Bool) (homeActivities : List Component) :
    (installed isDeviceOwner homeActivities).Inv where
  home := by simp [KioskIsHome, installed]
  component := by simp [installed]
  alone := by simp [installed]
  owned := fun _ => rfl

end Phone

/-! ## Every run -/

/-- The kiosk is the home activity exactly while it is enabled, in every state of a run from the
installation, if and only if every operation of the run fits. -/
theorem everyState_homeMatches_iff {p : Phone} (hp : p.Inv) (events : List Event) :
    EveryState Phone.step Phone.HomeMatches p events ↔
      EveryStep Phone.step (fun p e => p.fits e = true) p events := by
  have hgives : ∀ p : Phone, p.Inv → p.HomeMatches := fun p h => h.toHomeMatches
  exact everyState_iff_everyStep hgives (fun p e h => p.homeMatches_step_iff h e)
    (fun p e h hfits => p.inv_step h hfits) hp events

/-- **The home activity follows the setting** in every state of a run exactly if every
operation of the run fits. -/
theorem kioskHome_follows_iff (isDeviceOwner : Bool) (homeActivities : List Component)
    (events : List Event) :
    EveryState Phone.step Phone.HomeMatches (Phone.installed isDeviceOwner homeActivities) events ↔
      EveryStep Phone.step (fun p e => p.fits e = true)
        (Phone.installed isDeviceOwner homeActivities) events :=
  everyState_homeMatches_iff (Phone.inv_installed isDeviceOwner homeActivities) events

def launcher3 : Component := ⟨"com.android.launcher3", "com.android.launcher3.Launcher"⟩

/-- The launcher to return to is chosen, and then the kiosk enabled and disabled. -/
def enableAndDisable : List Event :=
  [.setChosenHomeLauncherPackage (some launcher3.packageName), .setKioskModeEnabled true,
    .setKioskModeEnabled false]

/-- The kiosk stays home where the launcher is gone when it is disabled; where it was there, it
is still registered when the kiosk is enabled again. -/
theorem kioskHome_left :
    ¬ EveryState Phone.step Phone.HomeMatches (Phone.installed true []) enableAndDisable ∧
      (run Phone.step (Phone.installed true []) enableAndDisable).KioskIsHome ∧
      ¬ EveryState Phone.step Phone.HomeMatches (Phone.installed true [launcher3])
        (enableAndDisable ++ [.setKioskModeEnabled true]) ∧
      ⟨.home, launcher3⟩ ∈ (run Phone.step (Phone.installed true [launcher3])
        (enableAndDisable ++ [.setKioskModeEnabled true])).persistentPreferred := by
  rw [everyState_homeMatches_iff (Phone.inv_installed true []),
    everyState_homeMatches_iff (Phone.inv_installed true [launcher3])]
  decide +kernel

end SecureGuard.Kiosk
