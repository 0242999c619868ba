import SecureGuard.Mdm.Preset

/-! # The kiosk's device policies

`KioskLockManager` makes `KioskActivity` the persistent home activity, or another launcher, and
keeps the lock task packages; `KioskManagementViewModel` calls it and writes the settings. Each
function checks that the application is device owner, which it is or is not throughout. Every
call of the device policy manager succeeds then. -/

namespace SecureGuard.Kiosk
open Mdm (KioskSettings Package)
open Mdm.Device (ownPackage)

structure Component where
  packageName : Package
  name : String
deriving DecidableEq, Repr

/-- Disabled in the manifest; no other activity of the application is one for `HOME`. -/
def kioskActivity : Component := ⟨ownPackage, "com.secureguard.mdm.kiosk.ui.KioskActivity"⟩

/-- `homeFilter`, of `ACTION_MAIN` for `HOME`, and `viewFilter`, of `ACTION_VIEW`. -/
inductive IntentFilter
  | home
  | view
deriving DecidableEq, Repr

/-- A persistent preferred activity. -/
structure Registration where
  filter : IntentFilter
  component : Component
deriving DecidableEq, Repr

/-- `LOCK_TASK_FEATURE_NONE`. -/
def lockTaskFeatureNone : Nat := 0

/-- What the device keeps for the application, the home activities of the other apps that are
installed, and the settings. -/
structure Phone where
  isDeviceOwner : Bool
  persistentPreferred : List Registration
  lockTaskPackages : Finset Package
  lockTaskFeatures : Nat
  kioskComponentEnabled : Bool
  homeActivities : List Component
  settings : KioskSettings
  chosenHomeLauncherPackage : Option Package

namespace Phone

/-! ## The device policy manager and the package manager -/

/-- Takes back what was registered for the package. -/
def clearPackagePersistentPreferredActivities (p : Phone) (packageName : Package) : Phone :=
  { p with
    persistentPreferred :=
      p.persistentPreferred.filter fun r => r.component.packageName != packageName }

def addPersistentPreferredActivity (p : Phone) (filter : IntentFilter) (component : Component) :
    Phone :=
  { p with persistentPreferred := p.persistentPreferred ++ [⟨filter, component⟩] }

/-- `queryIntentActivities` for `HOME`, which leaves out a component that is disabled. -/
def queryHomeActivities (p : Phone) : List Component :=
  p.homeActivities.filter (fun c => c.packageName != ownPackage) ++
    if p.kioskComponentEnabled then [kioskActivity] else []

/-! ## `KioskLockManager` -/

def setLockTaskPackages (p : Phone) : Phone :=
  if !p.isDeviceOwner then p
  else
    let actionButtons := p.settings.kioskActionButtons
    let settingsPackage : Finset Package :=
      if "wifi" ∈ actionButtons ∨ "bluetooth" ∈ actionButtons then {"com.android.settings"} else ∅
    { p with lockTaskPackages := insert ownPackage (p.settings.kioskAppPackages ∪ settingsPackage) }

def clearLockTaskPackages (p : Phone) : Phone :=
  if !p.isDeviceOwner then p else { p with lockTaskPackages := ∅ }

def enableKioskModeFeatures (p : Phone) : Phone :=
  if !p.isDeviceOwner then p else { p with lockTaskFeatures := lockTaskFeatureNone }

def disableKioskModeFeatures (p : Phone) : Phone :=
  if !p.isDeviceOwner then p else { p with lockTaskFeatures := lockTaskFeatureNone }

def setKioskComponentEnabled (p : Phone) (enabled : Bool) : Phone :=
  { p with kioskComponentEnabled := enabled }

def setKioskAsDefaultLauncher (p : Phone) (includeViewAbsorber : Bool) : Phone :=
  if !p.isDeviceOwner then p
  else
    let p := p.setKioskComponentEnabled true
    let p := p.clearPackagePersistentPreferredActivities ownPackage
    let p := p.addPersistentPreferredActivity .home kioskActivity
    if includeViewAbsorber then p.addPersistentPreferredActivity .view kioskActivity else p

def clearKioskAsDefaultLauncher (p : Phone) : Phone :=
  if !p.isDeviceOwner then p
  else (p.clearPackagePersistentPreferredActivities ownPackage).setKioskComponentEnabled false

/-- Where the package has no home activity, the kiosk is left as it is. -/
def setSpecificAsDefaultLauncher (p : Phone) (packageName : Package) : Phone :=
  if !p.isDeviceOwner then p
  else
    (p.queryHomeActivities.find? fun c => c.packageName == packageName).elim p fun target =>
      p.clearKioskAsDefaultLauncher.addPersistentPreferredActivity .home
        ⟨packageName, target.name⟩

/-! ## `KioskManagementViewModel` -/

/-- `settingsRepository.setKioskModeEnabled`. -/
def saveKioskModeEnabled (p : Phone) (isEnabled : Bool) : Phone :=
  { p with settings := { p.settings with kioskModeEnabled := isEnabled } }

/-- `settingsRepository.setKioskAppMonitorEnabled`. -/
def saveKioskAppMonitorEnabled (p : Phone) (isEnabled : Bool) : Phone :=
  { p with settings := { p.settings with kioskAppMonitorEnabled := isEnabled } }

/-- The launcher to return to is made the home activity before the setting is written. -/
def setKioskModeEnabled (p : Phone) (enabled : Bool) : Phone :=
  let p :=
    if enabled then
      let p := p.setLockTaskPackages.enableKioskModeFeatures
      p.setKioskAsDefaultLauncher p.settings.kioskAppMonitorEnabled
    else
      let p := p.clearLockTaskPackages.disableKioskModeFeatures
      p.chosenHomeLauncherPackage.elim p.clearKioskAsDefaultLauncher
        p.setSpecificAsDefaultLauncher
  p.saveKioskModeEnabled enabled

def setMonitorEnabled (p : Phone) (enabled : Bool) : Phone :=
  let p := p.saveKioskAppMonitorEnabled enabled
  if p.settings.kioskModeEnabled then p.setKioskAsDefaultLauncher enabled else p

end Phone

/-- An operation, a choice of the launcher to return to, or launchers come and go. -/
inductive Event
  | setKioskModeEnabled (enabled : Bool)
  | setMonitorEnabled (enabled : Bool)
  | setChosenHomeLauncherPackage (packageName : Option Package)
  | launchersChanged (homeActivities : List Component)

def Phone.step (p : Phone) : Event → Phone
  | .setKioskModeEnabled enabled => p.setKioskModeEnabled enabled
  | .setMonitorEnabled enabled => p.setMonitorEnabled enabled
  | .setChosenHomeLauncherPackage packageName =>
    { p with chosenHomeLauncherPackage := packageName }
  | .launchersChanged homeActivities => { p with homeActivities := homeActivities }

/-- The application is installed, and has not been used. -/
def Phone.installed (isDeviceOwner : Bool) (homeActivities : List Component) : Phone where
  isDeviceOwner := isDeviceOwner
  persistentPreferred := []
  lockTaskPackages := ∅
  lockTaskFeatures := 16
  kioskComponentEnabled := false
  homeActivities := homeActivities
  settings := {}
  chosenHomeLauncherPackage := none

end SecureGuard.Kiosk
