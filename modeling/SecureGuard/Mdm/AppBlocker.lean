import Mathlib.Data.Finset.Dedup
import Mathlib.Data.Finset.Sort
import Mathlib.Data.String.Basic
import SecureGuard.Mdm.Device

/-! # The app blocker

`AppBlockerViewModel` keeps a list of the apps with two marks each, and two selections. Saving
adds what is marked to the persisted sets and to the device; the other two operations take the
selected packages off both. Here an operation runs to its end before the next one begins. -/

namespace SecureGuard.Mdm

open Machine

structure AppInfo where
  packageName : Package
  isBlocked : Bool
  isSuspended : Bool
deriving DecidableEq, Repr

/-- What a coroutine of the view model has read and not yet put into its list: the installed
apps, or the persisted sets alone. -/
inductive Read
  | installedApps (apps : List AppInfo)
  | packages (blocked suspended : Finset Package)
deriving DecidableEq

structure AppBlocker where
  device : Device
  allAppsMasterList : List AppInfo
  selectionForUnblock : Finset Package
  selectionForUnsuspend : Finset Package
  reads : List Read

/-- `AppBlockerEvent`, and the steps of the coroutines that fill the list: they read, and store
what they have read. -/
inductive AppBlockerEvent
  | getInstalledApps (installed : List Package)
  | getPackages
  | store (k : Nat)
  | onAppSelectionChanged (packageName : Package) (isBlocked : Bool)
  | onAppSuspensionChanged (packageName : Package) (isSuspended : Bool)
  | onSaveRequest
  | onUnblockSelectedRequest
  | onUnsuspendSelectedRequest
  | onAddPackageManually (packageName : Package) (isInstalled : Bool)
  | onToggleUnblockSelection (packageName : Package)
  | onToggleUnsuspendSelection (packageName : Package)
  | onDismissCriticalAppsWarning
deriving DecidableEq

namespace Device

/-- The packages of a set in the order of their names, where the code takes them one by one. -/
def inOrder (packages : Finset Package) : List Package := packages.sort

theorem toFinset_inOrder (packages : Finset Package) : (inOrder packages).toFinset = packages :=
  packages.sort_toFinset _

/-- The actions of an operation, one after the other. -/
def performAll (d : Device) (actions : List Action) : Device := actions.foldl perform d

def finalBlockedSet (d : Device) (newlySelectedApps : Finset Package) : Finset Package :=
  d.blockedApps ∪ newlySelectedApps

def finalSuspendedSet (d : Device) (newlySelectedApps newlySuspendedApps : Finset Package) :
    Finset Package :=
  (d.suspendedApps ∪ newlySuspendedApps) \ d.finalBlockedSet newlySelectedApps

/-- There is something to save, and no critical app among it. -/
def Saves (d : Device) (newlySelectedApps newlySuspendedApps : Finset Package) : Prop :=
  ¬ (d.finalBlockedSet newlySelectedApps = d.blockedApps ∧
      d.finalSuspendedSet newlySelectedApps newlySuspendedApps = d.suspendedApps) ∧
    (newlySelectedApps ∪ newlySuspendedApps) ∩ criticalSystemPackages = ∅

instance (d : Device) (newlySelectedApps newlySuspendedApps : Finset Package) :
    Decidable (d.Saves newlySelectedApps newlySuspendedApps) :=
  inferInstanceAs (Decidable (¬ _ ∧ _))

end Device

/-! ## The list -/

/-- A package as it stands in the persisted sets. -/
def AppInfo.of (blocked suspended : Finset Package) (packageName : Package) : AppInfo :=
  ⟨packageName, packageName ∈ blocked, packageName ∈ suspended⟩

/-- Changes the entries of one package. -/
def changeApp (packageName : Package) (change : AppInfo → AppInfo) (apps : List AppInfo) :
    List AppInfo :=
  apps.map fun it => if it.packageName = packageName then change it else it

namespace AppBlocker

/-- The view model as it is created, before it has read anything. -/
def opened (d : Device) : AppBlocker := ⟨d, [], ∅, ∅, []⟩

/-- `getInstalledApps`: the app itself is left out. -/
def getInstalledApps (s : AppBlocker) (installed : List Package) : List AppInfo :=
  (installed.filter (· ≠ Device.ownPackage)).map
    (AppInfo.of s.device.blockedApps s.device.suspendedApps)

def store (s : AppBlocker) (k : Nat) : AppBlocker :=
  match s.reads[k]? with
  | none => s
  | some (.installedApps apps) => { s with allAppsMasterList := apps, reads := s.reads.eraseIdx k }
  | some (.packages blocked suspended) =>
    { s with
      allAppsMasterList :=
        s.allAppsMasterList.map fun it => AppInfo.of blocked suspended it.packageName
      reads := s.reads.eraseIdx k }

/-- Marking an app for blocking takes its other mark off. -/
def onAppSelectionChanged (s : AppBlocker) (packageName : Package) (isBlocked : Bool) :
    AppBlocker :=
  { s with
    allAppsMasterList := changeApp packageName (fun it =>
      { it with
        isBlocked := isBlocked, isSuspended := if isBlocked then false else it.isSuspended })
      s.allAppsMasterList }

/-- So does marking it for suspension, which a critical app cannot be. -/
def onAppSuspensionChanged (s : AppBlocker) (packageName : Package) (isSuspended : Bool) :
    AppBlocker :=
  if isSuspended = true ∧ packageName ∈ Device.criticalSystemPackages then s
  else
    { s with
      allAppsMasterList := changeApp packageName (fun it =>
        { it with
          isSuspended := isSuspended, isBlocked := if isSuspended then false else it.isBlocked })
        s.allAppsMasterList }

def newlySelectedApps (s : AppBlocker) : Finset Package :=
  ((s.allAppsMasterList.filter AppInfo.isBlocked).map AppInfo.packageName).toFinset

def newlySuspendedApps (s : AppBlocker) : Finset Package :=
  ((s.allAppsMasterList.filter AppInfo.isSuspended).map AppInfo.packageName).toFinset

/-- `addPackageManually`; its coroutine is the step `getPackages` and what follows it. -/
def addPackageManually (s : AppBlocker) (packageName : Package) (isInstalled : Bool) :
    AppBlocker :=
  if packageName.toList.all Char.isWhitespace then s
  else if packageName = Device.ownPackage then s
  else if packageName ∈ Device.criticalSystemPackages then s
  else if isInstalled then
    let apps :=
      if s.allAppsMasterList.any fun it => it.packageName = packageName then s.allAppsMasterList
      else s.allAppsMasterList ++ [⟨packageName, true, false⟩]
    { s with allAppsMasterList := apps }.onAppSelectionChanged packageName true
  else s

/-! ## The operations -/

def saveAndApplyChanges (s : AppBlocker) : AppBlocker :=
  { s with
    device := s.device.performAll
      (s.device.saveAndApplyChanges s.newlySelectedApps s.newlySuspendedApps) }

def unblockSelectedApps (s : AppBlocker) : AppBlocker :=
  { s with
    device := s.device.performAll (s.device.unblockSelectedApps s.selectionForUnblock)
    selectionForUnblock := ∅ }

def unsuspendSelectedApps (s : AppBlocker) : AppBlocker :=
  { s with
    device := s.device.performAll (s.device.unsuspendSelectedApps s.selectionForUnsuspend)
    selectionForUnsuspend := ∅ }

/-- A selection with a package put into it, or taken out of it. -/
def toggled (selection : Finset Package) (packageName : Package) : Finset Package :=
  if packageName ∈ selection then selection.erase packageName else insert packageName selection

def onEvent (s : AppBlocker) : AppBlockerEvent → AppBlocker
  | .getInstalledApps installed =>
    { s with reads := s.reads ++ [.installedApps (s.getInstalledApps installed)] }
  | .getPackages =>
    { s with reads := s.reads ++ [.packages s.device.blockedApps s.device.suspendedApps] }
  | .store k => s.store k
  | .onAppSelectionChanged packageName isBlocked => s.onAppSelectionChanged packageName isBlocked
  | .onAppSuspensionChanged packageName isSuspended =>
    s.onAppSuspensionChanged packageName isSuspended
  | .onSaveRequest => s.saveAndApplyChanges
  | .onUnblockSelectedRequest => s.unblockSelectedApps
  | .onUnsuspendSelectedRequest => s.unsuspendSelectedApps
  | .onAddPackageManually packageName isInstalled => s.addPackageManually packageName isInstalled
  | .onToggleUnblockSelection packageName =>
    { s with selectionForUnblock := toggled s.selectionForUnblock packageName }
  | .onToggleUnsuspendSelection packageName =>
    { s with selectionForUnsuspend := toggled s.selectionForUnsuspend packageName }
  | .onDismissCriticalAppsWarning =>
    { s with
      allAppsMasterList := s.allAppsMasterList.map fun it =>
        if it.packageName ∈ Device.criticalSystemPackages then
          { it with isBlocked := false, isSuspended := false }
        else it }

end AppBlocker

end SecureGuard.Mdm
