import Mathlib.Data.Finset.Image
import SecureGuard.Lib.Ledger
import SecureGuard.Lib.Machine
import SecureGuard.Mdm.Features

/-! # Saving settings, applying a preset, blocking apps

`SettingsViewModel.saveChanges`, `PresetReceiver.applyConfig` and the app blocker write the
device's policies and their own settings. Each runs in a coroutine, and so do the parts of
`applyPolicy` that the dialer and NetGuard need; coroutines interleave between actions. Every
call of the device policy manager succeeds. -/

namespace SecureGuard.Mdm

/-- A feature that is registered. -/
abbrev Registered := { f : ProtectionFeature // f ∈ registered }

namespace Device

/-- One write of a coroutine; `apply` is `applyPolicy` followed by `setFeatureState`. -/
inductive Action
  | apply (f : Registered) (enable : Bool)
  | setApplicationHidden (packages : Finset Package) (hidden : Bool)
  | setPackagesSuspended (packages : Finset Package) (suspended : Bool)
  | setBlockedAppPackages (packages : Finset Package)
  | setSuspendedAppPackages (packages : Finset Package)
  | setOriginalDialerPackage (dialer : Option Package)
  /-- `BlockIncomingCallsFeature` hides the dialer, restores it, and unhides it for that. -/
  | hideDialer (dialer : Package)
  | restoreDialer
  | unhideDialer (dialer : Package)
  /-- `InstallAndProtectNetGuardFeature` blocks the uninstallation of NetGuard. -/
  | blockUninstall

/-- What an administrator starts. The settings show `toggles` where `initial` was loaded; the
app blocker's lists are marked and selected by package. -/
inductive Operation
  | saveChanges (initial toggles : String → Bool)
  | applyConfig (features : List (String × Bool))
      (blockedApps suspendedApps : Option (Finset Package))
  | saveAndApplyChanges (newlySelectedApps newlySuspendedApps : Finset Package)
  | unblockSelectedApps (selection : Finset Package)
  | unsuspendSelectedApps (selection : Finset Package)

/-- An operation starts, a coroutine goes on, or the default dialer or the set of installed
apps changes. -/
inductive Input
  | start (op : Operation)
  | run (k : Nat)
  | defaultDialerChanged (dialer : Option Package)
  | noPhoneChanged (installed : Bool)

end Device

/-- The device. In its ledger the owners are the features, by their ids: a feature is on where
its persisted state is true, and what it has established is what an `applyPolicy(true)` of it
has set; `inForce` is the state of the device policy manager. The persisted lists of apps and
the dialer to restore follow, the packages suspended, and what the coroutines still have to
do. -/
structure Device where
  ledger : Ledger String Policy
  sdkInt : Nat
  blockedApps : Finset Package
  suspendedApps : Finset Package
  originalDialer : Option Package
  suspended : Finset Package
  defaultDialer : Option Package
  noPhoneInstalled : Bool
  coroutines : List (List Device.Action)

namespace Device

/-- No feature is on and none has established anything. -/
structure Fresh (d : Device) : Prop where
  claims : d.ledger.claims = []
  on : ∀ o, d.ledger.on o = false

def launch (d : Device) (todo : List Action) : Device :=
  { d with coroutines := d.coroutines ++ [todo] }

/-! ## Features -/

def setFeatureState (d : Device) (id : String) (isActive : Bool) : Device :=
  { d with ledger := if isActive then d.ledger.switchOn id else d.ledger.switchOff id }

/-- Nothing is done where NoPhone is installed already. Where no dialer is found, or it is
NoPhone, only the installation of NoPhone is started. -/
def enableBlocking (d : Device) : Device :=
  if d.noPhoneInstalled then d
  else match d.defaultDialer with
    | none => d
    | some dialer =>
      if dialer = noPhonePackageName then d
      else d.launch [.setOriginalDialerPackage (some dialer), .hideDialer dialer]

def disableBlocking (d : Device) : Device := d.launch [.restoreDialer]

/-- The coroutine of `disableBlocking`: nothing is done where no dialer is saved. -/
def restoreDialer (d : Device) : Device :=
  match d.originalDialer with
  | none => d
  | some dialer => d.launch [.unhideDialer dialer, .setOriginalDialerPackage none]

def applyPolicy (d : Device) (f : ProtectionFeature) (enable : Bool) : Device :=
  if d.sdkInt < f.minSdk.toNat then d
  else match f.effect, enable with
    | .policy p, true => { d with ledger := d.ledger.establish f.id p }
    | .policy p, false => { d with ledger := d.ledger.lift {p} }
    | .dialer, true => d.enableBlocking
    | .dialer, false => d.disableBlocking
    | .netGuard, true => d.launch [.blockUninstall]
    | .netGuard, false =>
      { d with ledger := d.ledger.lift {.uninstallBlocked netGuardPackageName} }
    | .vpn, _ => d

/-! ## Actions -/

def hiddenPolicies (packages : Finset Package) : Finset Policy := packages.image Policy.hidden

def perform (d : Device) : Action → Device
  | .apply f enable => (d.applyPolicy f.val enable).setFeatureState f.val.id enable
  | .setApplicationHidden packages true =>
    { d with ledger := d.ledger.impose (hiddenPolicies packages) }
  | .setApplicationHidden packages false =>
    { d with ledger := d.ledger.lift (hiddenPolicies packages) }
  | .setPackagesSuspended packages suspended =>
    { d with
      suspended := if suspended then d.suspended ∪ packages else d.suspended \ packages }
  | .setBlockedAppPackages packages => { d with blockedApps := packages }
  | .setSuspendedAppPackages packages => { d with suspendedApps := packages }
  | .setOriginalDialerPackage dialer => { d with originalDialer := dialer }
  | .hideDialer dialer =>
    { d with ledger := d.ledger.establish blockIncomingCallsFeature.id (.hidden dialer) }
  | .restoreDialer => d.restoreDialer
  | .unhideDialer dialer => { d with ledger := d.ledger.lift (hiddenPolicies {dialer}) }
  | .blockUninstall =>
    { d with
      ledger := d.ledger.establish installAndProtectNetGuardFeature.id
        (.uninstallBlocked netGuardPackageName) }

/-! ## Operations -/

def ownPackage : Package := "com.secureguard.mdm"

def criticalSystemPackages : Finset Package :=
  {"com.android.settings", "com.android.systemui", "android", "com.google.android.gsf",
    "com.android.launcher3", "com.google.android.launcher"}

theorem mem_registered_of_category {f : ProtectionFeature} (h : f ∈ allCategories.flatten) :
    f ∈ registered :=
  List.mem_append_left _ h

theorem mem_registered_of_find? {p : ProtectionFeature → Bool} {f : ProtectionFeature}
    (h : allFeatures.find? p = some f) : f ∈ registered :=
  List.mem_append_right _ (List.mem_of_find?_eq_some h)

/-- Only what was changed is applied. -/
def saveChanges (initial toggles : String → Bool) : List Action :=
  allCategories.flatten.attach.filterMap fun f =>
    if initial f.val.id ≠ toggles f.val.id then
      some (.apply ⟨f.val, mem_registered_of_category f.property⟩ (toggles f.val.id))
    else none

/-- An id that no feature has is skipped. -/
def applyFeature (featureId : String) (isEnabled : Bool) : Option Action :=
  match h : allFeatures.find? (fun f => f.id = featureId) with
  | none => none
  | some f => some (.apply ⟨f, mem_registered_of_find? h⟩ isEnabled)

def applyConfig (features : List (String × Bool))
    (blockedApps suspendedApps : Option (Finset Package)) : List Action :=
  features.filterMap (fun e => applyFeature e.1 e.2) ++
    (match blockedApps with
      | none => []
      | some packages => [.setBlockedAppPackages packages, .setApplicationHidden packages true]) ++
    (match suspendedApps with
      | none => []
      | some packages => [.setSuspendedAppPackages packages, .setPackagesSuspended packages true])

def saveAndApplyChanges (d : Device) (newlySelectedApps newlySuspendedApps : Finset Package) :
    List Action :=
  let finalBlockedSet := d.blockedApps ∪ newlySelectedApps
  let finalSuspendedSet := (d.suspendedApps ∪ newlySuspendedApps) \ finalBlockedSet
  if finalBlockedSet = d.blockedApps ∧ finalSuspendedSet = d.suspendedApps then []
  else if (newlySelectedApps ∪ newlySuspendedApps) ∩ criticalSystemPackages ≠ ∅ then []
  else
    [.setBlockedAppPackages (finalBlockedSet \ {ownPackage}),
      .setSuspendedAppPackages (finalSuspendedSet \ {ownPackage}),
      .setPackagesSuspended (d.suspendedApps \ finalSuspendedSet) false,
      .setApplicationHidden newlySelectedApps true,
      .setPackagesSuspended newlySuspendedApps true]

def unblockSelectedApps (d : Device) (packagesToUnblock : Finset Package) : List Action :=
  if packagesToUnblock = ∅ then []
  else
    [.setBlockedAppPackages (d.blockedApps \ packagesToUnblock),
      .setApplicationHidden packagesToUnblock false]

def unsuspendSelectedApps (d : Device) (packagesToUnsuspend : Finset Package) : List Action :=
  if packagesToUnsuspend = ∅ then []
  else
    [.setSuspendedAppPackages (d.suspendedApps \ packagesToUnsuspend),
      .setPackagesSuspended packagesToUnsuspend false]

/-- What the coroutine of an operation has to do, with what it reads first. -/
def actions (d : Device) : Operation → List Action
  | .saveChanges initial toggles => saveChanges initial toggles
  | .applyConfig features blockedApps suspendedApps =>
    applyConfig features blockedApps suspendedApps
  | .saveAndApplyChanges newlySelectedApps newlySuspendedApps =>
    d.saveAndApplyChanges newlySelectedApps newlySuspendedApps
  | .unblockSelectedApps selection => d.unblockSelectedApps selection
  | .unsuspendSelectedApps selection => d.unsuspendSelectedApps selection

/-! ## Steps -/

/-- The next action of a coroutine. -/
def next (d : Device) (k : Nat) : Option Action := d.coroutines[k]?.bind List.head?

/-- The coroutine has taken its next action off its list. -/
def advance (d : Device) (k : Nat) : Device :=
  { d with coroutines := d.coroutines.modify k List.tail }

def runNext (d : Device) (k : Nat) : Device :=
  match d.next k with
  | none => d
  | some a => (d.advance k).perform a

def step (d : Device) : Input → Device
  | .start op => d.launch (d.actions op)
  | .run k => d.runNext k
  | .defaultDialerChanged dialer => { d with defaultDialer := dialer }
  | .noPhoneChanged installed => { d with noPhoneInstalled := installed }

end Device

end SecureGuard.Mdm
