import SecureGuard.Lib.Exceptions
import SecureGuard.Mdm.ProtectedPackages
import SecureGuard.Security.PasswordManager

/-! # Presets

The settings export what is configured as a preset, which `PresetReceiver` applies on a device
that has not been set up. The two list what they write and read each on its own. Encoding a
preset as JSON and decoding it gives the same preset. -/

namespace SecureGuard.Mdm

open Machine Exceptions

/-! ## What is kept in the preferences -/

/-- The settings that the settings screen shows as toggles, with their defaults. -/
structure ToggleSettings where
  toggleOnStart : Bool := false
  useCheckbox : Bool := false
  contactEmailVisible : Bool := true
  allUpdatesDisabled : Bool := false
  showBootToastEnabled : Bool := true
  astoreEnabled : Bool := false
  launcherIconHidden : Bool := false
  watermarkEnabled : Bool := false
deriving DecidableEq, Repr

structure KioskSettings where
  kioskModeEnabled : Bool := false
  kioskAppPackages : Finset Package := ∅
  kioskTitle : String := "Kiosk Mode"
  kioskBackgroundColor : BitVec 32 := 0xFF212121
  kioskPrimaryColor : BitVec 32 := 0xFF6200EE
  shouldShowKioskSecureUpdate : Bool := true
  kioskActionButtons : Finset String := ∅
  kioskLayoutJson : Option String := none
  kioskBlockedLauncherPackage : Option Package := none
  kioskSettingsInLockTaskEnabled : Bool := true
  kioskAppMonitorEnabled : Bool := false
  singleWebsiteKioskEnabled : Bool := false
  singleWebsiteKioskUrl : String := ""
deriving DecidableEq

/-- The preferences beside those that the device's record already holds. -/
structure Settings where
  password : Security.Prefs String := ⟨none, 0, 0⟩
  setupComplete : Bool := false
  customFrpIds : Finset String := ∅
  updateChannel : Option String := none
  autoUpdateCheckEnabled : Bool := true
  toggles : ToggleSettings := {}
  kiosk : KioskSettings := {}
deriving DecidableEq

structure Phone where
  device : Device
  settings : Settings

namespace Phone

/-- A phone on which nothing is configured. -/
def fresh (sdkInt : Nat) (dialer : Option Package) : Phone :=
  ⟨Device.unconfigured sdkInt dialer, {}⟩

def getFeatureState (p : Phone) (featureId : String) : Bool := p.device.ledger.on featureId

end Phone

/-! ## Presets -/

/-- A map is the list of its entries. -/
structure PresetConfig where
  adminPassword : Option String := none
  features : List (String × Bool) := []
  kioskApps : Option (Finset Package) := none
  kioskEnabled : Bool := false
  kioskTitle : Option String := none
  kioskBackgroundColor : Option (BitVec 32) := none
  kioskPrimaryColor : Option (BitVec 32) := none
  kioskShowUpdate : Option Bool := none
  kioskActionButtons : Option (Finset String) := none
  kioskLayoutJson : Option String := none
  blockedApps : Option (Finset Package) := none
  suspendedApps : Option (Finset Package) := none
  customFrpIds : Option (Finset String) := none
  updateChannel : Option String := none
  kioskBlockedLauncherPackage : Option Package := none
  kioskSettingsInLockTaskEnabled : Option Bool := none
  kioskAppMonitorEnabled : Option Bool := none
  autoUpdateCheckEnabled : Option Bool := none
  kioskSingleWebsiteEnabled : Option Bool := none
  kioskSingleWebsiteUrl : Option String := none
deriving DecidableEq

/-! ## Exporting -/

/-- The toggles by their ids, in the order of `SettingsRegistry`. -/
def ToggleSettings.items (t : ToggleSettings) : List (String × Bool) :=
  [("toggle_astore_enabled", t.astoreEnabled), ("toggle_ui_position", t.toggleOnStart),
    ("toggle_ui_control_type", t.useCheckbox), ("toggle_contact_email", t.contactEmailVisible),
    ("toggle_show_boot_toast", t.showBootToastEnabled),
    ("toggle_hide_launcher_icon", t.launcherIconHidden),
    ("toggle_watermark_enabled", t.watermarkEnabled), ("toggle_all_updates", t.allUpdatesDisabled)]

/-- What the settings screen shows: of every feature, and of every toggle, its id and whether it
is on. -/
structure SettingsUiState where
  protectionCategoryToggles : List (String × Bool)
  settingItems : List (String × Bool)

/-- A set that is left out of the preset where it is empty. -/
def ifEmptyNull {α : Type} [DecidableEq α] (s : Finset α) : Option (Finset α) :=
  if s = ∅ then none else some s

namespace Phone

def loadInitialState (p : Phone) : SettingsUiState where
  protectionCategoryToggles := allCategories.flatten.map fun f => (f.id, p.getFeatureState f.id)
  settingItems := p.settings.toggles.items

/-- The ids are all different, so that adding the two maps is to append the lists. -/
def exportSettings (p : Phone) (ui : SettingsUiState) : PresetConfig where
  features := ui.protectionCategoryToggles ++ ui.settingItems
  kioskEnabled := p.settings.kiosk.kioskModeEnabled
  kioskApps := ifEmptyNull p.settings.kiosk.kioskAppPackages
  kioskTitle := some p.settings.kiosk.kioskTitle
  kioskBackgroundColor := some p.settings.kiosk.kioskBackgroundColor
  kioskPrimaryColor := some p.settings.kiosk.kioskPrimaryColor
  kioskShowUpdate := some p.settings.kiosk.shouldShowKioskSecureUpdate
  kioskActionButtons := ifEmptyNull p.settings.kiosk.kioskActionButtons
  kioskLayoutJson := p.settings.kiosk.kioskLayoutJson
  blockedApps := ifEmptyNull p.device.blockedApps
  suspendedApps := ifEmptyNull p.device.suspendedApps
  customFrpIds := ifEmptyNull p.settings.customFrpIds
  updateChannel := some (p.settings.updateChannel.getD "STABLE")
  kioskBlockedLauncherPackage := p.settings.kiosk.kioskBlockedLauncherPackage
  kioskSettingsInLockTaskEnabled := some p.settings.kiosk.kioskSettingsInLockTaskEnabled
  kioskAppMonitorEnabled := some p.settings.kiosk.kioskAppMonitorEnabled
  autoUpdateCheckEnabled := some p.settings.autoUpdateCheckEnabled

end Phone

/-! ## Applying -/

/-- The setters of the repository for the kiosk. -/
inductive KioskSetter
  | setKioskModeEnabled (isEnabled : Bool)
  | setKioskAppPackages (packageNames : Finset Package)
  | setKioskTitle (title : String)
  | setKioskBackgroundColor (color : BitVec 32)
  | setKioskPrimaryColor (color : BitVec 32)
  | setShouldShowKioskSecureUpdate (shouldShow : Bool)
  | setKioskActionButtons (buttons : Finset String)
  | setKioskLayoutJson (json : String)
  | setKioskBlockedLauncherPackage (packageName : Package)
  | setKioskSettingsInLockTaskEnabled (isEnabled : Bool)
  | setKioskAppMonitorEnabled (isEnabled : Bool)
  | setSingleWebsiteKioskEnabled (isEnabled : Bool)
  | setSingleWebsiteKioskUrl (url : String)
deriving DecidableEq

def KioskSettings.set (k : KioskSettings) : KioskSetter → KioskSettings
  | .setKioskModeEnabled isEnabled => { k with kioskModeEnabled := isEnabled }
  | .setKioskAppPackages packageNames => { k with kioskAppPackages := packageNames }
  | .setKioskTitle title => { k with kioskTitle := title }
  | .setKioskBackgroundColor color => { k with kioskBackgroundColor := color }
  | .setKioskPrimaryColor color => { k with kioskPrimaryColor := color }
  | .setShouldShowKioskSecureUpdate shouldShow =>
    { k with shouldShowKioskSecureUpdate := shouldShow }
  | .setKioskActionButtons buttons => { k with kioskActionButtons := buttons }
  | .setKioskLayoutJson json => { k with kioskLayoutJson := some json }
  | .setKioskBlockedLauncherPackage packageName =>
    { k with kioskBlockedLauncherPackage := some packageName }
  | .setKioskSettingsInLockTaskEnabled isEnabled =>
    { k with kioskSettingsInLockTaskEnabled := isEnabled }
  | .setKioskAppMonitorEnabled isEnabled => { k with kioskAppMonitorEnabled := isEnabled }
  | .setSingleWebsiteKioskEnabled isEnabled => { k with singleWebsiteKioskEnabled := isEnabled }
  | .setSingleWebsiteKioskUrl url => { k with singleWebsiteKioskUrl := url }

/-- The calls that applying a preset makes, each of which may throw. The first five are those of
`createAndSavePassword`, which marks the setup complete on its own. -/
inductive PresetAction
  | hashToString
  | setPasswordHash (hash : String)
  | createAndSavePasswordSetSetupComplete
  | savePasswordFailedAttempts
  | savePasswordLastFailureAt
  | applyPolicy (f : Registered) (enable : Bool)
  | setFeatureState (f : Registered) (isActive : Bool)
  | setBlockedAppPackages (packages : Finset Package)
  | setApplicationHidden (packageName : Package)
  | setSuspendedAppPackages (packages : Finset Package)
  | setPackagesSuspended (packages : Finset Package)
  | setCustomFrpIds (ids : Finset String)
  | saveUpdateChannel (channel : String)
  | setAutoUpdateCheckEnabled (isEnabled : Bool)
  | setKiosk (setter : KioskSetter)
  | setLockTaskPackages
  | enableKioskModeFeatures
  | setKioskAsDefaultLauncher
  | startActivity
  | setSetupComplete

namespace PresetConfig

variable (config : PresetConfig)

/-- `createAndSavePassword`, with the hash that BCrypt makes. -/
def passwordBlocks (hashToString : String → String) : List (Block PresetAction) :=
  match config.adminPassword with
  | none => []
  | some password =>
    if password = "" then []
    else
      [.run [.hashToString, .setPasswordHash (hashToString password),
        .createAndSavePasswordSetSetupComplete, .savePasswordFailedAttempts,
        .savePasswordLastFailureAt]]

/-- An id that no feature has is skipped. -/
def featureBlocks (e : String × Bool) : List (Block PresetAction) :=
  match h : allFeatures.find? (fun f => f.id = e.1) with
  | none => []
  | some f =>
    [.tryCatch [.applyPolicy ⟨f, Device.mem_registered_of_find? h⟩ e.2,
      .setFeatureState ⟨f, Device.mem_registered_of_find? h⟩ e.2]]

def blockedAppsBlocks : List (Block PresetAction) :=
  config.blockedApps.toList.map fun packages =>
    .tryCatch (.setBlockedAppPackages packages ::
      (Device.inOrder packages).map .setApplicationHidden)

def suspendedAppsBlocks : List (Block PresetAction) :=
  config.suspendedApps.toList.map fun packages =>
    .tryCatch (.setSuspendedAppPackages packages ::
      if packages = ∅ then [] else [.setPackagesSuspended packages])

def kioskSetters : List KioskSetter :=
  .setKioskModeEnabled true ::
    (config.kioskApps.toList.map .setKioskAppPackages ++
      config.kioskTitle.toList.map .setKioskTitle ++
      config.kioskBackgroundColor.toList.map .setKioskBackgroundColor ++
      config.kioskPrimaryColor.toList.map .setKioskPrimaryColor ++
      config.kioskShowUpdate.toList.map .setShouldShowKioskSecureUpdate ++
      config.kioskActionButtons.toList.map .setKioskActionButtons ++
      config.kioskLayoutJson.toList.map .setKioskLayoutJson ++
      config.kioskBlockedLauncherPackage.toList.map .setKioskBlockedLauncherPackage ++
      config.kioskSettingsInLockTaskEnabled.toList.map .setKioskSettingsInLockTaskEnabled ++
      config.kioskAppMonitorEnabled.toList.map .setKioskAppMonitorEnabled ++
      config.kioskSingleWebsiteEnabled.toList.map .setSingleWebsiteKioskEnabled ++
      config.kioskSingleWebsiteUrl.toList.map .setSingleWebsiteKioskUrl)

def kioskActions : List PresetAction :=
  if config.kioskEnabled then
    config.kioskSetters.map .setKiosk ++
      [.setLockTaskPackages, .enableKioskModeFeatures, .setKioskAsDefaultLauncher, .startActivity]
  else []

def settingsActions : List PresetAction :=
  config.customFrpIds.toList.map .setCustomFrpIds ++
    config.updateChannel.toList.map .saveUpdateChannel ++
    config.autoUpdateCheckEnabled.toList.map .setAutoUpdateCheckEnabled

/-- What throws in a feature, or while apps are blocked or suspended, is caught there. -/
def caughtBlocks : List (Block PresetAction) :=
  config.features.flatMap featureBlocks ++ config.blockedAppsBlocks ++ config.suspendedAppsBlocks

/-- What comes last, where nothing is caught. -/
def finalActions : List PresetAction :=
  config.settingsActions ++ config.kioskActions ++ [.setSetupComplete]

/-- `applyConfig`. -/
def blocks (hashToString : String → String) : List (Block PresetAction) :=
  config.passwordBlocks hashToString ++ config.caughtBlocks ++ [.run config.finalActions]

end PresetConfig

namespace Settings

def setPassword (s : Settings) (change : Security.Prefs String → Security.Prefs String) :
    Settings :=
  { s with password := change s.password }

end Settings

namespace PresetAction

/-- What a call makes of the device. The lock task and the home screen are no part of it. -/
def onDevice (d : Device) : PresetAction → Device
  | .applyPolicy f enable => d.applyPolicy f.val enable
  | .setFeatureState f isActive => d.setFeatureState f.val.id isActive
  | .setBlockedAppPackages packages => d.perform (.setBlockedAppPackages packages)
  | .setApplicationHidden packageName => d.perform (.setApplicationHidden {packageName} true)
  | .setSuspendedAppPackages packages => d.perform (.setSuspendedAppPackages packages)
  | .setPackagesSuspended packages => d.perform (.setPackagesSuspended packages true)
  | _ => d

def onSettings (s : Settings) : PresetAction → Settings
  | .setPasswordHash hash => s.setPassword ({ · with passwordHash := some hash })
  | .createAndSavePasswordSetSetupComplete => { s with setupComplete := true }
  | .savePasswordFailedAttempts => s.setPassword ({ · with failedAttempts := 0 })
  | .savePasswordLastFailureAt => s.setPassword ({ · with lastFailureAt := 0 })
  | .setCustomFrpIds ids => { s with customFrpIds := ids }
  | .saveUpdateChannel channel => { s with updateChannel := some channel }
  | .setAutoUpdateCheckEnabled isEnabled => { s with autoUpdateCheckEnabled := isEnabled }
  | .setKiosk setter => { s with kiosk := s.kiosk.set setter }
  | .setSetupComplete => { s with setupComplete := true }
  | _ => s

end PresetAction

namespace Phone

def perform (p : Phone) (a : PresetAction) : Phone :=
  ⟨PresetAction.onDevice p.device a, PresetAction.onSettings p.settings a⟩

/-- `applyConfig` where these calls throw: what it leaves, and whether it ran to its end. -/
def applyConfig (throws : PresetAction → Bool) (hashToString : String → String) (p : Phone)
    (config : PresetConfig) : Phone × Bool :=
  runBlocks throws perform p (config.blocks hashToString)

/-- `handleReceive`: a preset is applied by the owner of a device that is not set up. Nothing is
applied of a text that does not decode. -/
def handleReceive (throws : PresetAction → Bool) (hashToString : String → String)
    (decodeFromString : String → Option PresetConfig) (p : Phone) (isDeviceOwnerApp : Bool)
    (action : String) (jsonString : Option String) : Option (Phone × Bool) :=
  if action ≠ "com.secureguard.mdm.ACTION_APPLY_PRESET" then none
  else if p.settings.setupComplete then none
  else if isDeviceOwnerApp = false then none
  else
    match jsonString with
    | none => none
    | some json =>
      if json.toList.all Char.isWhitespace then none
      else (decodeFromString json).map (p.applyConfig throws hashToString)

end Phone

/-! ## The parts of a preset -/

/-- What a call belongs to. -/
inductive PresetPart
  | password
  | device
  | settings
  | complete
deriving DecidableEq, Repr

namespace PresetAction

def part : PresetAction → PresetPart
  | .hashToString | .setPasswordHash _ | .createAndSavePasswordSetSetupComplete
  | .savePasswordFailedAttempts | .savePasswordLastFailureAt => .password
  | .applyPolicy _ _ | .setFeatureState _ _ | .setBlockedAppPackages _ | .setApplicationHidden _
  | .setSuspendedAppPackages _ | .setPackagesSuspended _ => .device
  | .setCustomFrpIds _ | .saveUpdateChannel _ | .setAutoUpdateCheckEnabled _ | .setKiosk _
  | .setLockTaskPackages | .enableKioskModeFeatures | .setKioskAsDefaultLauncher
  | .startActivity => .settings
  | .setSetupComplete => .complete

theorem onSettings_of_device (s : Settings) {a : PresetAction} (h : a.part = .device) :
    onSettings s a = s := by
  cases a <;> first | rfl | cases h

theorem onDevice_of_not_device (d : Device) {a : PresetAction} (h : a.part ≠ .device) :
    onDevice d a = d := by
  cases a <;> first | rfl | exact absurd rfl h

end PresetAction

namespace PresetConfig

variable {config : PresetConfig} {a : PresetAction}

theorem part_of_mem_map {α : Type} {c : α → PresetAction} {as : List α} {part : PresetPart}
    (h : a ∈ as.map c) (hc : ∀ x, (c x).part = part) : a.part = part := by
  obtain ⟨x, -, rfl⟩ := List.mem_map.mp h
  exact hc x

theorem part_of_mem_password {hashToString : String → String} {b : Block PresetAction}
    (hb : b ∈ config.passwordBlocks hashToString) (ha : a ∈ b.actions) : a.part = .password := by
  unfold passwordBlocks at hb
  split at hb
  · cases hb
  · split at hb
    · cases hb
    · obtain rfl := List.mem_singleton.mp hb
      simp only [Block.actions, List.mem_cons, List.not_mem_nil, or_false] at ha
      rcases ha with rfl | rfl | rfl | rfl | rfl <;> rfl

theorem part_of_mem_caught {b : Block PresetAction} (hb : b ∈ config.caughtBlocks)
    (ha : a ∈ b.actions) : a.part = .device := by
  rcases List.mem_append.mp hb with hb | hb
  · rcases List.mem_append.mp hb with hb | hb
    · obtain ⟨e, -, hb⟩ := List.mem_flatMap.mp hb
      unfold featureBlocks at hb
      split at hb
      · cases hb
      · obtain rfl := List.mem_singleton.mp hb
        simp only [Block.actions, List.mem_cons, List.not_mem_nil, or_false] at ha
        rcases ha with rfl | rfl <;> rfl
    · obtain ⟨packages, -, rfl⟩ := List.mem_map.mp hb
      rcases List.mem_cons.mp ha with rfl | ha
      · rfl
      · exact part_of_mem_map ha fun _ => rfl
  · obtain ⟨packages, -, rfl⟩ := List.mem_map.mp hb
    rcases List.mem_cons.mp ha with rfl | ha
    · rfl
    · split at ha
      · cases ha
      · obtain rfl := List.mem_singleton.mp ha
        rfl

theorem part_of_mem_settings (h : a ∈ config.settingsActions ++ config.kioskActions) :
    a.part = .settings := by
  rcases List.mem_append.mp h with h | h
  · rcases List.mem_append.mp h with h | h
    · rcases List.mem_append.mp h with h | h
      · exact part_of_mem_map h fun _ => rfl
      · exact part_of_mem_map h fun _ => rfl
    · exact part_of_mem_map h fun _ => rfl
  · unfold kioskActions at h
    split at h
    · rcases List.mem_append.mp h with h | h
      · exact part_of_mem_map h fun _ => rfl
      · simp only [List.mem_cons, List.not_mem_nil, or_false] at h
        rcases h with rfl | rfl | rfl | rfl <;> rfl
    · cases h

end PresetConfig

end SecureGuard.Mdm
