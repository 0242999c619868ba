import Mathlib.Data.Finset.Basic

/-! # Protection features and their registries

A protection feature sets or clears one policy of the device; most of them one user
restriction. `CategoryRegistry` lists the features the settings show, `FeatureRegistry` those
a preset may name. -/

namespace SecureGuard.Mdm

abbrev Package := String

/-- `Build.VERSION_CODES`, as far as a feature's `applyPolicy` asks for them. -/
inductive VersionCode
  | any
  | m
  | n
  | o
  | oMr1
  | p
  | q
deriving DecidableEq, Repr

def VersionCode.toNat : VersionCode → Nat
  | .any => 0
  | .m => 23
  | .n => 24
  | .o => 26
  | .oMr1 => 27
  | .p => 28
  | .q => 29

/-- The user restrictions the features set. -/
inductive Restriction
  | disallowDebuggingFeatures
  | disallowFactoryReset
  | disallowSafeBoot
  | disallowAddUser
  | disallowRemoveUser
  | disallowModifyAccounts
  | disallowUnmuteMicrophone
  | disallowUsbFileTransfer
  | disallowMountPhysicalMedia
  | disallowShareLocation
  | disallowConfigWifi
  | disallowBluetooth
  | disallowBluetoothSharing
  | disallowConfigMobileNetworks
  | disallowConfigTethering
  | disallowConfigPrivateDns
  | disallowInstallApps
  | disallowUninstallApps
  | disallowInstallUnknownSources
  | disallowAppsControl
  | disallowAutofill
  | disallowContentCapture
  | disallowConfigVpn
  | disallowOutgoingCalls
  | disallowSms
  | disallowSetWallpaper
  | disallowSetUserIcon
  | disallowAdjustVolume
  | disallowAmbientDisplay
  | disallowSystemErrorDialogs
  | disallowConfigLocation
  | disallowConfigCredentials
  | disallowPrinting
  | disallowConfigCellBroadcasts
  | disallowRemoveManagedProfile
deriving DecidableEq, Repr

/-- What the device policy manager holds for this app, each in force or not. -/
inductive Policy
  | restriction (r : Restriction)
  | hidden (p : Package)
  | cameraDisabled
  | screenCaptureDisabled
  | statusBarDisabled
  | keyguardDisabled
  | strongPassword
  | factoryResetProtection
  | uninstallBlocked (p : Package)
deriving DecidableEq, Repr

/-- The package a policy hides. -/
def Policy.hides : Policy → Option Package
  | .hidden p => some p
  | _ => none

def playStorePackage : Package := "com.android.vending"

def netGuardPackageName : Package := "eu.faircode.netguard"

def noPhonePackageName : Package := "org.fossify.phone.debug"

/-- How `applyPolicy` works: it sets and clears a policy, hides the default dialer or restores
it in a coroutine, blocks the uninstallation of NetGuard in one, or writes the VPN. -/
inductive Effect
  | policy (p : Policy)
  | dialer
  | netGuard
  | vpn
deriving DecidableEq, Repr

/-- A feature; below `minSdk` its `applyPolicy` does nothing. -/
structure ProtectionFeature where
  id : String
  minSdk : VersionCode
  effect : Effect
deriving DecidableEq, Repr

/-- A feature that sets and clears one user restriction. -/
def restrictionFeature (id : String) (minSdk : VersionCode) (r : Restriction) :
    ProtectionFeature :=
  ⟨id, minSdk, .policy (.restriction r)⟩

/-- The policy a feature establishes, where it is the same on every device. -/
def ProtectionFeature.policy (f : ProtectionFeature) : Option Policy :=
  match f.effect with
  | .policy p => some p
  | .netGuard => some (.uninstallBlocked netGuardPackageName)
  | .dialer | .vpn => none

/-! ## The features -/

def blockDeveloperOptionsFeature : ProtectionFeature :=
  restrictionFeature "block_dev_options" .any .disallowDebuggingFeatures

def blockFactoryResetFeature : ProtectionFeature :=
  restrictionFeature "block_factory_reset" .any .disallowFactoryReset

def frpProtectionFeature : ProtectionFeature :=
  ⟨"frp_protection", .any, .policy .factoryResetProtection⟩

def blockSafeBootFeature : ProtectionFeature :=
  restrictionFeature "block_safe_boot" .any .disallowSafeBoot

def blockAddUserFeature : ProtectionFeature :=
  restrictionFeature "block_add_user" .any .disallowAddUser

def blockRemoveUserFeature : ProtectionFeature :=
  restrictionFeature "block_remove_user" .any .disallowRemoveUser

def blockModifyAccountsFeature : ProtectionFeature :=
  restrictionFeature "block_modify_accounts" .any .disallowModifyAccounts

def blockPasswordChangeFeature : ProtectionFeature :=
  ⟨"block_password_change", .any, .policy .strongPassword⟩

def blockCameraFeature : ProtectionFeature :=
  ⟨"block_camera", .any, .policy .cameraDisabled⟩

def blockMicrophoneFeature : ProtectionFeature :=
  restrictionFeature "block_microphone" .any .disallowUnmuteMicrophone

def blockScreenshotFeature : ProtectionFeature :=
  ⟨"block_screenshot", .p, .policy .screenCaptureDisabled⟩

def blockUsbFileTransferFeature : ProtectionFeature :=
  restrictionFeature "block_usb_transfer" .m .disallowUsbFileTransfer

def blockMountPhysicalMediaFeature : ProtectionFeature :=
  restrictionFeature "block_mount_physical_media" .any .disallowMountPhysicalMedia

def blockLocationSharingFeature : ProtectionFeature :=
  restrictionFeature "block_location" .any .disallowShareLocation

def blockWifiFeature : ProtectionFeature :=
  restrictionFeature "block_wifi" .any .disallowConfigWifi

def blockBluetoothFeature : ProtectionFeature :=
  restrictionFeature "block_bluetooth" .any .disallowBluetooth

def blockBluetoothSharingFeature : ProtectionFeature :=
  restrictionFeature "block_bluetooth_sharing" .any .disallowBluetoothSharing

def blockMobileDataFeature : ProtectionFeature :=
  restrictionFeature "block_mobile_data" .any .disallowConfigMobileNetworks

def blockTetheringFeature : ProtectionFeature :=
  restrictionFeature "block_tethering" .any .disallowConfigTethering

def blockPrivateDnsFeature : ProtectionFeature :=
  restrictionFeature "block_private_dns" .q .disallowConfigPrivateDns

def blockConfigMobileNetworksFeature : ProtectionFeature :=
  restrictionFeature "block_config_mobile_networks" .any .disallowConfigMobileNetworks

def blockPlayStoreFeature : ProtectionFeature :=
  ⟨"block_play_store", .any, .policy (.hidden playStorePackage)⟩

def blockInstallAppsFeature : ProtectionFeature :=
  restrictionFeature "block_install_apps" .any .disallowInstallApps

def blockUninstallAppsFeature : ProtectionFeature :=
  restrictionFeature "block_uninstall_apps" .any .disallowUninstallApps

def blockUnknownSourcesFeature : ProtectionFeature :=
  restrictionFeature "block_unknown_sources" .any .disallowInstallUnknownSources

def blockAppsControlFeature : ProtectionFeature :=
  restrictionFeature "block_apps_control" .any .disallowAppsControl

def blockAutofillFeature : ProtectionFeature :=
  restrictionFeature "block_autofill" .o .disallowAutofill

def blockContentCaptureFeature : ProtectionFeature :=
  restrictionFeature "block_content_capture" .q .disallowContentCapture

def netfreeOnlyModeFeature : ProtectionFeature :=
  ⟨"netfree_only_mode", .any, .vpn⟩

def blockInternetVpnFeature : ProtectionFeature :=
  ⟨"block_internet_vpn", .n, .vpn⟩

def blockVpnSettingsFeature : ProtectionFeature :=
  restrictionFeature "block_vpn_settings" .n .disallowConfigVpn

def blockOutgoingCallsFeature : ProtectionFeature :=
  restrictionFeature "block_outgoing_calls" .any .disallowOutgoingCalls

def blockIncomingCallsFeature : ProtectionFeature :=
  ⟨"block_incoming_calls", .m, .dialer⟩

def blockSmsFeature : ProtectionFeature :=
  restrictionFeature "block_sms" .any .disallowSms

def disableStatusBarFeature : ProtectionFeature :=
  ⟨"disable_status_bar", .m, .policy .statusBarDisabled⟩

def disableKeyguardFeature : ProtectionFeature :=
  ⟨"disable_keyguard", .m, .policy .keyguardDisabled⟩

def blockSetWallpaperFeature : ProtectionFeature :=
  restrictionFeature "block_set_wallpaper" .n .disallowSetWallpaper

def blockSetUserIconFeature : ProtectionFeature :=
  restrictionFeature "block_set_user_icon" .n .disallowSetUserIcon

def blockAdjustVolumeFeature : ProtectionFeature :=
  restrictionFeature "block_adjust_volume" .any .disallowAdjustVolume

def blockAmbientDisplayFeature : ProtectionFeature :=
  restrictionFeature "block_ambient_display" .o .disallowAmbientDisplay

def blockSystemErrorDialogsFeature : ProtectionFeature :=
  restrictionFeature "block_system_error_dialogs" .p .disallowSystemErrorDialogs

def blockConfigLocationFeature : ProtectionFeature :=
  restrictionFeature "block_config_location" .any .disallowConfigLocation

def blockConfigCredentialsFeature : ProtectionFeature :=
  restrictionFeature "block_config_credentials" .any .disallowConfigCredentials

def blockPrintingFeature : ProtectionFeature :=
  restrictionFeature "block_printing" .oMr1 .disallowPrinting

def blockConfigCellBroadcastsFeature : ProtectionFeature :=
  restrictionFeature "block_config_cell_broadcasts" .any .disallowConfigCellBroadcasts

def blockRemoveManagedProfileFeature : ProtectionFeature :=
  restrictionFeature "block_remove_managed_profile" .n .disallowRemoveManagedProfile

def installAndProtectNetGuardFeature : ProtectionFeature :=
  ⟨"install_protect_netguard", .any, .netGuard⟩

def forceNetGuardVpnFeature : ProtectionFeature :=
  ⟨"force_netguard_vpn", .n, .vpn⟩

/-! ## The registries -/

/-- `CategoryRegistry.allCategories`, category after category. -/
def allCategories : List (List ProtectionFeature) :=
  [[blockDeveloperOptionsFeature, blockFactoryResetFeature, frpProtectionFeature,
     blockSafeBootFeature, blockAddUserFeature, blockRemoveUserFeature,
     blockModifyAccountsFeature, blockPasswordChangeFeature],
    [blockCameraFeature, blockMicrophoneFeature, blockScreenshotFeature,
     blockUsbFileTransferFeature, blockMountPhysicalMediaFeature, blockLocationSharingFeature],
    [blockWifiFeature, blockBluetoothFeature, blockBluetoothSharingFeature,
     blockMobileDataFeature, blockTetheringFeature, blockPrivateDnsFeature,
     blockConfigMobileNetworksFeature],
    [blockPlayStoreFeature, blockInstallAppsFeature, blockUninstallAppsFeature,
     blockUnknownSourcesFeature, blockAppsControlFeature, blockAutofillFeature,
     blockContentCaptureFeature],
    [netfreeOnlyModeFeature, blockInternetVpnFeature, blockVpnSettingsFeature],
    [blockOutgoingCallsFeature, blockIncomingCallsFeature, blockSmsFeature],
    [disableStatusBarFeature, disableKeyguardFeature, blockSetWallpaperFeature,
     blockSetUserIconFeature, blockAdjustVolumeFeature, blockAmbientDisplayFeature,
     blockSystemErrorDialogsFeature],
    [blockConfigLocationFeature, blockConfigCredentialsFeature, blockPrintingFeature,
     blockConfigCellBroadcastsFeature, blockRemoveManagedProfileFeature]]

/-- `FeatureRegistry.allFeatures`. -/
def allFeatures : List ProtectionFeature :=
  [blockDeveloperOptionsFeature, blockBluetoothFeature, blockUnknownSourcesFeature,
   blockWifiFeature, blockAddUserFeature, blockCameraFeature, blockScreenshotFeature,
   blockUsbFileTransferFeature, blockMicrophoneFeature, blockLocationSharingFeature,
   blockBluetoothSharingFeature, blockMobileDataFeature, blockTetheringFeature,
   blockPlayStoreFeature, blockFactoryResetFeature, blockOutgoingCallsFeature,
   blockSafeBootFeature, blockInternetVpnFeature, blockSmsFeature, blockInstallAppsFeature,
   blockRemoveUserFeature, blockModifyAccountsFeature, blockRemoveManagedProfileFeature,
   blockSetUserIconFeature, blockAdjustVolumeFeature, blockSetWallpaperFeature,
   disableStatusBarFeature, blockAutofillFeature, blockAmbientDisplayFeature,
   blockAppsControlFeature, blockUninstallAppsFeature, blockMountPhysicalMediaFeature,
   disableKeyguardFeature, blockConfigLocationFeature, blockConfigCredentialsFeature,
   blockPrintingFeature, blockConfigCellBroadcastsFeature, blockContentCaptureFeature,
   blockSystemErrorDialogsFeature, blockPrivateDnsFeature, blockIncomingCallsFeature,
   blockPasswordChangeFeature, blockVpnSettingsFeature, installAndProtectNetGuardFeature,
   forceNetGuardVpnFeature, netfreeOnlyModeFeature]

/-- Every feature that is registered somewhere. -/
def registered : List ProtectionFeature := allCategories.flatten ++ allFeatures

/-- The registered features, each once. -/
def distinct : List ProtectionFeature :=
  frpProtectionFeature :: blockConfigMobileNetworksFeature :: allFeatures

theorem mem_distinct : ∀ f ∈ registered, f ∈ distinct := by
  have hcategories : ∀ f ∈ allCategories.flatten, f ∈ distinct := by decide +kernel
  intro f hf
  rcases List.mem_append.mp hf with hf | hf
  · exact hcategories f hf
  · exact List.mem_cons_of_mem _ (List.mem_cons_of_mem _ hf)

/-- An id names one feature. -/
theorem registered_id_injective : ∀ f ∈ registered, ∀ g ∈ registered, f.id = g.id → f = g := by
  have hids : (distinct.map ProtectionFeature.id).Nodup := by decide +kernel
  intro f hf g hg
  exact List.inj_on_of_nodup_map hids (mem_distinct f hf) (mem_distinct g hg)

/-- Two registered features establish the same policy only if they are the two that set the
restriction on mobile networks. -/
theorem registered_policy_shared : ∀ f ∈ registered, ∀ g ∈ registered, f ≠ g →
    f.policy.isSome = true → f.policy = g.policy →
    (f = blockMobileDataFeature ∧ g = blockConfigMobileNetworksFeature) ∨
      (f = blockConfigMobileNetworksFeature ∧ g = blockMobileDataFeature) := by
  have hpolicies : ∀ f ∈ distinct, ∀ g ∈ distinct, f.policy.isSome = true →
      f.policy = g.policy → f ≠ g →
      (f = blockMobileDataFeature ∧ g = blockConfigMobileNetworksFeature) ∨
        (f = blockConfigMobileNetworksFeature ∧ g = blockMobileDataFeature) := by
    decide +kernel
  intro f hf g hg hne hsome hsame
  exact hpolicies f (mem_distinct f hf) g (mem_distinct g hg) hsome hsame hne

/-- A registered feature whose policy hides a package is the one for the Play Store. -/
theorem registered_hides : ∀ f ∈ registered, ∀ q ∈ f.policy.bind Policy.hides,
    f = blockPlayStoreFeature ∧ q = playStorePackage := by
  decide +kernel

end SecureGuard.Mdm
