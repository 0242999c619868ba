import SecureGuard.Mdm.Preset

/-! # What a preset carries over

A preset that is exported and applied without exceptions on a fresh phone gives back what was
exported, except for what one of the two lists leaves out. -/

namespace SecureGuard.Mdm

open Machine Exceptions

/-! ## The device -/

namespace Device

theorem foldl_setApplicationHidden (d : Device) (packages : List Package) :
    (packages.map fun p => Action.setApplicationHidden {p} true).foldl perform d =
      d.perform (.setApplicationHidden packages.toFinset true) := by
  induction packages generalizing d with
  | nil => simp [perform, Ledger.impose, hiddenPolicies]
  | cons p packages ih =>
    rw [List.map_cons, List.foldl_cons, ih]
    simp only [perform, Ledger.impose, hiddenPolicies, List.toFinset_cons, Finset.insert_eq,
      Finset.image_union, Finset.image_singleton, Finset.union_assoc]

theorem on_apply (d : Device) (f : Registered) (enable : Bool) :
    (d.perform (.apply f enable)).ledger.on = Function.update d.ledger.on f.val.id enable := by
  have hon := d.on_applyPolicy f.val enable
  cases enable <;> simp [perform, setFeatureState, Ledger.switchOn, Ledger.switchOff, hon]

/-- What a list of features leaves switched on, where it says the same of an id throughout. -/
theorem on_applyFeatures (d : Device) {features : List (String × Bool)} {f : ProtectionFeature}
    {value : Bool} (hf : f ∈ allFeatures) (h : ∀ e ∈ features, e.1 = f.id → e.2 = value) :
    (d.applyFeatures features).ledger.on f.id =
      if f.id ∈ features.map Prod.fst then value else d.ledger.on f.id := by
  induction features generalizing d with
  | nil => rfl
  | cons e features ih =>
    have hrest := ih (d.performAll (applyFeature e.1 e.2).toList)
      fun e' he' => h e' (List.mem_cons_of_mem e he')
    rw [applyFeatures_cons, hrest]
    by_cases hid : e.1 = f.id
    · obtain rfl := h e List.mem_cons_self hid
      have hmem : f.id ∈ (e :: features).map Prod.fst := List.mem_cons.mpr (Or.inl hid.symm)
      rw [if_pos hmem]
      split
      · rfl
      · rcases applyFeature_cases e.1 e.2 with ⟨hno, -⟩ | ⟨g, -, hg, happly⟩
        · exact absurd hid.symm (hno f hf)
        · rw [happly]
          show (d.perform (.apply g e.2)).ledger.on f.id = e.2
          rw [on_apply, hg, hid, Function.update_self]
    · have hmem : f.id ∈ (e :: features).map Prod.fst ↔ f.id ∈ features.map Prod.fst := by
        rw [List.map_cons, List.mem_cons, or_iff_right fun he => hid he.symm]
      rw [if_congr hmem rfl rfl]
      split
      · rfl
      · rcases applyFeature_cases e.1 e.2 with ⟨-, hskip⟩ | ⟨g, -, hg, happly⟩
        · rw [hskip]
          rfl
        · rw [happly]
          show (d.perform (.apply g e.2)).ledger.on f.id = d.ledger.on f.id
          rw [on_apply, hg, Function.update_of_ne fun he => hid he.symm]

end Device

/-! ## Without exceptions -/

namespace PresetAction

theorem foldl_perform (p : Phone) (as : List PresetAction) :
    as.foldl Phone.perform p = ⟨as.foldl onDevice p.device, as.foldl onSettings p.settings⟩ := by
  induction as generalizing p with
  | nil => rfl
  | cons a as ih => exact ih (p.perform a)

theorem foldl_onSettings_of_device (s : Settings) {as : List PresetAction}
    (h : ∀ a ∈ as, a.part = .device) : as.foldl onSettings s = s := by
  induction as with
  | nil => rfl
  | cons a as ih =>
    rw [List.foldl_cons, onSettings_of_device s (h a List.mem_cons_self)]
    exact ih fun b hb => h b (List.mem_cons_of_mem a hb)

theorem foldl_onDevice_of_not_device (d : Device) {as : List PresetAction}
    (h : ∀ a ∈ as, a.part ≠ .device) : as.foldl onDevice d = d := by
  induction as with
  | nil => rfl
  | cons a as ih =>
    rw [List.foldl_cons, onDevice_of_not_device d (h a List.mem_cons_self)]
    exact ih fun b hb => h b (List.mem_cons_of_mem a hb)

end PresetAction

namespace PresetConfig

theorem foldl_featureBlocks (d : Device) (features : List (String × Bool)) :
    ((features.flatMap featureBlocks).flatMap Block.actions).foldl PresetAction.onDevice d =
      d.applyFeatures features := by
  induction features generalizing d with
  | nil => rfl
  | cons e features ih =>
    have hblock : ((featureBlocks e).flatMap Block.actions).foldl PresetAction.onDevice d =
        d.performAll (Device.applyFeature e.1 e.2).toList := by
      unfold featureBlocks
      split
      next h =>
        rw [Device.applyFeature_of_none h]
        rfl
      next f h =>
        rw [Device.applyFeature_of_some h]
        rfl
    rw [List.flatMap_cons, List.flatMap_append, List.foldl_append, hblock, ih,
      Device.applyFeatures_cons]

theorem foldl_blockedAppsBlocks (d : Device) (config : PresetConfig) :
    (config.blockedAppsBlocks.flatMap Block.actions).foldl PresetAction.onDevice d =
      { d with
        blockedApps := config.blockedApps.getD d.blockedApps
        ledger := d.ledger.impose (Device.hiddenPolicies (config.blockedApps.getD ∅)) } := by
  unfold blockedAppsBlocks
  cases config.blockedApps with
  | none => simp [Ledger.impose, Device.hiddenPolicies]
  | some packages =>
    have hhide := (d.perform (.setBlockedAppPackages packages)).foldl_setApplicationHidden
      (Device.inOrder packages)
    rw [Device.toFinset_inOrder, List.foldl_map] at hhide
    simp only [Option.toList_some, List.map_cons, List.map_nil, List.flatMap_cons,
      List.flatMap_nil, Block.actions, List.append_nil, List.foldl_cons, List.foldl_map,
      PresetAction.onDevice, hhide]
    rfl

theorem foldl_suspendedAppsBlocks (d : Device) (config : PresetConfig) :
    (config.suspendedAppsBlocks.flatMap Block.actions).foldl PresetAction.onDevice d =
      { d with
        suspendedApps := config.suspendedApps.getD d.suspendedApps
        suspended := d.suspended ∪ config.suspendedApps.getD ∅ } := by
  unfold suspendedAppsBlocks
  cases config.suspendedApps with
  | none => simp
  | some packages =>
    by_cases hempty : packages = ∅
    · simp [hempty, Block.actions, PresetAction.onDevice, Device.perform]
    · simp [hempty, Block.actions, PresetAction.onDevice, Device.perform]

/-- What the blocks that catch exceptions do, where none is thrown. -/
theorem foldl_caughtBlocks (d : Device) (config : PresetConfig) :
    (config.caughtBlocks.flatMap Block.actions).foldl PresetAction.onDevice d =
      d.performAll
        (Device.applyConfig config.features config.blockedApps config.suspendedApps) := by
  rw [caughtBlocks, List.flatMap_append, List.flatMap_append, List.foldl_append,
    List.foldl_append, foldl_featureBlocks, foldl_blockedAppsBlocks, foldl_suspendedAppsBlocks,
    Device.performAll_applyConfig]

theorem part_of_mem_final {config : PresetConfig} {a : PresetAction} (h : a ∈ config.finalActions) :
    a.part ≠ .device := by
  rcases List.mem_append.mp h with h | h
  · rw [part_of_mem_settings h]
    decide
  · obtain rfl := List.mem_singleton.mp h
    decide

end PresetConfig

namespace Phone

variable (hashToString : String → String)

theorem applyConfig_of_not_throws (p : Phone) (config : PresetConfig) :
    (p.applyConfig (fun _ => false) hashToString config).1 =
      config.finalActions.foldl perform
        ((config.caughtBlocks.flatMap Block.actions).foldl perform
          (((config.passwordBlocks hashToString).flatMap Block.actions).foldl perform p)) := by
  rw [applyConfig, runBlocks_of_not_throws, PresetConfig.blocks]
  simp only [List.flatMap_append, List.foldl_append, List.flatMap_cons, Block.actions,
    List.flatMap_nil, List.append_nil]

/-- A preset that is applied without exceptions does on the device what the operation does. -/
theorem device_applyConfig (p : Phone) (config : PresetConfig) :
    (p.applyConfig (fun _ => false) hashToString config).1.device =
      p.device.performAll
        (Device.applyConfig config.features config.blockedApps config.suspendedApps) := by
  have hpassword : ∀ a ∈ (config.passwordBlocks hashToString).flatMap Block.actions,
      a.part ≠ .device := by
    intro a ha
    obtain ⟨b, hb, ha⟩ := List.mem_flatMap.mp ha
    rw [PresetConfig.part_of_mem_password hb ha]
    decide
  simp only [applyConfig_of_not_throws, PresetAction.foldl_perform]
  rw [PresetAction.foldl_onDevice_of_not_device p.device hpassword,
    PresetConfig.foldl_caughtBlocks,
    PresetAction.foldl_onDevice_of_not_device _ fun a ha => PresetConfig.part_of_mem_final ha]

theorem settings_applyConfig (p : Phone) (config : PresetConfig) :
    (p.applyConfig (fun _ => false) hashToString config).1.settings =
      config.finalActions.foldl PresetAction.onSettings
        (((config.passwordBlocks hashToString).flatMap Block.actions).foldl
          PresetAction.onSettings p.settings) := by
  have hcaught : ∀ a ∈ config.caughtBlocks.flatMap Block.actions, a.part = .device := by
    intro a ha
    obtain ⟨b, hb, ha⟩ := List.mem_flatMap.mp ha
    exact PresetConfig.part_of_mem_caught hb ha
  simp only [applyConfig_of_not_throws, PresetAction.foldl_perform]
  rw [PresetAction.foldl_onSettings_of_device _ hcaught]

end Phone

/-! ## The exported preset -/

/-- What a preset is to carry over. -/
structure SameConfiguration (p q : Phone) : Prop where
  features : ∀ f ∈ allFeatures, q.getFeatureState f.id = p.getFeatureState f.id
  toggles : q.settings.toggles = p.settings.toggles
  autoUpdateCheckEnabled :
    q.settings.autoUpdateCheckEnabled = p.settings.autoUpdateCheckEnabled
  blockedApps : q.device.blockedApps = p.device.blockedApps
  suspendedApps : q.device.suspendedApps = p.device.suspendedApps
  customFrpIds : q.settings.customFrpIds = p.settings.customFrpIds
  kiosk : q.settings.kiosk = p.settings.kiosk

/-- Nothing is set that the preset leaves out or that is not read from it: features that the
settings do not show, the toggles, the kiosk's settings while it is off, its single website. -/
structure Exportable (p : Phone) : Prop where
  features : ∀ f ∈ allFeatures, f ∉ allCategories.flatten → p.getFeatureState f.id = false
  toggles : p.settings.toggles = {}
  kiosk : p.settings.kiosk.kioskModeEnabled = false → p.settings.kiosk = {}
  singleWebsite : p.settings.kiosk.singleWebsiteKioskEnabled = false ∧
    p.settings.kiosk.singleWebsiteKioskUrl = ""

theorem ifEmptyNull_getD {α : Type} [DecidableEq α] (s : Finset α) :
    (ifEmptyNull s).getD ∅ = s := by
  unfold ifEmptyNull
  split
  next h => rw [h]; rfl
  next => rfl

/-- No toggle of the settings has the id of a feature. -/
theorem id_notMem_items : ∀ f ∈ allFeatures, ∀ t : ToggleSettings,
    f.id ∉ t.items.map Prod.fst := by
  have hids : ∀ f ∈ allFeatures, f.id ∉ (({} : ToggleSettings).items.map Prod.fst) := by
    decide +kernel
  exact fun f hf t => hids f hf

namespace Phone

/-- The preset that the settings export when they show what is saved. -/
def exported (p : Phone) : PresetConfig := p.exportSettings p.loadInitialState

theorem mem_exported_features_iff (p : Phone) {f : ProtectionFeature} (hf : f ∈ allFeatures) :
    f.id ∈ p.exported.features.map Prod.fst ↔ f ∈ allCategories.flatten := by
  have hmap : p.exported.features.map Prod.fst =
      allCategories.flatten.map ProtectionFeature.id ++ p.settings.toggles.items.map Prod.fst := by
    simp only [exported, exportSettings, loadInitialState, List.map_append, List.map_map]
    rfl
  rw [hmap, List.mem_append, or_iff_left (id_notMem_items f hf _), List.mem_map]
  constructor
  · rintro ⟨g, hg, hid⟩
    rwa [← registered_id_injective g (Device.mem_registered_of_category hg) f
      (List.mem_append_right _ hf) hid]
  · exact fun hmem => ⟨f, hmem, rfl⟩

theorem exported_features_value (p : Phone) {f : ProtectionFeature} (hf : f ∈ allFeatures) :
    ∀ e ∈ p.exported.features, e.1 = f.id → e.2 = p.getFeatureState f.id := by
  intro e he hid
  rcases List.mem_append.mp he with he | he
  · obtain ⟨g, -, rfl⟩ := List.mem_map.mp he
    exact congrArg p.getFeatureState hid
  · have hmem := List.mem_map_of_mem (f := Prod.fst) he
    rw [hid] at hmem
    exact absurd hmem (id_notMem_items f hf _)

/-- The kiosk's settings once an exported preset is applied that has the kiosk enabled. -/
theorem foldl_kioskSetters_exported (p : Phone) :
    p.exported.kioskSetters.foldl KioskSettings.set {} =
      { p.settings.kiosk with
        kioskModeEnabled := true
        singleWebsiteKioskEnabled := false
        singleWebsiteKioskUrl := "" } := by
  simp only [exported, exportSettings, PresetConfig.kioskSetters]
  generalize p.settings.kiosk = k
  obtain ⟨mode, apps, title, background, primary, update, buttons, layout, launcher, lockTask,
    monitor, website, url⟩ := k
  have hsets : ∀ (t : Finset String) (c : Finset String → KioskSetter) (k : KioskSettings),
      ((ifEmptyNull t).toList.map c).foldl KioskSettings.set k =
        if t = ∅ then k else k.set (c t) := by
    intro t c k
    unfold ifEmptyNull
    split <;> rfl
  simp only [List.foldl_cons, List.foldl_append, hsets]
  by_cases happs : apps = ∅ <;> by_cases hbuttons : buttons = ∅ <;> cases layout <;>
    cases launcher <;> simp [happs, hbuttons, KioskSettings.set]

theorem foldl_setKiosk (s : Settings) (setters : List KioskSetter) :
    (setters.map PresetAction.setKiosk).foldl PresetAction.onSettings s =
      { s with kiosk := setters.foldl KioskSettings.set s.kiosk } := by
  induction setters generalizing s with
  | nil => rfl
  | cons setter setters ih => exact ih _

/-- The settings that an exported preset leaves on a fresh phone. -/
theorem foldl_finalActions_exported (p : Phone) :
    p.exported.finalActions.foldl PresetAction.onSettings {} =
      { setupComplete := true
        customFrpIds := p.settings.customFrpIds
        updateChannel := some (p.settings.updateChannel.getD "STABLE")
        autoUpdateCheckEnabled := p.settings.autoUpdateCheckEnabled
        kiosk :=
          if p.settings.kiosk.kioskModeEnabled then
            p.exported.kioskSetters.foldl KioskSettings.set {}
          else {} } := by
  have hsettings : p.exported.settingsActions.foldl PresetAction.onSettings {} =
      { customFrpIds := p.settings.customFrpIds
        updateChannel := some (p.settings.updateChannel.getD "STABLE")
        autoUpdateCheckEnabled := p.settings.autoUpdateCheckEnabled } := by
    simp only [PresetConfig.settingsActions, exported, exportSettings, ifEmptyNull]
    split
    next h => rw [h]; rfl
    next => rfl
  rw [PresetConfig.finalActions, List.foldl_append, List.foldl_append, hsettings]
  unfold PresetConfig.kioskActions
  have henabled : p.exported.kioskEnabled = p.settings.kiosk.kioskModeEnabled := rfl
  rw [henabled]
  split
  · rw [List.foldl_append, foldl_setKiosk]
    generalize p.exported.kioskSetters = setters
    rfl
  · rfl

/-- The kiosk is carried over exactly if it is enabled, or as it is by default, and shows no
single website. -/
theorem kiosk_carried_iff (p : Phone) :
    (if p.settings.kiosk.kioskModeEnabled then
        p.exported.kioskSetters.foldl KioskSettings.set {}
      else {}) = p.settings.kiosk ↔
      (p.settings.kiosk.kioskModeEnabled = false → p.settings.kiosk = {}) ∧
        p.settings.kiosk.singleWebsiteKioskEnabled = false ∧
        p.settings.kiosk.singleWebsiteKioskUrl = "" := by
  rw [foldl_kioskSetters_exported]
  generalize p.settings.kiosk = k
  cases hmode : k.kioskModeEnabled with
  | true =>
    obtain ⟨mode, apps, title, background, primary, update, buttons, layout, launcher, lockTask,
      monitor, website, url⟩ := k
    obtain rfl : mode = true := hmode
    simp [eq_comm]
  | false =>
    constructor
    · intro hdefault
      have hk : k = {} := hdefault.symm
      exact ⟨fun _ => hk, by rw [hk], by rw [hk]⟩
    · exact fun h => (h.1 rfl).symm

/-- A fresh phone to which the preset of another one was applied without exceptions. -/
def cloned (hashToString : String → String) (p : Phone) (sdkInt : Nat) (dialer : Option Package) :
    Phone :=
  ((fresh sdkInt dialer).applyConfig (fun _ => false) hashToString p.exported).1

variable (hashToString : String → String) (p : Phone) (sdkInt : Nat) (dialer : Option Package)

theorem device_cloned :
    (p.cloned hashToString sdkInt dialer).device =
      (fresh sdkInt dialer).device.performAll
        (Device.applyConfig p.exported.features p.exported.blockedApps
          p.exported.suspendedApps) := by
  rw [cloned, device_applyConfig]

theorem settings_cloned :
    (p.cloned hashToString sdkInt dialer).settings =
      p.exported.finalActions.foldl PresetAction.onSettings {} := by
  have hpassword : p.exported.passwordBlocks hashToString = [] := rfl
  rw [cloned, settings_applyConfig, hpassword]
  rfl

/-- The apps that a preset blocks do not change which features are on. -/
theorem on_performAll_applyConfig (d : Device) (features : List (String × Bool))
    (blockedApps suspendedApps : Option (Finset Package)) (id : String) :
    (d.performAll (Device.applyConfig features blockedApps suspendedApps)).ledger.on id =
      (d.applyFeatures features).ledger.on id := by
  rw [Device.performAll_applyConfig]
  rfl

/-- Of the features that a preset may name those are carried over that the settings show. -/
theorem getFeatureState_cloned {f : ProtectionFeature} (hf : f ∈ allFeatures) :
    (p.cloned hashToString sdkInt dialer).getFeatureState f.id =
      if f ∈ allCategories.flatten then p.getFeatureState f.id else false := by
  rw [getFeatureState, device_cloned, on_performAll_applyConfig,
    Device.on_applyFeatures _ hf (p.exported_features_value hf),
    if_congr (p.mem_exported_features_iff hf) rfl rfl]
  rfl

theorem blockedApps_cloned :
    (p.cloned hashToString sdkInt dialer).device.blockedApps = p.device.blockedApps := by
  rw [device_cloned, Device.performAll_applyConfig]
  show (ifEmptyNull p.device.blockedApps).getD _ = _
  rw [((fresh sdkInt dialer).device.leaves_applyFeatures p.exported.features).blockedApps]
  exact ifEmptyNull_getD _

theorem suspendedApps_cloned :
    (p.cloned hashToString sdkInt dialer).device.suspendedApps = p.device.suspendedApps := by
  rw [device_cloned, Device.performAll_applyConfig]
  show (ifEmptyNull p.device.suspendedApps).getD _ = _
  rw [((fresh sdkInt dialer).device.leaves_applyFeatures p.exported.features).suspendedApps]
  exact ifEmptyNull_getD _

end Phone

/-- A kiosk that shows a single website. -/
def singleWebsite : Phone where
  device := Device.unconfigured 34 none
  settings :=
    { kiosk :=
        { kioskModeEnabled := true
          singleWebsiteKioskEnabled := true
          singleWebsiteKioskUrl := "https://example.com" } }

theorem singleWebsite_lost :
    ¬ SameConfiguration singleWebsite (singleWebsite.cloned id 34 none) := by
  intro h
  have hkiosk := h.kiosk
  rw [Phone.settings_cloned, Phone.foldl_finalActions_exported] at hkiosk
  exact absurd (singleWebsite.kiosk_carried_iff.mp hkiosk).2.1 (by decide)

/-- **Applying the exported preset on a fresh phone gives back the configuration exactly if
nothing is set that the preset leaves out or that is not read from it.** -/
theorem sameConfiguration_cloned_iff (hashToString : String → String) (p : Phone) (sdkInt : Nat)
    (dialer : Option Package) :
    SameConfiguration p (p.cloned hashToString sdkInt dialer) ↔ Exportable p := by
  have hsettings :=
    (p.settings_cloned hashToString sdkInt dialer).trans p.foldl_finalActions_exported
  constructor
  · intro h
    have hkiosk := h.kiosk
    rw [hsettings] at hkiosk
    obtain ⟨hdefault, hwebsite⟩ := p.kiosk_carried_iff.mp hkiosk
    refine ⟨fun f hf hnot => ?_, ?_, hdefault, hwebsite⟩
    · rw [← h.features f hf, Phone.getFeatureState_cloned _ _ _ _ hf, if_neg hnot]
    · rw [← h.toggles, hsettings]
  · intro h
    refine ⟨fun f hf => ?_, ?_, ?_, p.blockedApps_cloned _ _ _, p.suspendedApps_cloned _ _ _, ?_,
      ?_⟩
    · rw [Phone.getFeatureState_cloned _ _ _ _ hf]
      split
      · rfl
      next hnot => exact (h.features f hf hnot).symm
    · rw [hsettings, h.toggles]
    · rw [hsettings]
    · rw [hsettings]
    · rw [hsettings]
      exact p.kiosk_carried_iff.mpr ⟨h.kiosk, h.singleWebsite⟩

end SecureGuard.Mdm
