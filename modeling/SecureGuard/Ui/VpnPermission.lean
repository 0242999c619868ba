import SecureGuard.Lib.Machine
import SecureGuard.Mdm.Features

/-! # The permission for a VPN

Two protection features need the permission to run a VPN. The settings ask for it when one of
them is turned on, and turn the feature on when the permission is granted. That there is a
request is remembered, but not for which feature. -/

namespace SecureGuard.Ui
open Mdm

structure FeatureToggle where
  feature : ProtectionFeature
  isEnabled : Bool
deriving DecidableEq, Repr

/-- `protectionCategoryToggles`. -/
abbrev CategoryToggles := List (List FeatureToggle)

structure SettingsViewModel where
  protectionCategoryToggles : CategoryToggles
  pendingVpnEnableRequest : Bool
  snackbarMessage : Option String
deriving DecidableEq, Repr

/-- The features that need the permission. -/
def isVpnFeature (featureId : String) : Bool :=
  featureId == blockInternetVpnFeature.id || featureId == netfreeOnlyModeFeature.id

/-- The toggles with the feature turned on or off. -/
def CategoryToggles.set (toggles : CategoryToggles) (featureId : String) (isEnabled : Bool) :
    CategoryToggles :=
  toggles.map fun category => category.map fun toggle =>
    if toggle.feature.id = featureId then { toggle with isEnabled := isEnabled } else toggle

/-- What `loadProtectionFeatures` makes of the saved states. -/
def loadProtectionFeatures (getFeatureState : String → Bool) : CategoryToggles :=
  allCategories.map fun category => category.map fun feature =>
    ⟨feature, getFeatureState feature.id⟩

namespace SettingsViewModel

/-- `handleProtectionToggle`. `intent` says that `VpnService.prepare` returns one; the result
says whether the permission is asked for. -/
def handleProtectionToggle (vm : SettingsViewModel) (intent : Bool) (featureId : String)
    (isEnabled : Bool) : SettingsViewModel × Bool :=
  if isVpnFeature featureId && isEnabled && intent then
    ({ vm with pendingVpnEnableRequest := true }, true)
  else
    ({ vm with
      protectionCategoryToggles := vm.protectionCategoryToggles.set featureId isEnabled }, false)

/-- The feature that is taken for the pending one. -/
def pendingFeature (vm : SettingsViewModel) : Option String :=
  (vm.protectionCategoryToggles.flatten.find? fun toggle => isVpnFeature toggle.feature.id).map
    fun toggle => toggle.feature.id

def handleVpnPermissionResult (vm : SettingsViewModel) (intent granted : Bool) :
    SettingsViewModel × Bool :=
  let (vm, asks) :=
    if granted && vm.pendingVpnEnableRequest then
      match vm.pendingFeature with
      | some featureId => vm.handleProtectionToggle intent featureId true
      | none => (vm, false)
    else if granted then (vm, false)
    else ({ vm with snackbarMessage := some "settings_error_vpn_permission_required" }, false)
  ({ vm with pendingVpnEnableRequest := false }, asks)

end SettingsViewModel

/-! ## Requests and results -/

/-- A toggle is switched, or one of the open requests for the permission is answered. -/
inductive PermissionEvent
  | toggle (featureId : String) (isEnabled intent : Bool)
  | result (request : Nat) (granted intent : Bool)
deriving DecidableEq, Repr

/-- The settings with the open requests, each with the feature whose toggle has led to it. -/
structure PermissionRequests where
  vm : SettingsViewModel
  requests : List String
deriving DecidableEq, Repr

namespace PermissionRequests

def toggles (s : PermissionRequests) : CategoryToggles := s.vm.protectionCategoryToggles

/-- Where the answer to a request asks again, it does so for the same feature. -/
def step (s : PermissionRequests) : PermissionEvent → PermissionRequests
  | .toggle featureId isEnabled intent =>
    let (vm, asks) := s.vm.handleProtectionToggle intent featureId isEnabled
    ⟨vm, s.requests ++ if asks then [featureId] else []⟩
  | .result request granted intent =>
    let (vm, asks) := s.vm.handleVpnPermissionResult intent granted
    ⟨vm, s.requests.eraseIdx request ++ if asks then s.requests[request]?.toList else []⟩

/-- The settings as they are shown first. -/
def loaded (getFeatureState : String → Bool) : PermissionRequests :=
  ⟨⟨loadProtectionFeatures getFeatureState, false, none⟩, []⟩

/-- A granted permission turns on the feature whose toggle has led to the request, and nothing
else; neither a request nor a denied permission changes a toggle. -/
def RoundTrip (s : PermissionRequests) : PermissionEvent → Prop
  | .toggle featureId isEnabled intent =>
    (s.step (.toggle featureId isEnabled intent)).requests ≠ s.requests →
      (s.step (.toggle featureId isEnabled intent)).toggles = s.toggles
  | .result request true intent =>
    ∀ featureId, s.requests[request]? = some featureId →
      (s.step (.result request true intent)).toggles = s.toggles.set featureId true
  | .result request false intent =>
    (s.step (.result request false intent)).toggles = s.toggles

/-- Every toggle of the feature is on. -/
def isOn (s : PermissionRequests) (featureId : String) : Prop :=
  ∀ toggle ∈ s.toggles.flatten, toggle.feature.id = featureId → toggle.isEnabled = true

/-- A granted permission is taken for the NetFree mode; it also does for a feature that is on
already, if it turns nothing else on. -/
def ForNetfree (s : PermissionRequests) : PermissionEvent → Prop
  | .result request true intent =>
    ∀ featureId, s.requests[request]? = some featureId →
      (s.vm.pendingVpnEnableRequest = true ∧ intent = false ∧
          featureId = netfreeOnlyModeFeature.id) ∨
        (s.isOn featureId ∧ (s.vm.pendingVpnEnableRequest = true → intent = false →
          s.isOn netfreeOnlyModeFeature.id))
  | _ => True

end PermissionRequests

/-! ## Toggles -/

section Toggles

variable {toggles : CategoryToggles} {a b : String}

/-- The features of the toggles, category after category. -/
def CategoryToggles.features (toggles : CategoryToggles) : List (List ProtectionFeature) :=
  toggles.map fun category => category.map FeatureToggle.feature

@[simp] theorem CategoryToggles.set_features (toggles : CategoryToggles) (featureId : String)
    (isEnabled : Bool) : (toggles.set featureId isEnabled).features = toggles.features := by
  simp only [features, set, List.map_map]
  congr 1
  funext category
  simp only [Function.comp_apply, List.map_map]
  congr 1
  funext toggle
  simp only [Function.comp_apply]
  split <;> rfl

/-- Two ways to turn a feature on agree where they do so for each toggle. -/
theorem CategoryToggles.map_eq_iff (f g : FeatureToggle → FeatureToggle) :
    (toggles.map fun category => category.map f) = (toggles.map fun category => category.map g) ↔
      ∀ toggle ∈ toggles.flatten, f toggle = g toggle := by
  rw [List.map_inj_left]
  simp only [List.map_inj_left, List.mem_flatten]
  constructor
  · rintro h toggle ⟨category, hc, ht⟩
    exact h category hc toggle ht
  · exact fun h category hc toggle ht => h toggle ⟨category, hc, ht⟩

theorem CategoryToggles.set_eq_self_iff :
    toggles = toggles.set a true ↔
      ∀ toggle ∈ toggles.flatten, toggle.feature.id = a → toggle.isEnabled = true := by
  have hid : toggles = toggles.map fun category => category.map id := by simp
  conv_lhs => lhs; rw [hid]
  rw [set, map_eq_iff]
  refine forall₂_congr fun toggle _ => ?_
  obtain ⟨feature, isEnabled⟩ := toggle
  by_cases ha : feature.id = a
  · simp [ha]
  · simp [ha]

/-- Turning one of two features on comes to the same only if both are on. -/
theorem CategoryToggles.set_eq_set_iff (hne : a ≠ b) :
    toggles.set a true = toggles.set b true ↔
      toggles = toggles.set a true ∧ toggles = toggles.set b true := by
  constructor
  · intro h
    rw [set, set, map_eq_iff] at h
    rw [set_eq_self_iff, set_eq_self_iff]
    refine ⟨fun toggle ht hid => ?_, fun toggle ht hid => ?_⟩
    · have := h toggle ht
      rw [if_pos hid, if_neg (hid ▸ hne)] at this
      exact (congrArg FeatureToggle.isEnabled this).symm
    · have := h toggle ht
      rw [if_neg (hid ▸ hne.symm), if_pos hid] at this
      exact congrArg FeatureToggle.isEnabled this
  · rintro ⟨ha, hb⟩
    rw [← ha, ← hb]

end Toggles

/-! ## The pending feature -/

/-- The first feature that needs the permission. -/
theorem find_vpnFeature :
    allCategories.flatten.find? (fun feature => isVpnFeature feature.id) =
      some netfreeOnlyModeFeature := by
  decide +kernel

theorem pendingFeature_eq {vm : SettingsViewModel}
    (h : vm.protectionCategoryToggles.features = allCategories) :
    vm.pendingFeature = some netfreeOnlyModeFeature.id := by
  have hflatten : vm.protectionCategoryToggles.flatten.map FeatureToggle.feature =
      allCategories.flatten := by
    rw [← h, CategoryToggles.features, List.map_flatten]
  have hfind := find_vpnFeature
  rw [← hflatten, List.find?_map] at hfind
  obtain ⟨toggle, ht, hf⟩ := Option.map_eq_some_iff.mp hfind
  rw [SettingsViewModel.pendingFeature]
  have ht' : vm.protectionCategoryToggles.flatten.find?
      (fun toggle => isVpnFeature toggle.feature.id) = some toggle := ht
  rw [ht', Option.map_some, hf]

theorem handleProtectionToggle_features (vm : SettingsViewModel) (intent : Bool)
    (featureId : String) (isEnabled : Bool) :
    (vm.handleProtectionToggle intent featureId isEnabled).1.protectionCategoryToggles.features =
      vm.protectionCategoryToggles.features := by
  unfold SettingsViewModel.handleProtectionToggle
  split
  · rfl
  · exact CategoryToggles.set_features _ _ _

/-- What a result does to the toggles. -/
theorem handleVpnPermissionResult_toggles {vm : SettingsViewModel}
    (h : vm.protectionCategoryToggles.features = allCategories) (intent granted : Bool) :
    (vm.handleVpnPermissionResult intent granted).1.protectionCategoryToggles =
      if granted && vm.pendingVpnEnableRequest && !intent then
        vm.protectionCategoryToggles.set netfreeOnlyModeFeature.id true
      else vm.protectionCategoryToggles := by
  unfold SettingsViewModel.handleVpnPermissionResult
  rw [pendingFeature_eq h]
  have hvpn : isVpnFeature netfreeOnlyModeFeature.id = true := by decide
  match granted, hp : vm.pendingVpnEnableRequest, intent with
  | false, _, _ => rfl
  | true, false, _ => rfl
  | true, true, true => simp [SettingsViewModel.handleProtectionToggle, hvpn]
  | true, true, false => simp [SettingsViewModel.handleProtectionToggle]

namespace PermissionRequests

variable {s : PermissionRequests}

/-- The toggles are those of the registry. -/
def Registered (s : PermissionRequests) : Prop := s.toggles.features = allCategories

theorem loaded_registered (getFeatureState : String → Bool) :
    (loaded getFeatureState).Registered := by
  simp [Registered, toggles, loaded, loadProtectionFeatures, CategoryToggles.features,
    Function.comp_def]

theorem step_registered (h : s.Registered) (e : PermissionEvent) : (s.step e).Registered := by
  cases e with
  | toggle featureId isEnabled intent =>
    exact (handleProtectionToggle_features s.vm intent featureId isEnabled).trans h
  | result request granted intent =>
    have ht := handleVpnPermissionResult_toggles h intent granted
    show (s.vm.handleVpnPermissionResult intent granted).1.protectionCategoryToggles.features = _
    rw [ht]
    split
    · exact (CategoryToggles.set_features _ _ _).trans h
    · exact h

/-- A switch that leads to a request changes no toggle. -/
theorem roundTrip_toggle (featureId : String) (isEnabled intent : Bool) :
    s.RoundTrip (.toggle featureId isEnabled intent) := by
  intro hasks
  by_cases hvpn : (isVpnFeature featureId && isEnabled && intent) = true
  · have hasked : s.vm.handleProtectionToggle intent featureId isEnabled =
        ({ s.vm with pendingVpnEnableRequest := true }, true) := if_pos hvpn
    simp only [step, toggles, hasked]
  · have hset : (s.vm.handleProtectionToggle intent featureId isEnabled).2 = false := by
      rw [SettingsViewModel.handleProtectionToggle, if_neg hvpn]
    simp [step, hset] at hasks

theorem roundTrip_denied (h : s.Registered) (request : Nat) (intent : Bool) :
    s.RoundTrip (.result request false intent) :=
  handleVpnPermissionResult_toggles h intent false

theorem roundTrip_granted_iff (h : s.Registered) (request : Nat) (intent : Bool) :
    s.RoundTrip (.result request true intent) ↔ s.ForNetfree (.result request true intent) := by
  refine forall₂_congr fun featureId _ => ?_
  have ht : (s.step (.result request true intent)).toggles =
      if s.vm.pendingVpnEnableRequest && !intent then
        s.toggles.set netfreeOnlyModeFeature.id true
      else s.toggles := handleVpnPermissionResult_toggles h intent true
  rw [ht]
  by_cases hsets : s.vm.pendingVpnEnableRequest = true ∧ intent = false
  · rw [if_pos (by simp [hsets])]
    by_cases hid : featureId = netfreeOnlyModeFeature.id
    · simp [hid, hsets]
    · rw [CategoryToggles.set_eq_set_iff (Ne.symm hid), CategoryToggles.set_eq_self_iff,
        CategoryToggles.set_eq_self_iff]
      simp only [hid, hsets, isOn]
      tauto
  · rw [if_neg (by simpa using hsets), CategoryToggles.set_eq_self_iff]
    simp only [isOn]
    tauto

theorem roundTrip_iff (h : s.Registered) (e : PermissionEvent) :
    s.RoundTrip e ↔ s.ForNetfree e := by
  match e with
  | .toggle featureId isEnabled intent =>
    exact iff_of_true (roundTrip_toggle featureId isEnabled intent) trivial
  | .result request false intent => exact iff_of_true (roundTrip_denied h request intent) trivial
  | .result request true intent => exact roundTrip_granted_iff h request intent

end PermissionRequests

/-- **A granted permission turns on the feature it was asked for** exactly if that is the
NetFree mode, the first feature of the two, and the request is still remembered; or if there
is nothing to turn on. -/
theorem vpnPermission_roundTrip_iff (getFeatureState : String → Bool)
    (events : List PermissionEvent) :
    Machine.EveryStep PermissionRequests.step PermissionRequests.RoundTrip
        (.loaded getFeatureState) events ↔
      Machine.EveryStep PermissionRequests.step PermissionRequests.ForNetfree
        (.loaded getFeatureState) events := by
  have agree : ∀ s e, PermissionRequests.Registered s → (s.RoundTrip e ↔ s.ForNetfree e) :=
    fun _ e hs => PermissionRequests.roundTrip_iff hs e
  have keeps : ∀ s e, PermissionRequests.Registered s → s.ForNetfree e → (s.step e).Registered :=
    fun _ e hs _ => PermissionRequests.step_registered hs e
  exact Machine.everyStep_congr agree keeps
    (PermissionRequests.loaded_registered getFeatureState) events

/-- The permission that is asked for to block the internet turns the NetFree mode on. -/
theorem blockInternet_enables_netfree :
    ¬Machine.EveryStep PermissionRequests.step PermissionRequests.RoundTrip
      (.loaded fun _ => false)
      [.toggle blockInternetVpnFeature.id true true, .result 0 true false] := by
  rintro ⟨-, h, -⟩
  have ht := h blockInternetVpnFeature.id rfl
  revert ht
  decide +kernel

end SecureGuard.Ui
