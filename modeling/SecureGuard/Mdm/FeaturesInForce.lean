import SecureGuard.Mdm.Device

/-! # Enabled features stay in force

Nothing counts how many features rely on a policy. Two registered features set the restriction
on mobile networks, and packages are hidden by the Play Store's feature, by the feature for
incoming calls and by the app blocker; whoever lifts such a policy lifts it for all. -/

namespace SecureGuard.Mdm

open Machine

namespace Device

/-- What the `applyPolicy(true)` of a feature has established is in force while its persisted
state is true. -/
def EnabledInForce (d : Device) : Prop := d.ledger.InForce

instance (d : Device) : Decidable d.EnabledInForce := inferInstanceAs (Decidable d.ledger.InForce)

def isOn (d : Device) (f : ProtectionFeature) : Bool := d.ledger.on f.id

/-- The feature for incoming calls is on and has hidden this dialer. -/
def HidesDialer (d : Device) (dialer : Package) : Prop :=
  d.isOn blockIncomingCallsFeature = true ∧
    (blockIncomingCallsFeature.id, Policy.hidden dialer) ∈ d.ledger.claims

instance (d : Device) (dialer : Package) : Decidable (d.HidesDialer dialer) :=
  inferInstanceAs (Decidable (_ ∧ _))

/-- None of these packages is hidden by a feature that is on. -/
def SparesHidden (d : Device) (packages : Finset Package) : Prop :=
  (d.isOn blockPlayStoreFeature = true → playStorePackage ∉ packages) ∧
    ∀ p ∈ packages, ¬ d.HidesDialer p

instance (d : Device) (packages : Finset Package) : Decidable (d.SparesHidden packages) :=
  inferInstanceAs (Decidable ((_ → _) ∧ _))

/-- What an action must not meet: of the two features for mobile networks one is switched off
while the other is on; the Play Store's feature is switched off while it is the hidden dialer;
a package is unhidden that a feature still on has hidden. -/
def SparesOthers (d : Device) : Action → Prop
  | .apply f false =>
    (f.val = blockMobileDataFeature → d.isOn blockConfigMobileNetworksFeature = false) ∧
      (f.val = blockConfigMobileNetworksFeature → d.isOn blockMobileDataFeature = false) ∧
      (f.val = blockPlayStoreFeature → ¬ d.HidesDialer playStorePackage)
  | .setApplicationHidden packages false => d.SparesHidden packages
  | .unhideDialer dialer => d.SparesHidden {dialer}
  | _ => True

instance (d : Device) : (a : Action) → Decidable (d.SparesOthers a)
  | .apply _ false => inferInstanceAs (Decidable ((_ → _) ∧ (_ → _) ∧ (_ → _)))
  | .setApplicationHidden packages false => inferInstanceAs (Decidable (d.SparesHidden packages))
  | .unhideDialer dialer => inferInstanceAs (Decidable (d.SparesHidden {dialer}))
  | .apply _ true => isTrue trivial
  | .setApplicationHidden _ true => isTrue trivial
  | .setPackagesSuspended _ _ => isTrue trivial
  | .setBlockedAppPackages _ => isTrue trivial
  | .setSuspendedAppPackages _ => isTrue trivial
  | .setOriginalDialerPackage _ => isTrue trivial
  | .hideDialer _ => isTrue trivial
  | .restoreDialer => isTrue trivial
  | .blockUninstall => isTrue trivial

/-- The action that a step performs, if it performs one, spares the other features. -/
def StepSparesOthers (d : Device) : Input → Prop
  | .run k => ∀ a ∈ d.next k, d.SparesOthers a
  | _ => True

instance (d : Device) : (i : Input) → Decidable (d.StepSparesOthers i)
  | .run k => inferInstanceAs (Decidable (∀ a ∈ d.next k, d.SparesOthers a))
  | .start _ => isTrue trivial
  | .defaultDialerChanged _ => isTrue trivial
  | .noPhoneChanged _ => isTrue trivial

end Device

/-! ## The ledger of the features -/

/-- The ledger is sound; everything in it was established by a registered feature's policy or by
hiding a dialer; and a feature that is on has established its policy, unless that takes a
coroutine or a newer device. -/
structure Accounted (l : Ledger String Policy) (sdkInt : Nat) : Prop where
  sound : l.Sound
  source : ∀ c ∈ l.claims, (∃ f ∈ registered, f.id = c.1 ∧ f.policy = some c.2) ∨
    (c.1 = blockIncomingCallsFeature.id ∧ ∃ dialer, c.2 = .hidden dialer)
  established : ∀ f ∈ registered, ∀ p, f.effect = .policy p → f.minSdk.toNat ≤ sdkInt →
    l.on f.id = true → (f.id, p) ∈ l.claims

namespace Accounted

variable {l : Ledger String Policy} {sdkInt : Nat}

theorem ofFresh {d : Device} (h : d.Fresh) : Accounted d.ledger d.sdkInt where
  sound := by
    intro c hc
    rw [h.claims] at hc
    cases hc
  source := by
    intro c hc
    rw [h.claims] at hc
    cases hc
  established := by
    intro f _ p _ _ hon
    rw [h.on] at hon
    cases hon

theorem impose (h : Accounted l sdkInt) (rs : Finset Policy) : Accounted (l.impose rs) sdkInt :=
  ⟨Ledger.sound_impose h.sound rs, h.source, h.established⟩

theorem establish (h : Accounted l sdkInt) {o : String} {p : Policy}
    (hsource : (∃ f ∈ registered, f.id = o ∧ f.policy = some p) ∨
      (o = blockIncomingCallsFeature.id ∧ ∃ dialer, p = .hidden dialer)) :
    Accounted (l.establish o p) sdkInt := by
  refine ⟨Ledger.sound_establish h.sound o p, ?_, ?_⟩
  · intro c hc
    rcases List.mem_cons.mp hc with rfl | hc
    · exact hsource
    · exact h.source c hc
  · intro f hf q heffect hsdk hon
    exact List.mem_cons_of_mem _ (h.established f hf q heffect hsdk hon)

theorem lift (h : Accounted l sdkInt) {rs : Finset Policy} (hfree : l.Free rs) :
    Accounted (l.lift rs) sdkInt := by
  refine ⟨Ledger.sound_lift h.sound hfree,
    fun c hc => h.source c (Ledger.mem_claims_lift.mp hc).1, ?_⟩
  intro f hf p heffect hsdk hon
  exact Ledger.mem_claims_lift.mpr ⟨h.established f hf p heffect hsdk hon, Or.inl hon⟩

/-- Switching a feature on needs its policy established before, where it is established at
once. -/
theorem switchOn (h : Accounted l sdkInt) {f : ProtectionFeature} (hf : f ∈ registered)
    (hest : ∀ p, f.effect = .policy p → f.minSdk.toNat ≤ sdkInt → (f.id, p) ∈ l.claims) :
    Accounted (l.switchOn f.id) sdkInt := by
  refine ⟨Ledger.sound_switchOn h.sound f.id, h.source, ?_⟩
  intro g hg p heffect hsdk hon
  by_cases hid : g.id = f.id
  · obtain rfl := registered_id_injective g hg f hf hid
    exact hest p heffect hsdk
  · rw [l.switchOn_on_of_ne hid] at hon
    exact h.established g hg p heffect hsdk hon

theorem switchOff (h : Accounted l sdkInt) (o : String) : Accounted (l.switchOff o) sdkInt := by
  refine ⟨Ledger.sound_switchOff h.sound o,
    fun c hc => h.source c (Ledger.mem_claims_switchOff.mp hc).1, ?_⟩
  intro f hf p heffect hsdk hon
  by_cases hid : f.id = o
  · rw [hid, Ledger.switchOff_on_self] at hon
    cases hon
  · rw [l.switchOff_on_of_ne hid] at hon
    exact Ledger.mem_claims_switchOff.mpr ⟨h.established f hf p heffect hsdk hon, hid⟩

end Accounted

namespace Device

variable {d : Device}

/-- A feature that is on and sets its policy at once has it in force. -/
theorem policy_inForce (h : Accounted d.ledger d.sdkInt) {f : ProtectionFeature}
    (hf : f ∈ registered) {p : Policy} (heffect : f.effect = .policy p)
    (hsdk : f.minSdk.toNat ≤ d.sdkInt) (hon : d.isOn f = true) : p ∈ d.ledger.inForce :=
  h.sound _ (h.established f hf p heffect hsdk hon)

/-! ## What a lift takes from whom -/

theorem mem_hiddenPolicies {packages : Finset Package} {q : Policy} :
    q ∈ hiddenPolicies packages ↔ ∃ p ∈ packages, .hidden p = q :=
  Finset.mem_image

/-- Unhiding packages takes nothing from a feature that is on exactly if none of them is
hidden by one. -/
theorem free_hiddenPolicies_iff (h : Accounted d.ledger d.sdkInt) (packages : Finset Package) :
    d.ledger.Free (hiddenPolicies packages) ↔ d.SparesHidden packages := by
  constructor
  · intro hfree
    refine ⟨fun hon hmem => ?_, fun p hp hides => ?_⟩
    · have hclaim := h.established blockPlayStoreFeature (by decide +kernel)
        (.hidden playStorePackage) rfl (Nat.zero_le _) hon
      exact hfree _ hclaim hon (mem_hiddenPolicies.mpr ⟨_, hmem, rfl⟩)
    · exact hfree _ hides.2 hides.1 (mem_hiddenPolicies.mpr ⟨p, hp, rfl⟩)
  · rintro ⟨hstore, hdialer⟩ c hc hon hmem
    obtain ⟨p, hp, hq⟩ := mem_hiddenPolicies.mp hmem
    rcases h.source c hc with ⟨f, hf, hid, hpolicy⟩ | ⟨hid, -⟩
    · obtain ⟨rfl, rfl⟩ := registered_hides f hf p (by rw [hpolicy, ← hq]; rfl)
      rw [← hid] at hon
      exact hstore hon hp
    · obtain ⟨o, q⟩ := c
      obtain rfl := hid
      obtain rfl := hq
      exact hdialer p hp ⟨hon, hc⟩

/-- Switching a feature off takes nothing from the others exactly if it spares them. -/
theorem free_switchOff_feature_iff (h : Accounted d.ledger d.sdkInt) (f : Registered) {p : Policy}
    (hp : f.val.policy = some p) :
    (d.ledger.switchOff f.val.id).Free {p} ↔ d.SparesOthers (.apply f false) := by
  rw [Ledger.free_switchOff_iff]
  constructor
  · intro hfree
    have hother : ∀ g ∈ registered, g.effect = .policy p → g.minSdk = .any → g.id ≠ f.val.id →
        d.isOn g = false := by
      intro g hg heffect hany hne
      by_contra hon
      have hon := eq_true_of_ne_false hon
      have hclaim := h.established g hg p heffect (by rw [hany]; exact Nat.zero_le _) hon
      exact hfree _ hclaim hne hon (Finset.mem_singleton_self p)
    refine ⟨fun hf => ?_, fun hf => ?_, fun hf => ?_⟩
    · rw [hf] at hp hother
      obtain rfl := Option.some.inj hp
      exact hother blockConfigMobileNetworksFeature (by decide +kernel) rfl rfl (by decide)
    · rw [hf] at hp hother
      obtain rfl := Option.some.inj hp
      exact hother blockMobileDataFeature (by decide +kernel) rfl rfl (by decide)
    · rintro ⟨hon, hclaim⟩
      rw [hf] at hp hfree
      obtain rfl := Option.some.inj hp
      exact hfree _ hclaim (by decide) hon (Finset.mem_singleton_self _)
  · rintro ⟨hmobile, hconfig, hstore⟩ c hc hne hon hmem
    obtain ⟨o, q⟩ := c
    obtain rfl := Finset.mem_singleton.mp hmem
    rcases h.source _ hc with ⟨g, hg, hid, hpolicy⟩ | ⟨hid, dialer, hq⟩
    · obtain rfl := hid
      have hfg : f.val ≠ g := fun he => hne (by rw [he])
      rcases registered_policy_shared f.val f.property g hg hfg (by rw [hp]; rfl)
        (hp.trans hpolicy.symm) with ⟨hf, rfl⟩ | ⟨hf, rfl⟩
      · exact Bool.false_ne_true ((hmobile hf).symm.trans hon)
      · exact Bool.false_ne_true ((hconfig hf).symm.trans hon)
    · obtain rfl := hid
      obtain rfl := hq
      obtain ⟨hf, rfl⟩ := registered_hides f.val f.property dialer (by rw [hp]; rfl)
      exact hstore hf ⟨hon, hc⟩

/-! ## Actions -/

/-- An action leads where everything enabled is in force exactly if it spares the others, and
then the ledger stays accounted for. -/
def Exact (d d' : Device) (spares : Prop) : Prop :=
  d'.sdkInt = d.sdkInt ∧ (d'.EnabledInForce ↔ spares) ∧
    (spares → Accounted d'.ledger d'.sdkInt)

theorem Exact.ofAccounted {d' : Device} {spares : Prop} (hsdk : d'.sdkInt = d.sdkInt)
    (h : Accounted d'.ledger d.sdkInt) (hs : spares) : Exact d d' spares :=
  ⟨hsdk, iff_of_true h.sound.inForce hs, fun _ => hsdk ▸ h⟩

theorem Exact.ofLift {d' : Device} {l : Ledger String Policy} {rs : Finset Policy} {spares : Prop}
    (hsdk : d'.sdkInt = d.sdkInt) (hd' : d'.ledger = l.lift rs) (h : Accounted l d.sdkInt)
    (hfree : l.Free rs ↔ spares) : Exact d d' spares := by
  refine ⟨hsdk, ?_, fun hs => ?_⟩
  · rw [EnabledInForce, hd', Ledger.inForce_lift_iff h.sound, hfree]
  · rw [hsdk, hd']
    exact h.lift (hfree.mpr hs)

theorem enableBlocking_ledger (d : Device) :
    d.enableBlocking.ledger = d.ledger ∧ d.enableBlocking.sdkInt = d.sdkInt := by
  unfold enableBlocking
  split
  · exact ⟨rfl, rfl⟩
  · split
    · exact ⟨rfl, rfl⟩
    · split <;> exact ⟨rfl, rfl⟩

theorem sdkInt_applyPolicy (d : Device) (f : ProtectionFeature) (enable : Bool) :
    (d.applyPolicy f enable).sdkInt = d.sdkInt := by
  unfold applyPolicy
  split
  · rfl
  · split
    case h_3 => exact d.enableBlocking_ledger.2
    all_goals rfl

/-- `applyPolicy` leaves the persisted states to `setFeatureState`. -/
theorem on_applyPolicy (d : Device) (f : ProtectionFeature) (enable : Bool) :
    (d.applyPolicy f enable).ledger.on = d.ledger.on := by
  unfold applyPolicy
  split
  · rfl
  · split
    case h_3 => rw [d.enableBlocking_ledger.1]
    all_goals rfl

/-- Where `applyPolicy(true)` does not set the feature's policy at once, the ledger stays. -/
theorem ledger_applyPolicy_true (d : Device) (f : ProtectionFeature) :
    (∃ p, f.effect = .policy p ∧ (d.applyPolicy f true).ledger = d.ledger.establish f.id p) ∨
      ((∀ p, f.effect = .policy p → ¬ f.minSdk.toNat ≤ d.sdkInt) ∧
        (d.applyPolicy f true).ledger = d.ledger) := by
  unfold applyPolicy
  by_cases hsdk : d.sdkInt < f.minSdk.toNat
  · rw [if_pos hsdk]
    exact Or.inr ⟨fun _ _ => Nat.not_le.mpr hsdk, rfl⟩
  · rw [if_neg hsdk]
    cases heffect : f.effect with
    | policy p => exact Or.inl ⟨p, rfl, rfl⟩
    | dialer => exact Or.inr ⟨fun p hp => (by cases hp), d.enableBlocking_ledger.1⟩
    | netGuard => exact Or.inr ⟨fun p hp => (by cases hp), rfl⟩
    | vpn => exact Or.inr ⟨fun p hp => (by cases hp), rfl⟩

theorem ledger_applyPolicy_false (d : Device) (f : ProtectionFeature) :
    (∃ p, f.policy = some p ∧ (d.applyPolicy f false).ledger = d.ledger.lift {p}) ∨
      ((f.policy = none ∨ d.sdkInt < f.minSdk.toNat) ∧
        (d.applyPolicy f false).ledger = d.ledger) := by
  unfold applyPolicy ProtectionFeature.policy
  by_cases hsdk : d.sdkInt < f.minSdk.toNat
  · rw [if_pos hsdk]
    exact Or.inr ⟨Or.inr hsdk, rfl⟩
  · rw [if_neg hsdk]
    cases heffect : f.effect with
    | policy p => exact Or.inl ⟨p, rfl, rfl⟩
    | netGuard => exact Or.inl ⟨_, rfl, rfl⟩
    | dialer => exact Or.inr ⟨Or.inl rfl, rfl⟩
    | vpn => exact Or.inr ⟨Or.inl rfl, rfl⟩

theorem exact_apply_true (h : Accounted d.ledger d.sdkInt) (f : Registered) :
    Exact d (d.perform (.apply f true)) (d.SparesOthers (.apply f true)) := by
  refine Exact.ofAccounted (d.sdkInt_applyPolicy f.val true) ?_ trivial
  show Accounted ((d.applyPolicy f.val true).ledger.switchOn f.val.id) d.sdkInt
  rcases d.ledger_applyPolicy_true f.val with ⟨p, heffect, hl⟩ | ⟨hno, hl⟩
  · rw [hl]
    have hpolicy : f.val.policy = some p := by rw [ProtectionFeature.policy, heffect]
    refine (h.establish (Or.inl ⟨f.val, f.property, rfl, hpolicy⟩)).switchOn f.property ?_
    intro q hq _
    obtain rfl := Effect.policy.inj (heffect.symm.trans hq)
    exact List.mem_cons_self
  · rw [hl]
    exact h.switchOn f.property fun p heffect hsdk => absurd hsdk (hno p heffect)

theorem exact_apply_false (h : Accounted d.ledger d.sdkInt) (f : Registered) :
    Exact d (d.perform (.apply f false)) (d.SparesOthers (.apply f false)) := by
  have hperform : (d.perform (.apply f false)).ledger =
      (d.applyPolicy f.val false).ledger.switchOff f.val.id := rfl
  rcases d.ledger_applyPolicy_false f.val with ⟨p, hp, hl⟩ | ⟨hno, hl⟩
  · refine Exact.ofLift (d.sdkInt_applyPolicy f.val false) ?_ (h.switchOff f.val.id)
      (free_switchOff_feature_iff h f hp)
    rw [hperform, hl, Ledger.switchOff_lift]
  · refine Exact.ofAccounted (d.sdkInt_applyPolicy f.val false) ?_ ?_
    · rw [hperform, hl]
      exact h.switchOff f.val.id
    · -- the features named have a policy on every device
      have hne : ∀ g : ProtectionFeature, g.policy ≠ none → g.minSdk = .any → f.val ≠ g := by
        rintro g hpolicy hany rfl
        rcases hno with hnone | hsdk
        · exact hpolicy hnone
        · rw [hany] at hsdk
          exact Nat.not_lt_zero _ hsdk
      exact ⟨fun hf => absurd hf (hne _ (by decide) rfl),
        fun hf => absurd hf (hne _ (by decide) rfl),
        fun hf => absurd hf (hne _ (by decide) rfl)⟩

theorem exact_perform (h : Accounted d.ledger d.sdkInt) (a : Action) :
    Exact d (d.perform a) (d.SparesOthers a) := by
  cases a with
  | apply f enable =>
    cases enable with
    | true => exact exact_apply_true h f
    | false => exact exact_apply_false h f
  | setApplicationHidden packages hidden =>
    cases hidden with
    | true => exact Exact.ofAccounted rfl (h.impose _) trivial
    | false => exact Exact.ofLift rfl rfl h (free_hiddenPolicies_iff h packages)
  | setPackagesSuspended packages suspended => exact Exact.ofAccounted rfl h trivial
  | setBlockedAppPackages packages => exact Exact.ofAccounted rfl h trivial
  | setSuspendedAppPackages packages => exact Exact.ofAccounted rfl h trivial
  | setOriginalDialerPackage dialer => exact Exact.ofAccounted rfl h trivial
  | hideDialer dialer =>
    exact Exact.ofAccounted rfl (h.establish (Or.inr ⟨rfl, dialer, rfl⟩)) trivial
  | restoreDialer =>
    show Exact d d.restoreDialer True
    unfold restoreDialer
    split
    · exact Exact.ofAccounted rfl h trivial
    · exact Exact.ofAccounted rfl h trivial
  | unhideDialer dialer => exact Exact.ofLift rfl rfl h (free_hiddenPolicies_iff h {dialer})
  | blockUninstall =>
    refine Exact.ofAccounted rfl (h.establish (Or.inl ?_)) trivial
    exact ⟨installAndProtectNetGuardFeature, by decide +kernel, rfl, rfl⟩

/-! ## Steps -/

theorem exact_step (h : Accounted d.ledger d.sdkInt) (i : Input) :
    Exact d (d.step i) (d.StepSparesOthers i) := by
  cases i with
  | start op => exact Exact.ofAccounted rfl h trivial
  | run k =>
    show Exact d (d.runNext k) (∀ a ∈ d.next k, d.SparesOthers a)
    unfold runNext
    cases hnext : d.next k with
    | none => exact Exact.ofAccounted rfl h (by simp)
    | some a =>
      obtain ⟨hsdk, hforce, hkeep⟩ := exact_perform (d := d.advance k) h a
      refine ⟨hsdk, hforce.trans ⟨?_, fun hs => hs a rfl⟩, fun hs => hkeep (hs a rfl)⟩
      intro hs b hb
      obtain rfl := Option.some.inj hb
      exact hs
  | defaultDialerChanged dialer => exact Exact.ofAccounted rfl h trivial
  | noPhoneChanged installed => exact Exact.ofAccounted rfl h trivial

/-! ## Runs -/

/-- No feature is on, and no app is blocked. -/
def unconfigured (sdkInt : Nat) (defaultDialer : Option Package) : Device :=
  ⟨Ledger.empty, sdkInt, ∅, ∅, none, ∅, defaultDialer, false, []⟩

/-- The toggles of the settings with these features on. -/
def toggled (on : List ProtectionFeature) (id : String) : Bool := on.any fun f => f.id = id

/-- Both features for mobile networks are switched on, saved, and one of them switched off
again: the restriction is cleared though the other one is on. -/
theorem enabledInForce_lost :
    ¬ EveryState step EnabledInForce (unconfigured 34 none)
      [.start (.saveChanges (toggled [])
          (toggled [blockMobileDataFeature, blockConfigMobileNetworksFeature])), .run 0, .run 0,
        .start (.saveChanges (toggled [blockMobileDataFeature, blockConfigMobileNetworksFeature])
          (toggled [blockConfigMobileNetworksFeature])), .run 1] := by
  decide +kernel

/-- **In every state of a run what the enabled features have established is in force, exactly
if every step spares the features still on.** -/
theorem enabledInForce_iff (d : Device) (hd : d.Fresh) (inputs : List Input) :
    EveryState step EnabledInForce d inputs ↔ EveryStep step StepSparesOthers d inputs := by
  have hgives : ∀ e : Device, Accounted e.ledger e.sdkInt → e.EnabledInForce :=
    fun _ h => h.sound.inForce
  exact everyState_iff_everyStep hgives (fun _ i h => (exact_step h i).2.1)
    (fun _ i h => (exact_step h i).2.2) (Accounted.ofFresh hd) inputs

/-- The Play Store and incoming calls are blocked, an app is blocked and unblocked, and the
calls are let through again. -/
theorem enabledInForce_playStore :
    EveryState step EnabledInForce (unconfigured 34 (some "com.android.dialer"))
      [.start (.saveChanges (toggled [])
          (toggled [blockPlayStoreFeature, blockIncomingCallsFeature])), .run 0, .run 0, .run 1,
        .run 1, .start (.saveAndApplyChanges {"com.example.app"} ∅), .run 2, .run 2, .run 2,
        .run 2, .run 2, .start (.unblockSelectedApps {"com.example.app"}), .run 3, .run 3,
        .start (.saveChanges (toggled [blockPlayStoreFeature, blockIncomingCallsFeature])
          (toggled [blockPlayStoreFeature])), .run 4, .run 5, .run 6, .run 6] :=
  (enabledInForce_iff _ ⟨rfl, fun _ => rfl⟩ _).mpr (by decide +kernel)

end Device

end SecureGuard.Mdm
