import SecureGuard.Ui.Navigation

/-! # The password gate

The dashboard asks for the password before the settings, and hides their button while they are
locked; the kiosk asks for it before it offers its own management. `MainActivity` asks for
nothing: it starts where the intent tells it to. -/

namespace SecureGuard.Ui

open Machine

def Main.ShowsPolicyScreen (m : Main) (prefs : Prefs) : Prop :=
  ∃ r ∈ m.top, r.changesPolicy prefs.isSetupComplete = true

/-- After the step only an instance whose session has seen the password shows a screen that
changes policy, kiosk mode or not; and none comes to such a screen while the settings are
locked. -/
def Gate (s s' : App) : Prop :=
  ∀ (k : Nat) (m : Main), s'.mains[k]? = some m → m.ShowsPolicyScreen s'.prefs →
    m.verified = true ∧
      (s.mains[k]?.map Main.backStack ≠ some m.backStack → s.prefs.isSettingsLocked = false)

def Gated (navHost : NavHost) (s : App) (i : Input) : Prop := Gate s (step navHost s i)

/-! ## The guard -/

/-- The settings are locked, or the session has not seen the password. -/
def Main.Barred (m : Main) (prefs : Prefs) : Prop :=
  prefs.isSettingsLocked = true ∨ m.verified = false

/-- The event does not lead to a screen that changes policy: while the settings are locked, no
item of such a screen is opened and no password verified takes the dashboard to the settings;
and then, as in a session without the password, no way back ends on one and `NavHost` does not
start over with one. -/
def Main.StaysOut (navHost : NavHost) (m : Main) (prefs : Prefs) : ScreenEvent → Prop
  | .navigateTo route =>
    prefs.isSettingsLocked = true → (∃ r ∈ m.top, route ∈ r.links) →
      route.changesPolicy prefs.isSetupComplete = false
  | .navigateBack =>
    m.Barred prefs →
      (m.top = some .kioskManagement ∧ m.intent.isFromKiosk = true) ∨
        ¬ m.pop.ShowsPolicyScreen prefs
  | .systemBack => m.Barred prefs → ¬ m.pop.ShowsPolicyScreen prefs
  | .settingsLocked =>
    prefs.isSettingsLocked = true → m.locking = true → m.top = some .settings →
      ¬ m.pop.ShowsPolicyScreen prefs
  | .checkAgain =>
    m.Barred prefs → m.startsOver prefs →
      ∀ r ∈ (navHost m.intent (startDestination prefs m.intent.startDestinationOverride)).head?,
        r.changesPolicy prefs.isSetupComplete = false
  | .passwordVerified true =>
    prefs.isSettingsLocked = true → m.top = some .dashboard → m.dashboard.verifying = 0
  | _ => True

/-- No other instance shows the setup without the password. -/
def App.CompletesAlone (s : App) (k : Nat) : Prop :=
  (∃ m ∈ s.mains[k]?, m.top = some .setup) →
    ∀ j ≠ k, ∀ m ∈ s.mains[j]?, m.top = some .setup → m.verified = true

/-- For no intent `NavHost` begins with a screen that changes policy; the setup is completed
while no other instance shows it; while the settings are locked the kiosk's management is not
chosen in its dialog; and no instance is led to such a screen. -/
def Guarded (navHost : NavHost) (s : App) : Input → Prop
  | .intent intent =>
    ¬ (intent.startDestinationOverride = none ∧ s.prefs.isKioskModeEnabled = true) →
      s.prefs.coreComponentExists = true →
        ∀ r ∈ (navHost intent
            (startDestination s.prefs intent.startDestinationOverride)).head?,
          r.changesPolicy s.prefs.isSetupComplete = false
  | .kiosk (.choice .kiosk) =>
    s.prefs.coreComponentExists = true → s.kiosk.showSettingsChoiceDialog = true →
      s.prefs.isSettingsLocked = false
  | .screen k e =>
    (∀ m ∈ s.mains[k]?, m.StaysOut navHost s.prefs e) ∧
      (e = .setupComplete → s.CompletesAlone k)
  | .setSetupComplete => ∀ m ∈ s.mains, m.top = some .setup → m.verified = true
  | _ => True

/-- What a run keeps: the sessions that show such a screen, and the kiosk's whose dialog is open,
have seen the password. -/
structure App.Sound (s : App) : Prop where
  mains : ∀ m ∈ s.mains, m.ShowsPolicyScreen s.prefs → m.verified = true
  kiosk : s.kiosk.showSettingsChoiceDialog = true → s.kiosk.verified = true

namespace Main

variable {navHost : NavHost} {m m' : Main} {prefs prefs' : Prefs}

/-! ## Screens that change policy -/

/-- From `m` the instance passes the gate to `m'`. -/
def Passes (prefs : Prefs) (m m' : Main) : Prop :=
  m'.ShowsPolicyScreen prefs →
    m'.verified = true ∧ (m.backStack ≠ m'.backStack → prefs.isSettingsLocked = false)

end Main

/-! ## Steps -/

variable {navHost : NavHost} {s : App}

theorem App.Sound.closeChoice (h : s.Sound) :
    App.Sound { s with kiosk := { s.kiosk with showSettingsChoiceDialog := false } } :=
  ⟨h.mains, fun hno => by cases hno⟩

theorem App.Sound.kiosk_onKiosk (h : s.Sound) (e : KioskEvent) :
    (s.onKiosk navHost e).kiosk.showSettingsChoiceDialog = true →
      (s.onKiosk navHost e).kiosk.verified = true := by
  have honCreate (s : App) (intent : Intent) (verified : Bool) :
      (s.onCreate navHost intent verified).kiosk = s.kiosk := by
    unfold App.onCreate
    split
    · rfl
    · split <;> rfl
  cases e with
  | create =>
    intro hno
    cases hno
  | settingsClicked | dismissPassword => exact h.kiosk
  | passwordConfirmed =>
    show s.kiosk.passwordConfirmed.showSettingsChoiceDialog = true →
      s.kiosk.passwordConfirmed.verified = true
    unfold Kiosk.passwordConfirmed
    split <;> exact h.kiosk
  | passwordVerified verified =>
    show (s.kiosk.passwordVerified verified).showSettingsChoiceDialog = true →
      (s.kiosk.passwordVerified verified).verified = true
    unfold Kiosk.passwordVerified
    split
    · exact h.kiosk
    · split
      · exact fun _ => rfl
      · exact h.kiosk
  | dismissChoice => exact h.closeChoice.kiosk
  | choice c =>
    show (s.chooses navHost c).kiosk.showSettingsChoiceDialog = true →
      (s.chooses navHost c).kiosk.verified = true
    unfold App.chooses
    split
    · rw [honCreate]
      exact h.closeChoice.kiosk
    · exact h.kiosk
  | astoreClicked =>
    show (s.onCreate navHost _ false).kiosk.showSettingsChoiceDialog = true →
      (s.onCreate navHost _ false).kiosk.verified = true
    rw [honCreate]
    exact h.kiosk

theorem App.Sound.step (h : s.Sound) {i : Input} (hgated : Gated navHost s i) :
    (step navHost s i).Sound := by
  refine ⟨fun m hm hshows => ?_, ?_⟩
  · obtain ⟨k, hk⟩ := List.mem_iff_getElem?.mp hm
    exact (hgated k m hk hshows).1
  · cases i with
    | intent intent =>
      show (s.onCreate navHost intent false).kiosk.showSettingsChoiceDialog = true →
        (s.onCreate navHost intent false).kiosk.verified = true
      unfold App.onCreate
      split
      · exact h.kiosk
      · split <;> exact h.kiosk
    | screen k e =>
      show (s.onScreen navHost k e).kiosk.showSettingsChoiceDialog = true →
        (s.onScreen navHost k e).kiosk.verified = true
      unfold App.onScreen
      split <;> exact h.kiosk
    | kiosk e => exact h.kiosk_onKiosk e
    | setAdmin | setSetupComplete | setKioskModeEnabled | setCoreComponentExists => exact h.kiosk

end SecureGuard.Ui
