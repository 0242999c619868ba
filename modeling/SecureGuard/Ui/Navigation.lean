import Mathlib.Data.List.Basic
import SecureGuard.Lib.Machine

/-! # The activity, its screens and the kiosk

`MainActivity` is exported: whoever starts it chooses the intent. Every start
makes an instance of its own, with a back stack of screens that `AppNavigation` links to each
other. The dashboard and the kiosk ask for the password; what `verifyPassword` answers comes
with the step that brings the answer. `NavHost` comes from a library: the screens it begins with,
for an intent and a start destination, are a parameter. -/

namespace SecureGuard.Ui

/-! ## Routes -/

inductive Route
  | provisioning
  | setup
  | dashboard
  | settings
  | changePassword
  | appSelection
  | blockedAppsDisplay
  | frpSettings
  | kioskManagement
  | kioskAppSelection
  | astore
  | astoreSettings
  | vpnControl
  | vpnConnections
  | vpnRules
  | vpnTracks
  | appFirewall
  | logs
  | uninstallBlocker
deriving DecidableEq, Repr

namespace Route

/-- The string of a route in `Routes`. -/
def name : Route → String
  | provisioning => "provisioning"
  | setup => "setup"
  | dashboard => "dashboard"
  | settings => "settings"
  | changePassword => "change_password"
  | appSelection => "app_selection"
  | blockedAppsDisplay => "blocked_apps_display"
  | frpSettings => "frp_settings"
  | kioskManagement => "kiosk_management"
  | kioskAppSelection => "kiosk_app_selection"
  | astore => "astore"
  | astoreSettings => "astore_settings"
  | vpnControl => "vpn_control"
  | vpnConnections => "vpn_connections"
  | vpnRules => "vpn_rules"
  | vpnTracks => "vpn_tracks"
  | appFirewall => "app_firewall"
  | logs => "logs"
  | uninstallBlocker => "uninstall_blocker"

/-- The screens that a screen navigates to of its own accord; the dashboard's way to the
settings is not among them. -/
def links : Route → List Route
  | dashboard => [astore, logs]
  | settings =>
    [appSelection, blockedAppsDisplay, astoreSettings, kioskManagement, frpSettings,
      changePassword, vpnControl, appFirewall, uninstallBlocker, logs]
  | kioskManagement => [kioskAppSelection]
  | vpnControl => [vpnConnections, vpnRules, vpnTracks]
  | _ => []

/-- The screens on which the policy, or what it rests on, is changed. Once a password is set, the
setup overwrites it. -/
def changesPolicy (isSetupComplete : Bool) : Route → Bool
  | settings | changePassword | appSelection | blockedAppsDisplay | frpSettings
  | kioskManagement | kioskAppSelection | astoreSettings | vpnControl | vpnRules | vpnTracks
  | appFirewall | uninstallBlocker => true
  | setup => isSetupComplete
  | provisioning | dashboard | astore | vpnConnections | logs => false

end Route

/-! ## The activity -/

/-- What the settings repository and the device say. -/
structure Prefs where
  isAdmin : Bool
  isSetupComplete : Bool
  isKioskModeEnabled : Bool
  isSettingsLocked : Bool
  coreComponentExists : Bool
deriving DecidableEq, Repr

/-- The value of an extra; a string that is `null` is one of the others. -/
inductive Extra
  | string (value : String)
  | boolean (value : Bool)
  | other
deriving DecidableEq, Repr

/-- An intent: its data, and its extras, each under its name. -/
structure Intent where
  data : Option String
  extras : List (String × Extra)
deriving DecidableEq, Repr

namespace Intent

/-- A value of another type counts as missing. -/
def getStringExtra (intent : Intent) (name : String) : Option String :=
  match intent.extras.lookup name with
  | some (.string value) => some value
  | _ => none

def getBooleanExtra (intent : Intent) (name : String) (defaultValue : Bool) : Bool :=
  match intent.extras.lookup name with
  | some (.boolean value) => value
  | _ => defaultValue

def startDestinationOverride (intent : Intent) : Option String :=
  intent.getStringExtra "start_destination"

def isFromKiosk (intent : Intent) : Bool := intent.getBooleanExtra "is_from_kiosk" false

/-- The intent with which the kiosk starts `MainActivity`. -/
def fromKiosk (route : Route) : Intent :=
  ⟨none, [("start_destination", .string route.name), ("is_from_kiosk", .boolean true)]⟩

end Intent

/-- The dashboard's view model: two flags of its state, the values `loadInitialState` has read
and not yet shown, and the passwords under verification. -/
structure Dashboard where
  isSettingsButtonVisible : Bool
  isPasswordPromptVisible : Bool
  loading : List Bool
  verifying : Nat
deriving DecidableEq, Repr

def Dashboard.init : Dashboard := ⟨true, false, [], 0⟩

/-- An instance of `MainActivity`, with the start destination of its `NavHost` and the screens, the
one on top first; none is left where it has finished. `locking` says that its settings have been
locked and not left yet. No code reads `verified`: `verifyPassword` has succeeded in this
instance, or in the kiosk that started it. -/
structure Main where
  intent : Intent
  destination : String
  backStack : List Route
  dashboard : Dashboard
  locking : Bool
  verified : Bool
deriving DecidableEq, Repr

/-- The kiosk's dialogs, and the passwords under verification. No code reads `verified`. -/
structure Kiosk where
  showPasswordDialog : Bool
  showSettingsChoiceDialog : Bool
  verifying : Nat
  verified : Bool
deriving DecidableEq, Repr

def Kiosk.init : Kiosk := ⟨false, false, 0, false⟩

structure App where
  prefs : Prefs
  mains : List Main
  kiosk : Kiosk
deriving DecidableEq, Repr

/-! ## Starting the activity -/

/-- The screens `NavHost` begins with, for the activity's intent and a start destination: data, or
extras of the library's own, may make it open another one. It throws where there are none. -/
abbrev NavHost := Intent → String → List Route

/-- Where `AppNavigation` starts. -/
def startDestination (prefs : Prefs) (startDestinationOverride : Option String) : String :=
  match startDestinationOverride with
  | some route => route
  | none =>
    if ! prefs.isAdmin then Route.provisioning.name
    else if ! prefs.isSetupComplete then Route.setup.name
    else Route.dashboard.name

section NavHost

variable (navHost : NavHost)

def Main.start (prefs : Prefs) (intent : Intent) (verified : Bool) : Main :=
  let destination := startDestination prefs intent.startDestinationOverride
  ⟨intent, destination, navHost intent destination, Dashboard.init, false, verified⟩

/-- With kiosk mode on, only an intent without a start destination is handed to the kiosk. -/
def App.onCreate (s : App) (intent : Intent) (verified : Bool) : App :=
  if intent.startDestinationOverride = none ∧ s.prefs.isKioskModeEnabled = true then s
  else if s.prefs.coreComponentExists = false then s
  else { s with mains := s.mains ++ [Main.start navHost s.prefs intent verified] }

end NavHost

/-! ## The screens -/

inductive ScreenEvent
  | navigateTo (route : Route)
  /-- The screen's own way back, and the system's. -/
  | navigateBack
  | systemBack
  | finish
  | checkAgain
  | setupComplete
  /-- `loadInitialState` reads, and shows what it has read. -/
  | load
  | loaded
  | settingsClicked
  | passwordEntered
  | passwordVerified (verified : Bool)
  | dismissPasswordPrompt
  /-- `lockSettings` writes, and leaves the settings. -/
  | lockSettings
  | settingsLocked
deriving DecidableEq, Repr

namespace Main

def top (m : Main) : Option Route := m.backStack.head?

def pop (m : Main) : Main := { m with backStack := m.backStack.tail }

/-- Kiosk management returns to the kiosk that opened it. -/
def onNavigateBack (m : Main) : Main :=
  if m.top = some .kioskManagement ∧ m.intent.isFromKiosk = true then { m with backStack := [] }
  else m.pop

def navigateTo (m : Main) (route : Route) : Main :=
  if ∃ r ∈ m.top, route ∈ r.links then { m with backStack := route :: m.backStack } else m

/-- The start destination is determined anew, and is another one. -/
def startsOver (m : Main) (prefs : Prefs) : Prop :=
  m.top = some .provisioning ∧
    startDestination prefs m.intent.startDestinationOverride ≠ m.destination

instance (m : Main) (prefs : Prefs) : Decidable (m.startsOver prefs) :=
  inferInstanceAs (Decidable (_ ∧ _))

def startOver (navHost : NavHost) (m : Main) (prefs : Prefs) : Main :=
  let destination := startDestination prefs m.intent.startDestinationOverride
  { m with
    destination := destination
    backStack := navHost m.intent destination
    dashboard := Dashboard.init }

def checkAgain (navHost : NavHost) (m : Main) (prefs : Prefs) : Main :=
  if m.startsOver prefs then m.startOver navHost prefs else m

def setupComplete (m : Main) : Main :=
  if m.top = some .setup then
    { m with backStack := .dashboard :: m.backStack.tail, dashboard := Dashboard.init }
  else m

def settingsClicked (m : Main) : Main :=
  if m.top = some .dashboard ∧ m.dashboard.isSettingsButtonVisible = true then
    { m with dashboard := { m.dashboard with isPasswordPromptVisible := true } }
  else m

def passwordEntered (m : Main) : Main :=
  if m.top = some .dashboard ∧ m.dashboard.isPasswordPromptVisible = true then
    { m with dashboard := { m.dashboard with verifying := m.dashboard.verifying + 1 } }
  else m

/-- The navigation event reaches the dashboard only while it is on screen. -/
def passwordVerified (m : Main) (verified : Bool) : Main :=
  if m.dashboard.verifying = 0 then m
  else
    let d := { m.dashboard with verifying := m.dashboard.verifying - 1 }
    if verified then
      { m with
        dashboard := { d with isPasswordPromptVisible := false }
        backStack :=
          if m.top = some .dashboard then .settings :: m.backStack else m.backStack
        verified := true }
    else { m with dashboard := d }

def loaded (m : Main) : Main :=
  match m.dashboard.loading with
  | [] => m
  | visible :: rest =>
    { m with
      dashboard := { m.dashboard with isSettingsButtonVisible := visible, loading := rest } }

def lockSettings (m : Main) : Main :=
  if m.top = some .settings then { m with locking := true } else m

/-- `NavigateBack` reaches the settings only while they are on screen. -/
def settingsLocked (m : Main) : Main :=
  if m.locking = false then m
  else if m.top = some .settings then { m.pop with locking := false }
  else { m with locking := false }

def on (navHost : NavHost) (m : Main) (prefs : Prefs) : ScreenEvent → Main
  | .navigateTo route => m.navigateTo route
  | .navigateBack => m.onNavigateBack
  | .systemBack => m.pop
  | .finish => { m with backStack := [] }
  | .checkAgain => m.checkAgain navHost prefs
  | .setupComplete => m.setupComplete
  | .load =>
    { m with
      dashboard :=
        { m.dashboard with loading := m.dashboard.loading ++ [! prefs.isSettingsLocked] } }
  | .loaded => m.loaded
  | .settingsClicked => m.settingsClicked
  | .passwordEntered => m.passwordEntered
  | .passwordVerified verified => m.passwordVerified verified
  | .dismissPasswordPrompt =>
    { m with dashboard := { m.dashboard with isPasswordPromptVisible := false } }
  | .lockSettings => m.lockSettings
  | .settingsLocked => m.settingsLocked

/-- What an event writes. -/
def writes (m : Main) (prefs : Prefs) : ScreenEvent → Prefs
  | .setupComplete =>
    if m.top = some .setup then { prefs with isSetupComplete := true } else prefs
  | .lockSettings =>
    if m.top = some .settings then { prefs with isSettingsLocked := true } else prefs
  | _ => prefs

end Main

/-! ## The kiosk -/

inductive SettingsChoice
  | kiosk
  | dashboard
deriving DecidableEq, Repr

inductive KioskEvent
  | create
  | settingsClicked
  | dismissPassword
  | passwordConfirmed
  | passwordVerified (verified : Bool)
  | dismissChoice
  | choice (c : SettingsChoice)
  | astoreClicked
deriving DecidableEq, Repr

/-- The screen that is chosen. -/
def SettingsChoice.route : SettingsChoice → Route
  | .kiosk => .kioskManagement
  | .dashboard => .dashboard

namespace Kiosk

def passwordConfirmed (k : Kiosk) : Kiosk :=
  if k.showPasswordDialog = true then { k with verifying := k.verifying + 1 } else k

def passwordVerified (k : Kiosk) (verified : Bool) : Kiosk :=
  if k.verifying = 0 then k
  else if verified then
    { k with
      showPasswordDialog := false
      showSettingsChoiceDialog := true
      verifying := k.verifying - 1
      verified := true }
  else { k with verifying := k.verifying - 1 }

end Kiosk

namespace App

variable (navHost : NavHost)

def chooses (s : App) (c : SettingsChoice) : App :=
  if s.kiosk.showSettingsChoiceDialog = true then
    { s with kiosk := { s.kiosk with showSettingsChoiceDialog := false } }.onCreate navHost
      (.fromKiosk c.route) s.kiosk.verified
  else s

def onKiosk (s : App) : KioskEvent → App
  | .create => { s with kiosk := Kiosk.init }
  | .settingsClicked => { s with kiosk := { s.kiosk with showPasswordDialog := true } }
  | .dismissPassword => { s with kiosk := { s.kiosk with showPasswordDialog := false } }
  | .passwordConfirmed => { s with kiosk := s.kiosk.passwordConfirmed }
  | .passwordVerified verified => { s with kiosk := s.kiosk.passwordVerified verified }
  | .dismissChoice => { s with kiosk := { s.kiosk with showSettingsChoiceDialog := false } }
  | .choice c => s.chooses navHost c
  | .astoreClicked => s.onCreate navHost (.fromKiosk .astore) false

/-! ## Steps -/

def onScreen (s : App) (k : Nat) (e : ScreenEvent) : App :=
  match s.mains[k]? with
  | none => s
  | some m =>
    { s with prefs := m.writes s.prefs e, mains := s.mains.set k (m.on navHost s.prefs e) }

end App

/-- An intent is delivered to `MainActivity`, something happens in one of its instances or in
the kiosk, or a setting changes that is written elsewhere. -/
inductive Input
  | intent (intent : Intent)
  | screen (k : Nat) (e : ScreenEvent)
  | kiosk (e : KioskEvent)
  | setAdmin (isAdmin : Bool)
  | setSetupComplete
  | setKioskModeEnabled (enabled : Bool)
  | setCoreComponentExists (coreComponentExists : Bool)
deriving DecidableEq, Repr

def step (navHost : NavHost) (s : App) : Input → App
  | .intent intent => s.onCreate navHost intent false
  | .screen k e => s.onScreen navHost k e
  | .kiosk e => s.onKiosk navHost e
  | .setAdmin isAdmin => { s with prefs := { s.prefs with isAdmin := isAdmin } }
  | .setSetupComplete => { s with prefs := { s.prefs with isSetupComplete := true } }
  | .setKioskModeEnabled enabled =>
    { s with prefs := { s.prefs with isKioskModeEnabled := enabled } }
  | .setCoreComponentExists coreComponentExists =>
    { s with prefs := { s.prefs with coreComponentExists := coreComponentExists } }

/-- Nothing has been started. -/
def App.init (prefs : Prefs) : App := ⟨prefs, [], Kiosk.init⟩

end SecureGuard.Ui
