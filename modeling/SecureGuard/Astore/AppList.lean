import SecureGuard.Lib.Machine

/-! # The list of the store's apps

The list shows the installed apps that have an update and the custom packages of the settings. It
is loaded from a cache, and put together anew with every refresh, by coroutines that go on after
each answer of the package manager, of the settings and of the store. -/

namespace SecureGuard.Astore

/-! ## Apps -/

inductive DownloadSource
  | apkpure
  | apkMirror
  | playStore
  | storeKit
  | apkcombo
  | aptoide
  | fdroid
  | apkFollow
  | uptodown
  | evozi
deriving DecidableEq, Repr

structure SourceAvailability where
  source : DownloadSource
  isAvailable : Bool
  downloadUrl : Option String
  versionName : Option String
  size : Int
  originalSource : Option String
deriving DecidableEq, Repr

structure AppMetadata where
  packageName : String
  title : String
  versionName : String
  versionCode : Int
  iconUrl : Option String := none
  isInstalled : Bool := false
  updateAvailable : Bool := false
  isDownloading : Bool := false
  downloadProgress : Int := 0
  selectedSource : DownloadSource := .storeKit
  availableSources : List SourceAvailability := []
  isCustomPackage : Bool := false
deriving DecidableEq, Repr

def names (apps : List AppMetadata) : List String := apps.map (·.packageName)

/-- The packages with a custom entry. -/
def customNames (apps : List AppMetadata) : List String :=
  names (apps.filter (·.isCustomPackage))

/-- `takeIf { it.isNotEmpty() }`. -/
def nonEmpty (text : Option String) : Option String := text.filter (· ≠ "")

/-- A source as it is read back from the cache. -/
def SourceAvailability.cached (source : SourceAvailability) : SourceAvailability :=
  { source with
    downloadUrl := nonEmpty source.downloadUrl
    versionName := nonEmpty source.versionName
    originalSource := nonEmpty source.originalSource }

/-- An app as it is read back from the cache. -/
def AppMetadata.cached (app : AppMetadata) : AppMetadata :=
  { app with
    iconUrl := nonEmpty app.iconUrl
    isDownloading := false
    downloadProgress := 0
    availableSources := app.availableSources.map (·.cached) }

/-- `updateCachedApp`: the first entry of the package is replaced, or one is added. -/
def updateCachedApp (app : AppMetadata) : List AppMetadata → List AppMetadata
  | [] => [app.cached]
  | c :: cache =>
    if c.packageName = app.packageName then app.cached :: cache
    else c :: updateCachedApp app cache

/-! ## Installed apps -/

/-- An activity that the launcher shows, with the version of its package if there is any. -/
structure ResolveInfo where
  packageName : String
  label : String
  pkgInfo : Option (Option String × Int)
deriving DecidableEq, Repr

def ResolveInfo.app (info : ResolveInfo) : AppMetadata where
  packageName := info.packageName
  title := info.label
  versionName := (info.pkgInfo.bind (·.1)).getD ""
  versionCode := info.pkgInfo.elim 0 (·.2)
  isInstalled := true

/-- The first app of each package. -/
def distinctBy : List AppMetadata → List AppMetadata
  | [] => []
  | app :: apps => app :: (distinctBy apps).filter fun a => a.packageName ≠ app.packageName

def nonUpdatablePrefixes : List String :=
  ["com.android.settings", "com.android.dialer", "com.android.contacts", "com.android.phone",
    "com.android.systemui", "com.android.launcher", "com.android.documentsui",
    "com.android.providers.", "com.android.inputmethod", "com.android.shell", "com.android.nfc",
    "com.android.bluetooth", "com.android.printspooler", "com.android.stk",
    "com.android.cellbroadcast", "com.android.emergency", "com.android.traceur",
    "com.android.wallpaper", "com.android.storagemanager", "com.android.vpndialogs",
    "com.android.soundrecorder", "com.android.bips"]

def isNonUpdatableSystemApp (packageName : String) : Bool :=
  nonUpdatablePrefixes.any fun start => start.toList.isPrefixOf packageName.toList

/-- `appList`; `own` is the package of the application. -/
def appList (own : String) (activities : List ResolveInfo) (incompatibleApps : List String) :
    List AppMetadata :=
  (distinctBy (activities.map (·.app))).filter fun app =>
    app.packageName ≠ own && !isNonUpdatableSystemApp app.packageName &&
      app.packageName ∉ incompatibleApps

/-- A new app, with what its entry in the list knows. -/
def mergeApp (apps : List AppMetadata) (newApp : AppMetadata) : AppMetadata :=
  (apps.find? fun app => app.packageName = newApp.packageName).elim newApp fun existingApp =>
    { newApp with
      updateAvailable := existingApp.updateAvailable
      versionName :=
        if existingApp.updateAvailable then existingApp.versionName else newApp.versionName
      iconUrl := existingApp.iconUrl.or newApp.iconUrl
      selectedSource := existingApp.selectedSource
      availableSources := existingApp.availableSources }

/-! ## Custom packages -/

/-- What the store answers about a package, with the sources for it. -/
inductive Details
  | null (availableSources : List SourceAvailability)
  | found (title versionName : String) (versionCode : Int) (iconUrl : Option String)
      (availableSources : List SourceAvailability)
  | exception
deriving DecidableEq, Repr

def basicEntry (packageName : String) : AppMetadata where
  packageName := packageName
  title := packageName
  versionName := ""
  versionCode := 0
  isCustomPackage := true

/-- `getCustomPackageDetails`, with the sources. -/
def foundEntry (packageName title versionName : String) (versionCode : Int)
    (iconUrl : Option String) (availableSources : List SourceAvailability) : AppMetadata where
  packageName := packageName
  title := title
  versionName := versionName
  versionCode := versionCode
  iconUrl := iconUrl
  availableSources := availableSources
  isCustomPackage := true

/-- The entry `loadCustomPackages` makes. -/
def Details.customApp (packageName : String) : Details → Option AppMetadata
  | .null _ => none
  | .found title versionName versionCode iconUrl availableSources =>
    some (foundEntry packageName title versionName versionCode iconUrl availableSources)
  | .exception => some (basicEntry packageName)

/-- The entry `loadCustomPackageDetailSilently` makes. -/
def Details.finalApp (packageName : String) : Details → Option AppMetadata
  | .null availableSources =>
    some { basicEntry packageName with availableSources := availableSources }
  | .found title versionName versionCode iconUrl availableSources =>
    some (foundEntry packageName title versionName versionCode iconUrl availableSources)
  | .exception => none

/-! ## Updates -/

/-- A whitespace of Unicode, or a control character that separates. -/
def isWhitespace (c : Char) : Bool :=
  c.toNat ∈ [0x20, 0xA0, 0x1680, 0x2028, 0x2029, 0x202F, 0x205F, 0x3000] ||
    (0x9 ≤ c.toNat && c.toNat ≤ 0xD) || (0x1C ≤ c.toNat && c.toNat ≤ 0x1F) ||
    (0x2000 ≤ c.toNat && c.toNat ≤ 0x200A)

def trim (text : List Char) : List Char :=
  ((text.dropWhile isWhitespace).reverse.dropWhile isWhitespace).reverse

def removePrefix (start text : List Char) : List Char :=
  if start.isPrefixOf text then text.drop start.length else text

def cleanTitle (title : String) : String :=
  let cleaned := trim title.toList
  let stripped :=
    if "download ".toList.isPrefixOf (cleaned.map Char.toLower) then
      removePrefix "download ".toList (removePrefix "Download ".toList cleaned)
    else cleaned
  String.ofList (trim stripped)

/-- An app is marked if there is an update for it, and hidden if not. -/
def applyUpdate (updates : List AppMetadata) (app : AppMetadata) : Option AppMetadata :=
  if app.isCustomPackage then some app
  else (updates.find? fun update => update.packageName = app.packageName).map fun update =>
    { app with
      updateAvailable := true
      title := cleanTitle (if update.title = "" then app.title else update.title)
      versionName := update.versionName
      iconUrl := update.iconUrl.or app.iconUrl }

/-! ## The view model -/

/-- A coroutine, with what it waits for. -/
inductive Coroutine
  /-- `loadInstalledAppsInternal`: the installed apps. -/
  | loading
  /-- `loadCustomPackages`: the settings. -/
  | customs
  /-- `loadCustomPackages`: the details of these packages. -/
  | fetching (packagesToFetch : List String)
  /-- `checkForUpdatesWithSources`: the updates. -/
  | checking
  /-- `addCustomPackage`: the settings, as they are and once they are saved. -/
  | adding (packageName : String)
  | addSaving (packageName : String) (currentPackages : List String)
  /-- `loadCustomPackageDetailSilently`: the details. -/
  | detailing (packageName : String)
  /-- `removeCustomPackage`: the settings, as they are and once they are saved. -/
  | removing (packageName : String)
  | removeSaving (packageName : String) (currentPackages : List String)
  | ended
deriving DecidableEq

/-- What a coroutine is answered. -/
inductive Answer
  | installed (activities : List ResolveInfo) (incompatibleApps : List String)
  | settings
  | details (answer : String → Details)
  | updates (updates : List AppMetadata)

/-- The list, the cache, the settings, the coroutines, and the packages that are shown by a custom
entry, or were and have not been removed since. -/
structure AppStore where
  apps : List AppMetadata
  cache : List AppMetadata
  customPackages : List String
  coroutines : List Coroutine
  shown : List String

/-- A step: a new view model with a valid or an old cache, a call, a status update of the list, or
the answer a coroutine waits for. -/
inductive AppAction
  | start (isCacheValid : Bool)
  | refreshApps
  | addCustomPackage (packageName : String)
  | removeCustomPackage (packageName : String)
  | selectSource (packageName : String) (source : DownloadSource)
  | sourcesChecked (packageName : String) (sources : List SourceAvailability)
  | updateAppProgress (packageName : String) (progress : Int) (isDownloading : Bool)
  | updateAppInstalledState (packageName : String)
  | resume (i : Nat) (answer : Answer)

namespace AppStore

def launch (s : AppStore) (c : Coroutine) : AppStore := { s with coroutines := s.coroutines ++ [c] }

def goOn (s : AppStore) (i : Nat) (c : Coroutine) : AppStore :=
  { s with coroutines := s.coroutines.set i c }

/-- One app of the list is changed. -/
def mapApp (s : AppStore) (packageName : String) (f : AppMetadata → AppMetadata) : AppStore :=
  { s with apps := s.apps.map fun app => if app.packageName = packageName then f app else app }

/-- `saveAppsToCache`. -/
def save (s : AppStore) : AppStore := { s with cache := s.apps.map (·.cached) }

/-- The entry of the package goes to the cache. -/
def saveApp (s : AppStore) (packageName : String) : AppStore :=
  (s.apps.find? fun app => app.packageName = packageName).elim s fun app =>
    { s with cache := updateCachedApp app s.cache }

/-- Step 1 of `loadInstalledAppsInternal`. -/
def merge (s : AppStore) (newApps : List AppMetadata) : AppStore :=
  { s with apps := newApps.map (mergeApp s.apps) ++ s.apps.filter (·.isCustomPackage) }

/-- The entries take the places of those of their packages, at the end. -/
def place (s : AppStore) (customApps : List AppMetadata) : AppStore :=
  { s with
    apps := (s.apps.filter fun app => app.packageName ∉ names customApps) ++ customApps
    shown := s.shown ++ names customApps }

/-- `loadCustomPackages`, when the settings are read. -/
def loadCustomPackages (s : AppStore) (i : Nat) : AppStore :=
  let packagesToFetch := s.customPackages.filter fun packageName => packageName ∉ names s.apps
  if packagesToFetch = [] then s.goOn i .checking else s.goOn i (.fetching packagesToFetch)

def customAppsFetched (s : AppStore) (packagesToFetch : List String) (answer : String → Details) :
    AppStore :=
  let customApps := packagesToFetch.filterMap fun packageName =>
    (answer packageName).customApp packageName
  if customApps = [] then s else (s.place customApps).save

def customAppDetailed (s : AppStore) (packageName : String) (details : Details) : AppStore :=
  (details.finalApp packageName).elim s fun finalApp => (s.place [finalApp]).save

/-- `checkForUpdatesWithSources`. -/
def updatesFound (s : AppStore) (updates : List AppMetadata) : AppStore :=
  { s with apps := s.apps.filterMap (applyUpdate updates) }.save

def removed (s : AppStore) (packageName : String) (currentPackages : List String) : AppStore :=
  { s with
    customPackages := currentPackages
    apps := s.apps.filter fun app => app.packageName ≠ packageName || app.isInstalled
    shown := s.shown.filter (· ≠ packageName) }.save

/-- A coroutine goes on with an answer, if it waits for that. -/
def resume (own : String) (s : AppStore) (i : Nat) : Coroutine → Answer → AppStore
  | .loading, .installed activities incompatibleApps =>
    (s.merge (appList own activities incompatibleApps)).goOn i .customs
  | .customs, .settings => s.loadCustomPackages i
  | .fetching packagesToFetch, .details answer =>
    (s.customAppsFetched packagesToFetch answer).goOn i .checking
  | .checking, .updates updates => (s.updatesFound updates).goOn i .ended
  | .adding packageName, .settings =>
    if packageName ∈ s.customPackages then s.goOn i .ended
    else s.goOn i (.addSaving packageName (s.customPackages ++ [packageName]))
  | .addSaving packageName currentPackages, .settings =>
    { s with customPackages := currentPackages }.goOn i (.detailing packageName)
  | .detailing packageName, .details answer =>
    (s.customAppDetailed packageName (answer packageName)).goOn i .ended
  | .removing packageName, .settings =>
    if packageName ∈ s.customPackages then
      s.goOn i (.removeSaving packageName (s.customPackages.filter (· ≠ packageName)))
    else s.goOn i .ended
  | .removeSaving packageName currentPackages, .settings =>
    (s.removed packageName currentPackages).goOn i .ended
  | _, _ => s

/-- `loadApps` of a new view model; the coroutines of the old one are cancelled. -/
def start (s : AppStore) (isCacheValid : Bool) : AppStore :=
  let apps := if isCacheValid then s.cache else []
  { s with apps := apps, coroutines := [.loading], shown := customNames apps }

def step (own : String) (s : AppStore) : AppAction → AppStore
  | .start isCacheValid => s.start isCacheValid
  | .refreshApps => s.launch .loading
  | .addCustomPackage packageName => s.launch (.adding packageName)
  | .removeCustomPackage packageName =>
    { s with shown := s.shown.filter (· ≠ packageName) }.launch (.removing packageName)
  | .selectSource packageName source =>
    (s.mapApp packageName fun app => { app with selectedSource := source }).saveApp packageName
  | .sourcesChecked packageName sources =>
    (s.mapApp packageName fun app => { app with availableSources := sources }).saveApp packageName
  | .updateAppProgress packageName progress isDownloading =>
    s.mapApp packageName fun app =>
      { app with
        downloadProgress := progress
        isDownloading := isDownloading }
  | .updateAppInstalledState packageName =>
    (s.mapApp packageName fun app =>
      { app with
        updateAvailable := false
        isDownloading := false
        downloadProgress := 0
        isInstalled := true
        isCustomPackage := false }).saveApp packageName
  | .resume i answer => s.coroutines[i]?.elim s fun c => s.resume own i c answer

/-- Before the first view model. -/
def fresh (customPackages : List String) : AppStore := ⟨[], [], customPackages, [], []⟩

end AppStore

end SecureGuard.Astore
