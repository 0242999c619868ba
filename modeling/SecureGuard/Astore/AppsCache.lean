import SecureGuard.Astore.AppList
import SecureGuard.Lib.OrgJson

/-! # The cache of the store's apps

The apps of the list are written to the preferences as a text, field by field, and read back
from it. -/

namespace SecureGuard.Astore
open OrgJson

/-- An app with the fields the list does not show. -/
structure CacheEntry extends AppMetadata where
  description : Option String := none
  downloadUrl : Option String := none
  size : Int := 0
  lastUpdated : Int
deriving DecidableEq, Repr

/-- The constant's name. -/
def DownloadSource.name : DownloadSource → String
  | .apkpure => "APKPURE"
  | .apkMirror => "APK_MIRROR"
  | .playStore => "PLAY_STORE"
  | .storeKit => "STORE_KIT"
  | .apkcombo => "APKCOMBO"
  | .aptoide => "APTOIDE"
  | .fdroid => "FDROID"
  | .apkFollow => "APK_FOLLOW"
  | .uptodown => "UPTODOWN"
  | .evozi => "EVOZI"

def DownloadSource.all : List DownloadSource :=
  [.apkpure, .apkMirror, .playStore, .storeKit, .apkcombo, .aptoide, .fdroid, .apkFollow,
   .uptodown, .evozi]

/-- `DownloadSource.valueOf`; `none` where it throws. -/
def DownloadSource.valueOf (name : String) : Option DownloadSource :=
  all.find? fun source => source.name = name

/-! ## Writing -/

def sourceToJson (source : SourceAvailability) : JSONObject :=
  ([] : JSONObject)
  |> JSONObject.put "source" (some (.str source.source.name))
  |> JSONObject.put "isAvailable" (some (.bool source.isAvailable))
  |> JSONObject.put "downloadUrl" (source.downloadUrl.map .str)
  |> JSONObject.put "versionName" (source.versionName.map .str)
  |> JSONObject.put "size" (some (.num source.size))
  |> JSONObject.put "originalSource" (source.originalSource.map .str)

def appToJson (app : CacheEntry) : JSONObject :=
  ([] : JSONObject)
  |> JSONObject.put "packageName" (some (.str app.packageName))
  |> JSONObject.put "title" (some (.str app.title))
  |> JSONObject.put "versionName" (some (.str app.versionName))
  |> JSONObject.put "versionCode" (some (.num app.versionCode))
  |> JSONObject.put "iconUrl" (app.iconUrl.map .str)
  |> JSONObject.put "description" (app.description.map .str)
  |> JSONObject.put "isInstalled" (some (.bool app.isInstalled))
  |> JSONObject.put "updateAvailable" (some (.bool app.updateAvailable))
  |> JSONObject.put "size" (some (.num app.size))
  |> JSONObject.put "selectedSource" (some (.str app.selectedSource.name))
  |> JSONObject.put "lastUpdated" (some (.num app.lastUpdated))
  |> JSONObject.put "isCustomPackage" (some (.bool app.isCustomPackage))
  |> JSONObject.put "availableSources"
      (some (.arr (app.availableSources.map fun source => .obj (sourceToJson source))))

def appsToJson (apps : List CacheEntry) : List Json := apps.map fun app => .obj (appToJson app)

/-! ## Reading -/

/-- `optString(name).takeIf { it.isNotEmpty() }`. -/
def optNonEmpty (json : JSONObject) (name : String) : Option String :=
  let text := json.optString name
  if text = "" then none else some text

/-- A source of an app; `none` where an exception is thrown. -/
def parseSourceFromJson (json : JSONObject) : Option SourceAvailability := do
  let source ← (← json.getString "source") |> DownloadSource.valueOf
  let isAvailable ← json.getBoolean "isAvailable"
  return {
    source := source
    isAvailable := isAvailable
    downloadUrl := optNonEmpty json "downloadUrl"
    versionName := optNonEmpty json "versionName"
    size := json.optLong "size" 0
    originalSource := optNonEmpty json "originalSource" }

/-- `parseAppFromJson` at the time `now`; `none` where an exception is thrown. -/
def parseAppFromJson (now : Int) (json : JSONObject) : Option CacheEntry := do
  let sourcesList ← ((json.optJSONArray "availableSources").getD []).mapM fun source => do
    parseSourceFromJson (← source.asObject)
  let packageName ← json.getString "packageName"
  let title ← json.getString "title"
  let versionName ← json.getString "versionName"
  let versionCode ← json.getLong "versionCode"
  let isInstalled ← json.getBoolean "isInstalled"
  let updateAvailable ← json.getBoolean "updateAvailable"
  let size ← json.getLong "size"
  return {
    packageName := packageName
    title := title
    versionName := versionName
    versionCode := versionCode
    iconUrl := optNonEmpty json "iconUrl"
    description := optNonEmpty json "description"
    isInstalled := isInstalled
    updateAvailable := updateAvailable
    size := size
    selectedSource := ((json.getString "selectedSource").bind DownloadSource.valueOf).getD .storeKit
    availableSources := sourcesList
    lastUpdated := json.optLong "lastUpdated" now
    isCustomPackage := json.optBoolean "isCustomPackage" false }

/-- `parseAppsFromJson`: an app that cannot be read is left out. -/
def parseAppsFromJson (now : Int) (array : List Json) : List CacheEntry :=
  array.filterMap fun json => json.asObject.bind (parseAppFromJson now)

/-! ## The preferences -/

structure CachePrefs (codec : Codec) where
  appsCache : Option codec.Text
  lastUpdate : Int

def getCachedApps (codec : Codec) (now : Int) (prefs : CachePrefs codec) : List CacheEntry :=
  ((prefs.appsCache.bind codec.parse).map (parseAppsFromJson now)).getD []

def saveAppsToCache (codec : Codec) (now : Int) (apps : List CacheEntry) : CachePrefs codec :=
  ⟨some (codec.toText (appsToJson apps)), now⟩

/-! ## What is read back -/

/-- An app as it is read back: the transient fields have their defaults, and empty texts in
fields that may be null are null. -/
def CacheEntry.cached (app : CacheEntry) : CacheEntry :=
  { app with
    toAppMetadata := app.toAppMetadata.cached
    description := nonEmpty app.description
    downloadUrl := none }

theorem nonEmpty_of_getD (text : Option String) :
    (if text.getD "" = "" then none else some (text.getD "")) = nonEmpty text := by
  cases text with
  | none => rfl
  | some text => by_cases ht : text = "" <;> simp [nonEmpty, Option.filter, ht]

theorem optNonEmpty_eq (json : JSONObject) (name : String) :
    optNonEmpty json name = nonEmpty (json.getString name) := nonEmpty_of_getD _

@[simp] theorem bind_map_str (text : Option String) :
    (text.map Json.str).bind Json.asString = text := by
  cases text <;> rfl

theorem DownloadSource.valueOf_name (source : DownloadSource) :
    valueOf source.name = some source := by
  cases source <;> decide

theorem parseSourceFromJson_sourceToJson (source : SourceAvailability) :
    parseSourceFromJson (sourceToJson source) = some source.cached := by
  simp [parseSourceFromJson, sourceToJson, optNonEmpty_eq, JSONObject.optLong,
    DownloadSource.valueOf_name, SourceAvailability.cached]

theorem mapM_sources (sources : List SourceAvailability) :
    (sources.map fun source => Json.obj (sourceToJson source)).mapM
        (fun source => do parseSourceFromJson (← source.asObject)) =
      some (sources.map (·.cached)) := by
  induction sources with
  | nil => rfl
  | cons source sources ih =>
    rw [List.map_cons, List.mapM_cons, ih]
    simp [parseSourceFromJson_sourceToJson]

/-- An app that is written can be read. -/
theorem parseAppFromJson_appToJson (now : Int) (app : CacheEntry) :
    parseAppFromJson now (appToJson app) = some app.cached := by
  have hsources : (appToJson app).optJSONArray "availableSources" =
      some (app.availableSources.map fun source => .obj (sourceToJson source)) := by
    simp [appToJson]
  rw [parseAppFromJson, hsources, Option.getD_some, mapM_sources]
  simp [appToJson, optNonEmpty_eq, JSONObject.optLong, JSONObject.optBoolean,
    DownloadSource.valueOf_name, CacheEntry.cached, AppMetadata.cached]

/-- The list shows of an app that is read back what it knows of a cached one. -/
theorem cached_toAppMetadata (app : CacheEntry) :
    app.cached.toAppMetadata = app.toAppMetadata.cached := rfl

/-- **The cache keeps the apps**, up to what is transient and to empty texts that may be null. -/
theorem getCachedApps_saveAppsToCache (codec : Codec) (saved now : Int) (apps : List CacheEntry) :
    getCachedApps codec now (saveAppsToCache codec saved apps) = apps.map (·.cached) := by
  rw [getCachedApps, saveAppsToCache, Option.bind_some, codec.faithful, Option.map_some,
    Option.getD_some, parseAppsFromJson, appsToJson, List.filterMap_map]
  induction apps with
  | nil => rfl
  | cons app apps ih =>
    rw [List.filterMap_cons, Function.comp_apply, Json.asObject_obj, Option.bind_some,
      parseAppFromJson_appToJson, ih]
    rfl

/-- The app without what is transient. -/
def CacheEntry.lasting (app : CacheEntry) : CacheEntry :=
  { app with
    downloadUrl := none
    isDownloading := false
    downloadProgress := 0 }

/-- Values that are their own text. -/
def valuesCodec : Codec := ⟨List Json, id, some, fun _ => rfl⟩

/-- An app with the empty icon address. -/
def iconlessApp : CacheEntry where
  packageName := "org.example"
  title := "Example"
  versionName := "1.0"
  versionCode := 1
  iconUrl := some ""
  lastUpdated := 0

theorem iconlessApp_not_kept :
    (getCachedApps valuesCodec 1 (saveAppsToCache valuesCodec 0 [iconlessApp])).map (·.lasting) ≠
      [iconlessApp].map (·.lasting) := by
  decide +kernel

end SecureGuard.Astore
