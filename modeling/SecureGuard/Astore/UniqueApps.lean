import SecureGuard.Astore.AppList

/-! # One entry for each app

The list is to hold one entry for each package, and the entry of a custom package until the user
removes it. A refresh puts the custom entries after the installed apps without a look at whether
they are among them; and an entry that is no custom one any more, since its package got installed,
is hidden as any other. -/

namespace SecureGuard.Astore
open Machine

namespace AppStore

/-! ## What is to hold -/

/-- No package occurs twice, and what is shown by a custom entry stays. -/
structure Unique (s : AppStore) : Prop where
  distinct : (names s.apps).Nodup
  kept : ∀ packageName ∈ s.shown, packageName ∈ names s.apps

/-- No installed app has a custom entry, and every package that is shown by one, or was, is
installed or has one still. -/
def mergeFits (s : AppStore) (newApps : List AppMetadata) : Bool :=
  (names newApps).all (fun packageName => packageName ∉ customNames s.apps) &&
    s.shown.all fun packageName =>
      packageName ∈ names newApps || packageName ∈ customNames s.apps

/-- Every package that is shown by a custom entry, or was, has one still or an update. -/
def updatesFit (s : AppStore) (updates : List AppMetadata) : Bool :=
  s.shown.all fun packageName => packageName ∈ customNames s.apps || packageName ∈ names updates

def fitsAnswer (own : String) (s : AppStore) : Coroutine → Answer → Bool
  | .loading, .installed activities incompatibleApps =>
    s.mergeFits (appList own activities incompatibleApps)
  | .checking, .updates updates => s.updatesFit updates
  | _, _ => true

/-- Refreshes and checks for updates leave one entry for each package and lose no custom one. -/
def fits (own : String) (s : AppStore) : AppAction → Bool
  | .resume i answer => s.coroutines[i]?.elim true fun c => s.fitsAnswer own c answer
  | _ => true

end AppStore

/-! ## Names -/

section Names

variable {apps : List AppMetadata} {packageName : String}

theorem mem_names : packageName ∈ names apps ↔ ∃ app ∈ apps, app.packageName = packageName :=
  List.mem_map

theorem mem_customNames : packageName ∈ customNames apps ↔
    ∃ app ∈ apps, app.isCustomPackage = true ∧ app.packageName = packageName := by
  simp only [customNames, mem_names, List.mem_filter, and_assoc]

theorem names_append (apps' : List AppMetadata) :
    names (apps ++ apps') = names apps ++ names apps' :=
  List.map_append

theorem customNames_sublist : (customNames apps).Sublist (names apps) :=
  List.filter_sublist.map _

theorem names_filter (p : String → Bool) :
    names (apps.filter fun app => p app.packageName) = (names apps).filter p := by
  rw [names, names, List.filter_map]
  rfl

/-- What keeps the package keeps the names. -/
theorem names_map {f : AppMetadata → AppMetadata}
    (hf : ∀ app, (f app).packageName = app.packageName) : names (apps.map f) = names apps := by
  rw [names, List.map_map]
  exact List.map_congr_left fun app _ => hf app

theorem packageName_mergeApp (newApp : AppMetadata) :
    (mergeApp apps newApp).packageName = newApp.packageName := by
  rw [mergeApp]
  cases apps.find? fun app => app.packageName = newApp.packageName <;> rfl

theorem nodup_names_distinctBy : (names (distinctBy apps)).Nodup := by
  induction apps with
  | nil => exact List.nodup_nil
  | cons app apps ih =>
    rw [distinctBy, names, List.map_cons, List.nodup_cons]
    constructor
    · intro hmem
      obtain ⟨a, ha, heq⟩ := List.mem_map.mp hmem
      exact of_decide_eq_true (List.mem_filter.mp ha).2 heq
    · exact (List.filter_sublist.map _).nodup ih

theorem nodup_names_appList (own : String) (activities : List ResolveInfo)
    (incompatibleApps : List String) :
    (names (appList own activities incompatibleApps)).Nodup :=
  (List.filter_sublist.map _).nodup nodup_names_distinctBy

theorem names_updateCachedApp (app : AppMetadata) (cache : List AppMetadata) :
    names (updateCachedApp app cache) = if app.packageName ∈ names cache then names cache
      else names cache ++ [app.packageName] := by
  induction cache with
  | nil => rfl
  | cons c cache ih =>
    rw [updateCachedApp]
    by_cases hsame : c.packageName = app.packageName
    · have hmem : app.packageName ∈ names (c :: cache) := hsame ▸ List.mem_cons_self
      rw [if_pos hsame, if_pos hmem, names, names, List.map_cons, List.map_cons, hsame]
      rfl
    · have hiff : app.packageName ∈ names (c :: cache) ↔ app.packageName ∈ names cache := by
        rw [names, List.map_cons, List.mem_cons, or_iff_right (Ne.symm hsame)]
        rfl
      rw [if_neg hsame, names, List.map_cons, ← names, ih]
      simp only [hiff]
      split <;> rfl

theorem nodup_names_updateCachedApp (app : AppMetadata) {cache : List AppMetadata}
    (h : (names cache).Nodup) : (names (updateCachedApp app cache)).Nodup := by
  rw [names_updateCachedApp]
  split
  case isTrue => exact h
  case isFalse hnew =>
    refine List.nodup_append.mpr ⟨h, List.pairwise_singleton _ _, fun a ha b hb heq => hnew ?_⟩
    rwa [← List.mem_singleton.mp hb, ← heq]

theorem packageName_customApp {details : Details} {app : AppMetadata}
    (h : details.customApp packageName = some app) : app.packageName = packageName := by
  cases details <;> cases h <;> rfl

/-- The entries that are made are for packages that were to be fetched. -/
theorem names_fetched_sublist (packagesToFetch : List String) (answer : String → Details) :
    (names (packagesToFetch.filterMap fun packageName =>
      (answer packageName).customApp packageName)).Sublist packagesToFetch := by
  induction packagesToFetch with
  | nil => exact List.Sublist.refl _
  | cons p packagesToFetch ih =>
    rw [List.filterMap_cons]
    cases happ : (answer p).customApp p with
    | none => exact ih.cons p
    | some app =>
      have hname := packageName_customApp happ
      rw [names, List.map_cons, hname]
      exact ih.cons_cons p

theorem packageName_applyUpdate {updates : List AppMetadata} {app app' : AppMetadata}
    (h : applyUpdate updates app = some app') : app'.packageName = app.packageName := by
  rw [applyUpdate] at h
  split at h
  case isTrue =>
    cases h
    rfl
  case isFalse =>
    obtain ⟨update, -, rfl⟩ := Option.map_eq_some_iff.mp h
    rfl

/-- An entry stays if it is a custom one or has an update. -/
theorem isSome_applyUpdate (updates : List AppMetadata) (app : AppMetadata) :
    (applyUpdate updates app).isSome = true ↔
      app.isCustomPackage = true ∨ app.packageName ∈ names updates := by
  rw [applyUpdate]
  split
  case isTrue hcustom => exact iff_of_true rfl (Or.inl hcustom)
  case isFalse hcustom =>
    rw [or_iff_right hcustom, Option.isSome_map, List.find?_isSome, mem_names]
    simp only [decide_eq_true_eq]

theorem names_applyUpdate_sublist (updates : List AppMetadata) :
    (names (apps.filterMap (applyUpdate updates))).Sublist (names apps) := by
  induction apps with
  | nil => exact List.Sublist.refl _
  | cons app apps ih =>
    rw [List.filterMap_cons]
    cases happ : applyUpdate updates app with
    | none => exact ih.cons app.packageName
    | some app' =>
      rw [names, List.map_cons, packageName_applyUpdate happ]
      exact ih.cons_cons app.packageName

theorem mem_names_applyUpdate (updates : List AppMetadata) :
    packageName ∈ names (apps.filterMap (applyUpdate updates)) ↔
      packageName ∈ customNames apps ∨ packageName ∈ names apps ∧ packageName ∈ names updates := by
  have hmem : packageName ∈ names (apps.filterMap (applyUpdate updates)) ↔
      ∃ app ∈ apps, app.packageName = packageName ∧ (applyUpdate updates app).isSome = true := by
    rw [mem_names]
    constructor
    · rintro ⟨app', happ', rfl⟩
      obtain ⟨app, happ, heq⟩ := List.mem_filterMap.mp happ'
      exact ⟨app, happ, (packageName_applyUpdate heq).symm, heq ▸ rfl⟩
    · rintro ⟨app, happ, rfl, hsome⟩
      obtain ⟨app', heq⟩ := Option.isSome_iff_exists.mp hsome
      exact ⟨app', List.mem_filterMap.mpr ⟨app, happ, heq⟩, packageName_applyUpdate heq⟩
  rw [hmem, mem_customNames, mem_names]
  constructor
  · rintro ⟨app, happ, rfl, hsome⟩
    obtain hcustom | hupdate := (isSome_applyUpdate updates app).mp hsome
    · exact Or.inl ⟨app, happ, hcustom, rfl⟩
    · exact Or.inr ⟨⟨app, happ, rfl⟩, hupdate⟩
  · rintro (⟨app, happ, hcustom, rfl⟩ | ⟨⟨app, happ, rfl⟩, hupdate⟩)
    · exact ⟨app, happ, rfl, (isSome_applyUpdate updates app).mpr (Or.inl hcustom)⟩
    · exact ⟨app, happ, rfl, (isSome_applyUpdate updates app).mpr (Or.inr hupdate)⟩

end Names

/-! ## The list of a view model -/

/-- The packages a coroutine carries. -/
def Coroutine.packages : Coroutine → List String
  | .fetching packagesToFetch => packagesToFetch
  | .addSaving _ currentPackages => currentPackages
  | .removeSaving _ currentPackages => currentPackages
  | _ => []

namespace AppStore

variable {s : AppStore} {own : String}

/-- The merged list holds the installed apps and the custom entries. -/
theorem names_merge (newApps : List AppMetadata) :
    names (s.merge newApps).apps = names newApps ++ customNames s.apps := by
  rw [merge, names_append, names_map packageName_mergeApp]
  rfl

theorem unique_merge_iff (h : s.Unique) {newApps : List AppMetadata}
    (hnew : (names newApps).Nodup) :
    (s.merge newApps).Unique ↔ s.mergeFits newApps = true := by
  have hcustom : (customNames s.apps).Nodup := customNames_sublist.nodup h.distinct
  have hdistinct : (names (s.merge newApps).apps).Nodup ↔
      ∀ packageName ∈ names newApps, packageName ∉ customNames s.apps := by
    rw [names_merge, List.nodup_append, and_iff_right hnew, and_iff_right hcustom]
    constructor
    · intro hne packageName hin hcustom
      exact hne packageName hin packageName hcustom rfl
    · intro hno a ha b hb heq
      exact hno a ha (heq ▸ hb)
  rw [mergeFits, Bool.and_eq_true, List.all_eq_true, List.all_eq_true]
  simp only [decide_eq_true_eq, Bool.or_eq_true, ← List.mem_append, ← names_merge]
  constructor
  · intro hunique
    exact ⟨hdistinct.mp hunique.distinct, hunique.kept⟩
  · rintro ⟨hno, hkept⟩
    exact ⟨hdistinct.mpr hno, hkept⟩

theorem unique_updatesFound_iff (h : s.Unique) (updates : List AppMetadata) :
    (s.updatesFound updates).Unique ↔ s.updatesFit updates = true := by
  have hdistinct : (names (s.updatesFound updates).apps).Nodup :=
    (names_applyUpdate_sublist updates).nodup h.distinct
  have hkept : (∀ packageName ∈ s.shown, packageName ∈ names (s.updatesFound updates).apps) ↔
      s.updatesFit updates = true := by
    rw [updatesFit, List.all_eq_true]
    refine forall₂_congr fun packageName hshown => ?_
    have hmem : packageName ∈ names (s.updatesFound updates).apps ↔
        packageName ∈ customNames s.apps ∨
          packageName ∈ names s.apps ∧ packageName ∈ names updates := mem_names_applyUpdate updates
    rw [hmem, and_iff_right (h.kept packageName hshown)]
    simp only [Bool.or_eq_true, decide_eq_true_eq]
  exact ⟨fun hunique => hkept.mp hunique.kept, fun hfit => ⟨hdistinct, hkept.mpr hfit⟩⟩

/-- New custom entries take the places of the old ones. -/
theorem unique_place (h : s.Unique) {customApps : List AppMetadata}
    (hcustom : (names customApps).Nodup) : (s.place customApps).Unique := by
  have hnames : names (s.place customApps).apps =
      (names s.apps).filter (fun packageName => packageName ∉ names customApps) ++
        names customApps := by
    rw [place, names_append, ← names_filter]
  constructor
  · rw [hnames, List.nodup_append]
    refine ⟨List.filter_sublist.nodup h.distinct, hcustom, fun a ha b hb heq => ?_⟩
    exact of_decide_eq_true (List.mem_filter.mp ha).2 (heq ▸ hb)
  · intro packageName hshown
    rw [hnames, List.mem_append, List.mem_filter]
    by_cases hnew : packageName ∈ names customApps
    · exact Or.inr hnew
    · obtain hold | hnew' := List.mem_append.mp hshown
      · exact Or.inl ⟨h.kept packageName hold, decide_eq_true hnew⟩
      · exact absurd hnew' hnew

theorem unique_removed (h : s.Unique) (packageName : String) (currentPackages : List String) :
    (s.removed packageName currentPackages).Unique := by
  constructor
  · exact (List.filter_sublist.map _).nodup h.distinct
  · intro p hp
    obtain ⟨hshown, hne⟩ := List.mem_filter.mp hp
    obtain ⟨app, happ, rfl⟩ := mem_names.mp (h.kept p hshown)
    refine mem_names.mpr ⟨app, List.mem_filter.mpr ⟨happ, ?_⟩, rfl⟩
    rw [Bool.or_eq_true]
    exact Or.inl hne

/-- Only the names in the list count, and what is shown. -/
theorem Unique.of_names (h : s.Unique) {s' : AppStore} (hnames : names s'.apps = names s.apps)
    (hshown : ∀ packageName ∈ s'.shown, packageName ∈ s.shown) : s'.Unique where
  distinct := hnames ▸ h.distinct
  kept := fun packageName hp => hnames ▸ h.kept packageName (hshown packageName hp)

theorem names_mapApp (packageName : String) {f : AppMetadata → AppMetadata}
    (hf : ∀ app, (f app).packageName = app.packageName) :
    names (s.mapApp packageName f).apps = names s.apps := by
  refine names_map fun app => ?_
  split
  · exact hf app
  · rfl

/-! ## Every run -/

/-- The list is as it is to be, and so is the cache; no package occurs twice in the settings, or in
what a coroutine carries. -/
structure Inv (s : AppStore) : Prop where
  unique : s.Unique
  cache : (names s.cache).Nodup
  customPackages : s.customPackages.Nodup
  coroutines : ∀ c ∈ s.coroutines, c.packages.Nodup

theorem inv_fresh {customPackages : List String} (h : customPackages.Nodup) :
    (fresh customPackages).Inv where
  unique := ⟨List.nodup_nil, fun packageName hp => by cases hp⟩
  cache := List.nodup_nil
  customPackages := h
  coroutines := fun c hc => by cases hc

theorem names_cached (apps : List AppMetadata) : names (apps.map (·.cached)) = names apps :=
  names_map fun _ => rfl

theorem Inv.launch (h : s.Inv) {c : Coroutine} (hc : c.packages = []) : (s.launch c).Inv where
  unique := h.unique.of_names rfl fun _ hp => hp
  cache := h.cache
  customPackages := h.customPackages
  coroutines := by
    intro c' hc'
    obtain hold | hnew := List.mem_append.mp hc'
    · exact h.coroutines c' hold
    · rw [List.mem_singleton.mp hnew, hc]
      exact List.nodup_nil

theorem Inv.goOn (h : s.Inv) (i : Nat) {c : Coroutine} (hc : c.packages.Nodup) :
    (s.goOn i c).Inv where
  unique := h.unique.of_names rfl fun _ hp => hp
  cache := h.cache
  customPackages := h.customPackages
  coroutines := by
    intro c' hc'
    obtain hold | rfl := List.mem_or_eq_of_mem_set hc'
    · exact h.coroutines c' hold
    · exact hc

theorem Inv.save (h : s.Inv) : s.save.Inv where
  unique := h.unique.of_names rfl fun _ hp => hp
  cache := by
    rw [AppStore.save, names_cached]
    exact h.unique.distinct
  customPackages := h.customPackages
  coroutines := h.coroutines

theorem Inv.saveApp (h : s.Inv) (packageName : String) : (s.saveApp packageName).Inv := by
  rw [AppStore.saveApp]
  cases s.apps.find? fun app => app.packageName = packageName with
  | none => exact h
  | some app =>
    exact ⟨h.unique.of_names rfl fun _ hp => hp, nodup_names_updateCachedApp app h.cache,
      h.customPackages, h.coroutines⟩

/-- Another list. -/
theorem Inv.of_unique (h : s.Inv) {s' : AppStore} (hunique : s'.Unique)
    (hcache : s'.cache = s.cache) (hcustom : s'.customPackages = s.customPackages)
    (hcoroutines : s'.coroutines = s.coroutines) : s'.Inv where
  unique := hunique
  cache := hcache ▸ h.cache
  customPackages := hcustom ▸ h.customPackages
  coroutines := hcoroutines ▸ h.coroutines

theorem Inv.mapApp (h : s.Inv) (packageName : String) {f : AppMetadata → AppMetadata}
    (hf : ∀ app, (f app).packageName = app.packageName) : (s.mapApp packageName f).Inv :=
  h.of_unique (h.unique.of_names (names_mapApp packageName hf) fun _ hp => hp) rfl rfl rfl

theorem Inv.start (h : s.Inv) (isCacheValid : Bool) : (s.start isCacheValid).Inv where
  unique := by
    refine ⟨?_, fun packageName hp => customNames_sublist.mem hp⟩
    cases isCacheValid
    · exact List.nodup_nil
    · exact h.cache
  cache := h.cache
  customPackages := h.customPackages
  coroutines := by
    intro c hc
    rw [List.mem_singleton.mp hc]
    exact List.nodup_nil

theorem Inv.place (h : s.Inv) {customApps : List AppMetadata}
    (hcustom : (names customApps).Nodup) : (s.place customApps).Inv :=
  h.of_unique (unique_place h.unique hcustom) rfl rfl rfl

theorem Inv.loadCustomPackages (h : s.Inv) (i : Nat) : (s.loadCustomPackages i).Inv := by
  rw [AppStore.loadCustomPackages]
  split
  · exact h.goOn i List.nodup_nil
  · exact h.goOn i (List.filter_sublist.nodup h.customPackages)

theorem Inv.customAppsFetched (h : s.Inv) {packagesToFetch : List String}
    (hfetch : packagesToFetch.Nodup) (answer : String → Details) :
    (s.customAppsFetched packagesToFetch answer).Inv := by
  rw [AppStore.customAppsFetched]
  split
  · exact h
  · exact (h.place ((names_fetched_sublist packagesToFetch answer).nodup hfetch)).save

theorem Inv.customAppDetailed (h : s.Inv) (packageName : String) (details : Details) :
    (s.customAppDetailed packageName details).Inv := by
  rw [AppStore.customAppDetailed]
  cases details.finalApp packageName with
  | none => exact h
  | some finalApp =>
    have hone : (names [finalApp]).Nodup := List.pairwise_singleton _ _
    exact (h.place hone).save

theorem Inv.removed (h : s.Inv) (packageName : String) {currentPackages : List String}
    (hpackages : currentPackages.Nodup) : (s.removed packageName currentPackages).Inv := by
  have hunique := unique_removed h.unique packageName currentPackages
  refine ⟨hunique, ?_, hpackages, h.coroutines⟩
  rw [AppStore.removed, AppStore.save, names_cached]
  exact hunique.distinct

/-- The list is as it is to be exactly if the answer fits, and all the rest follows. -/
structure Keeps (s : AppStore) (fits : Bool) : Prop where
  unique_iff : s.Unique ↔ fits = true
  inv : s.Unique → s.Inv

/-- Where nothing is merged or hidden, every answer fits. -/
theorem Inv.keeps (h : s.Inv) : s.Keeps true where
  unique_iff := iff_of_true h.unique rfl
  inv := fun _ => h

theorem Keeps.goOn {fits : Bool} (h : s.Keeps fits) (i : Nat) {c : Coroutine}
    (hc : c.packages.Nodup) : (s.goOn i c).Keeps fits := by
  have hsame : (s.goOn i c).Unique ↔ s.Unique :=
    ⟨fun hgone => hgone.of_names rfl fun _ hp => hp, fun hgone => hgone.of_names rfl fun _ hp => hp⟩
  constructor
  · rw [hsame]
    exact h.unique_iff
  · intro hgone
    exact (h.inv (hsame.mp hgone)).goOn i hc

theorem Inv.keeps_merge (h : s.Inv) {newApps : List AppMetadata} (hnew : (names newApps).Nodup) :
    (s.merge newApps).Keeps (s.mergeFits newApps) where
  unique_iff := unique_merge_iff h.unique hnew
  inv := fun hunique => h.of_unique hunique rfl rfl rfl

theorem Inv.keeps_updatesFound (h : s.Inv) (updates : List AppMetadata) :
    (s.updatesFound updates).Keeps (s.updatesFit updates) where
  unique_iff := unique_updatesFound_iff h.unique updates
  inv := by
    intro hunique
    refine ⟨hunique, ?_, h.customPackages, h.coroutines⟩
    rw [updatesFound, AppStore.save, names_cached]
    exact hunique.distinct

/-- A package that is added is not among the others. -/
theorem Inv.resume_adding (h : s.Inv) (own : String) (i : Nat) (packageName : String) :
    (s.resume own i (.adding packageName) .settings).Inv := by
  rw [AppStore.resume]
  split
  case isTrue => exact h.goOn i List.nodup_nil
  case isFalse hnew =>
    refine h.goOn i (List.nodup_append.mpr ⟨h.customPackages, List.pairwise_singleton _ _, ?_⟩)
    intro a ha b hb heq
    exact hnew (List.mem_singleton.mp hb ▸ heq ▸ ha)

theorem Inv.resume_removing (h : s.Inv) (own : String) (i : Nat) (packageName : String) :
    (s.resume own i (.removing packageName) .settings).Inv := by
  rw [AppStore.resume]
  split
  · exact h.goOn i (List.filter_sublist.nodup h.customPackages)
  · exact h.goOn i List.nodup_nil

/-- What a coroutine does with an answer keeps the list as it is to be exactly if the answer
fits. -/
theorem Inv.resume (h : s.Inv) (own : String) (i : Nat) {c : Coroutine}
    (hc : c.packages.Nodup) (answer : Answer) :
    (s.resume own i c answer).Keeps (s.fitsAnswer own c answer) := by
  cases c with
  | loading =>
    cases answer with
    | installed activities incompatibleApps =>
      have hnodup := nodup_names_appList own activities incompatibleApps
      exact (h.keeps_merge hnodup).goOn i List.nodup_nil
    | _ => exact h.keeps
  | customs =>
    cases answer with
    | settings => exact (h.loadCustomPackages i).keeps
    | _ => exact h.keeps
  | fetching packagesToFetch =>
    cases answer with
    | details answer => exact Inv.keeps ((h.customAppsFetched hc answer).goOn i List.nodup_nil)
    | _ => exact h.keeps
  | checking =>
    cases answer with
    | updates updates => exact (h.keeps_updatesFound updates).goOn i List.nodup_nil
    | _ => exact h.keeps
  | adding packageName =>
    cases answer with
    | settings => exact (h.resume_adding own i packageName).keeps
    | _ => exact h.keeps
  | addSaving packageName currentPackages =>
    cases answer with
    | settings =>
      have hsaved : Inv { s with customPackages := currentPackages } :=
        ⟨h.unique.of_names rfl fun _ hp => hp, h.cache, hc, h.coroutines⟩
      exact Inv.keeps (hsaved.goOn i List.nodup_nil)
    | _ => exact h.keeps
  | detailing packageName =>
    cases answer with
    | details answer =>
      exact Inv.keeps
        ((h.customAppDetailed packageName (answer packageName)).goOn i List.nodup_nil)
    | _ => exact h.keeps
  | removing packageName =>
    cases answer with
    | settings => exact (h.resume_removing own i packageName).keeps
    | _ => exact h.keeps
  | removeSaving packageName currentPackages =>
    cases answer with
    | settings => exact Inv.keeps ((h.removed packageName hc).goOn i List.nodup_nil)
    | _ => exact h.keeps
  | ended => cases answer <;> exact h.keeps

theorem Inv.step (h : s.Inv) (own : String) (action : AppAction) :
    (s.step own action).Keeps (s.fits own action) := by
  cases action with
  | start isCacheValid => exact (h.start isCacheValid).keeps
  | refreshApps => exact (h.launch rfl).keeps
  | addCustomPackage packageName => exact (h.launch rfl).keeps
  | removeCustomPackage packageName =>
    have hremoved : Inv { s with shown := s.shown.filter (· ≠ packageName) } :=
      h.of_unique (h.unique.of_names rfl fun _ hp => (List.mem_filter.mp hp).1) rfl rfl rfl
    exact (hremoved.launch rfl).keeps
  | selectSource packageName source =>
    refine Inv.keeps (Inv.saveApp ?_ packageName)
    exact h.mapApp packageName fun _ => rfl
  | sourcesChecked packageName sources =>
    refine Inv.keeps (Inv.saveApp ?_ packageName)
    exact h.mapApp packageName fun _ => rfl
  | updateAppProgress packageName progress isDownloading =>
    exact Inv.keeps (h.mapApp packageName fun _ => rfl)
  | updateAppInstalledState packageName =>
    refine Inv.keeps (Inv.saveApp ?_ packageName)
    exact h.mapApp packageName fun _ => rfl
  | resume i answer =>
    rw [AppStore.step, fits]
    cases hi : s.coroutines[i]? with
    | none => exact h.keeps
    | some c => exact h.resume own i (h.coroutines c (List.mem_of_getElem? hi)) answer

/-- In every run, no package occurs twice in the list and every custom entry stays until it is
removed exactly if every refresh and every check for updates fits. -/
theorem everyState_unique_iff (own : String) {customPackages : List String}
    (hcustom : customPackages.Nodup) (actions : List AppAction) :
    EveryState (step own) Unique (fresh customPackages) actions ↔
      EveryStep (step own) (fun s action => s.fits own action = true) (fresh customPackages)
        actions := by
  have hgives : ∀ s : AppStore, s.Inv → s.Unique := fun s h => h.unique
  have hgood : ∀ (s : AppStore) (action : AppAction), s.Inv →
      ((s.step own action).Unique ↔ s.fits own action = true) :=
    fun s action h => (h.step own action).unique_iff
  have hkeeps : ∀ (s : AppStore) (action : AppAction), s.Inv → s.fits own action = true →
      (s.step own action).Inv :=
    fun s action h hfits => (h.step own action).inv ((h.step own action).unique_iff.mpr hfits)
  exact everyState_iff_everyStep hgives hgood hkeeps (inv_fresh hcustom) actions

/-- A custom package is fetched beside an installed app that has an update. -/
theorem everyState_unique_fetched : EveryState (step "com.store") Unique (fresh ["com.a"])
    [.start true, .resume 0 (.installed [⟨"com.b", "B", some (some "1", 1)⟩] []),
      .resume 0 .settings, .resume 0 (.details fun _ => .found "A" "3" 3 none []),
      .resume 0 (.updates
        [⟨"com.b", "B", "2", 0, none, false, true, false, 0, .storeKit, [], false⟩])] :=
  (everyState_unique_iff "com.store" (by decide) _).mpr (by decide +kernel)

/-- A custom package that is installed from elsewhere occurs twice after a refresh; one that is
installed from the list is hidden by the next check for updates. -/
theorem custom_package_twice_or_lost :
    ¬ (∀ (own : String) (customPackages : List String) (actions : List AppAction),
      customPackages.Nodup → EveryState (step own) Unique (fresh customPackages) actions) ∧
      names (run (step "com.store") (fresh [])
        [.start true, .addCustomPackage "com.x", .resume 1 .settings, .resume 1 .settings,
          .resume 1 (.details fun _ => .found "X" "1" 1 none []),
          .resume 0 (.installed [⟨"com.x", "X", some (some "1", 1)⟩] [])]).apps =
        ["com.x", "com.x"] ∧
      names (run (step "com.store") (fresh [])
        [.start true, .addCustomPackage "com.x", .resume 1 .settings, .resume 1 .settings,
          .resume 1 (.details fun _ => .found "X" "1" 1 none []),
          .updateAppInstalledState "com.x",
          .resume 0 (.installed [⟨"com.x", "X", some (some "1", 1)⟩] []),
          .resume 0 .settings, .resume 0 (.updates [])]).apps = [] := by
  have htwice : names (run (step "com.store") (fresh [])
      [.start true, .addCustomPackage "com.x", .resume 1 .settings, .resume 1 .settings,
        .resume 1 (.details fun _ => .found "X" "1" 1 none []),
        .resume 0 (.installed [⟨"com.x", "X", some (some "1", 1)⟩] [])]).apps =
      ["com.x", "com.x"] := by decide +kernel
  refine ⟨fun h => ?_, htwice, by decide +kernel⟩
  have hdistinct : (["com.x", "com.x"] : List String).Nodup :=
    htwice ▸ (h "com.store" [] _ List.nodup_nil).last.distinct
  exact absurd hdistinct (by decide)

end AppStore

end SecureGuard.Astore
