import SecureGuard.Lib.Machine
import SecureGuard.Ui.RuleList

/-! # The rules screen

`VpnRulesScreen` edits three lists of rules and the set of apps that bypass the VPN. Its tabs, the
list it edits, the rows it shows and the reload it asks for are chosen by a branch each. What
packages resolve to and whether the capture runs may be different at every action. -/

namespace SecureGuard.Ui
open Native (CStr cstr)
open Capture (cleanDomain)
open Machine

/-! ## Reloading -/

/-- `ListInfo.Type`. -/
inductive ListType
  | visualizationMask
  | malwareWhitelist
  | blocklist
  | firewallWhitelist
  | decryptionList
deriving DecidableEq, Repr

/-- What a list is reloaded with: a call into the packet loop, or a restart of the VPN. -/
inductive Request
  | reloadMalwareWhitelist
  | reloadBlocklist
  | reloadFirewallWhitelist
  | reloadDecryptionList
  | restartVpn
deriving DecidableEq, Repr

/-- `ListInfo.reloadRules`, with the checks of `CaptureService` that it ends in. -/
def ListType.reloadRules (service : Service) : ListType → Option Request
  | visualizationMask => none
  | malwareWhitelist => if service.hasInstance then some .reloadMalwareWhitelist else none
  | blocklist => if service.isServiceActive then some .reloadBlocklist else none
  | firewallWhitelist => if service.isServiceActive then some .reloadFirewallWhitelist else none
  | decryptionList =>
    if service.hasInstance && service.hasDecryptionList then some .reloadDecryptionList else none

/-! ## The screen -/

/-- The tabs 0, 1 and 2. -/
inductive Tab
  | malware
  | whitelist
  | blocklist
deriving DecidableEq, Repr

structure RuleUiModel where
  value : CStr
  originalRule : Option Rule
deriving DecidableEq, Repr

/-- The lists are those of the service when the screen was opened, if it ran. `exceptions` is
the stored set, `vpnExceptions` what the screen shows of it. -/
structure Screen where
  selectedTab : Tab
  malwareList : Option MatchList
  whitelist : Option MatchList
  blocklist : Option MatchList
  exceptions : List CStr
  vpnExceptions : List CStr

/-- The texts a snackbar shows. -/
inductive Message
  | vpnCannotRemoveMdm
  | vpnAppRemoved
  | vpnRuleRemoved
  | vpnRuleAdded
  | vpnAppWhitelisted (packageName : CStr)
  | vpnAppRuleAdded (packageName : CStr)
deriving DecidableEq, Repr

structure Outcome where
  screen : Screen
  request : Option Request
  message : Option Message

/-- The screen as it opens. -/
def vpnRulesScreen (malwareList whitelist blocklist : Option MatchList) (exceptions : List CStr) :
    Screen :=
  ⟨.malware, malwareList, whitelist, blocklist, exceptions, exceptions⟩

namespace Screen

def currentMatchList (s : Screen) : Option MatchList :=
  match s.selectedTab with
  | .malware => s.malwareList
  | .whitelist => s.whitelist
  | .blocklist => s.blocklist

def currentListType (s : Screen) : ListType :=
  match s.selectedTab with
  | .malware => .malwareWhitelist
  | _ => .blocklist

def reloadCurrentRules (s : Screen) (service : Service) : Option Request :=
  s.currentListType.reloadRules service

/-- A call on `currentMatchList`, which changes the list in place. -/
def editCurrent (s : Screen) (f : MatchList → MatchList) : Screen :=
  match s.selectedTab with
  | .malware => { s with malwareList := s.malwareList.map f }
  | .whitelist => { s with whitelist := s.whitelist.map f }
  | .blocklist => { s with blocklist := s.blocklist.map f }

/-- One row for each rule of `iterRules`. -/
def ruleRows (m : MatchList) : List RuleUiModel := m.mRules.map fun r => ⟨r.value, some r⟩

def rulesList (s : Screen) : List RuleUiModel :=
  if s.selectedTab = .whitelist then
    s.vpnExceptions.map (⟨·, none⟩) ++ s.whitelist.elim [] ruleRows
  else s.currentMatchList.elim [] ruleRows

/-- The confirmed `AddRuleDialog`; what the list answers is not looked at. -/
def onAdd (s : Screen) (env : Env) (type : RuleType) (value : CStr) : Outcome where
  screen := s.editCurrent fun m => match type with
    | .host => (m.addHost env value).getD m
    | .ip => (m.addIp env value).getD m
    | .app => (m.addApp env value).getD m
    | _ => m
  request := s.reloadCurrentRules env.service
  message := some .vpnRuleAdded

/-- An app chosen in `AppPickerDialog`. -/
def onAppSelected (s : Screen) (env : Env) (packageName : CStr) : Outcome :=
  if s.selectedTab = .whitelist then
    let exceptions := s.exceptions.insert packageName
    { screen := { s with exceptions := exceptions, vpnExceptions := exceptions }
      request := some .restartVpn
      message := some (.vpnAppWhitelisted packageName) }
  else
    { screen := s.editCurrent fun m => (m.addApp env packageName).getD m
      request := s.reloadCurrentRules env.service
      message := some (.vpnAppRuleAdded packageName) }

/-- The delete button of a row; `packageName` is that of the application itself. -/
def onDelete (packageName : CStr) (s : Screen) (env : Env) (rule : RuleUiModel) : Outcome :=
  if s.selectedTab = .whitelist then
    if rule.value = packageName then ⟨s, none, some .vpnCannotRemoveMdm⟩
    else
      let exceptions := s.exceptions.filter (· != rule.value)
      { screen := { s with exceptions := exceptions, vpnExceptions := exceptions }
        request := some .restartVpn
        message := some .vpnAppRemoved }
  else
    rule.originalRule.elim ⟨s, none, none⟩ fun originalRule =>
      { screen := s.editCurrent (·.removeRule env originalRule)
        request := s.reloadCurrentRules env.service
        message := some .vpnRuleRemoved }

/-- `VpnController.startVpn`, half a second after a restart was asked for: it has the application
itself bypass the VPN. -/
def startVpn (packageName : CStr) (s : Screen) (env : Env) : Screen :=
  if env.service.isServiceActive then s
  else { s with exceptions := s.exceptions.insert packageName }

end Screen

inductive Action
  | selectTab (tab : Tab)
  | onAdd (type : RuleType) (value : CStr)
  | onAppSelected (packageName : CStr)
  | onDelete (rule : RuleUiModel)
  | startVpn
deriving DecidableEq, Repr

/-- The dialog opens where there is a list and has three of the types; on the outer tabs the
picker opens from the dialog only; a row can be deleted while it is shown. -/
def Screen.offers (s : Screen) : Action → Bool
  | .selectTab _ => true
  | .onAdd type _ => s.currentMatchList.isSome && [.host, .ip, .app].contains type
  | .onAppSelected _ => s.selectedTab == .whitelist || s.currentMatchList.isSome
  | .onDelete rule => s.rulesList.contains rule
  | .startVpn => true

def Screen.perform (packageName : CStr) (s : Screen) (env : Env) : Action → Outcome
  | .selectTab tab => ⟨{ s with selectedTab := tab }, none, none⟩
  | .onAdd type value => s.onAdd env type value
  | .onAppSelected app => s.onAppSelected env app
  | .onDelete rule => s.onDelete packageName env rule
  | .startVpn => ⟨s.startVpn packageName env, none, none⟩

/-- What is not offered cannot be done. -/
def Screen.step (packageName : CStr) (s : Screen) (i : Env × Action) : Screen :=
  if s.offers i.2 then (s.perform packageName i.1 i.2).screen else s

/-! ## What is to hold of an action -/

/-- Where a rule is stored. -/
inductive Store
  | exceptions
  | list (type : ListType)
deriving DecidableEq, Repr

/-- The list a tab is about. -/
def Tab.listType : Tab → ListType
  | malware => .malwareWhitelist
  | whitelist => .firewallWhitelist
  | blocklist => .blocklist

def Screen.listOf (s : Screen) : ListType → Option MatchList
  | .malwareWhitelist => s.malwareList
  | .firewallWhitelist => s.whitelist
  | .blocklist => s.blocklist
  | _ => none

/-- What a store holds; an exception counts as the rule for its app. -/
def Screen.contents (s : Screen) : Store → List Rule
  | .exceptions => s.exceptions.map (⟨.app, ·⟩)
  | .list type => (s.listOf type).elim [] (·.mRules)

/-- The reload of a store. The exceptions are read when the VPN starts. -/
def Store.reload (service : Service) : Store → Option Request
  | exceptions => some .restartVpn
  | list type => type.reloadRules service

namespace RuleUiModel

def rule (row : RuleUiModel) : Rule := row.originalRule.getD ⟨.app, row.value⟩

/-- The store of a row of a tab. -/
def store (row : RuleUiModel) (tab : Tab) : Store :=
  if row.originalRule.isSome then .list tab.listType else .exceptions

end RuleUiModel

/-- The rule the dialog is to make of a type and a value. -/
def newRule (type : RuleType) (value : CStr) : Rule :=
  ⟨type, if type = .host then cleanDomain value else value⟩

/-- The row an action is to add. -/
def Screen.added (s : Screen) : Action → Option RuleUiModel
  | .onAdd type value => some ⟨(newRule type value).value, some (newRule type value)⟩
  | .onAppSelected app =>
    some ⟨app, if s.selectedTab = .whitelist then none else some ⟨.app, app⟩⟩
  | _ => none

/-- The row an action is to remove. -/
def Screen.removed : Action → Option RuleUiModel
  | .onDelete row => some row
  | _ => none

/-- An added row is shown afterwards; with a removed row exactly its rule is gone, and only from
its store; and the reload asked for is the one of that store. -/
structure Coherent (packageName : CStr) (s : Screen) (env : Env) (a : Action) : Prop where
  shown : ∀ row, s.added a = some row → row ∈ (s.perform packageName env a).screen.rulesList
  gone : ∀ row, Screen.removed a = some row → ∀ st q,
    q ∈ (s.perform packageName env a).screen.contents st ↔
      q ∈ s.contents st ∧ ¬ (st = row.store s.selectedTab ∧ q = row.rule)
  reloaded : ∀ row, s.added a = some row ∨ Screen.removed a = some row →
    (s.perform packageName env a).request = (row.store s.selectedTab).reload env.service

/-- The list of the tab has the rule or would take it. -/
def Screen.takes (s : Screen) (env : Env) (rule : Rule) : Bool :=
  s.currentMatchList.elim false (·.containsKey rule) || accepts env rule

/-- No rule is added to the whitelist of the engine while the capture is active, and none of
its rules is deleted; the list takes the added rule; the application itself is not deleted from
the exceptions. -/
def Screen.fits (packageName : CStr) (s : Screen) (env : Env) : Action → Bool
  | .onAdd type value => s.takes env (newRule type value) &&
      !(s.selectedTab == .whitelist && env.service.isServiceActive)
  | .onAppSelected app => s.selectedTab == .whitelist || s.takes env ⟨.app, app⟩
  | .onDelete row => s.selectedTab != .whitelist ||
      (row.originalRule.isNone && row.value != packageName)
  | _ => true

/-! ## The four choices of a list -/

namespace Screen

variable {s : Screen} {f : MatchList → MatchList} {rule q : Rule} {packageName : CStr} {env : Env}

theorem currentMatchList_eq (s : Screen) :
    s.currentMatchList = s.listOf s.selectedTab.listType := by
  rw [currentMatchList]
  cases s.selectedTab <;> rfl

theorem listOf_editCurrent (s : Screen) (f : MatchList → MatchList) (type : ListType) :
    (s.editCurrent f).listOf type =
      if type = s.selectedTab.listType then (s.listOf type).map f else s.listOf type := by
  rw [editCurrent]
  cases s.selectedTab <;> cases type <;> rfl

@[simp] theorem editCurrent_exceptions : (s.editCurrent f).exceptions = s.exceptions := by
  rw [editCurrent]
  cases s.selectedTab <;> rfl

@[simp] theorem editCurrent_vpnExceptions :
    (s.editCurrent f).vpnExceptions = s.vpnExceptions := by
  rw [editCurrent]
  cases s.selectedTab <;> rfl

@[simp] theorem editCurrent_selectedTab : (s.editCurrent f).selectedTab = s.selectedTab := by
  rw [editCurrent]
  split <;> rfl

theorem mem_contents_list {type : ListType} :
    q ∈ s.contents (.list type) ↔ ∃ m, s.listOf type = some m ∧ q ∈ m.mRules := by
  rw [contents]
  cases s.listOf type <;> simp

/-- The rows are the rules of the tab's list, after the exceptions on the whitelist's tab. -/
theorem rulesList_eq (s : Screen) :
    s.rulesList = (if s.selectedTab = .whitelist then s.vpnExceptions.map (⟨·, none⟩) else []) ++
      (s.contents (.list s.selectedTab.listType)).map fun r => ⟨r.value, some r⟩ := by
  have hrows : ∀ l : Option MatchList, l.elim [] ruleRows =
      (l.elim [] (·.mRules)).map fun r => (⟨r.value, some r⟩ : RuleUiModel) := by
    intro l
    cases l <;> rfl
  rw [rulesList, currentMatchList_eq, contents, ← hrows]
  cases h : s.selectedTab <;> rfl

/-- A row with a rule is shown if the tab's list has the rule. -/
theorem mem_rulesList_some {row : RuleUiModel} (h : row.originalRule = some rule) :
    row ∈ s.rulesList ↔
      row.value = rule.value ∧ rule ∈ s.contents (.list s.selectedTab.listType) := by
  obtain ⟨value, originalRule⟩ := row
  subst h
  rw [rulesList_eq, List.mem_append, List.mem_map]
  constructor
  · rintro (hexc | ⟨r, hr, he⟩)
    · split at hexc <;> simp at hexc
    · rw [RuleUiModel.mk.injEq, Option.some.injEq] at he
      obtain ⟨rfl, rfl⟩ := he
      exact ⟨rfl, hr⟩
  · rintro ⟨rfl, hr⟩
    exact Or.inr ⟨rule, hr, rfl⟩

/-- A row without one is an exception. -/
theorem mem_rulesList_none {row : RuleUiModel} (h : row.originalRule = none) :
    row ∈ s.rulesList ↔ s.selectedTab = .whitelist ∧ row.value ∈ s.vpnExceptions := by
  obtain ⟨value, originalRule⟩ := row
  subst h
  rw [rulesList_eq]
  by_cases htab : s.selectedTab = .whitelist <;> simp [htab]

/-- The reload of the tab is that of its list, but on the whitelist's tab. -/
theorem reloadCurrentRules_eq_iff (s : Screen) (service : Service) :
    s.reloadCurrentRules service = s.selectedTab.listType.reloadRules service ↔
      (s.selectedTab = .whitelist → service.isServiceActive = false) := by
  rw [reloadCurrentRules, currentListType]
  cases s.selectedTab with
  | malware => simp [Tab.listType]
  | whitelist => cases h : service.isServiceActive <;> simp [Tab.listType, ListType.reloadRules, h]
  | blocklist => simp [Tab.listType]

theorem mem_contents_editCurrent {m : MatchList} (hm : s.currentMatchList = some m)
    {st : Store} :
    q ∈ (s.editCurrent f).contents st ↔
      if st = .list s.selectedTab.listType then q ∈ (f m).mRules else q ∈ s.contents st := by
  rw [currentMatchList_eq] at hm
  cases st with
  | exceptions => simp [contents]
  | list type =>
    by_cases h : type = s.selectedTab.listType
    · subst h
      simp [contents, listOf_editCurrent, hm]
    · simp [contents, listOf_editCurrent, h]

end Screen

/-! ## Each action -/

variable {packageName : CStr} {s : Screen} {env : Env} {a : Action} {row : RuleUiModel}

theorem coherent_add_iff (hadd : s.added a = some row) (hrem : Screen.removed a = none) :
    Coherent packageName s env a ↔ row ∈ (s.perform packageName env a).screen.rulesList ∧
      (s.perform packageName env a).request = (row.store s.selectedTab).reload env.service := by
  constructor
  · intro h
    exact ⟨h.shown row hadd, h.reloaded row (Or.inl hadd)⟩
  · rintro ⟨hshown, hreload⟩
    refine ⟨fun row' h => ?_, fun row' h => ?_, fun row' h => ?_⟩
    · rw [hadd] at h
      exact Option.some.inj h ▸ hshown
    · rw [hrem] at h
      cases h
    · rw [hadd, hrem] at h
      exact Option.some.inj (h.resolve_right (by simp)) ▸ hreload

theorem coherent_remove_iff : Coherent packageName s env (.onDelete row) ↔
    (∀ st q, q ∈ (s.onDelete packageName env row).screen.contents st ↔
      q ∈ s.contents st ∧ ¬ (st = row.store s.selectedTab ∧ q = row.rule)) ∧
    (s.onDelete packageName env row).request = (row.store s.selectedTab).reload env.service := by
  constructor
  · intro h
    exact ⟨h.gone row rfl, h.reloaded row (Or.inr rfl)⟩
  · rintro ⟨hgone, hreload⟩
    refine ⟨fun row' h => ?_, fun row' h => ?_, fun row' h => ?_⟩
    · cases h
    · cases h
      exact hgone
    · rcases h with h | h
      · cases h
      · cases h
        exact hreload

/-- After an attempt to add a rule, its row is shown if the list takes it. -/
theorem mem_rulesList_addRule {m : MatchList} (hm : s.currentMatchList = some m) (rule : Rule) :
    ⟨rule.value, some rule⟩ ∈
        (s.editCurrent fun m => (m.addRule env rule).getD m).rulesList ↔
      s.takes env rule = true := by
  rw [Screen.mem_rulesList_some rfl, Screen.editCurrent_selectedTab,
    Screen.mem_contents_editCurrent hm, if_pos rfl, MatchList.mem_addRule, Screen.takes, hm]
  simp [MatchList.containsKey_iff]

theorem coherent_onAdd_iff {type : RuleType} {value : CStr}
    (h : s.offers (.onAdd type value) = true) :
    Coherent packageName s env (.onAdd type value) ↔
      s.fits packageName env (.onAdd type value) = true := by
  rw [Screen.offers, Bool.and_eq_true, Option.isSome_iff_exists] at h
  obtain ⟨⟨m, hm⟩, htype⟩ := h
  have hscreen : (s.onAdd env type value).screen =
      s.editCurrent fun m => (m.addRule env (newRule type value)).getD m := by
    cases type with
    | app => rfl
    | ip => rfl
    | host => rfl
    | protocol => simp at htype
    | country => simp at htype
  have hreload : (s.onAdd env type value).request =
        s.selectedTab.listType.reloadRules env.service ↔
      (!(s.selectedTab == .whitelist && env.service.isServiceActive)) = true := by
    rw [Screen.onAdd, Screen.reloadCurrentRules_eq_iff]
    simp [imp_iff_not_or]
  rw [coherent_add_iff rfl rfl, Screen.fits, Bool.and_eq_true, Screen.perform, hscreen,
    mem_rulesList_addRule hm, ← hreload]
  rfl

theorem coherent_onAppSelected_iff {app : CStr}
    (h : s.offers (.onAppSelected app) = true) :
    Coherent packageName s env (.onAppSelected app) ↔
      s.fits packageName env (.onAppSelected app) = true := by
  rw [coherent_add_iff rfl rfl, Screen.perform, Screen.onAppSelected, Screen.fits]
  by_cases htab : s.selectedTab = .whitelist
  · -- the app becomes an exception
    simp [htab, Screen.mem_rulesList_none, RuleUiModel.store, Store.reload]
  · rw [Screen.offers, Bool.or_eq_true, beq_iff_eq, Option.isSome_iff_exists] at h
    obtain ⟨m, hm⟩ := h.resolve_left htab
    have hreload := (Screen.reloadCurrentRules_eq_iff s env.service).mpr fun h => absurd h htab
    simp only [if_neg htab, MatchList.addApp]
    rw [mem_rulesList_addRule hm, hreload, beq_false_of_ne htab, Bool.false_or]
    exact ⟨And.left, fun h => ⟨h, rfl⟩⟩

/-- What is shown as an exception is one. -/
def Screen.Shown (s : Screen) : Prop := ∀ app ∈ s.vpnExceptions, app ∈ s.exceptions

/-- On the whitelist's tab a deletion leaves the lists alone. -/
theorem contents_list_onDelete (htab : s.selectedTab = .whitelist) (type : ListType) :
    (s.onDelete packageName env row).screen.contents (.list type) =
      s.contents (.list type) := by
  rw [Screen.onDelete, if_pos htab]
  split
  · rfl
  · cases type <;> rfl

theorem coherent_onDelete_whitelist (hs : s.Shown) (htab : s.selectedTab = .whitelist)
    (h : row ∈ s.rulesList) :
    Coherent packageName s env (.onDelete row) ↔
      row.originalRule = none ∧ row.value ≠ packageName := by
  rw [coherent_remove_iff]
  constructor
  · rintro ⟨hgone, -⟩
    have hnone : row.originalRule = none := by
      cases hrow : row.originalRule with
      | none => rfl
      | some rule =>
        have hmem := ((Screen.mem_rulesList_some hrow).mp h).2
        have hleft := (hgone (.list s.selectedTab.listType) rule).mp
          (by rw [contents_list_onDelete htab]; exact hmem)
        exact absurd ⟨by simp [RuleUiModel.store, hrow], by simp [RuleUiModel.rule, hrow]⟩ hleft.2
    refine ⟨hnone, fun hvalue => ?_⟩
    have hstored := hs row.value ((Screen.mem_rulesList_none hnone).mp h).2
    have hleft := (hgone .exceptions ⟨.app, row.value⟩).mp
      (by rw [Screen.onDelete, if_pos htab, if_pos hvalue]; simpa [Screen.contents] using hstored)
    exact absurd ⟨by simp [RuleUiModel.store, hnone], by simp [RuleUiModel.rule, hnone]⟩ hleft.2
  · rintro ⟨hnone, hvalue⟩
    have hstore : row.store s.selectedTab = .exceptions := by simp [RuleUiModel.store, hnone]
    have hrule : row.rule = ⟨.app, row.value⟩ := by simp [RuleUiModel.rule, hnone]
    rw [hstore, hrule]
    constructor
    · intro st q
      cases st with
      | exceptions =>
        obtain ⟨type, value⟩ := q
        rw [Screen.onDelete, if_pos htab, if_neg hvalue]
        simp only [Screen.contents, List.mem_map, List.mem_filter, bne_iff_ne, Rule.mk.injEq]
        constructor
        · rintro ⟨app, ⟨happ, hne⟩, rfl, rfl⟩
          exact ⟨⟨app, happ, rfl, rfl⟩, fun he => hne he.2.2⟩
        · rintro ⟨⟨app, happ, rfl, rfl⟩, hne⟩
          exact ⟨app, ⟨happ, fun he => hne ⟨trivial, rfl, he⟩⟩, rfl, rfl⟩
      | list type => simp [contents_list_onDelete htab]
    · rw [Screen.onDelete, if_pos htab, if_neg hvalue]
      rfl

/-- On the outer tabs every deletion does what it is to do. -/
theorem coherent_onDelete_list (htab : s.selectedTab ≠ .whitelist) (h : row ∈ s.rulesList) :
    Coherent packageName s env (.onDelete row) := by
  cases hrow : row.originalRule with
  | none => exact absurd ((Screen.mem_rulesList_none hrow).mp h).1 htab
  | some rule =>
    have hmem := ((Screen.mem_rulesList_some hrow).mp h).2
    obtain ⟨m, hm, -⟩ := Screen.mem_contents_list.mp hmem
    rw [← Screen.currentMatchList_eq] at hm
    have hreload := (Screen.reloadCurrentRules_eq_iff s env.service).mpr fun h => absurd h htab
    have hstore : row.store s.selectedTab = .list s.selectedTab.listType := by
      simp [RuleUiModel.store, hrow]
    have hrule : row.rule = rule := by simp [RuleUiModel.rule, hrow]
    rw [coherent_remove_iff, Screen.onDelete, if_neg htab, hrow, hstore, hrule]
    refine ⟨fun st q => ?_, hreload⟩
    rw [Option.elim_some, Screen.mem_contents_editCurrent hm]
    by_cases hst : st = .list s.selectedTab.listType
    · subst hst
      rw [if_pos rfl, MatchList.mem_removeRule, Screen.mem_contents_list,
        ← Screen.currentMatchList_eq, hm]
      simp
    · simp [hst]

theorem coherent_onDelete_iff (hs : s.Shown) (h : s.offers (.onDelete row) = true) :
    Coherent packageName s env (.onDelete row) ↔
      s.fits packageName env (.onDelete row) = true := by
  rw [Screen.offers, List.contains_iff_mem] at h
  by_cases htab : s.selectedTab = .whitelist
  · rw [coherent_onDelete_whitelist hs htab h, Screen.fits, htab]
    simp
  · simp [coherent_onDelete_list htab h, Screen.fits, htab]

theorem coherent_iff (hs : s.Shown) (h : s.offers a = true) :
    Coherent packageName s env a ↔ s.fits packageName env a = true := by
  cases a with
  | selectTab tab => exact ⟨fun _ => rfl, fun _ => ⟨by simp [Screen.added],
      by simp [Screen.removed], by simp [Screen.added, Screen.removed]⟩⟩
  | onAdd type value => exact coherent_onAdd_iff h
  | onAppSelected app => exact coherent_onAppSelected_iff h
  | onDelete row => exact coherent_onDelete_iff hs h
  | startVpn => exact ⟨fun _ => rfl, fun _ => ⟨by simp [Screen.added],
      by simp [Screen.removed], by simp [Screen.added, Screen.removed]⟩⟩

/-! ## Every run -/

/-- No action shows an exception that is not stored. -/
theorem shown_step (hs : s.Shown) (i : Env × Action) : (s.step packageName i).Shown := by
  obtain ⟨env, a⟩ := i
  rw [Screen.step]
  split
  · cases a with
    | selectTab tab => exact hs
    | onAdd type value =>
      intro app happ
      simp only [Screen.perform, Screen.onAdd, Screen.editCurrent_exceptions,
        Screen.editCurrent_vpnExceptions] at happ ⊢
      exact hs app happ
    | onAppSelected app =>
      rw [Screen.perform, Screen.onAppSelected]
      split
      · exact fun _ h => h
      · intro app happ
        simp only [Screen.editCurrent_exceptions, Screen.editCurrent_vpnExceptions] at happ ⊢
        exact hs app happ
    | onDelete row =>
      rw [Screen.perform, Screen.onDelete]
      split
      · split
        · exact hs
        · exact fun _ h => h
      · cases row.originalRule with
        | none => exact hs
        | some rule =>
          intro app happ
          simp only [Option.elim_some, Screen.editCurrent_exceptions,
            Screen.editCurrent_vpnExceptions] at happ ⊢
          exact hs app happ
    | startVpn =>
      rw [Screen.perform, Screen.startVpn]
      split
      · exact hs
      · exact fun app happ => List.mem_insert_iff.mpr (Or.inr (hs app happ))
  · exact hs

theorem everyStep_coherent_iff (hs : s.Shown) (is : List (Env × Action)) :
    EveryStep (Screen.step packageName)
        (fun s i => s.offers i.2 = true → Coherent packageName s i.1 i.2) s is ↔
      EveryStep (Screen.step packageName)
        (fun s i => s.offers i.2 = true → s.fits packageName i.1 i.2 = true) s is := by
  have hagree : ∀ (s : Screen) (i : Env × Action), s.Shown →
      ((s.offers i.2 = true → Coherent packageName s i.1 i.2) ↔
        (s.offers i.2 = true → s.fits packageName i.1 i.2 = true)) :=
    fun s i hs => forall_congr' fun h => coherent_iff hs h
  exact everyStep_congr hagree (fun s i hs _ => shown_step hs i) hs is

/-- **The rules screen is coherent** in a run exactly if every action of it fits. -/
theorem rules_coherent_iff (packageName : CStr) (malwareList whitelist blocklist : Option MatchList)
    (exceptions : List CStr) (is : List (Env × Action)) :
    EveryStep (Screen.step packageName)
        (fun s i => s.offers i.2 = true → Coherent packageName s i.1 i.2)
        (vpnRulesScreen malwareList whitelist blocklist exceptions) is ↔
      EveryStep (Screen.step packageName)
        (fun s i => s.offers i.2 = true → s.fits packageName i.1 i.2 = true)
        (vpnRulesScreen malwareList whitelist blocklist exceptions) is :=
  everyStep_coherent_iff (fun _ h => h) is

/-- The capture runs and every package resolves. -/
def capturing : Env := ⟨fun _ => some 10100, fun _ => true, ⟨true, true, false⟩⟩

/-- An app is on the whitelist of the engine, the other lists are empty. -/
def capturedScreen : Screen :=
  vpnRulesScreen (some .empty) (MatchList.empty.addApp capturing (cstr "com.whatsapp"))
    (some .empty) [cstr "com.secureguard.mdm"]

theorem capturedScreen_shown : capturedScreen.Shown := fun _ h => h

/-- A run goes to the whitelist's tab and does one thing there. -/
def onWhitelist (a : Action) : List (Env × Action) :=
  [(capturing, .selectTab .whitelist), (capturing, a)]

/-- The row of the app. -/
def whatsappRow : RuleUiModel := ⟨cstr "com.whatsapp", some ⟨.app, cstr "com.whatsapp"⟩⟩

/-- An app added to the whitelist has the blocklist reloaded; deleted from there, it stays. -/
theorem rules_incoherent :
    ¬ EveryStep (Screen.step (cstr "com.secureguard.mdm"))
        (fun s i => s.offers i.2 = true → Coherent (cstr "com.secureguard.mdm") s i.1 i.2)
        capturedScreen (onWhitelist (.onAdd .app (cstr "com.waze"))) ∧
      ¬ EveryStep (Screen.step (cstr "com.secureguard.mdm"))
        (fun s i => s.offers i.2 = true → Coherent (cstr "com.secureguard.mdm") s i.1 i.2)
        capturedScreen (onWhitelist (.onDelete whatsappRow)) ∧
      whatsappRow ∈ (run (Screen.step (cstr "com.secureguard.mdm")) capturedScreen
        (onWhitelist (.onDelete whatsappRow))).rulesList := by
  rw [everyStep_coherent_iff capturedScreen_shown, everyStep_coherent_iff capturedScreen_shown]
  decide +kernel

end SecureGuard.Ui
