import SecureGuard.Lib.Machine
import SecureGuard.Ui.RuleList

/-! # The index of a list of rules

Besides its rules a list keeps their keys, the uids of its apps and the ranges of its addresses,
and answers from these. Each operation updates them by hand, with what the package manager says
of a package at that time. What the rules denote is said apart from these: an app rule denotes the
uid that was last told of its package, which is recorded beside the list. -/

namespace SecureGuard.Ui
open Native (CStr cstr)
open Capture (cleanDomain utilsGetSecondLevelDomain)
open Machine

/-! ## Apps -/

structure AppDescriptor where
  packageName : CStr
  uid : Int
deriving DecidableEq, Repr

/-- What `AppsResolver` answers: moreover the app it takes for a uid. -/
structure Resolver extends Env where
  getAppByUid : Int → Option AppDescriptor

def Resolver.getAppByPackage (r : Resolver) (pkg : CStr) : Option AppDescriptor :=
  (r.getUid pkg).bind r.getAppByUid

namespace Index

/-- `mPackageToUid.get`. -/
def uidOf (i : Index) (pkg : CStr) : Option Int := i.mPackageToUid.lookup pkg

/-- An old uid of a package is taken out. -/
def forget (i : Index) (pkg : CStr) (uid : Int) : Index :=
  { i with
    mPackageToUid := i.mPackageToUid.filter (·.1 != pkg)
    mUids := i.mUids.erase uid }

/-- A uid of a package is put in. -/
def learn (i : Index) (pkg : CStr) (uid : Int) : Index :=
  { i with
    mPackageToUid := i.mPackageToUid.filter (·.1 != pkg) ++ [(pkg, uid)]
    mUids := i.mUids.insert uid }

/-- The part of `uidMappingChanged` for a package that has a rule: whether it changed anything. -/
def uidMappingChanged (r : Resolver) (i : Index) (pkg : CStr) : Index × Bool :=
  let app := r.getAppByPackage pkg
  match i.uidOf pkg with
  | some oldUid =>
    if app.map (·.uid) ≠ some oldUid then
      (app.elim (i.forget pkg oldUid) fun app => (i.forget pkg oldUid).learn pkg app.uid, true)
    else (i, false)
  | none => app.elim (i, false) fun app => (i.learn pkg app.uid, true)

end Index

/-! ## The list -/

namespace MatchList

/-- The list, and whether its mapping has been updated. -/
def uidMappingChanged (r : Resolver) (m : MatchList) (pkg : CStr) : MatchList × Bool :=
  if m.containsKey ⟨.app, pkg⟩ then
    ({ m with index := (m.index.uidMappingChanged r pkg).1 }, (m.index.uidMappingChanged r pkg).2)
  else (m, false)

def clear (_ : MatchList) : MatchList := empty

end MatchList

/-- An operation on a list. -/
inductive Op
  | addRule (rule : Rule)
  | removeRule (rule : Rule)
  | uidMappingChanged (pkg : CStr)
  | clear

/-- An operation, with what the resolver answers at that time. -/
def MatchList.step (m : MatchList) : Resolver × Op → MatchList
  | (r, .addRule rule) => (m.addRule r.toEnv rule).getD m
  | (r, .removeRule rule) => m.removeRule r.toEnv rule
  | (r, .uidMappingChanged pkg) => (m.uidMappingChanged r pkg).1
  | (_, .clear) => m.clear

/-! ## The answers -/

/-- `InetAddress.getByName`, and `isInRange` of the `Cidr` of a text. -/
structure Net (α : Type) where
  getByName : CStr → Option α
  isInRange : CStr → α → Bool

/-- The parts of a `ConnectionDescriptor` that are matched. -/
structure Conn where
  uid : Int
  dst_ip : CStr
  l7proto : CStr
  country : CStr
  info : Option CStr

namespace MatchList

variable {α : Type}

def matchesApp (m : MatchList) (uid : Int) : Bool := m.index.mUids.contains uid

def matchesExactIP (m : MatchList) (ip : CStr) : Bool := m.mMatches.contains (matchKey .ip ip)

def matchesCidr (net : Net α) (m : MatchList) (ip : CStr) : Option CStr :=
  (net.getByName ip).bind fun address => m.index.mCidrs.find? fun cidr => net.isInRange cidr address

def matchesProto (m : MatchList) (l7proto : CStr) : Bool :=
  m.mMatches.contains (matchKey .protocol l7proto)

def matchesExactHost (m : MatchList) (host : CStr) : Bool :=
  m.mMatches.contains (matchKey .host (cleanDomain host))

def matchesHost (m : MatchList) (host : CStr) : Bool :=
  let nhost := cleanDomain host
  if m.matchesExactHost nhost then true
  else if nhost ≠ host then
    let domain := utilsGetSecondLevelDomain nhost
    domain != nhost && m.mMatches.contains (matchKey .host domain)
  else false

def matchesCountry (m : MatchList) (country_code : CStr) : Bool :=
  m.mMatches.contains (matchKey .country country_code)

/-- The host is looked at where the connection has one. -/
def «matches» (net : Net α) (m : MatchList) (conn : Conn) : Bool :=
  if m.mMatches.isEmpty then false
  else m.matchesApp conn.uid || m.matchesExactIP conn.dst_ip ||
    (m.matchesCidr net conn.dst_ip).isSome || m.matchesProto conn.l7proto ||
    m.matchesCountry conn.country ||
    conn.info.any fun info => !info.isEmpty && m.matchesHost info

end MatchList

/-! ## The list of the hosts

For hosts the list is the one whose matcher the packet loop has to agree with, through every
run. -/

/-- What an operation does to the rules for hosts. -/
def hostStep (hosts : Capture.MatchList) : Resolver × Op → Capture.MatchList
  | (_, .addRule rule) => (MatchList.hostOf rule).elim hosts hosts.addRule
  | (_, .removeRule rule) => (MatchList.hostOf rule).elim hosts hosts.removeRule
  | (_, .uidMappingChanged _) => hosts
  | (_, .clear) => .empty

namespace MatchList

theorem hosts_empty : empty.hosts = .empty := rfl

theorem hosts_step (m : MatchList) (a : Resolver × Op) :
    (m.step a).hosts = hostStep m.hosts a := by
  obtain ⟨r, op⟩ := a
  cases op with
  | addRule rule => exact hosts_addRule r.toEnv m rule
  | removeRule rule => exact hosts_removeRule r.toEnv m rule
  | uidMappingChanged pkg =>
    rw [step, uidMappingChanged]
    split <;> rfl
  | clear => exact hosts_empty

theorem hosts_run (m : MatchList) (ops : List (Resolver × Op)) :
    (run step m ops).hosts = run hostStep m.hosts ops := by
  induction ops generalizing m with
  | nil => rfl
  | cons a ops ih =>
    have hrest := ih (m.step a)
    rw [hosts_step] at hrest
    exact hrest

theorem contains_matchKey_host (m : MatchList) (val : CStr) :
    m.mMatches.contains (matchKey .host val) = m.hosts.containsKey val :=
  (hosts_containsKey m val).symm

theorem matchesHost_hosts (m : MatchList) (host : CStr) :
    m.matchesHost host = m.hosts.matchesHost host := by
  simp only [matchesHost, Capture.MatchList.matchesHost, matchesExactHost,
    Capture.MatchList.matchesExactHost, contains_matchKey_host]

/-- **A list of rules of every type matches hosts as the list of its hosts** after every run. -/
theorem matchesHost_run (ops : List (Resolver × Op)) (host : CStr) :
    (run step empty ops).matchesHost host = (run hostStep .empty ops).matchesHost host := by
  rw [matchesHost_hosts, hosts_run, hosts_empty]

end MatchList

/-! ## What the rules denote -/

namespace Rule

variable {α : Type}

/-- The app of the rule has this uid, by what is known of its package. -/
def MatchesApp (known : CStr → Option Int) (rule : Rule) (uid : Int) : Prop :=
  rule.type = .app ∧ known rule.value = some uid

/-- The text of the rule is a range. -/
def IsCidr (rule : Rule) : Prop := rule.type = .ip ∧ rule.value.contains slash = true

def MatchesIp (net : Net α) (rule : Rule) (ip : CStr) : Prop :=
  rule = ⟨.ip, ip⟩ ∨
    rule.IsCidr ∧ ∃ address, net.getByName ip = some address ∧ net.isInRange rule.value address

/-- The rule is the host without its prefixes, or the domain below which a host with a prefix
stands. -/
def MatchesHost (rule : Rule) (host : CStr) : Prop :=
  rule = ⟨.host, cleanDomain (cleanDomain host)⟩ ∨
    cleanDomain host ≠ host ∧
      utilsGetSecondLevelDomain (cleanDomain host) ≠ cleanDomain host ∧
      rule = ⟨.host, utilsGetSecondLevelDomain (cleanDomain host)⟩

def Matches (net : Net α) (known : CStr → Option Int) (rule : Rule) (conn : Conn) : Prop :=
  rule.MatchesApp known conn.uid ∨ rule.MatchesIp net conn.dst_ip ∨
    rule = ⟨.protocol, conn.l7proto⟩ ∨ rule = ⟨.country, conn.country⟩ ∨
    ∃ info, conn.info = some info ∧ info.isEmpty = false ∧ rule.MatchesHost info

end Rule

namespace MatchList

/-- The index holds what the rules denote. -/
structure Indexed (m : MatchList) (known : CStr → Option Int) : Prop where
  keys : ∀ rule : Rule, rule.key ∈ m.mMatches ↔ rule ∈ m.mRules
  uids : ∀ uid, uid ∈ m.index.mUids ↔ ∃ rule ∈ m.mRules, rule.MatchesApp known uid
  cidrs : ∀ cidr, cidr ∈ m.index.mCidrs ↔ (⟨.ip, cidr⟩ : Rule) ∈ m.mRules ∧ cidr.contains slash

/-- Every question is answered as the rules have it. -/
structure Answers {α : Type} (net : Net α) (m : MatchList) (known : CStr → Option Int) :
    Prop where
  app : ∀ uid, m.matchesApp uid = true ↔ ∃ rule ∈ m.mRules, rule.MatchesApp known uid
  ip : ∀ ip, (m.matchesExactIP ip || (m.matchesCidr net ip).isSome) = true ↔
    ∃ rule ∈ m.mRules, rule.MatchesIp net ip
  host : ∀ host, m.matchesHost host = true ↔ ∃ rule ∈ m.mRules, rule.MatchesHost host
  conn : ∀ conn, m.matches net conn = true ↔ ∃ rule ∈ m.mRules, rule.Matches net known conn

end MatchList

/-! ## What is known of the packages -/

/-- A list, and what was last told of each package: by `getUid` when its rule was put into the
list, or by `getAppByPackage` when its mapping may have changed. -/
structure Told where
  list : MatchList
  known : CStr → Option Int

namespace Told

def start : Told := ⟨MatchList.empty, fun _ => none⟩

/-- The list asks for the uid of a package only for a rule it does not have yet. -/
def recorded (s : Told) : Resolver × Op → CStr → Option Int
  | (r, .addRule rule) =>
    if rule.type = .app ∧ s.list.containsKey rule = false then
      Function.update s.known rule.value (r.getUid rule.value)
    else s.known
  | (_, .removeRule _) => s.known
  | (r, .uidMappingChanged pkg) =>
    Function.update s.known pkg ((r.getAppByPackage pkg).map (·.uid))
  | (_, .clear) => fun _ => none

def step (s : Told) (a : Resolver × Op) : Told := ⟨s.list.step a, s.recorded a⟩

/-- The index holds what the rules denote, and every question is answered so. -/
def Exact {α : Type} (net : Net α) (s : Told) : Prop :=
  s.list.Indexed s.known ∧ s.list.Answers net s.known

end Told

namespace Rule

variable {rules : List Rule} {known : CStr → Option Int} {uid : Int}

theorem exists_matchesApp : (∃ rule ∈ rules, rule.MatchesApp known uid) ↔
    ∃ pkg, (⟨.app, pkg⟩ : Rule) ∈ rules ∧ known pkg = some uid := by
  constructor
  · rintro ⟨⟨type, pkg⟩, hmem, rfl, huid⟩
    exact ⟨pkg, hmem, huid⟩
  · rintro ⟨pkg, hmem, huid⟩
    exact ⟨⟨.app, pkg⟩, hmem, rfl, huid⟩

end Rule

namespace MatchList

variable {α : Type} {net : Net α} {m : MatchList} {known : CStr → Option Int} {pkg : CStr}
  {uid : Int}

theorem Indexed.contains_iff (h : m.Indexed known) (type : RuleType) (value : CStr) :
    m.mMatches.contains (matchKey type value) = true ↔ (⟨type, value⟩ : Rule) ∈ m.mRules := by
  rw [List.contains_iff_mem]
  exact h.keys ⟨type, value⟩

theorem Indexed.matchesApp_iff (h : m.Indexed known) (uid : Int) :
    m.matchesApp uid = true ↔ ∃ rule ∈ m.mRules, rule.MatchesApp known uid := by
  rw [matchesApp, List.contains_iff_mem, h.uids]

theorem Indexed.matchesIp_iff (h : m.Indexed known) (net : Net α) (ip : CStr) :
    (m.matchesExactIP ip || (m.matchesCidr net ip).isSome) = true ↔
      ∃ rule ∈ m.mRules, rule.MatchesIp net ip := by
  have hcidr : (m.matchesCidr net ip).isSome = true ↔ ∃ rule ∈ m.mRules, rule.IsCidr ∧
      ∃ address, net.getByName ip = some address ∧ net.isInRange rule.value address := by
    rw [matchesCidr]
    cases net.getByName ip with
    | none => simp
    | some address =>
      simp only [Option.bind_some, List.find?_isSome, h.cidrs, Option.some.injEq, exists_eq_left']
      constructor
      · rintro ⟨cidr, ⟨hmem, hslash⟩, hrange⟩
        exact ⟨⟨.ip, cidr⟩, hmem, ⟨rfl, hslash⟩, hrange⟩
      · rintro ⟨⟨type, cidr⟩, hmem, ⟨rfl, hslash⟩, hrange⟩
        exact ⟨cidr, ⟨hmem, hslash⟩, hrange⟩
  rw [Bool.or_eq_true, hcidr, matchesExactIP, h.contains_iff]
  simp only [Rule.MatchesIp, and_or_left, exists_or, exists_eq_right]

theorem Indexed.matchesHost_iff (h : m.Indexed known) (host : CStr) :
    m.matchesHost host = true ↔ ∃ rule ∈ m.mRules, rule.MatchesHost host := by
  simp only [Rule.MatchesHost, and_or_left, exists_or, exists_eq_right]
  rw [matchesHost, matchesExactHost, ← h.contains_iff]
  cases m.mMatches.contains (matchKey .host (cleanDomain (cleanDomain host))) with
  | true => simp
  | false =>
    by_cases hclean : cleanDomain host = host
    · simp [hclean]
    · simp [hclean, ← h.contains_iff, and_comm]

/-- Without keys there is no rule. -/
theorem Indexed.matches_iff (h : m.Indexed known) (net : Net α) (conn : Conn) :
    m.matches net conn = true ↔ ∃ rule ∈ m.mRules, rule.Matches net known conn := by
  by_cases hempty : m.mMatches.isEmpty
  · have hnone : ∀ rule, rule ∉ m.mRules := by
      intro rule hrule
      have hmem := (h.keys rule).mpr hrule
      rw [List.isEmpty_iff.mp hempty] at hmem
      cases hmem
    simp [«matches», hempty, hnone]
  · rw [«matches», if_neg hempty]
    have hinfo : (conn.info.any fun info => !info.isEmpty && m.matchesHost info) = true ↔
        ∃ rule ∈ m.mRules, ∃ info, conn.info = some info ∧ info.isEmpty = false ∧
          rule.MatchesHost info := by
      cases conn.info with
      | none => simp
      | some info =>
        simp only [Option.any_some, Bool.and_eq_true, Bool.not_eq_true', h.matchesHost_iff,
          Option.some.injEq, exists_eq_left']
        exact ⟨fun ⟨hne, rule, hmem, hrule⟩ => ⟨rule, hmem, hne, hrule⟩,
          fun ⟨rule, hmem, hne, hrule⟩ => ⟨hne, rule, hmem, hrule⟩⟩
    simp only [Rule.Matches, and_or_left, exists_or, exists_eq_right, ← h.matchesApp_iff,
      ← h.matchesIp_iff net, ← hinfo]
    rw [matchesProto, matchesCountry, ← h.contains_iff, ← h.contains_iff]
    simp only [Bool.or_eq_true, or_assoc]

/-- An index that holds what the rules denote answers as they have it. -/
theorem Indexed.answers (h : m.Indexed known) (net : Net α) : m.Answers net known where
  app := h.matchesApp_iff
  ip := h.matchesIp_iff net
  host := h.matchesHost_iff
  conn := h.matches_iff net

end MatchList

/-! ## When an operation keeps the index -/

namespace Told

/-- An app rule for another package has the uid. -/
def hasOther (s : Told) (pkg : CStr) (uid : Int) : Bool := s.list.mRules.any fun rule =>
  rule != ⟨.app, pkg⟩ && rule.type = .app && s.known rule.value = some uid

/-- No range is removed. A uid that is taken out, with the rule of its package or for another uid
of it, is of no other rule; and with a rule goes the uid known of its package, unless that is of
another rule. -/
def fits (s : Told) : Resolver × Op → Bool
  | (r, .removeRule rule) =>
    match rule.type with
    | .app =>
      (r.getUid rule.value).all (fun uid => !s.hasOther rule.value uid) &&
        (!s.list.mRules.contains rule || (s.known rule.value).all fun uid =>
          r.getUid rule.value = some uid || s.hasOther rule.value uid)
    | .ip => !rule.value.contains slash || !s.list.mRules.contains rule
    | _ => true
  | (r, .uidMappingChanged pkg) =>
    !s.list.mRules.contains ⟨.app, pkg⟩ || (s.known pkg).all fun uid =>
      (r.getAppByPackage pkg).map (·.uid) = some uid || !s.hasOther pkg uid
  | _ => true

end Told

namespace Index

variable {i : Index} {pkg q : CStr} {uid x : Int}

theorem lookup_cons_eq (l : List (CStr × Int)) :
    ((pkg, uid) :: l).lookup q = if q = pkg then some uid else l.lookup q := by
  rw [List.lookup_cons]
  by_cases hq : q = pkg
  · rw [if_pos hq, beq_iff_eq.mpr hq]
  · rw [if_neg hq, beq_eq_false_iff_ne.mpr hq]

theorem lookup_filter_ne (l : List (CStr × Int)) :
    (l.filter (·.1 != pkg)).lookup q = if q = pkg then none else l.lookup q := by
  induction l with
  | nil => simp
  | cons e l ih =>
    obtain ⟨p, u⟩ := e
    by_cases hp : p = pkg
    · subst hp
      rw [List.filter_cons_of_neg (by simp), ih, lookup_cons_eq]
      split <;> rfl
    · rw [List.filter_cons_of_pos (by simpa using hp), lookup_cons_eq, lookup_cons_eq, ih]
      by_cases hq : q = p
      · rw [if_pos hq, if_pos hq, if_neg (hq ▸ hp)]
      · rw [if_neg hq, if_neg hq]

/-- Of the other packages nothing changes. -/
theorem uidOf_forget :
    (i.forget pkg uid).uidOf q = if q = pkg then none else i.uidOf q := lookup_filter_ne _

theorem uidOf_learn :
    (i.learn pkg uid).uidOf q = if q = pkg then some uid else i.uidOf q := by
  rw [uidOf, learn, List.lookup_append, lookup_filter_ne, lookup_cons_eq, List.lookup_nil, uidOf]
  split
  · rfl
  · exact Option.or_none

theorem mem_mUids_forget (h : i.mUids.Nodup) :
    x ∈ (i.forget pkg uid).mUids ↔ x ≠ uid ∧ x ∈ i.mUids := h.mem_erase_iff

theorem mem_mUids_learn : x ∈ (i.learn pkg uid).mUids ↔ x = uid ∨ x ∈ i.mUids :=
  List.mem_insert_iff

variable {r : Resolver}

/-- The mapping of the package is the new one, if there is one. -/
theorem uidOf_uidMappingChanged : (i.uidMappingChanged r pkg).1.uidOf q =
    if q = pkg then (r.getAppByPackage pkg).map (·.uid) else i.uidOf q := by
  rw [uidMappingChanged]
  cases hold : i.uidOf pkg with
  | none =>
    cases r.getAppByPackage pkg with
    | none =>
      simp only [Option.elim_none, Option.map_none]
      split
      · rename_i hq
        rw [hq, hold]
      · rfl
    | some app => exact uidOf_learn
  | some oldUid =>
    simp only
    split
    · cases r.getAppByPackage pkg with
      | none => exact uidOf_forget
      | some app =>
        refine uidOf_learn.trans ?_
        split
        · rfl
        · rename_i hq
          exact uidOf_forget.trans (if_neg hq)
    · rename_i hsame
      rw [not_not.mp hsame]
      split
      · rename_i hq
        rw [hq, hold]
      · rfl

/-- The old uid is gone where the new one is another. -/
theorem mem_mUids_uidMappingChanged (h : i.mUids.Nodup)
    (hmem : ∀ uid, i.uidOf pkg = some uid → uid ∈ i.mUids) :
    x ∈ (i.uidMappingChanged r pkg).1.mUids ↔ (r.getAppByPackage pkg).map (·.uid) = some x ∨
      x ∈ i.mUids ∧ i.uidOf pkg ≠ some x := by
  rw [uidMappingChanged]
  cases hold : i.uidOf pkg with
  | none =>
    cases r.getAppByPackage pkg with
    | none => simp
    | some app => simp [mem_mUids_learn, eq_comm]
  | some oldUid =>
    simp only
    split
    · cases r.getAppByPackage pkg with
      | none => simp [mem_mUids_forget h, eq_comm, and_comm]
      | some app => simp [mem_mUids_learn, mem_mUids_forget h, eq_comm, and_comm]
    · rename_i hsame
      rw [not_not.mp hsame]
      by_cases hx : oldUid = x
      · subst hx
        simp [hmem oldUid hold]
      · simp [hx]

theorem mCidrs_uidMappingChanged : (i.uidMappingChanged r pkg).1.mCidrs = i.mCidrs := by
  rw [uidMappingChanged]
  cases i.uidOf pkg with
  | none => cases r.getAppByPackage pkg <;> rfl
  | some oldUid =>
    simp only
    split
    · cases r.getAppByPackage pkg <;> rfl
    · rfl

theorem nodup_uidMappingChanged (h : i.mUids.Nodup) :
    (i.uidMappingChanged r pkg).1.mUids.Nodup := by
  rw [uidMappingChanged]
  cases i.uidOf pkg with
  | none =>
    cases r.getAppByPackage pkg with
    | none => exact h
    | some app => exact h.insert
  | some oldUid =>
    simp only
    split
    · cases r.getAppByPackage pkg with
      | none => exact h.erase oldUid
      | some app => exact (h.erase oldUid).insert
    · exact h

/-- It answers whether the mapping has been updated. -/
theorem uidMappingChanged_snd : (i.uidMappingChanged r pkg).2 = true ↔
    (i.uidMappingChanged r pkg).1.uidOf pkg ≠ i.uidOf pkg := by
  rw [uidOf_uidMappingChanged, if_pos rfl, uidMappingChanged]
  cases hold : i.uidOf pkg with
  | none => cases r.getAppByPackage pkg <;> simp
  | some oldUid =>
    simp only
    split
    · rename_i hne
      simpa using hne
    · rename_i hsame
      simpa using hsame

end Index

namespace Told

variable {α : Type} {net : Net α} {s : Told} {r : Resolver} {rule : Rule} {pkg : CStr}
  {uid x : Int}

theorem hasOther_iff : s.hasOther pkg uid = true ↔
    ∃ p ≠ pkg, (⟨.app, p⟩ : Rule) ∈ s.list.mRules ∧ s.known p = some uid := by
  rw [hasOther, List.any_eq_true]
  constructor
  · rintro ⟨⟨type, p⟩, hmem, hp⟩
    simp only [Bool.and_eq_true, bne_iff_ne, decide_eq_true_eq] at hp
    obtain ⟨⟨hne, rfl⟩, huid⟩ := hp
    exact ⟨p, fun h => hne (h ▸ rfl), hmem, huid⟩
  · rintro ⟨p, hne, hmem, huid⟩
    exact ⟨⟨.app, p⟩, hmem, by simp [hne, huid]⟩

/-- The uids of a list, with one of its apps set apart. -/
theorem mem_uids_iff (h : s.list.Indexed s.known) : x ∈ s.list.index.mUids ↔
    (⟨.app, pkg⟩ : Rule) ∈ s.list.mRules ∧ s.known pkg = some x ∨ s.hasOther pkg x = true := by
  rw [h.uids, Rule.exists_matchesApp, hasOther_iff]
  constructor
  · rintro ⟨p, hmem, huid⟩
    by_cases hp : p = pkg
    · subst hp
      exact Or.inl ⟨hmem, huid⟩
    · exact Or.inr ⟨p, hp, hmem, huid⟩
  · rintro (⟨hmem, huid⟩ | ⟨p, -, hmem, huid⟩)
    · exact ⟨pkg, hmem, huid⟩
    · exact ⟨p, hmem, huid⟩

/-- The mapping of the list is what is known of the packages that have a rule. -/
structure Inv (s : Told) : Prop where
  indexed : s.list.Indexed s.known
  nodupUids : s.list.index.mUids.Nodup
  mapped : ∀ pkg, (⟨.app, pkg⟩ : Rule) ∈ s.list.mRules → s.list.index.uidOf pkg = s.known pkg

theorem exact_iff : s.Exact net ↔ s.list.Indexed s.known :=
  ⟨And.left, fun h => ⟨h, h.answers net⟩⟩

theorem inv_start : start.Inv where
  indexed := ⟨MatchList.empty.inSync, by simp [start, MatchList.empty],
    by simp [start, MatchList.empty]⟩
  nodupUids := List.nodup_nil
  mapped := by simp [start, MatchList.empty]

/-- Nothing depends on what is known of a package without a rule. -/
theorem Inv.update (h : s.Inv) (hrule : (⟨.app, pkg⟩ : Rule) ∉ s.list.mRules)
    (answer : Option Int) : Inv ⟨s.list, Function.update s.known pkg answer⟩ := by
  have hsame : ∀ p, (⟨.app, p⟩ : Rule) ∈ s.list.mRules →
      Function.update s.known pkg answer p = s.known p := by
    intro p hp
    refine Function.update_of_ne ?_ _ _
    rintro rfl
    exact hrule hp
  refine ⟨⟨h.indexed.keys, fun x => ?_, h.indexed.cidrs⟩, h.nodupUids, fun p hp => ?_⟩
  · rw [h.indexed.uids, Rule.exists_matchesApp, Rule.exists_matchesApp]
    refine exists_congr fun p => and_congr_right fun hp => ?_
    dsimp only
    rw [hsame p hp]
  · exact (h.mapped p hp).trans (hsame p hp).symm

/-! ### A rule is added -/

/-- A new rule is put into a list together with what it denotes. -/
theorem inv_put (h : s.Inv) (hnew : ¬ s.list.containsKey rule = true) {index : Index}
    {known : CStr → Option Int}
    (hothers : ∀ p, rule ≠ ⟨.app, p⟩ →
      index.uidOf p = s.list.index.uidOf p ∧ known p = s.known p)
    (hown : ∀ p, rule = ⟨.app, p⟩ → index.uidOf p = known p)
    (huids : ∀ x, x ∈ index.mUids ↔ x ∈ s.list.index.mUids ∨ rule.MatchesApp known x)
    (hcidrs : ∀ cidr, cidr ∈ index.mCidrs ↔
      cidr ∈ s.list.index.mCidrs ∨ rule = ⟨.ip, cidr⟩ ∧ cidr.contains slash)
    (hnodup : index.mUids.Nodup) : Inv ⟨s.list.put rule hnew index, known⟩ := by
  have hmem : rule ∉ s.list.mRules := fun hrule => hnew (MatchList.containsKey_iff.mpr hrule)
  have hrules : (s.list.put rule hnew index).mRules = s.list.mRules ++ [rule] := rfl
  have hindex : (s.list.put rule hnew index).index = index := rfl
  refine ⟨⟨(s.list.put rule hnew index).inSync, fun x => ?_, fun cidr => ?_⟩, hnodup,
    fun p hp => ?_⟩
  · have hsame : ∀ q ∈ s.list.mRules, q.MatchesApp known x ↔ q.MatchesApp s.known x := by
      rintro ⟨type, p⟩ hq
      refine and_congr_right ?_
      rintro rfl
      rw [(hothers p fun heq => hmem (heq ▸ hq)).2]
    rw [hrules, hindex, huids, h.indexed.uids]
    simp only [List.mem_append, List.mem_singleton, or_and_right, exists_or, exists_eq_left]
    exact or_congr_left (exists_congr fun q => and_congr_right fun hq => (hsame q hq).symm)
  · rw [hrules, hindex, hcidrs, h.indexed.cidrs, List.mem_append, List.mem_singleton,
      or_and_right, @eq_comm _ rule]
  · by_cases hrule : rule = ⟨.app, p⟩
    · exact hown p hrule
    · obtain ⟨huidOf, hknown⟩ := hothers p hrule
      rw [hrules, List.mem_append, List.mem_singleton] at hp
      exact huidOf.trans ((h.mapped p (hp.resolve_right (Ne.symm hrule))).trans hknown.symm)

theorem inv_put_app (h : s.Inv) (hnew : ¬ s.list.containsKey ⟨.app, pkg⟩ = true) (uid : Int) :
    Inv ⟨s.list.put ⟨.app, pkg⟩ hnew (s.list.index.learn pkg uid),
      Function.update s.known pkg (some uid)⟩ := by
  have hne : ∀ p, (⟨.app, pkg⟩ : Rule) ≠ ⟨.app, p⟩ → p ≠ pkg := by
    rintro p hp rfl
    exact hp rfl
  refine inv_put h hnew (fun p hp => ⟨?_, ?_⟩) (fun p hp => ?_) (fun x => ?_) (fun cidr => ?_)
    h.nodupUids.insert
  · rw [Index.uidOf_learn, if_neg (hne p hp)]
  · exact Function.update_of_ne (hne p hp) _ _
  · cases hp
    rw [Index.uidOf_learn, if_pos rfl, Function.update_self]
  · rw [Index.mem_mUids_learn, Rule.MatchesApp, Function.update_self, or_comm]
    simp [eq_comm]
  · simp [Index.learn]

theorem inv_put_cidr (h : s.Inv) {cidr : CStr} (hnew : ¬ s.list.containsKey ⟨.ip, cidr⟩ = true)
    (hslash : cidr.contains slash = true) :
    Inv ⟨s.list.put ⟨.ip, cidr⟩ hnew
      { s.list.index with mCidrs := s.list.index.mCidrs ++ [cidr] }, s.known⟩ := by
  refine inv_put h hnew (fun _ _ => ⟨rfl, rfl⟩) (by simp) (fun x => ?_) (fun cidr' => ?_)
    h.nodupUids
  · simp [Rule.MatchesApp]
  · rw [List.mem_append, List.mem_singleton]
    refine or_congr_right ⟨?_, ?_⟩
    · rintro rfl
      exact ⟨rfl, hslash⟩
    · rintro ⟨heq, -⟩
      cases heq
      rfl

/-- Any other rule needs its key alone. -/
theorem inv_put_plain (h : s.Inv) (hnew : ¬ s.list.containsKey rule = true)
    (htype : rule.type ≠ .app) (hcidr : ¬ rule.IsCidr) :
    Inv ⟨s.list.put rule hnew s.list.index, s.known⟩ := by
  refine inv_put h hnew (fun _ _ => ⟨rfl, rfl⟩) (fun p hp => ?_) (fun x => ?_) (fun cidr => ?_)
    h.nodupUids
  · rw [hp] at htype
    exact absurd rfl htype
  · simp [Rule.MatchesApp, htype]
  · refine ⟨Or.inl, fun hor => hor.resolve_right ?_⟩
    rintro ⟨rfl, hslash⟩
    exact hcidr ⟨rfl, hslash⟩

/-- Adding a rule keeps the index. -/
theorem inv_addRule (h : s.Inv) (r : Resolver) (rule : Rule) :
    (s.step (r, .addRule rule)).Inv := by
  rw [step, MatchList.step, recorded, MatchList.addRule]
  by_cases hkey : s.list.containsKey rule = true
  · rw [dif_pos hkey, if_neg (by simp [hkey])]
    exact h
  · have hnot : rule ∉ s.list.mRules := fun hrule => hkey (MatchList.containsKey_iff.mpr hrule)
    have hfalse : s.list.containsKey rule = false := (Bool.not_eq_true _).mp hkey
    rw [dif_neg hkey, hfalse]
    obtain ⟨type, value⟩ := rule
    cases type with
    | app =>
      rw [if_pos ⟨rfl, rfl⟩, Index.register]
      cases r.getUid value with
      | none => exact h.update hnot none
      | some uid => exact inv_put_app h hkey uid
    | ip =>
      rw [if_neg (by simp), Index.register]
      simp only
      by_cases hslash : value.contains slash = true
      · rw [if_pos hslash, Index.addCidr]
        cases r.validCidr value with
        | false => exact h
        | true => exact inv_put_cidr h hkey hslash
      · rw [if_neg hslash]
        exact inv_put_plain h hkey (by simp) fun hcidr => hslash hcidr.2
    | host => exact inv_put_plain h hkey (by simp) (by simp [Rule.IsCidr])
    | protocol => exact inv_put_plain h hkey (by simp) (by simp [Rule.IsCidr])
    | country => exact inv_put_plain h hkey (by simp) (by simp [Rule.IsCidr])

/-! ### A rule is removed -/

/-- Of the rules and the ranges, only a range that is removed differs from what the index has. -/
theorem cidrs_removeRule_iff (h : s.list.Indexed s.known) (env : Env) :
    (∀ cidr, cidr ∈ (s.list.removeRule env rule).index.mCidrs ↔
        (⟨.ip, cidr⟩ : Rule) ∈ (s.list.removeRule env rule).mRules ∧ cidr.contains slash) ↔
      ¬ (rule.IsCidr ∧ rule ∈ s.list.mRules) := by
  have hcidrs : (s.list.removeRule env rule).index.mCidrs = s.list.index.mCidrs := by
    rw [MatchList.removeRule, Index.unregister]
    cases rule.type with
    | app => cases env.getUid rule.value <;> rfl
    | _ => rfl
  rw [hcidrs]
  simp only [h.cidrs, MatchList.mem_removeRule]
  constructor
  · rintro hall ⟨⟨htype, hslash⟩, hmem⟩
    obtain ⟨type, value⟩ := rule
    cases htype
    exact ((hall value).mp ⟨hmem, hslash⟩).1.2 rfl
  · intro hnot cidr
    refine ⟨fun hin => ⟨⟨hin.1, ?_⟩, hin.2⟩, fun hin => ⟨hin.1.1, hin.2⟩⟩
    rintro rfl
    exact hnot ⟨⟨rfl, hin.2⟩, hin.1⟩

/-- Only the uid the package has now is taken out. -/
theorem mem_mUids_removeRule (h : s.list.index.mUids.Nodup) (r : Resolver) (pkg : CStr)
    (x : Int) : x ∈ (s.list.removeRule r.toEnv ⟨.app, pkg⟩).index.mUids ↔
      r.getUid pkg ≠ some x ∧ x ∈ s.list.index.mUids := by
  rw [MatchList.removeRule, Index.unregister]
  cases r.getUid pkg with
  | none => simp
  | some uid =>
    simp only [Option.elim_some]
    rw [h.mem_erase_iff, Ne, Ne, Option.some.injEq, @eq_comm _ x]

/-- The rules that are left are those of other packages. -/
theorem exists_matchesApp_removeRule (s : Told) (env : Env) (pkg : CStr) (x : Int) :
    (∃ rule ∈ (s.list.removeRule env ⟨.app, pkg⟩).mRules, rule.MatchesApp s.known x) ↔
      s.hasOther pkg x = true := by
  rw [Rule.exists_matchesApp, hasOther_iff]
  simp only [MatchList.mem_removeRule]
  constructor
  · rintro ⟨p, ⟨hmem, hne⟩, huid⟩
    exact ⟨p, fun heq => hne (heq ▸ rfl), hmem, huid⟩
  · rintro ⟨p, hp, hmem, huid⟩
    refine ⟨p, ⟨hmem, fun heq => hp ?_⟩, huid⟩
    cases heq
    rfl

/-- A removal fits exactly if the uids that stay are those of the other apps. -/
theorem fits_removeRule_app_iff (h : s.list.Indexed s.known) :
    s.fits (r, .removeRule ⟨.app, pkg⟩) = true ↔
      ∀ x, (r.getUid pkg ≠ some x ∧ x ∈ s.list.index.mUids ↔ s.hasOther pkg x = true) := by
  simp only [fits, Bool.and_eq_true, Option.all_eq_true, Bool.or_eq_true, Bool.not_eq_true',
    List.contains_eq_mem, decide_eq_false_iff_not, decide_eq_true_eq]
  constructor
  · rintro ⟨hgone, hown⟩ x
    constructor
    · rintro ⟨hne, hmem⟩
      obtain ⟨hrule, huid⟩ | hother := (mem_uids_iff h).mp hmem
      · exact ((hown.resolve_left (not_not_intro hrule)) x huid).resolve_left hne
      · exact hother
    · intro hother
      refine ⟨fun heq => ?_, (mem_uids_iff h).mpr (Or.inr hother)⟩
      rw [hgone x heq] at hother
      cases hother
  · intro hall
    refine ⟨fun uid huid => ?_, ?_⟩
    · by_contra hother
      exact ((hall uid).mpr (Bool.not_eq_false _ ▸ hother)).1 huid
    · by_cases hrule : (⟨.app, pkg⟩ : Rule) ∈ s.list.mRules
      · refine Or.inr fun uid huid => ?_
        by_cases heq : r.getUid pkg = some uid
        · exact Or.inl heq
        · have hmem := (mem_uids_iff h).mpr (Or.inl ⟨hrule, huid⟩)
          exact Or.inr ((hall uid).mp ⟨heq, hmem⟩)
      · exact Or.inl hrule

theorem indexed_removeRule_app_iff (h : s.Inv) :
    (s.list.removeRule r.toEnv ⟨.app, pkg⟩).Indexed s.known ↔
      s.fits (r, .removeRule ⟨.app, pkg⟩) = true := by
  have huids := s.mem_mUids_removeRule h.nodupUids r pkg
  have hdenotes := s.exists_matchesApp_removeRule r.toEnv pkg
  rw [fits_removeRule_app_iff h.indexed]
  constructor
  · intro hin x
    rw [← huids, hin.uids, hdenotes]
  · intro hall
    refine ⟨(s.list.removeRule r.toEnv ⟨.app, pkg⟩).inSync, fun x => ?_, ?_⟩
    · rw [huids, hall, hdenotes]
    · exact (cidrs_removeRule_iff h.indexed r.toEnv).mpr fun hcidr => by cases hcidr.1.1

/-- What the removal of any other rule does to the uids is nothing. -/
theorem uids_removeRule (h : s.list.Indexed s.known) (env : Env) (htype : rule.type ≠ .app) :
    ∀ x, x ∈ (s.list.removeRule env rule).index.mUids ↔
      ∃ q ∈ (s.list.removeRule env rule).mRules, q.MatchesApp s.known x := by
  have hindex : (s.list.removeRule env rule).index = s.list.index := by
    obtain ⟨type, value⟩ := rule
    cases type with
    | app => exact absurd rfl htype
    | _ => rfl
  intro x
  rw [hindex, h.uids, Rule.exists_matchesApp, Rule.exists_matchesApp]
  simp only [MatchList.mem_removeRule]
  refine exists_congr fun p => and_congr_left fun _ => ?_
  refine ⟨fun hmem => ⟨hmem, ?_⟩, And.left⟩
  rintro rfl
  exact htype rfl

theorem indexed_removeRule_iff (h : s.Inv) :
    (s.list.removeRule r.toEnv rule).Indexed s.known ↔ s.fits (r, .removeRule rule) = true := by
  have hother : rule.type ≠ .app → ((s.list.removeRule r.toEnv rule).Indexed s.known ↔
      ¬ (rule.IsCidr ∧ rule ∈ s.list.mRules)) := by
    intro htype
    rw [← cidrs_removeRule_iff h.indexed r.toEnv]
    exact ⟨MatchList.Indexed.cidrs, fun hcidrs =>
      ⟨(s.list.removeRule r.toEnv rule).inSync, uids_removeRule h.indexed r.toEnv htype, hcidrs⟩⟩
  obtain ⟨type, value⟩ := rule
  cases type with
  | app => exact indexed_removeRule_app_iff h
  | ip =>
    rw [hother (by simp)]
    simp [fits, Rule.IsCidr, imp_iff_not_or]
  | host => exact (hother (by simp)).trans (by simp [fits, Rule.IsCidr])
  | protocol => exact (hother (by simp)).trans (by simp [fits, Rule.IsCidr])
  | country => exact (hother (by simp)).trans (by simp [fits, Rule.IsCidr])

/-- The mapping of the other packages stays. -/
theorem uidOf_removeRule (m : MatchList) (env : Env) {p : CStr} (hp : rule ≠ ⟨.app, p⟩) :
    (m.removeRule env rule).index.uidOf p = m.index.uidOf p := by
  rw [MatchList.removeRule, Index.unregister]
  obtain ⟨type, value⟩ := rule
  cases type with
  | app =>
    cases env.getUid value with
    | none => rfl
    | some uid =>
      have hforget : (m.index.forget value uid).uidOf p = m.index.uidOf p := by
        rw [Index.uidOf_forget, if_neg]
        rintro rfl
        exact hp rfl
      exact hforget
  | _ => rfl

/-! ### The mapping of a package changes -/

/-- The rule of the package matches its new uid, and the others what they did. -/
theorem exists_matchesApp_update (hrule : (⟨.app, pkg⟩ : Rule) ∈ s.list.mRules)
    (answer : Option Int) (x : Int) :
    (∃ rule ∈ s.list.mRules, rule.MatchesApp (Function.update s.known pkg answer) x) ↔
      answer = some x ∨ s.hasOther pkg x = true := by
  rw [Rule.exists_matchesApp, hasOther_iff]
  constructor
  · rintro ⟨p, hp, huid⟩
    by_cases heq : p = pkg
    · subst heq
      rw [Function.update_self] at huid
      exact Or.inl huid
    · rw [Function.update_of_ne heq] at huid
      exact Or.inr ⟨p, heq, hp, huid⟩
  · rintro (huid | ⟨p, hne, hp, huid⟩)
    · exact ⟨pkg, hrule, (Function.update_self _ _ _).trans huid⟩
    · exact ⟨p, hp, (Function.update_of_ne hne _ _).trans huid⟩

/-- A new mapping is indexed exactly if the uids are the new one and those of the other apps. -/
theorem indexed_uidMappingChanged_iff_mem (h : s.list.Indexed s.known)
    (hrule : (⟨.app, pkg⟩ : Rule) ∈ s.list.mRules) :
    ({ s.list with index := (s.list.index.uidMappingChanged r pkg).1 } : MatchList).Indexed
        (Function.update s.known pkg ((r.getAppByPackage pkg).map (·.uid))) ↔
      ∀ x, x ∈ (s.list.index.uidMappingChanged r pkg).1.mUids ↔
        (r.getAppByPackage pkg).map (·.uid) = some x ∨ s.hasOther pkg x = true := by
  have hdenotes := exists_matchesApp_update hrule ((r.getAppByPackage pkg).map (·.uid))
  constructor
  · intro hin x
    exact (hin.uids x).trans (hdenotes x)
  · intro hall
    refine ⟨s.list.inSync, fun x => (hall x).trans (hdenotes x).symm, fun cidr => ?_⟩
    rw [Index.mCidrs_uidMappingChanged]
    exact h.cidrs cidr

theorem indexed_uidMappingChanged_iff (h : s.Inv) :
    (s.step (r, .uidMappingChanged pkg)).list.Indexed (s.step (r, .uidMappingChanged pkg)).known ↔
      s.fits (r, .uidMappingChanged pkg) = true := by
  rw [step, MatchList.step, recorded, MatchList.uidMappingChanged, fits]
  by_cases hrule : (⟨.app, pkg⟩ : Rule) ∈ s.list.mRules
  · rw [if_pos (MatchList.containsKey_iff.mpr hrule)]
    have hmapped := h.mapped pkg hrule
    have hmem : ∀ uid, s.list.index.uidOf pkg = some uid → uid ∈ s.list.index.mUids :=
      fun uid huid => (mem_uids_iff h.indexed).mpr (Or.inl ⟨hrule, hmapped.symm.trans huid⟩)
    simp only [indexed_uidMappingChanged_iff_mem h.indexed hrule,
      Index.mem_mUids_uidMappingChanged h.nodupUids hmem, hmapped, Option.all_eq_true,
      Bool.or_eq_true, Bool.not_eq_true', decide_eq_true_eq, List.contains_eq_mem, hrule,
      decide_true, Bool.true_eq_false, false_or]
    constructor
    · intro hall uid huid
      by_contra hnot
      rw [not_or, Bool.not_eq_false] at hnot
      obtain hnew | ⟨-, hne⟩ := (hall uid).mpr (Or.inr hnot.2)
      · exact hnot.1 hnew
      · exact hne huid
    · intro hfits x
      constructor
      · rintro (hnew | ⟨hin, hne⟩)
        · exact Or.inl hnew
        · exact Or.inr (((mem_uids_iff h.indexed).mp hin).resolve_left fun hown => hne hown.2)
      · rintro (hnew | hother)
        · exact Or.inl hnew
        · by_cases hold : s.known pkg = some x
          · refine Or.inl ((hfits x hold).resolve_right fun hno => ?_)
            rw [hother] at hno
            cases hno
          · exact Or.inr ⟨(mem_uids_iff h.indexed).mpr (Or.inr hother), hold⟩
  · rw [if_neg fun hkey => hrule (MatchList.containsKey_iff.mp hkey)]
    exact iff_of_true (h.update hrule _).indexed (by simp [hrule])

/-! ### Any operation -/

theorem indexed_step_iff (h : s.Inv) (a : Resolver × Op) :
    (s.step a).list.Indexed (s.step a).known ↔ s.fits a = true := by
  obtain ⟨r, op⟩ := a
  cases op with
  | addRule rule => exact iff_of_true (inv_addRule h r rule).indexed rfl
  | removeRule rule => exact indexed_removeRule_iff h
  | uidMappingChanged pkg => exact indexed_uidMappingChanged_iff h
  | clear => exact iff_of_true inv_start.indexed rfl

/-- The mapping of the list stays what is known, whether the operation fits or not. -/
theorem mapped_step (h : s.Inv) (a : Resolver × Op) {p : CStr}
    (hp : (⟨.app, p⟩ : Rule) ∈ (s.step a).list.mRules) :
    (s.step a).list.index.uidOf p = (s.step a).known p := by
  obtain ⟨r, op⟩ := a
  cases op with
  | addRule rule => exact (inv_addRule h r rule).mapped p hp
  | removeRule rule =>
    obtain ⟨hp, hne⟩ := MatchList.mem_removeRule.mp hp
    exact (uidOf_removeRule s.list r.toEnv (Ne.symm hne)).trans (h.mapped p hp)
  | uidMappingChanged pkg =>
    rw [step, MatchList.step, MatchList.uidMappingChanged] at hp ⊢
    by_cases hrule : (⟨.app, pkg⟩ : Rule) ∈ s.list.mRules
    · rw [if_pos (MatchList.containsKey_iff.mpr hrule)] at hp ⊢
      rw [recorded, Index.uidOf_uidMappingChanged]
      dsimp only
      rw [Function.update_apply]
      split
      · rfl
      · exact h.mapped p hp
    · rw [if_neg fun hkey => hrule (MatchList.containsKey_iff.mp hkey)] at hp ⊢
      exact (h.update hrule _).mapped p hp
  | clear => exact inv_start.mapped p hp

theorem inv_step (h : s.Inv) {a : Resolver × Op} (hfits : s.fits a = true) : (s.step a).Inv := by
  refine ⟨(indexed_step_iff h a).mpr hfits, ?_, fun _ => mapped_step h a⟩
  obtain ⟨r, op⟩ := a
  cases op with
  | addRule rule => exact (inv_addRule h r rule).nodupUids
  | removeRule rule =>
    rw [step, MatchList.step, MatchList.removeRule, Index.unregister]
    cases rule.type with
    | app =>
      cases r.getUid rule.value with
      | none => exact h.nodupUids
      | some uid => exact h.nodupUids.erase uid
    | _ => exact h.nodupUids
  | uidMappingChanged pkg =>
    rw [step, MatchList.step, MatchList.uidMappingChanged]
    split
    · exact Index.nodup_uidMappingChanged h.nodupUids
    · exact h.nodupUids
  | clear => exact inv_start.nodupUids

theorem everyState_exact_iff {α : Type} (net : Net α) {s : Told} (h : s.Inv)
    (ops : List (Resolver × Op)) :
    EveryState step (Exact net) s ops ↔ EveryStep step (fun s a => s.fits a = true) s ops := by
  have hgives : ∀ s : Told, s.Inv → s.Exact net := fun s h => exact_iff.mpr h.indexed
  exact everyState_iff_everyStep hgives (fun s a h => exact_iff.trans (indexed_step_iff h a))
    (fun s a h hfits => inv_step h hfits) h ops

end Told

/-! ## Every run -/

/-- **The index of a list is exact** in every state of a run exactly if every operation fits. -/
theorem ruleIndex_exact_iff {α : Type} (net : Net α) (ops : List (Resolver × Op)) :
    EveryState Told.step (Told.Exact net) Told.start ops ↔
      EveryStep Told.step (fun s a => s.fits a = true) Told.start ops :=
  Told.everyState_exact_iff net Told.inv_start ops

/-- Two apps that share a uid. -/
def sharedUid : Resolver where
  getUid := fun pkg => if pkg = cstr "com.a" ∨ pkg = cstr "com.b" then some 10001 else none
  validCidr := fun _ => false
  service := ⟨false, false, false⟩
  getAppByUid := fun uid => if uid = 10001 then some ⟨cstr "com.a", 10001⟩ else none

/-- Both get a rule, and one is removed. -/
def oneRemoved : List (Resolver × Op) :=
  [(sharedUid, .addRule ⟨.app, cstr "com.a"⟩), (sharedUid, .addRule ⟨.app, cstr "com.b"⟩),
    (sharedUid, .removeRule ⟨.app, cstr "com.a"⟩)]

/-- The rule that stays does not match any more. -/
theorem sharedUid_stops_matching :
    ¬ EveryState Told.step (Told.Exact (α := Unit) ⟨fun _ => none, fun _ _ => false⟩)
        Told.start oneRemoved ∧
      (run Told.step Told.start oneRemoved).list.mRules = [⟨.app, cstr "com.b"⟩] ∧
      (run Told.step Told.start oneRemoved).list.matchesApp 10001 = false := by
  rw [Told.everyState_exact_iff _ Told.inv_start]
  decide +kernel

end SecureGuard.Ui
