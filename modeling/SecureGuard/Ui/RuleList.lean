import Mathlib.Data.List.Nodup
import SecureGuard.Capture.MatchList

/-! # Rules of every type

The lists of the capture hold rules for apps, addresses, hosts, protocols and countries. The rules
for hosts alone are the list that matches hosts; an app rule needs the uid of its package, and a
range of addresses has to parse. -/

namespace SecureGuard.Ui
open Native (CStr cstr)
open Capture (cleanDomain)

/-! ## Rules and their keys -/

inductive RuleType
  | app
  | ip
  | host
  | protocol
  | country
deriving DecidableEq, Repr

/-- `RuleType.name()`. -/
def RuleType.name : RuleType → String
  | app => "APP"
  | ip => "IP"
  | host => "HOST"
  | protocol => "PROTOCOL"
  | country => "COUNTRY"

def matchKey (tp : RuleType) (val : CStr) : CStr := cstr tp.name ++ cstr "@" ++ val

/-- The names of the types differ in their first letter. -/
theorem matchKey_inj {tp tp' : RuleType} {val val' : CStr} :
    matchKey tp val = matchKey tp' val' ↔ tp = tp' ∧ val = val' := by
  constructor
  · intro h
    have hhead : ∀ tp : RuleType, ∀ val, (matchKey tp val).head? = (cstr tp.name).head? := by
      intro tp val
      cases tp <;> rfl
    have hname := congrArg List.head? h
    rw [hhead, hhead] at hname
    have htype : tp = tp' := by revert hname; cases tp <;> cases tp' <;> decide
    subst htype
    exact ⟨rfl, List.append_right_inj _ |>.mp h⟩
  · rintro ⟨rfl, rfl⟩
    rfl

structure Rule where
  type : RuleType
  value : CStr
deriving DecidableEq, Repr

def Rule.key (rule : Rule) : CStr := matchKey rule.type rule.value

theorem Rule.key_inj {rule rule' : Rule} : rule.key = rule'.key ↔ rule = rule' := by
  rw [key, key, matchKey_inj, Rule.mk.injEq]

/-! ## The list -/

/-- The capture service: `INSTANCE`, its `mCaptureThread` and its `mDecryptionList` are set. -/
structure Service where
  hasInstance : Bool
  hasCaptureThread : Bool
  hasDecryptionList : Bool
deriving DecidableEq, Repr

def Service.isServiceActive (service : Service) : Bool :=
  service.hasInstance && service.hasCaptureThread

/-- What an action finds: the uid of a package (`none` for `UID_NO_FILTER`), whether `new Cidr`
takes a text, and the service. -/
structure Env where
  getUid : CStr → Option Int
  validCidr : CStr → Bool
  service : Service

/-- The `/` between the address and the length of a range. -/
def slash : UInt8 := 47

/-- What a list keeps besides its rules, to match uids and addresses. -/
structure Index where
  mUids : List Int
  mCidrs : List CStr
  mPackageToUid : List (CStr × Int)

namespace Index

/-- `Cidr` has no `equals`: the one just made is none of those in the list. -/
def addCidr (env : Env) (i : Index) (cidr : CStr) : Option Index :=
  if env.validCidr cidr then some { i with mCidrs := i.mCidrs ++ [cidr] } else none

/-- The part of `addRule` before the rule is put into the list; `none` where it returns. -/
def register (env : Env) (i : Index) (rule : Rule) : Option Index :=
  match rule.type with
  | .app => (env.getUid rule.value).map fun uid =>
      { i with
        mPackageToUid := i.mPackageToUid.filter (·.1 != rule.value) ++ [(rule.value, uid)]
        mUids := i.mUids.insert uid }
  | .ip => if rule.value.contains slash then i.addCidr env rule.value else some i
  | _ => some i

/-- The part of `removeRule` after the rule has left the list. A range stays: `mCidrs.remove`
looks for one that equals the `Cidr` just made. -/
def unregister (env : Env) (i : Index) (rule : Rule) : Index :=
  match rule.type with
  | .app => (env.getUid rule.value).elim i fun uid =>
      { i with
        mPackageToUid := i.mPackageToUid.filter (·.1 != rule.value)
        mUids := i.mUids.erase uid }
  | _ => i

end Index

/-- The package of an app rule resolves, and the text of an IP rule with a `/` is a range. -/
def accepts (env : Env) (rule : Rule) : Bool :=
  match rule.type with
  | .app => (env.getUid rule.value).isSome
  | .ip => !rule.value.contains slash || env.validCidr rule.value
  | _ => true

theorem isSome_register (env : Env) (i : Index) (rule : Rule) :
    (i.register env rule).isSome = accepts env rule := by
  rw [Index.register, accepts]
  cases rule.type with
  | app => rw [Option.isSome_map]
  | ip =>
    cases rule.value.contains slash with
    | true =>
      simp only [if_true, Index.addCidr, Bool.not_true, Bool.false_or]
      cases env.validCidr rule.value <;> rfl
    | false => rfl
  | host => rfl
  | protocol => rfl
  | country => rfl

/-- The rules in their order, the keys of `mMatches`, and the rest. -/
structure MatchList where
  mRules : List Rule
  mMatches : List CStr
  index : Index
  nodup : mRules.Nodup
  inSync : ∀ rule : Rule, rule.key ∈ mMatches ↔ rule ∈ mRules

namespace MatchList

def containsKey (m : MatchList) (rule : Rule) : Bool := m.mMatches.contains rule.key

theorem containsKey_iff {m : MatchList} {rule : Rule} :
    m.containsKey rule = true ↔ rule ∈ m.mRules := by
  rw [containsKey, List.contains_iff_mem, m.inSync]

def empty : MatchList where
  mRules := []
  mMatches := []
  index := ⟨[], [], []⟩
  nodup := List.nodup_nil
  inSync := by simp

/-- A rule whose key is not in the map is put into it. -/
def put (m : MatchList) (rule : Rule) (h : ¬ m.containsKey rule = true) (index : Index) :
    MatchList where
  mRules := m.mRules ++ [rule]
  mMatches := m.mMatches ++ [rule.key]
  index := index
  nodup := by
    rw [containsKey_iff] at h
    rw [← List.concat_eq_append]
    exact m.nodup.concat h
  inSync := by simp [m.inSync, Rule.key_inj]

/-- `none` where it answers `false` and the list stays as it is. -/
def addRule (env : Env) (m : MatchList) (rule : Rule) : Option MatchList :=
  if h : m.containsKey rule = true then none
  else (m.index.register env rule).map (m.put rule h)

def removeRule (env : Env) (m : MatchList) (rule : Rule) : MatchList where
  mRules := m.mRules.erase rule
  mMatches := m.mMatches.filter (· != rule.key)
  index := m.index.unregister env rule
  nodup := m.nodup.erase rule
  inSync := by
    intro q
    rw [m.nodup.mem_erase_iff, List.mem_filter, bne_iff_ne, m.inSync, Ne, Rule.key_inj, and_comm]

def addIp (env : Env) (m : MatchList) (ip : CStr) : Option MatchList := m.addRule env ⟨.ip, ip⟩

def addHost (env : Env) (m : MatchList) (info : CStr) : Option MatchList :=
  m.addRule env ⟨.host, cleanDomain info⟩

def addApp (env : Env) (m : MatchList) (pkg : CStr) : Option MatchList := m.addRule env ⟨.app, pkg⟩

/-- After `addRule`, whatever it answers: only an accepted rule is new. -/
theorem mem_addRule {env : Env} {m : MatchList} {rule q : Rule} :
    q ∈ ((m.addRule env rule).getD m).mRules ↔
      q ∈ m.mRules ∨ q = rule ∧ accepts env rule = true := by
  rw [addRule]
  by_cases h : m.containsKey rule = true
  · rw [dif_pos h, Option.getD_none]
    refine ⟨Or.inl, fun hq => hq.elim id ?_⟩
    rintro ⟨rfl, -⟩
    exact containsKey_iff.mp h
  · rw [dif_neg h, ← isSome_register env m.index rule]
    cases m.index.register env rule with
    | none => simp
    | some index => simp [put]

theorem mem_removeRule {env : Env} {m : MatchList} {rule q : Rule} :
    q ∈ (m.removeRule env rule).mRules ↔ q ∈ m.mRules ∧ q ≠ rule := by
  rw [removeRule, m.nodup.mem_erase_iff, and_comm]

end MatchList

/-! ## The rules for hosts -/

namespace MatchList

/-- The host of a host rule. -/
def hostOf (rule : Rule) : Option CStr := if rule.type = .host then some rule.value else none

theorem hostOf_eq_some {rule : Rule} {val : CStr} :
    hostOf rule = some val ↔ rule = ⟨.host, val⟩ := by
  obtain ⟨type, value⟩ := rule
  cases type <;> simp [hostOf]

theorem mem_filterMap_hostOf {rules : List Rule} {val : CStr} :
    val ∈ rules.filterMap hostOf ↔ (⟨.host, val⟩ : Rule) ∈ rules := by
  simp [List.mem_filterMap, hostOf_eq_some]

/-- The host rules of a list are a list of hosts. -/
def hosts (m : MatchList) : Capture.MatchList where
  mRules := m.mRules.filterMap hostOf
  mMatches := (m.mRules.filterMap hostOf).map Capture.matchKey
  nodup := by
    refine List.Nodup.filterMap (fun rule rule' val hr hr' => ?_) m.nodup
    rw [hostOf_eq_some.mp hr, hostOf_eq_some.mp hr']
  inSync := by simp [Capture.matchKey_inj]

theorem hosts_containsKey (m : MatchList) (val : CStr) :
    m.hosts.containsKey val = m.containsKey ⟨.host, val⟩ := by
  rw [Bool.eq_iff_iff, Capture.MatchList.containsKey_iff, containsKey_iff, hosts,
    mem_filterMap_hostOf]

/-- A host rule is added to the hosts of the list; any other rule leaves them. -/
theorem hosts_addRule (env : Env) (m : MatchList) (rule : Rule) :
    ((m.addRule env rule).getD m).hosts = (hostOf rule).elim m.hosts m.hosts.addRule := by
  rw [addRule]
  cases hrule : hostOf rule with
  | some val =>
    obtain rfl := hostOf_eq_some.mp hrule
    rw [Option.elim_some, Capture.MatchList.addRule]
    by_cases h : m.containsKey ⟨.host, val⟩ = true
    · rw [dif_pos h, dif_pos (hosts_containsKey m _ ▸ h), Option.getD_none]
    · rw [dif_neg h, dif_neg (hosts_containsKey m _ ▸ h)]
      simp [Index.register, put, hosts, hostOf]
  | none =>
    rw [Option.elim_none]
    split
    · rfl
    · cases m.index.register env rule with
      | none => rfl
      | some index => simp [put, hosts, hrule]

theorem filterMap_erase_hostOf (rules : List Rule) (rule : Rule) :
    (rules.erase rule).filterMap hostOf =
      (hostOf rule).elim (rules.filterMap hostOf) (rules.filterMap hostOf).erase := by
  induction rules with
  | nil => cases hostOf rule <;> rfl
  | cons head rules ih =>
    by_cases h : head = rule
    · subst h
      rw [List.erase_cons_head, List.filterMap_cons]
      cases hostOf head with
      | none => rfl
      | some val => rw [Option.elim_some, List.erase_cons_head]
    · rw [List.erase_cons_tail (by simpa using h), List.filterMap_cons, List.filterMap_cons, ih]
      cases hrule : hostOf rule with
      | none => rfl
      | some val =>
        cases hhead : hostOf head with
        | none => rfl
        | some val' =>
          have hne : val' ≠ val := by
            rintro rfl
            exact h ((hostOf_eq_some.mp hhead).trans (hostOf_eq_some.mp hrule).symm)
          dsimp only [Option.elim_some]
          rw [List.erase_cons_tail (by simpa using hne)]

/-- A host rule is removed from the hosts of the list; any other rule leaves them. -/
theorem hosts_removeRule (env : Env) (m : MatchList) (rule : Rule) :
    (m.removeRule env rule).hosts = (hostOf rule).elim m.hosts m.hosts.removeRule := by
  have hnodup : (m.mRules.filterMap hostOf).Nodup := m.hosts.nodup
  have hfilter : ∀ val, ((m.mRules.filterMap hostOf).erase val).map Capture.matchKey =
      ((m.mRules.filterMap hostOf).map Capture.matchKey).filter
        (· != Capture.matchKey val) := by
    intro val
    rw [hnodup.erase_eq_filter, List.filter_map]
    rfl
  cases hrule : hostOf rule with
  | none => simp only [hosts, removeRule, filterMap_erase_hostOf, hrule, Option.elim_none]
  | some val =>
    simp only [hosts, removeRule, Capture.MatchList.removeRule, filterMap_erase_hostOf, hrule,
      Option.elim_some, hfilter]

end MatchList

end SecureGuard.Ui
