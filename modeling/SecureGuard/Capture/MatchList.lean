import SecureGuard.Native.DomainOrder

/-! # The host rules of a `MatchList`

The application keeps its own rules and matches hosts against them itself, for its lists and
dialogs; the packet loop matches against a native list that is loaded from a descriptor of the
same rules. The comments at both matchers ask to keep them in sync. They are compared here for
every list and every host. A Java string stands as the bytes it is handed over to the native
code in. -/

namespace SecureGuard.Capture
open Native

/-! ## Host names in Java -/

/-- `Utils.cleanDomain`. -/
def cleanDomain (domain : CStr) : CStr := skipPrefix (cstr "*.") (skipPrefix (cstr "www.") domain)

/-- `Utils.getSecondLevelDomain`, which also stops at a second dot in front. -/
def utilsGetSecondLevelDomain (domain : CStr) : CStr :=
  match lastDot domain with
  | none => domain
  | some 0 => domain
  | some tldPos => match lastDot (domain.take tldPos) with
    | none => domain
    | some 0 => domain
    | some rootPos => domain.drop (rootPos + 1)

/-! ## The list -/

/-- `matchKey(RuleType.HOST, val)`. -/
def matchKey (val : CStr) : CStr := cstr "HOST@" ++ val

theorem matchKey_inj {v w : CStr} : matchKey v = matchKey w ↔ v = w := List.append_right_inj _

/-- The rules in their order, and the keys of the map that is asked for a match. -/
structure MatchList where
  mRules : List CStr
  mMatches : List CStr
  nodup : mRules.Nodup
  inSync : ∀ val, matchKey val ∈ mMatches ↔ val ∈ mRules

namespace MatchList

/-- `mMatches.containsKey(matchKey(RuleType.HOST, val))`. -/
def containsKey (m : MatchList) (val : CStr) : Bool := m.mMatches.contains (matchKey val)

theorem containsKey_iff {m : MatchList} {val : CStr} :
    m.containsKey val = true ↔ val ∈ m.mRules := by
  rw [containsKey, List.contains_iff_mem, m.inSync]

def empty : MatchList where
  mRules := []
  mMatches := []
  nodup := List.nodup_nil
  inSync := by simp

/-- A rule whose key is in the map already is not added again. -/
def addRule (m : MatchList) (value : CStr) : MatchList :=
  if h : m.containsKey value = true then m
  else
    { mRules := m.mRules ++ [value]
      mMatches := m.mMatches ++ [matchKey value]
      nodup := by
        rw [containsKey_iff] at h
        refine List.nodup_append.mpr ⟨m.nodup, by simp, fun v hv w hw he => ?_⟩
        rw [List.mem_singleton.mp hw] at he
        exact h (he ▸ hv)
      inSync := by simp [m.inSync, matchKey_inj] }

def removeRule (m : MatchList) (value : CStr) : MatchList where
  mRules := m.mRules.erase value
  mMatches := m.mMatches.filter fun key => key != matchKey value
  nodup := m.nodup.erase value
  inSync := by
    intro val
    rw [m.nodup.mem_erase_iff, List.mem_filter, bne_iff_ne, m.inSync, Ne, matchKey_inj, and_comm]

def addHost (m : MatchList) (info : CStr) : MatchList := m.addRule (cleanDomain info)

/-- The values of a file as they stand in it, up to `max_rules` new ones. -/
def deserializen (m : MatchList) (maxRules : Int) (numRules : Nat) : List CStr → MatchList
  | [] => m
  | val :: vals =>
    if m.containsKey val then m.deserializen maxRules numRules vals
    else if 0 < maxRules ∧ maxRules ≤ numRules + 1 then m.addRule val
    else (m.addRule val).deserializen maxRules (numRules + 1) vals

def fromJson (m : MatchList) (vals : List CStr) : MatchList := m.deserializen (-1) 0 vals

def matchesExactHost (m : MatchList) (host : CStr) : Bool := m.containsKey (cleanDomain host)

def matchesHost (m : MatchList) (host : CStr) : Bool :=
  let nhost := cleanDomain host
  if m.matchesExactHost nhost then true
  else if nhost ≠ host then
    let domain := utilsGetSecondLevelDomain nhost
    domain != nhost && m.containsKey domain
  else false

/-- `toListDescriptor().hosts`. -/
def toListDescriptor (m : MatchList) : List CStr := m.mRules

end MatchList

/-- `bl_load_list_of_type` for the hosts: a duplicate is skipped, another failure ends it. -/
def blLoadHosts (bl : Blacklist) : List CStr → Except Blacklist.Errno Blacklist
  | [] => .ok bl
  | val :: vals => match bl.addDomain val with
    | .ok bl => blLoadHosts bl vals
    | .error .addrInUse => blLoadHosts bl vals
    | .error e => .error e

/-! ## The two matchers -/

/-- The hosts are always loaded. -/
theorem blLoadHosts_eq (hosts : List CStr) (bl : Blacklist) :
    blLoadHosts bl hosts = .ok (bl.addDomains hosts) := by
  induction hosts generalizing bl with
  | nil => rfl
  | cons val vals ih =>
    rw [blLoadHosts, Blacklist.addDomains, List.foldl_cons, ← Blacklist.addDomains, addDomain_eq]
    by_cases h : LookupTable.finds domainKeys bl.domains (ruleKey val) = true
    · simp only [if_pos h, ih]
    · simp only [if_neg h, ih]

/-! ## Which rules match a host

One kind of rule does for both. Each matcher has others, which the other one never looks for. -/

namespace MatchList

/-- The keys of the native rules. -/
def keys (m : MatchList) : List CStr := m.toListDescriptor.map ruleKey

/-- A rule for just the cleaned name, which has no second prefix. -/
def OwnRule (m : MatchList) (host : CStr) : Prop :=
  plain (hostName host) = true ∧ hostName host ∈ m.mRules

/-- Java only: a rule for the name without its second prefix, or, for a host with a prefix, a
rule for the last two of more labels. -/
def JavaRule (m : MatchList) (host : CStr) : Prop :=
  plain (hostName host) = false ∧ hostName (hostName host) ∈ m.mRules ∨
    hostName host ≠ host ∧ utilsGetSecondLevelDomain (hostName host) ≠ hostName host ∧
      utilsGetSecondLevelDomain (hostName host) ∈ m.mRules

/-- Native only: a rule for the name that starts with `www.`, or for a name that still has a
prefix before those that reach the rest; the wildcard of the name; or the wildcard of its last
two or three labels before the rule for just these. A longer name is asked for under cut keys. -/
def NativeRule (m : MatchList) (host : CStr) : Prop :=
  plain (hostName host) = true ∧ cstr "www." ++ hostName host ∈ m.mRules ∨
    plain (hostName host) = false ∧ comesFirst reaches m.keys (hostName host) = true ∨
    if (hostName host).length ≤ 253 then
      wildcard (hostName host) ∈ m.keys ∨
        wildcardFirst reaches m.keys (getSecondLevelDomain (hostName host)) = true ∨
        wildcardFirst reaches m.keys (getThreeLevelDomain (hostName host)) = true
    else
      comesFirst reaches m.keys (wildcardKey (getSecondLevelDomain (hostName host))) = true ∨
        comesFirst reaches m.keys (wildcardKey (hostName host)) = true ∨
        comesFirst reaches m.keys (wildcardKey (getThreeLevelDomain (hostName host))) = true

theorem cleanDomain_eq (host : CStr) : cleanDomain host = hostName host := rfl

theorem hostName_of_plain {n : CStr} (h : plain n = true) : hostName n = n := beq_iff_eq.mp h

theorem matchesHost_iff (m : MatchList) (host : CStr) :
    m.matchesHost host = true ↔ m.OwnRule host ∨ m.JavaRule host := by
  have hexact : m.matchesExactHost (cleanDomain host) = true ↔
      hostName (hostName host) ∈ m.mRules := containsKey_iff
  have hsplit : hostName (hostName host) ∈ m.mRules ↔ m.OwnRule host ∨
      plain (hostName host) = false ∧ hostName (hostName host) ∈ m.mRules := by
    cases hplain : plain (hostName host) with
    | true => simp [OwnRule, hplain, hostName_of_plain hplain]
    | false => simp [OwnRule, hplain]
  rw [JavaRule, ← or_assoc, ← hsplit, ← hexact, matchesHost, cleanDomain_eq]
  cases m.matchesExactHost (hostName host) with
  | true => simp
  | false =>
    by_cases hclean : hostName host = host
    · simp [hclean]
    · simp [hclean, containsKey_iff]

end MatchList

/-! ## The native matcher -/

theorem ruleKey_of_plain {n : CStr} (h : plain n = true) : ruleKey n = n := by
  rw [plain, beq_iff_eq] at h
  rcases skipPrefix_eq_or_lt (cstr "www.") (by decide) n with he | hlt
  · exact he
  · have hle := skipPrefix_length_le (cstr "*.") (skipPrefix (cstr "www.") n)
    rw [← hostName, h] at hle
    omega

theorem ruleKey_eq_iff {rule n : CStr} (h : plain n = true) :
    ruleKey rule = n ↔ rule = n ∨ rule = cstr "www." ++ n := by
  constructor
  · intro hkey
    by_cases hpre : (cstr "www.").isPrefixOf rule = true
    · obtain ⟨rest, rfl⟩ := List.isPrefixOf_iff_prefix.mp hpre
      have hrest : ruleKey (cstr "www." ++ rest) = rest := by
        rw [ruleKey, skipPrefix, if_pos hpre, List.drop_left]
      rw [hrest] at hkey
      exact Or.inr (by rw [hkey])
    · rw [ruleKey, skipPrefix, if_neg hpre] at hkey
      exact Or.inl hkey
  · rintro (rfl | rfl)
    · exact ruleKey_of_plain h
    · have hpre : (cstr "www.").isPrefixOf (cstr "www." ++ n) = true :=
        List.isPrefixOf_iff_prefix.mpr (List.prefix_append _ _)
      rw [ruleKey, skipPrefix, if_pos hpre, List.drop_left]

namespace MatchList

/-- The key of a name without prefixes is of the rule for the name, with or without `www.`. -/
theorem mem_keys_iff {m : MatchList} {n : CStr} (h : plain n = true) :
    n ∈ m.keys ↔ n ∈ m.mRules ∨ cstr "www." ++ n ∈ m.mRules := by
  rw [keys, List.mem_map]
  constructor
  · rintro ⟨rule, hrule, hkey⟩
    rcases (ruleKey_eq_iff h).mp hkey with rfl | rfl
    · exact Or.inl hrule
    · exact Or.inr hrule
  · rintro (hrule | hrule)
    · exact ⟨_, hrule, (ruleKey_eq_iff h).mpr (Or.inl rfl)⟩
    · exact ⟨_, hrule, (ruleKey_eq_iff h).mpr (Or.inr rfl)⟩

/-- The rule for a name stands: in the list, or before all that reaches the rest of the name. -/
theorem stands_iff (m : MatchList) (n : CStr) : stands reaches m.keys n = true ↔
    plain n = true ∧ n ∈ m.keys ∨ plain n = false ∧ comesFirst reaches m.keys n = true := by
  rw [stands, Bool.or_eq_true, Bool.and_eq_true, decide_eq_true_eq]
  cases plain n with
  | false => simp
  | true =>
    simp only [true_and, Bool.true_eq_false, false_and, or_false]
    refine or_iff_left_of_imp fun hfirst => ?_
    exact of_decide_eq_true (Bool.and_eq_true_iff.mp hfirst).1

theorem stands_cut (m : MatchList) (x : CStr) : stands reaches m.keys (wildcardKey x) = true ↔
    comesFirst reaches m.keys (wildcardKey x) = true := by
  rw [stands_iff, plain_wildcardKey]
  simp

/-- A name is reached by its own rule, by the wildcard of it, and by those of its last labels. -/
theorem reaches_iff (m : MatchList) (host : CStr) :
    reaches m.keys (hostName host) = true ↔ m.OwnRule host ∨ m.NativeRule host := by
  have hown : plain (hostName host) = true ∧ hostName host ∈ m.keys ↔
      m.OwnRule host ∨ plain (hostName host) = true ∧ cstr "www." ++ hostName host ∈ m.mRules := by
    rw [OwnRule, ← and_or_left]
    exact and_congr_right mem_keys_iff
  have hstands : stands reaches m.keys (hostName host) = true ↔ m.OwnRule host ∨
      plain (hostName host) = true ∧ cstr "www." ++ hostName host ∈ m.mRules ∨
      plain (hostName host) = false ∧ comesFirst reaches m.keys (hostName host) = true := by
    rw [stands_iff, hown, or_assoc]
  have hsure : (plain (hostName host) && decide (hostName host ∈ m.keys)) = true →
      stands reaches m.keys (hostName host) = true := by
    intro h
    rw [stands, h, Bool.true_or]
  have hright (p : Prop) : m.OwnRule host ∨
      plain (hostName host) = true ∧ cstr "www." ++ hostName host ∈ m.mRules ∨
      plain (hostName host) = false ∧ comesFirst reaches m.keys (hostName host) = true ∨ p ↔
      stands reaches m.keys (hostName host) = true ∨ p := by
    rw [hstands]
    simp only [or_assoc]
  rw [reaches_eq, Bool.or_eq_true, surely, inOrder, NativeRule, hright]
  by_cases hlength : (hostName host).length ≤ 253
  · simp only [hlength, if_true, decide_true, Bool.true_and, Bool.or_eq_true, decide_eq_true_eq]
    constructor
    · rintro ((h | h) | (h | h) | h)
      · exact Or.inl (hsure h)
      · exact Or.inr (Or.inl h)
      · exact Or.inl h
      · exact Or.inr (Or.inr (Or.inl h))
      · exact Or.inr (Or.inr (Or.inr h))
    · rintro (h | h | h | h)
      · exact Or.inr (Or.inl (Or.inl h))
      · exact Or.inl (Or.inr h)
      · exact Or.inr (Or.inl (Or.inr h))
      · exact Or.inr (Or.inr h)
  · simp only [hlength, if_false, decide_false, Bool.false_and, Bool.or_false, lookups,
      List.any_cons, List.any_nil, Bool.or_eq_true, stands_cut]
    exact ⟨fun h => h.elim (fun h => Or.inl (hsure h)) id, Or.inr⟩

end MatchList

/-- **The two matchers agree on a host** exactly if a rule for just its name does for both, or
a rule only Java looks for and a rule only the native list looks for are both there or both
missing. -/
theorem matchesHost_agrees_iff (m : MatchList) (host : CStr) :
    (blLoadHosts Blacklist.init m.toListDescriptor).map (·.matchDomain host) =
        .ok (m.matchesHost host) ↔
      m.OwnRule host ∨ (m.JavaRule host ↔ m.NativeRule host) := by
  have hnative : (Blacklist.init.addDomains m.toListDescriptor).matchDomain host = true ↔
      m.OwnRule host ∨ m.NativeRule host := by
    rw [matchDomain_eq_reaches]
    exact m.reaches_iff host
  rw [blLoadHosts_eq, Except.map, Except.ok.injEq, Bool.eq_iff_iff, hnative, m.matchesHost_iff]
  constructor
  · intro h
    by_cases hown : m.OwnRule host
    · exact Or.inl hown
    · simp only [hown, false_or] at h
      exact Or.inr h.symm
  · rintro (hown | h)
    · exact iff_of_true (Or.inl hown) (Or.inl hown)
    · rw [h]

/-- Below a rule the application adds, a host with `www.` matches in Java only; below a
wildcard of a file every host matches in the native list only. -/
theorem matchers_disagree :
    ((MatchList.empty.addHost (cstr "example.com")).matchesHost
        (cstr "www.a.example.com") = true ∧
      (blLoadHosts Blacklist.init
        (MatchList.empty.addHost (cstr "example.com")).toListDescriptor).map
          (·.matchDomain (cstr "www.a.example.com")) = .ok false) ∧
    ((MatchList.empty.fromJson [cstr "*.example.com"]).matchesHost
        (cstr "a.example.com") = false ∧
      (blLoadHosts Blacklist.init
        (MatchList.empty.fromJson [cstr "*.example.com"]).toListDescriptor).map
          (·.matchDomain (cstr "a.example.com")) = .ok true) := by
  decide +kernel

end SecureGuard.Capture
