import SecureGuard.Native.DomainRules

/-! # Which domains the rules reach

The table is asked for four keys only, and a wildcard rule `*.X` is refused as a duplicate
once the rule `X` is in the table, although it denotes more. So a name is reached by a rule
for itself, by the wildcard of itself, and by the wildcards of its last two and its last
three labels where these come before the rule without the wildcard. All other wildcard rules
are never asked for, and the order of the rules decides.

What reaches a name is said below of the list of rules alone, by their positions. A rule that
still has a prefix to strip is refused if the rules before it reach the name without the
prefix, so the definition calls itself, on a shorter name. -/

namespace SecureGuard.Native
open LookupTable

/-! ## The keys of a tail -/

theorem getSecondLevelDomain_idem (n : CStr) :
    getSecondLevelDomain (getSecondLevelDomain n) = getSecondLevelDomain n := by
  cases cut n with
  | one hx => rw [getSecondLevelDomain_one hx, getSecondLevelDomain_one hx]
  | two hx hy => rw [getSecondLevelDomain_two hx hy, getSecondLevelDomain_two hx hy]
  | three hx hy hz => rw [getSecondLevelDomain_more hy hz, getSecondLevelDomain_two hy hz]
  | @more a x y z hx hy hz =>
    have he : a ++ dot :: (x ++ dot :: (y ++ dot :: z)) =
        (a ++ dot :: x) ++ dot :: (y ++ dot :: z) := by simp
    rw [he, getSecondLevelDomain_more hy hz, getSecondLevelDomain_two hy hz]

theorem getThreeLevelDomain_second (n : CStr) :
    getThreeLevelDomain (getSecondLevelDomain n) = getSecondLevelDomain n := by
  cases cut n with
  | one hx => rw [getSecondLevelDomain_one hx, getThreeLevelDomain_one hx]
  | two hx hy => rw [getSecondLevelDomain_two hx hy, getThreeLevelDomain_two hx hy]
  | three hx hy hz => rw [getSecondLevelDomain_more hy hz, getThreeLevelDomain_two hy hz]
  | @more a x y z hx hy hz =>
    have he : a ++ dot :: (x ++ dot :: (y ++ dot :: z)) =
        (a ++ dot :: x) ++ dot :: (y ++ dot :: z) := by simp
    rw [he, getSecondLevelDomain_more hy hz, getThreeLevelDomain_two hy hz]

/-- The last two, and the last three, of the last three labels are the last two labels. -/
theorem getThreeLevelDomain_levels (n : CStr) :
    getSecondLevelDomain (getThreeLevelDomain n) = getSecondLevelDomain n ∧
      getThreeLevelDomain (getThreeLevelDomain n) = getSecondLevelDomain n := by
  cases cut n with
  | one hx =>
    rw [getThreeLevelDomain_one hx, getThreeLevelDomain_one hx, getSecondLevelDomain_one hx]
    exact ⟨rfl, rfl⟩
  | two hx hy =>
    rw [getThreeLevelDomain_two hx hy, getThreeLevelDomain_two hx hy,
      getSecondLevelDomain_two hx hy]
    exact ⟨rfl, rfl⟩
  | three hx hy hz =>
    rw [getThreeLevelDomain_three hx hy hz, getThreeLevelDomain_two hy hz,
      getSecondLevelDomain_two hy hz, getSecondLevelDomain_more hy hz]
    exact ⟨rfl, rfl⟩
  | @more a x y z hx hy hz =>
    have he : a ++ dot :: (x ++ dot :: (y ++ dot :: z)) =
        (a ++ dot :: x) ++ dot :: (y ++ dot :: z) := by simp
    rw [getThreeLevelDomain_more hx hy hz, getThreeLevelDomain_three hx hy hz,
      getSecondLevelDomain_more hy hz, he, getSecondLevelDomain_more hy hz]
    exact ⟨rfl, rfl⟩

/-! ## What reaches a name -/

/-- The name has no prefix to strip. -/
def plain (n : CStr) : Bool := hostName n == n

section Positions

variable (call : List CStr → CStr → Bool) (keys : List CStr)

/-- The key is in the list, and the rules before it do not reach its name. -/
def comesFirst (k : CStr) : Bool := decide (k ∈ keys) && !call (before k keys) (hostName k)

/-- The rule for just this name is in force. -/
def stands (n : CStr) : Bool := (plain n && decide (n ∈ keys)) || comesFirst call keys n

/-- The wildcard rule of the name comes before the rule for just the name. -/
def wildcardFirst (n : CStr) : Bool :=
  decide (wildcard n ∈ keys) && !stands call (before (wildcard n) keys) n

/-- The rules reach the name in any order. -/
def surely (n : CStr) : Bool :=
  (plain n && decide (n ∈ keys)) || (decide (n.length ≤ 253) && decide (wildcard n ∈ keys))

/-- The rules reach the name in this order. A longer name is asked for under cut keys. -/
def inOrder (n : CStr) : Bool :=
  if n.length ≤ 253 then
    stands call keys n || wildcardFirst call keys (getSecondLevelDomain n) ||
      wildcardFirst call keys (getThreeLevelDomain n)
  else (lookups n).any (stands call keys)

end Positions

def reachesIn : Nat → List CStr → CStr → Bool
  | 0, _, _ => false
  | fuel + 1, keys, n => surely keys n || inOrder (reachesIn fuel) keys n

/-- The rules reach the name. -/
def reaches (keys : List CStr) (n : CStr) : Bool := reachesIn (n.length + 1) keys n

/-! ## What the table finds -/

/-- One of the four keys of the name is in the table of the rules. -/
def found (keys : List CStr) (n : CStr) : Bool :=
  (lookups n).any fun k => decide (k ∈ build domainKeys keys)

theorem found_iff {keys : List CStr} {n : CStr} :
    found keys n = true ↔ ∃ k ∈ lookups n, k ∈ build domainKeys keys := by
  simp [found]

theorem finds_eq_found (keys : List CStr) (domain : CStr) :
    finds domainKeys (build domainKeys keys) domain = found keys (hostName domain) := by
  rw [Bool.eq_iff_iff, finds_iff, found_iff]
  rfl

section Found

variable {keys : List CStr} {n : CStr}

/-- The table holds exactly the keys that come before all that reaches their names. -/
theorem mem_table_iff {k : CStr} :
    k ∈ build domainKeys keys ↔ comesFirst found keys k = true := by
  rw [mem_build_iff, counts, comesFirst, finds_eq_found]
  simp

theorem found_of_plain (hplain : plain n = true) (hmem : n ∈ keys) : found keys n = true := by
  have hself : hostName n = n := by simpa [plain] using hplain
  have hfinds : finds domainKeys (build domainKeys keys) n = true :=
    finds_of_mem hmem (by simp [domainKeys, hself, lookups])
  rwa [finds_eq_found, hself] at hfinds

theorem found_of_wildcard (hlength : n.length ≤ 253) (hmem : wildcard n ∈ keys) :
    found keys n = true := by
  have hfinds : finds domainKeys (build domainKeys keys) (wildcard n) = true :=
    finds_of_mem hmem (by simp [domainKeys, hostName_wildcard, lookups, wildcardKey_eq hlength])
  rwa [finds_eq_found, hostName_wildcard] at hfinds

/-- A rule that stands makes the wildcard of its name a duplicate. -/
theorem found_of_stands (h : stands found keys n = true) : found keys n = true := by
  rcases Bool.or_eq_true_iff.mp h with h | h
  · obtain ⟨hplain, hmem⟩ := Bool.and_eq_true_iff.mp h
    exact found_of_plain hplain (of_decide_eq_true hmem)
  · exact found_iff.mpr ⟨n, by simp [lookups], mem_table_iff.mpr h⟩

/-- A wildcard in the table came before the rule for just its name. -/
theorem wildcardFirst_of_mem_table (h : wildcard n ∈ build domainKeys keys) :
    wildcardFirst found keys n = true := by
  obtain ⟨hmem, hrefused⟩ := Bool.and_eq_true_iff.mp (mem_table_iff.mp h)
  rw [hostName_wildcard, Bool.not_eq_true'] at hrefused
  rw [wildcardFirst, hmem, Bool.true_and, Bool.not_eq_true']
  refine Bool.eq_false_iff.mpr fun hstands => ?_
  rw [found_of_stands hstands] at hrefused
  cases hrefused

/-- A wildcard that comes before the rule for just its name is in the table, unless it is
refused for another rule that reaches the name as well. -/
theorem found_of_wildcardFirst {y : CStr} (h : wildcardFirst found keys y = true)
    (hy : wildcard y ∈ lookups n)
    (hothers : ∀ k ∈ lookups y, k = y ∨ k = wildcard y ∨ k ∈ lookups n) :
    found keys n = true := by
  obtain ⟨hmem, hstands⟩ := Bool.and_eq_true_iff.mp h
  rw [Bool.not_eq_true'] at hstands
  cases hrefused : found (before (wildcard y) keys) y with
  | false =>
    have hfirst : comesFirst found keys (wildcard y) = true := by
      rw [comesFirst, hmem, hostName_wildcard, hrefused]
      rfl
    exact found_iff.mpr ⟨wildcard y, hy, mem_table_iff.mpr hfirst⟩
  | true =>
    obtain ⟨k, hk, hstored⟩ := found_iff.mp hrefused
    rcases hothers k hk with rfl | rfl | hlookup
    · rw [stands, mem_table_iff.mp hstored, Bool.or_true] at hstands
      cases hstands
    · exact absurd (mem_of_mem_build hstored) (not_mem_before _ keys)
    · exact found_iff.mpr ⟨k, hlookup, mem_build_of_mem_build_before hstored⟩

theorem stands_of_mem_table {k : CStr} (h : k ∈ build domainKeys keys) :
    stands found keys k = true := by
  rw [stands, mem_table_iff.mp h, Bool.or_true]

theorem lookups_second (hlength : n.length ≤ 253) :
    lookups (getSecondLevelDomain n) =
      [getSecondLevelDomain n, wildcard (getSecondLevelDomain n),
        wildcard (getSecondLevelDomain n), wildcard (getSecondLevelDomain n)] := by
  have hs := (isTail_getSecondLevelDomain n).length_le.trans hlength
  rw [lookups, getSecondLevelDomain_idem, getThreeLevelDomain_second, wildcardKey_eq hs]

theorem lookups_three (hlength : n.length ≤ 253) :
    lookups (getThreeLevelDomain n) =
      [getThreeLevelDomain n, wildcard (getSecondLevelDomain n),
        wildcard (getThreeLevelDomain n), wildcard (getSecondLevelDomain n)] := by
  have hs := (isTail_getSecondLevelDomain n).length_le.trans hlength
  have ht := (isTail_getThreeLevelDomain n).length_le.trans hlength
  obtain ⟨hsecond, hthree⟩ := getThreeLevelDomain_levels n
  rw [lookups, hsecond, hthree, wildcardKey_eq hs, wildcardKey_eq ht]

theorem lookups_short (hlength : n.length ≤ 253) :
    lookups n = [n, wildcard (getSecondLevelDomain n), wildcard n,
      wildcard (getThreeLevelDomain n)] := by
  have hs := (isTail_getSecondLevelDomain n).length_le.trans hlength
  have ht := (isTail_getThreeLevelDomain n).length_le.trans hlength
  rw [lookups, wildcardKey_eq hs, wildcardKey_eq hlength, wildcardKey_eq ht]

theorem found_of_surely (h : surely keys n = true) : found keys n = true := by
  rcases Bool.or_eq_true_iff.mp h with h | h <;>
    obtain ⟨hcond, hmem⟩ := Bool.and_eq_true_iff.mp h
  · exact found_of_plain hcond (of_decide_eq_true hmem)
  · exact found_of_wildcard (of_decide_eq_true hcond) (of_decide_eq_true hmem)

/-- A cut key always has a prefix to strip. -/
theorem hostName_wildcardKey (x : CStr) : hostName (wildcardKey x) = x.take 253 := by
  have he : wildcardKey x = wildcard (x.take 253) := rfl
  rw [he, hostName_wildcard]

theorem plain_wildcardKey (x : CStr) : plain (wildcardKey x) = false := by
  rw [plain, hostName_wildcardKey, beq_eq_false_iff_ne]
  intro he
  have hlength := congrArg List.length he
  have hkey : (wildcardKey x).length = (x.take 253).length + 2 := rfl
  omega

theorem found_of_inOrder (h : inOrder found keys n = true) : found keys n = true := by
  unfold inOrder at h
  split at h
  · next hlength =>
    have hn := lookups_short hlength
    simp only [Bool.or_eq_true] at h
    rcases h with (h | h) | h
    · exact found_of_stands h
    · refine found_of_wildcardFirst h (by simp [hn]) fun k hk => ?_
      rw [lookups_second hlength] at hk
      simp only [List.mem_cons, List.not_mem_nil, or_false] at hk
      rcases hk with hk | hk | hk | hk <;> simp [hk]
    · refine found_of_wildcardFirst h (by simp [hn]) fun k hk => ?_
      rw [lookups_three hlength] at hk
      simp only [List.mem_cons, List.not_mem_nil, or_false] at hk
      rcases hk with hk | hk | hk | hk <;> simp [hk, hn]
  · obtain ⟨k, hk, hstands⟩ := List.any_eq_true.mp h
    simp only [lookups, List.mem_cons, List.not_mem_nil, or_false] at hk
    rcases hk with rfl | hk
    · exact found_of_stands hstands
    · have hfirst : comesFirst found keys k = true := by
        rcases hk with rfl | rfl | rfl <;> simpa [stands, plain_wildcardKey] using hstands
      exact found_iff.mpr ⟨k, by simpa [lookups] using Or.inr hk, mem_table_iff.mpr hfirst⟩

theorem inOrder_of_found (h : found keys n = true) :
    surely keys n = true ∨ inOrder found keys n = true := by
  obtain ⟨k, hk, hstored⟩ := found_iff.mp h
  by_cases hlength : n.length ≤ 253
  · rw [inOrder, if_pos hlength]
    rw [lookups_short hlength] at hk
    simp only [List.mem_cons, List.not_mem_nil, or_false] at hk
    rcases hk with rfl | rfl | rfl | rfl
    · simp [stands_of_mem_table hstored]
    · simp [wildcardFirst_of_mem_table hstored]
    · exact Or.inl (by simp [surely, hlength, mem_of_mem_build hstored])
    · simp [wildcardFirst_of_mem_table hstored]
  · rw [inOrder, if_neg hlength]
    exact Or.inr (List.any_eq_true.mpr ⟨k, hk, stands_of_mem_table hstored⟩)

theorem found_eq : found keys n = (surely keys n || inOrder found keys n) := by
  rw [Bool.eq_iff_iff, Bool.or_eq_true]
  exact ⟨inOrder_of_found, fun h => h.elim found_of_surely found_of_inOrder⟩

end Found

/-! ## The positions decide -/

theorem skipPrefix_eq_or_lt (pre : CStr) (hpre : 0 < pre.length) (s : CStr) :
    skipPrefix pre s = s ∨ (skipPrefix pre s).length < s.length := by
  unfold skipPrefix
  split
  · next h =>
    have hle := (List.isPrefixOf_iff_prefix.mp h).length_le
    rw [List.length_drop]
    omega
  · exact Or.inl rfl

theorem plain_or_lt (n : CStr) : plain n = true ∨ (hostName n).length < n.length := by
  rw [plain, beq_iff_eq]
  rcases skipPrefix_eq_or_lt (cstr "www.") (by decide) n with hw | hw <;>
    rcases skipPrefix_eq_or_lt (cstr "*.") (by decide) (skipPrefix (cstr "www.") n)
      with hs | hs <;> unfold hostName
  · exact Or.inl (hs.trans hw)
  · rw [hw] at hs ⊢
    exact Or.inr hs
  · rw [hs]
    exact Or.inr hw
  · exact Or.inr (hs.trans hw)

section Congr

variable {call call' : List CStr → CStr → Bool} {length : Nat}

theorem stands_congr (h : ∀ keys m, m.length < length → call keys m = call' keys m)
    {y : CStr} (hy : plain y = true ∨ (hostName y).length < length) (keys : List CStr) :
    stands call keys y = stands call' keys y := by
  rcases hy with hy | hy
  · cases hmem : decide (y ∈ keys) <;> simp [stands, comesFirst, hy, hmem]
  · rw [stands, stands, comesFirst, comesFirst, h _ _ hy]

/-- What reaches a name is asked of shorter names only. -/
theorem inOrder_congr {n : CStr}
    (h : ∀ keys m, m.length < n.length → call keys m = call' keys m) (keys : List CStr) :
    inOrder call keys n = inOrder call' keys n := by
  have htail : ∀ y, y.length ≤ n.length →
      plain y = true ∨ (hostName y).length < n.length :=
    fun y hy => (plain_or_lt y).imp_right fun hlt => Nat.lt_of_lt_of_le hlt hy
  have hstands : ∀ y, y.length ≤ n.length → ∀ keys, stands call keys y = stands call' keys y :=
    fun y hy => stands_congr h (htail y hy)
  unfold inOrder
  split
  · have hs := hstands _ (isTail_getSecondLevelDomain n).length_le
    have ht := hstands _ (isTail_getThreeLevelDomain n).length_le
    simp only [wildcardFirst, hstands n (Nat.le_refl _), hs, ht]
  · next hlong =>
    have hcut : ∀ x, stands call keys (wildcardKey x) = stands call' keys (wildcardKey x) := by
      refine fun x => stands_congr h (Or.inr ?_) keys
      rw [hostName_wildcardKey, List.length_take]
      omega
    simp only [lookups, List.any_cons, List.any_nil, hcut, hstands n (Nat.le_refl _)]

end Congr

theorem reachesIn_eq_found {fuel : Nat} {n : CStr} (hfuel : n.length < fuel)
    (keys : List CStr) : reachesIn fuel keys n = found keys n := by
  induction fuel generalizing n keys with
  | zero => omega
  | succ fuel ih =>
    have hshorter : ∀ keys m, m.length < n.length → reachesIn fuel keys m = found keys m :=
      fun keys m hm => ih (by omega) keys
    rw [reachesIn, found_eq, inOrder_congr hshorter]

theorem reaches_eq_found : reaches = found := by
  funext keys n
  exact reachesIn_eq_found (Nat.lt_succ_self _) keys

theorem reaches_eq (keys : List CStr) (n : CStr) :
    reaches keys n = (surely keys n || inOrder reaches keys n) := by
  rw [reaches_eq_found]
  exact found_eq

/-- **A domain is matched exactly if the rules reach it.** -/
theorem matchDomain_eq_reaches (rules : List CStr) (domain : CStr) :
    (Blacklist.init.addDomains rules).matchDomain domain =
      reaches (rules.map ruleKey) (hostName domain) := by
  rw [matchDomain_addDomains, finds_eq_found, reaches_eq_found]

/-! ## Completeness -/

/-- **Domain matching is complete**, for a denoted domain, exactly if a rule names it, alone
or as a wildcard, or the wildcard of its last two or last three labels comes before the rule
for just these. -/
theorem domainMatch_complete_iff (rules : List CStr) (domain : CStr) :
    ((∃ rule ∈ rules, denotes rule (ruleKey domain) = true) →
        (Blacklist.init.addDomains rules).matchDomain domain = true) ↔
      (surely (rules.map ruleKey) (hostName domain) = true ∨
        inOrder reaches (rules.map ruleKey) (hostName domain) = true ∨
        ∀ rule ∈ rules, denotes rule (ruleKey domain) = false) := by
  rw [matchDomain_eq_reaches, reaches_eq, Bool.or_eq_true]
  constructor
  · intro h
    by_cases hdenoted : ∃ rule ∈ rules, denotes rule (ruleKey domain) = true
    · exact (h hdenoted).imp_right Or.inl
    · refine Or.inr (Or.inr fun rule hrule => Bool.eq_false_iff.mpr fun hd => ?_)
      exact hdenoted ⟨rule, hrule, hd⟩
  · rintro (h | h | hnone) ⟨rule, hrule, hd⟩
    · exact Or.inl h
    · exact Or.inr h
    · rw [hnone rule hrule] at hd
      cases hd

/-- A wildcard of four labels is never asked for, and a wildcard is refused after the rule
for its name alone. -/
theorem domainMatch_incomplete :
    (denotes (cstr "*.loki.delve.office.com") (ruleKey (cstr "eu.loki.delve.office.com")) = true ∧
      (Blacklist.init.addDomains [cstr "*.loki.delve.office.com"]).matchDomain
        (cstr "eu.loki.delve.office.com") = false) ∧
    (denotes (cstr "*.example.com") (ruleKey (cstr "a.example.com")) = true ∧
      (Blacklist.init.addDomains [cstr "example.com", cstr "*.example.com"]).matchDomain
        (cstr "a.example.com") = false) := by
  decide +kernel

/-! ## The order of the rules -/

theorem surely_perm {keys keys' : List CStr} (h : keys.Perm keys') (n : CStr) :
    surely keys n = surely keys' n := by
  simp only [surely, h.mem_iff]

/-- **Two orders of the rules agree on a domain** exactly if a rule names it, alone or as a
wildcard, or the wildcards asked for come before the rules for their names alone in both
orders or in neither. -/
theorem ruleOrder_iff {rules rules' : List CStr} (h : rules.Perm rules') (domain : CStr) :
    (Blacklist.init.addDomains rules).matchDomain domain =
        (Blacklist.init.addDomains rules').matchDomain domain ↔
      (surely (rules.map ruleKey) (hostName domain) = true ∨
        (inOrder reaches (rules.map ruleKey) (hostName domain) = true ↔
          inOrder reaches (rules'.map ruleKey) (hostName domain) = true)) := by
  rw [matchDomain_eq_reaches, matchDomain_eq_reaches, reaches_eq, reaches_eq (rules'.map ruleKey),
    ← surely_perm (h.map ruleKey), ← Bool.eq_iff_iff]
  cases surely (rules.map ruleKey) (hostName domain) <;> simp

theorem ruleOrder_iff_swapped :
    (Blacklist.init.addDomains [cstr "a.org", cstr "*.b.org"]).matchDomain (cstr "c.b.org") =
        (Blacklist.init.addDomains [cstr "*.b.org", cstr "a.org"]).matchDomain (cstr "c.b.org") ↔
      (surely ([cstr "a.org", cstr "*.b.org"].map ruleKey) (hostName (cstr "c.b.org")) = true ∨
        (inOrder reaches ([cstr "a.org", cstr "*.b.org"].map ruleKey)
            (hostName (cstr "c.b.org")) = true ↔
          inOrder reaches ([cstr "*.b.org", cstr "a.org"].map ruleKey)
            (hostName (cstr "c.b.org")) = true)) :=
  ruleOrder_iff (List.Perm.swap _ _ _) (cstr "c.b.org")

/-- The wildcard after the rule for its name is refused, before it it is kept. -/
theorem ruleOrder_matters :
    [cstr "example.com", cstr "*.example.com"].Perm [cstr "*.example.com", cstr "example.com"] ∧
      (Blacklist.init.addDomains [cstr "example.com", cstr "*.example.com"]).matchDomain
        (cstr "a.example.com") = false ∧
      (Blacklist.init.addDomains [cstr "*.example.com", cstr "example.com"]).matchDomain
        (cstr "a.example.com") = true :=
  ⟨List.Perm.swap _ _ _, by decide +kernel, by decide +kernel⟩

end SecureGuard.Native
