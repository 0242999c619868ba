import SecureGuard.Lib.LookupTable
import SecureGuard.Native.Blacklist

/-! # Domain rules

A domain is looked up under four keys: the name, and as wildcards its last two labels, the
name, and its last three labels. A rule is refused as a duplicate if one of its own four keys
is in the table already. A rule `X` denotes the name `X`, a rule `*.X` denotes `X` and every
name that ends in `.X`; a match is always by a rule that denotes the name. -/

namespace SecureGuard.Native
open LookupTable

/-! ## Labels -/

theorem lastDot_eq_none {s : CStr} (h : dot ∉ s) : lastDot s = none := by
  induction s with
  | nil => rfl
  | cons c s ih =>
    simp only [List.mem_cons, not_or] at h
    simp [lastDot, ih h.2, Ne.symm h.1]

theorem lastDot_append {a b : CStr} (hb : dot ∉ b) :
    lastDot (a ++ dot :: b) = some a.length := by
  induction a with
  | nil => simp [lastDot, lastDot_eq_none hb]
  | cons c a ih => simp [lastDot, ih]

theorem exists_lastDot {s : CStr} (h : dot ∈ s) : ∃ a b, s = a ++ dot :: b ∧ dot ∉ b := by
  induction s with
  | nil => simp at h
  | cons c s ih =>
    by_cases hs : dot ∈ s
    · obtain ⟨a, b, rfl, hb⟩ := ih hs
      exact ⟨c :: a, b, rfl, hb⟩
    · obtain rfl : dot = c := by simpa [hs] using h
      exact ⟨[], s, rfl, hs⟩

/-- A name cut at its last dots. -/
inductive Cut : CStr → Prop
  | one {x : CStr} (hx : dot ∉ x) : Cut x
  | two {x y : CStr} (hx : dot ∉ x) (hy : dot ∉ y) : Cut (x ++ dot :: y)
  | three {x y z : CStr} (hx : dot ∉ x) (hy : dot ∉ y) (hz : dot ∉ z) :
    Cut (x ++ dot :: (y ++ dot :: z))
  | more {a x y z : CStr} (hx : dot ∉ x) (hy : dot ∉ y) (hz : dot ∉ z) :
    Cut (a ++ dot :: (x ++ dot :: (y ++ dot :: z)))

theorem cut (n : CStr) : Cut n := by
  by_cases h : dot ∈ n
  · obtain ⟨a, z, rfl, hz⟩ := exists_lastDot h
    by_cases ha : dot ∈ a
    · obtain ⟨a, y, rfl, hy⟩ := exists_lastDot ha
      by_cases hb : dot ∈ a
      · obtain ⟨a, x, rfl, hx⟩ := exists_lastDot hb
        simpa using Cut.more (a := a) hx hy hz
      · simpa using Cut.three hb hy hz
    · exact Cut.two ha hz
  · exact Cut.one h

section Levels

variable {a x y z : CStr}

theorem getSecondLevelDomain_one (hx : dot ∉ x) : getSecondLevelDomain x = x := by
  rw [getSecondLevelDomain, lastDot_eq_none hx]

theorem getThreeLevelDomain_one (hx : dot ∉ x) : getThreeLevelDomain x = x := by
  rw [getThreeLevelDomain, lastDot_eq_none hx]

theorem getSecondLevelDomain_two (hx : dot ∉ x) (hy : dot ∉ y) :
    getSecondLevelDomain (x ++ dot :: y) = x ++ dot :: y := by
  rw [getSecondLevelDomain, lastDot_append hy]
  cases x with
  | nil => rfl
  | cons c x => simp only [List.length_cons, List.take_left', lastDot_eq_none hx]

theorem getThreeLevelDomain_two (hx : dot ∉ x) (hy : dot ∉ y) :
    getThreeLevelDomain (x ++ dot :: y) = x ++ dot :: y := by
  rw [getThreeLevelDomain, lastDot_append hy]
  cases x with
  | nil => rfl
  | cons c x => simp only [List.length_cons, List.take_left', lastDot_eq_none hx]

/-- A last dot that is not the first byte, and what stands before it. -/
theorem lastDot_append_append (hz : dot ∉ z) :
    lastDot (a ++ dot :: (y ++ dot :: z)) = some (a.length + y.length + 1) ∧
      (a ++ dot :: (y ++ dot :: z)).take (a.length + y.length + 1) = a ++ dot :: y := by
  have he : a ++ dot :: (y ++ dot :: z) = (a ++ dot :: y) ++ dot :: z := by simp
  have hlength : a.length + y.length + 1 = (a ++ dot :: y).length := by
    simp [Nat.add_assoc]
  rw [he, hlength]
  exact ⟨lastDot_append hz, List.take_left'  rfl⟩

theorem getSecondLevelDomain_more (hy : dot ∉ y) (hz : dot ∉ z) :
    getSecondLevelDomain (a ++ dot :: (y ++ dot :: z)) = y ++ dot :: z := by
  obtain ⟨hlast, htake⟩ := lastDot_append_append (a := a) (y := y) hz
  rw [getSecondLevelDomain, hlast]
  simp only [htake, lastDot_append hy]
  simp [List.drop_append]

theorem getThreeLevelDomain_three (hx : dot ∉ x) (hy : dot ∉ y) (hz : dot ∉ z) :
    getThreeLevelDomain (x ++ dot :: (y ++ dot :: z)) = y ++ dot :: z := by
  obtain ⟨hlast, htake⟩ := lastDot_append_append (a := x) (y := y) hz
  rw [getThreeLevelDomain, hlast]
  simp only [htake, lastDot_append hy, List.take_left', lastDot_eq_none hx]
  simp [List.drop_append]

theorem getThreeLevelDomain_more (hx : dot ∉ x) (hy : dot ∉ y) (hz : dot ∉ z) :
    getThreeLevelDomain (a ++ dot :: (x ++ dot :: (y ++ dot :: z))) =
      x ++ dot :: (y ++ dot :: z) := by
  have he : a ++ dot :: (x ++ dot :: (y ++ dot :: z)) =
      (a ++ dot :: x) ++ dot :: (y ++ dot :: z) := by simp
  obtain ⟨hlast, htake⟩ := lastDot_append_append (a := a ++ dot :: x) (y := y) hz
  rw [he, getThreeLevelDomain, hlast]
  simp only [htake, lastDot_append hy, List.take_left', lastDot_append hx]
  simp [List.drop_append]

end Levels

/-- `s` is the name, or what follows one of its dots. -/
def IsTail (s n : CStr) : Prop := n = s ∨ ∃ a, n = a ++ dot :: s

theorem isTail_getSecondLevelDomain (n : CStr) : IsTail (getSecondLevelDomain n) n := by
  cases cut n with
  | one hx => exact Or.inl (getSecondLevelDomain_one hx).symm
  | two hx hy => exact Or.inl (getSecondLevelDomain_two hx hy).symm
  | three hx hy hz => exact Or.inr ⟨_, by rw [getSecondLevelDomain_more hy hz]⟩
  | @more a x y z hx hy hz =>
    refine Or.inr ⟨a ++ dot :: x, ?_⟩
    have he : a ++ dot :: (x ++ dot :: (y ++ dot :: z)) =
        (a ++ dot :: x) ++ dot :: (y ++ dot :: z) := by simp
    rw [he, getSecondLevelDomain_more hy hz]

theorem isTail_getThreeLevelDomain (n : CStr) : IsTail (getThreeLevelDomain n) n := by
  cases cut n with
  | one hx => exact Or.inl (getThreeLevelDomain_one hx).symm
  | two hx hy => exact Or.inl (getThreeLevelDomain_two hx hy).symm
  | three hx hy hz => exact Or.inr ⟨_, by rw [getThreeLevelDomain_three hx hy hz]⟩
  | more hx hy hz => exact Or.inr ⟨_, by rw [getThreeLevelDomain_more hx hy hz]⟩

theorem IsTail.length_le {s n : CStr} (h : IsTail s n) : s.length ≤ n.length := by
  rcases h with rfl | ⟨a, rfl⟩
  · exact Nat.le_refl _
  · simp only [List.length_append, List.length_cons]
    omega

/-! ## Keys -/

/-- The name a domain is looked up by. -/
def hostName (domain : CStr) : CStr := skipPrefix (cstr "*.") (skipPrefix (cstr "www.") domain)

/-- The key a rule is stored under. -/
def ruleKey (rule : CStr) : CStr := skipPrefix (cstr "www.") rule

/-- The key of the wildcard rule `*.x`. -/
def wildcard (x : CStr) : CStr := cstr "*." ++ x

/-- The keys a name is looked up under. -/
def lookups (name : CStr) : List CStr :=
  [name, wildcardKey (getSecondLevelDomain name), wildcardKey name,
    wildcardKey (getThreeLevelDomain name)]

def domainKeys (domain : CStr) : List CStr := lookups (hostName domain)

theorem matchDomain_eq (bl : Blacklist) (domain : CStr) :
    bl.matchDomain domain = finds domainKeys bl.domains domain := by
  rw [Bool.eq_iff_iff]
  simp [Blacklist.matchDomain, finds, domainKeys, lookups, hostName, or_assoc]

theorem addDomain_eq (bl : Blacklist) (rule : CStr) :
    bl.addDomain rule =
      if finds domainKeys bl.domains (ruleKey rule) then .error .addrInUse
      else .ok { bl with domains := bl.domains ++ [ruleKey rule] } := by
  rw [← matchDomain_eq]
  rfl

/-- The rules are added one after the other, duplicates being skipped. -/
def Blacklist.addDomains (bl : Blacklist) (rules : List CStr) : Blacklist :=
  rules.foldl (fun bl rule => match bl.addDomain rule with
    | .ok bl => bl
    | .error _ => bl) bl

theorem addDomains_domains (rules : List CStr) (bl : Blacklist) :
    (bl.addDomains rules).domains =
      (rules.map ruleKey).foldl (LookupTable.insert domainKeys) bl.domains := by
  induction rules generalizing bl with
  | nil => rfl
  | cons rule rules ih =>
    have hinsert : (match bl.addDomain rule with
        | .ok bl => bl
        | .error _ => bl).domains = LookupTable.insert domainKeys bl.domains (ruleKey rule) := by
      rw [addDomain_eq, LookupTable.insert]
      cases finds domainKeys bl.domains (ruleKey rule) <;> rfl
    rw [List.map_cons, List.foldl_cons, ← hinsert]
    exact ih _

/-- A match by the rules of a list is a lookup in the table of their keys. -/
theorem matchDomain_addDomains (rules : List CStr) (domain : CStr) :
    (Blacklist.init.addDomains rules).matchDomain domain =
      finds domainKeys (build domainKeys (rules.map ruleKey)) domain := by
  rw [matchDomain_eq, addDomains_domains]
  rfl

theorem wildcardKey_eq {x : CStr} (h : x.length ≤ 253) : wildcardKey x = wildcard x := by
  refine List.take_of_length_le ?_
  have hstar : (cstr "*.").length = 2 := rfl
  rw [List.length_append, hstar]
  omega

/-- The bytes of a wildcard's prefix are not those of the other one. -/
theorem hostName_wildcard (x : CStr) : hostName (wildcard x) = x := by
  simp [hostName, wildcard, skipPrefix, cstr]

/-! ## What a rule denotes -/

/-- A rule `X` denotes `X`, a rule `*.X` denotes `X` and every name ending in `.X`. -/
def denotes (rule name : CStr) : Bool :=
  if (cstr "*.").isPrefixOf (ruleKey rule) then
    name == (ruleKey rule).drop 2 || (dot :: (ruleKey rule).drop 2).isSuffixOf name
  else name == ruleKey rule

theorem denotes_of_ruleKey_eq {rule name : CStr} (h : ruleKey rule = name) :
    denotes rule name = true := by
  subst h
  unfold denotes
  split
  · next hstar =>
    obtain ⟨x, hx⟩ := List.isPrefixOf_iff_prefix.mp hstar
    rw [← hx]
    simp [cstr, dot, List.isSuffixOf_iff_suffix]
  · simp

theorem denotes_of_isTail {rule name x : CStr} (h : ruleKey rule = wildcard x)
    (hx : IsTail x name) : denotes rule name = true := by
  have hstar : (cstr "*.").isPrefixOf (wildcard x) = true :=
    List.isPrefixOf_iff_prefix.mpr ⟨x, rfl⟩
  have hdrop : (wildcard x).drop 2 = x := rfl
  rw [denotes, h, if_pos hstar, hdrop, Bool.or_eq_true, beq_iff_eq, List.isSuffixOf_iff_suffix]
  rcases hx with rfl | ⟨a, rfl⟩
  · exact Or.inl rfl
  · exact Or.inr ⟨a, rfl⟩

/-- Every key a name is looked up under is that of a rule which denotes the name. -/
theorem denotes_of_mem_lookups {rule name : CStr} (hlength : name.length ≤ 253)
    (h : ruleKey rule ∈ lookups name) : denotes rule name = true := by
  have htail : ∀ x, IsTail x name → ruleKey rule = wildcardKey x → denotes rule name = true := by
    intro x hx he
    rw [wildcardKey_eq (hx.length_le.trans hlength)] at he
    exact denotes_of_isTail he hx
  simp only [lookups, List.mem_cons, List.not_mem_nil, or_false] at h
  rcases h with h | h | h | h
  · exact denotes_of_ruleKey_eq h
  · exact htail _ (isTail_getSecondLevelDomain name) h
  · exact htail _ (Or.inl rfl) h
  · exact htail _ (isTail_getThreeLevelDomain name) h

theorem skipPrefix_length_le (pre s : CStr) : (skipPrefix pre s).length ≤ s.length := by
  unfold skipPrefix
  split
  · simp
  · exact Nat.le_refl _

theorem hostName_length_le (domain : CStr) : (hostName domain).length ≤ domain.length :=
  (skipPrefix_length_le _ _).trans (skipPrefix_length_le _ _)

/-- **Domain matching is sound**: a domain is matched only if some added rule denotes it, its
leading `www.` and `*.` stripped. -/
theorem domainMatch_sound (rules : List CStr) (domain : CStr) (hlength : domain.length ≤ 253)
    (h : (Blacklist.init.addDomains rules).matchDomain domain = true) :
    ∃ rule ∈ rules, denotes rule (hostName domain) = true := by
  rw [matchDomain_addDomains] at h
  obtain ⟨key, hkey, hmem⟩ := finds_iff.mp h
  obtain ⟨rule, hrule, rfl⟩ := List.mem_map.mp (mem_of_mem_build hmem)
  exact ⟨rule, hrule,
    denotes_of_mem_lookups ((hostName_length_le domain).trans hlength) hkey⟩

/-- A wildcard matches below its name. -/
theorem domainMatch_sound_below : ∃ rule ∈ [cstr "x.org", cstr "*.example.com"],
    denotes rule (hostName (cstr "www.a.b.example.com")) = true :=
  domainMatch_sound _ (cstr "www.a.b.example.com") (by decide) (by decide +kernel)

end SecureGuard.Native
