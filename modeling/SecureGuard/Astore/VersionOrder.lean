import Mathlib.Algebra.Order.Ring.Int
import SecureGuard.Lib.KotlinText
import SecureGuard.Lib.PaddedOrder

/-! # Which version is newer

The store's version of an app is compared with the installed one, component by component. A
component that an `Int` cannot hold is left out of the comparison. -/

namespace SecureGuard.Astore
open KotlinText PaddedOrder

/-! ## The comparison -/

/-- The components of a version from the store. -/
def storeParts (storeVersion : List Char) : List Int :=
  (storeVersion.splitOn '.').filterMap toIntOrNull

/-- The components of an installed version, of which digits and dots are read. -/
def installedParts (installedVersion : List Char) : List Int :=
  let cleaned := KotlinText.trim '.' (installedVersion.filter fun c => isDigit c || c == '.')
  (cleaned.splitOn '.').filterMap toIntOrNull

/-- The loop over the components from `i` on; a missing one is zero. -/
def newerFrom (storeParts installedParts : List Int) : (rounds i : Nat) → Bool
  | 0, _ => false
  | rounds + 1, i =>
    let s := storeParts.getD i 0
    let inst := installedParts.getD i 0
    if inst < s then true
    else if s < inst then false
    else newerFrom storeParts installedParts rounds (i + 1)

def isNewerVersion (storeVersion installedVersion : List Char) : Bool :=
  if installedVersion = [] then true
  else if storeVersion = installedVersion then false
  else
    let storeParts := storeParts storeVersion
    let installedParts := installedParts installedVersion
    if storeParts = [] ∨ installedParts = [] then storeVersion != installedVersion
    else newerFrom storeParts installedParts (max storeParts.length installedParts.length) 0

/-! ## Versions -/

/-- Decimal numbers between dots. -/
structure Version where
  parts : List (List Char)
  ne : parts ≠ []
  digits : ∀ part ∈ parts, part ≠ [] ∧ ∀ c ∈ part, isDigit c = true

namespace Version

def text (v : Version) : List Char := ['.'].intercalate v.parts

def numbers (v : Version) : List Nat := v.parts.map number

/-- The order of versions: the first components that differ decide. -/
def Newer (a b : Version) : Prop := Greater a.numbers b.numbers

/-- The components that an `Int` can hold. -/
def kept (v : Version) : List Nat := v.numbers.filter fun n => n ≤ intMax

def Fits (v : Version) : Prop := ∀ n ∈ v.numbers, n ≤ intMax

instance (v : Version) : Decidable v.Fits := inferInstanceAs (Decidable (∀ n ∈ v.numbers, _))

/-- The version `a` is found newer than `b` exactly if it is. -/
def Agrees (a b : Version) : Prop := isNewerVersion a.text b.text = true ↔ a.Newer b

/-- The components that are left out do not matter. -/
def KeptDecide (a b : Version) : Prop :=
  a.text = b.text ∨
    if a.kept = [] ∨ b.kept = [] then a.Newer b else (Greater a.kept b.kept ↔ a.Newer b)

end Version

/-- Nothing of the text is read as a number. -/
def Unparsable (text : List Char) : Prop := storeParts text = [] ∧ installedParts text = []

instance (text : List Char) : Decidable (Unparsable text) :=
  inferInstanceAs (Decidable (_ ∧ _))

/-! ## The loop -/

theorem newerFrom_iff (s inst : List Int) (rounds i : Nat) :
    newerFrom s inst rounds i = true ↔
      ∃ k, i ≤ k ∧ k < i + rounds ∧ (∀ j, i ≤ j → j < k → s.getD j 0 = inst.getD j 0) ∧
        inst.getD k 0 < s.getD k 0 := by
  induction rounds generalizing i with
  | zero =>
    simp only [newerFrom, Bool.false_eq_true, false_iff]
    rintro ⟨k, hle, hlt, -⟩
    omega
  | succ rounds ih =>
    rw [newerFrom]
    obtain hlt | heq | hgt := Int.lt_trichotomy (inst.getD i 0) (s.getD i 0)
    · rw [if_pos hlt]
      exact iff_of_true rfl ⟨i, Nat.le_refl i, by omega, fun j hle h => by omega, hlt⟩
    · rw [if_neg (by omega), if_neg (by omega), ih]
      constructor
      · rintro ⟨k, hle, hk, hj, hlt⟩
        refine ⟨k, by omega, by omega, fun j hij hjk => ?_, hlt⟩
        obtain rfl | hne := Nat.eq_or_lt_of_le hij
        · exact heq.symm
        · exact hj j hne hjk
      · rintro ⟨k, hle, hk, hj, hlt⟩
        have hne : i ≠ k := by
          rintro rfl
          omega
        exact ⟨k, by omega, by omega, fun j hij hjk => hj j (by omega) hjk, hlt⟩
    · rw [if_neg (by omega), if_pos hgt]
      simp only [Bool.false_eq_true, false_iff]
      rintro ⟨k, hle, hk, hj, hlt⟩
      obtain rfl | hne := Nat.eq_or_lt_of_le hle
      · omega
      · have := hj i (Nat.le_refl i) hne
        omega

/-- Behind the longer of the two lists there is nothing to compare. -/
theorem newerFrom_iff_greater (s inst : List Int) :
    newerFrom s inst (max s.length inst.length) 0 = true ↔ Greater s inst := by
  rw [newerFrom_iff]
  constructor
  · rintro ⟨k, -, -, hj, hlt⟩
    exact ⟨k, fun j h => hj j (Nat.zero_le j) h, hlt⟩
  · rintro ⟨k, hj, hlt⟩
    refine ⟨k, Nat.zero_le k, ?_, fun j _ h => hj j h, hlt⟩
    by_contra hge
    rw [List.getD_eq_default s 0 (by omega), List.getD_eq_default inst 0 (by omega)] at hlt
    exact absurd hlt (Int.lt_irrefl 0)

/-! ## The text of a version -/

namespace Version

variable {v a b : Version}

theorem splitOn_text (v : Version) : v.text.splitOn '.' = v.parts := by
  refine List.splitOn_intercalate '.' (fun part hpart hdot => ?_) v.ne
  exact absurd ((v.digits part hpart).2 '.' hdot) (by decide)

theorem text_inj (h : a.text = b.text) : a.numbers = b.numbers := by
  rw [numbers, ← splitOn_text a, h, splitOn_text, numbers]

theorem toIntOrNull_parts (parts : List (List Char))
    (h : ∀ part ∈ parts, part ≠ [] ∧ ∀ c ∈ part, isDigit c = true) :
    parts.filterMap toIntOrNull =
      ((parts.map number).filter fun n => n ≤ intMax).map Int.ofNat := by
  induction parts with
  | nil => rfl
  | cons part parts ih =>
    obtain ⟨⟨hne, hdigits⟩, hrest⟩ := List.forall_mem_cons.mp h
    rw [List.filterMap_cons, toIntOrNull_digits hne hdigits, ih hrest, List.map_cons]
    by_cases hle : number part ≤ intMax
    · simp [hle]
    · simp [hle]

theorem storeParts_text (v : Version) : storeParts v.text = v.kept.map Int.ofNat := by
  rw [storeParts, splitOn_text, toIntOrNull_parts v.parts v.digits]
  rfl

/-- The ends of a text of parts that are not empty are the ends of the first and the last part. -/
theorem intercalate_ends {parts : List (List Char)} (hne : parts ≠ [])
    (h : ∀ part ∈ parts, part ≠ []) :
    (∃ part ∈ parts, (['.'].intercalate parts).head? = part.head?) ∧
      ∃ part ∈ parts, (['.'].intercalate parts).getLast? = part.getLast? := by
  induction parts with
  | nil => exact absurd rfl hne
  | cons part parts ih =>
    cases parts with
    | nil =>
      rw [List.intercalate_singleton]
      exact ⟨⟨part, List.mem_cons_self, rfl⟩, ⟨part, List.mem_cons_self, rfl⟩⟩
    | cons next parts =>
      obtain ⟨-, last, hlast, he⟩ := ih (List.cons_ne_nil _ _) (List.forall_mem_cons.mp h).2
      have hpart := h part List.mem_cons_self
      have htext : ['.'].intercalate (next :: parts) ≠ [] := by
        intro hnil
        rw [hnil] at he
        exact h last (List.mem_cons_of_mem _ hlast) (List.getLast?_eq_none_iff.mp he.symm)
      rw [List.intercalate_cons_cons]
      refine ⟨⟨part, List.mem_cons_self, ?_⟩, ⟨last, List.mem_cons_of_mem _ hlast, ?_⟩⟩
      · rw [List.append_assoc, List.head?_append_of_ne_nil _ hpart]
      · rw [List.getLast?_append_of_ne_nil _ htext, he]

theorem mem_text {c : Char} (h : c ∈ v.text) : isDigit c = true ∨ c = '.' := by
  have hmem : ∀ parts : List (List Char), (∀ part ∈ parts, ∀ c ∈ part, isDigit c = true) →
      c ∈ ['.'].intercalate parts → isDigit c = true ∨ c = '.' := by
    intro parts hparts hc
    induction parts with
    | nil => cases hc
    | cons part parts ih =>
      obtain ⟨hpart, hrest⟩ := List.forall_mem_cons.mp hparts
      cases parts with
      | nil =>
        rw [List.intercalate_singleton] at hc
        exact .inl (hpart c hc)
      | cons next parts =>
        rw [List.intercalate_cons_cons, List.append_assoc, List.mem_append, List.mem_append,
          List.mem_singleton] at hc
        obtain hc | hc | hc := hc
        · exact .inl (hpart c hc)
        · exact .inr hc
        · exact ih hrest hc
  exact hmem v.parts (fun part hpart => (v.digits part hpart).2) h

/-- The text of a version is read as it is. -/
theorem installedParts_text (v : Version) : installedParts v.text = storeParts v.text := by
  have hfilter : v.text.filter (fun c => isDigit c || c == '.') = v.text := by
    rw [List.filter_eq_self]
    intro c hc
    simpa using mem_text hc
  obtain ⟨⟨first, hfirst, hhead⟩, last, hlast, hend⟩ :=
    intercalate_ends v.ne fun part hpart => (v.digits part hpart).1
  have hdot : ∀ part ∈ v.parts, '.' ∉ part := fun part hpart hmem =>
    absurd ((v.digits part hpart).2 '.' hmem) (by decide)
  rw [installedParts, hfilter, trim_eq_self, storeParts]
  · rw [text, hhead]
    exact fun h => hdot first hfirst (List.mem_of_head? h)
  · rw [text, hend]
    exact fun h => hdot last hlast (List.mem_of_getLast? h)

theorem text_ne_nil (v : Version) : v.text ≠ [] := by
  obtain ⟨-, last, hlast, hend⟩ := intercalate_ends v.ne fun part hpart => (v.digits part hpart).1
  intro h
  rw [← text, h] at hend
  exact (v.digits last hlast).1 (List.getLast?_eq_none_iff.mp hend.symm)

/-! ## How versions are compared -/

theorem greater_ofNat_iff (m n : List Nat) :
    Greater (m.map Int.ofNat) (n.map Int.ofNat) ↔ Greater m n :=
  greater_map_iff (fun _ _ => Int.ofNat_lt.mpr) rfl

theorem isNewerVersion_text_iff (a b : Version) :
    isNewerVersion a.text b.text = true ↔
      a.text ≠ b.text ∧ (a.kept = [] ∨ b.kept = [] ∨ Greater a.kept b.kept) := by
  rw [isNewerVersion, if_neg b.text_ne_nil, installedParts_text, storeParts_text, storeParts_text]
  by_cases htext : a.text = b.text
  · simp [htext]
  rw [if_neg htext]
  by_cases hkept : a.kept = [] ∨ b.kept = []
  · have hmap : a.kept.map Int.ofNat = [] ∨ b.kept.map Int.ofNat = [] := by simpa using hkept
    rw [if_pos hmap]
    simp only [bne_iff_ne, ne_eq, htext, not_false_eq_true, true_and, true_iff]
    exact hkept.elim .inl fun h => .inr (.inl h)
  · have hmap : ¬(a.kept.map Int.ofNat = [] ∨ b.kept.map Int.ofNat = []) := by simpa using hkept
    rw [if_neg hmap, newerFrom_iff_greater, greater_ofNat_iff]
    obtain ⟨ha, hb⟩ := not_or.mp hkept
    simp [htext, ha, hb]

/-- Where the two texts differ, the components that are kept decide. -/
theorem agrees_iff (a b : Version) : a.Agrees b ↔ a.KeptDecide b := by
  rw [Agrees, isNewerVersion_text_iff, KeptDecide]
  by_cases htext : a.text = b.text
  · have hnot : ¬a.Newer b := by
      rw [Newer, text_inj htext]
      exact Greater.irrefl _
    simp [htext, hnot]
  by_cases hkept : a.kept = [] ∨ b.kept = []
  · rw [if_pos hkept]
    have hor : a.kept = [] ∨ b.kept = [] ∨ Greater a.kept b.kept :=
      hkept.elim .inl fun h => .inr (.inl h)
    simp [htext, hor]
  · rw [if_neg hkept]
    obtain ⟨ha, hb⟩ := not_or.mp hkept
    simp [htext, ha, hb]

theorem numbers_ne_nil (v : Version) : v.numbers ≠ [] :=
  fun h => v.ne (List.map_eq_nil_iff.mp h)

theorem kept_of_fits (h : v.Fits) : v.kept = v.numbers :=
  List.filter_eq_self.mpr fun n hn => decide_eq_true (h n hn)

theorem agrees_of_fits (ha : a.Fits) (hb : b.Fits) : a.Agrees b := by
  rw [agrees_iff, KeptDecide, kept_of_fits ha, kept_of_fits hb,
    if_neg (not_or.mpr ⟨a.numbers_ne_nil, b.numbers_ne_nil⟩)]
  exact .inr Iff.rfl

/-- What is left of a version without the components that an `Int` cannot hold. -/
def keptVersion (v : Version) (h : v.kept ≠ []) : Version where
  parts := v.parts.filter fun part => number part ≤ intMax
  ne hnil := h (by simp [kept, numbers, List.filter_map, Function.comp_def, hnil])
  digits part hpart := v.digits part (List.mem_filter.mp hpart).1

theorem keptVersion_numbers (v : Version) (h : v.kept ≠ []) :
    (v.keptVersion h).numbers = v.kept := by
  rw [kept, numbers, numbers, List.filter_map]
  rfl

theorem keptVersion_fits (v : Version) (h : v.kept ≠ []) : (v.keptVersion h).Fits := by
  intro n hn
  rw [keptVersion_numbers] at hn
  exact of_decide_eq_true (List.mem_filter.mp hn).2

theorem newer_keptVersion (h : v.kept ≠ []) (hfits : ¬v.Fits) : v.Newer (v.keptVersion h) := by
  rw [Fits] at hfits
  push Not at hfits
  obtain ⟨n, hn, hlt⟩ := hfits
  rw [Newer, keptVersion_numbers]
  refine greater_filter hn (decide_eq_false (Nat.not_le.mpr hlt)) (fun y hy z hz => ?_)
    (decide_eq_true (Nat.zero_le _))
  exact Nat.lt_of_le_of_lt (of_decide_eq_true hy) (Nat.lt_of_not_le (of_decide_eq_false hz))

/-- Parts that are found to be numbers. -/
def ofParts (parts : List (List Char)) (ne : parts ≠ [])
    (h : (parts.all fun part => !part.isEmpty && part.all isDigit) = true) : Version :=
  ⟨parts, ne, fun part hpart => by
    have hchecked := List.all_eq_true.mp h part hpart
    simpa using hchecked⟩

/-- The version `0`. -/
def zero : Version := ofParts [['0']] (by simp) (by decide +kernel)

theorem zero_numbers : zero.numbers = [0] := by decide

/-- A version with a component that does not fit is compared wrongly with what is kept of it, or
with the version `0`. -/
theorem fits_of_agrees (h : ∀ b : Version, b.Fits → a.Agrees b ∧ b.Agrees a) : a.Fits := by
  by_contra hfits
  by_cases hkept : a.kept = []
  · have hzero : zero.Fits := by
      rw [Fits, zero_numbers]
      decide
    obtain ⟨n, rest, hn⟩ := List.exists_cons_of_ne_nil a.numbers_ne_nil
    have hlt : intMax < n := by
      have hnot := List.filter_eq_nil_iff.mp hkept n (by rw [hn]; exact List.mem_cons_self)
      simpa using hnot
    have hnewer : a.Newer zero := by
      rw [Newer, zero_numbers, hn]
      exact greater_of_head (Nat.lt_of_le_of_lt (Nat.zero_le _) hlt)
    obtain htext | hdecide := (agrees_iff zero a).mp (h zero hzero).2
    · rw [Newer, ← text_inj htext] at hnewer
      exact Greater.irrefl _ hnewer
    · rw [if_pos (.inr hkept)] at hdecide
      exact hnewer.asymm hdecide
  · have hnewer := newer_keptVersion hkept hfits
    obtain htext | hdecide := (agrees_iff a _).mp (h _ (a.keptVersion_fits hkept)).1
    · rw [Newer, text_inj htext] at hnewer
      exact Greater.irrefl _ hnewer
    · rw [kept_of_fits (a.keptVersion_fits hkept), keptVersion_numbers,
        if_neg (not_or.mpr ⟨hkept, hkept⟩)] at hdecide
      exact Greater.irrefl _ (hdecide.mpr hnewer)

/-- Among versions that fit the comparison is a strict order. -/
theorem isNewerVersion_order {c : Version} (ha : a.Fits) (hb : b.Fits) (hc : c.Fits) :
    isNewerVersion a.text a.text = false ∧
      (isNewerVersion a.text b.text = true → isNewerVersion b.text a.text = false) ∧
      (isNewerVersion a.text b.text = true → isNewerVersion b.text c.text = true →
        isNewerVersion a.text c.text = true) := by
  refine ⟨?_, fun hab => ?_, fun hab hbc => ?_⟩
  · rw [← Bool.not_eq_true]
    exact fun h => Greater.irrefl _ ((agrees_of_fits ha ha).mp h)
  · have hnewer := (agrees_of_fits ha hb).mp hab
    rw [← Bool.not_eq_true]
    exact fun h => hnewer.asymm ((agrees_of_fits hb ha).mp h)
  · have hnewer := (agrees_of_fits ha hb).mp hab
    exact (agrees_of_fits ha hc).mpr (hnewer.trans ((agrees_of_fits hb hc).mp hbc))

end Version

/-! ## Texts that are no versions -/

/-- Without numbers on one side, any other text is newer. -/
theorem isNewerVersion_unparsable {a b : List Char}
    (h : storeParts a = [] ∨ installedParts b = []) :
    isNewerVersion a b = true ↔ b = [] ∨ a ≠ b := by
  by_cases hb : b = []
  · simp [isNewerVersion, hb]
  by_cases hab : a = b
  · simp [isNewerVersion, hab, hb]
  · simp [isNewerVersion, hab, hb, h]

/-- Each of the two is newer than the other, unless they are the same. -/
theorem not_both_newer_iff {a b : List Char} (h : Unparsable a ∨ Unparsable b) :
    ¬(isNewerVersion a b = true ∧ isNewerVersion b a = true) ↔ a = b ∧ a ≠ [] := by
  have hab : isNewerVersion a b = true ↔ b = [] ∨ a ≠ b :=
    isNewerVersion_unparsable (h.imp And.left And.right)
  have hba : isNewerVersion b a = true ↔ a = [] ∨ b ≠ a :=
    isNewerVersion_unparsable (h.symm.imp And.left And.right)
  rw [hab, hba]
  by_cases he : a = b
  · subst he
    simp
  · simp [he, Ne.symm he]

/-- **Versions are compared right** exactly where the components that an `Int` can hold decide,
and a version is compared right with all versions that fit exactly if it fits itself. Of two
texts, one of them without numbers, at most one is newer exactly if they are the same. -/
theorem isNewerVersion_order_iff (a b c : Version) (s t : List Char)
    (h : Unparsable s ∨ Unparsable t) :
    (a.Agrees b ↔ a.KeptDecide b) ∧
    ((∀ b : Version, b.Fits → a.Agrees b ∧ b.Agrees a) ↔ a.Fits) ∧
    (a.Fits → b.Fits → c.Fits →
      isNewerVersion a.text a.text = false ∧
        (isNewerVersion a.text b.text = true → isNewerVersion b.text a.text = false) ∧
        (isNewerVersion a.text b.text = true → isNewerVersion b.text c.text = true →
          isNewerVersion a.text c.text = true)) ∧
    (¬(isNewerVersion s t = true ∧ isNewerVersion t s = true) ↔ s = t ∧ s ≠ []) :=
  ⟨Version.agrees_iff a b,
    ⟨Version.fits_of_agrees, fun ha _ hb =>
      ⟨Version.agrees_of_fits ha hb, Version.agrees_of_fits hb ha⟩⟩,
    Version.isNewerVersion_order, not_both_newer_iff h⟩

/-- The version `2.0`. -/
def two : Version := .ofParts [['2'], ['0']] (by simp) (by decide +kernel)

theorem two_compared :
    (two.Agrees .zero ∧ Version.zero.Agrees two) ∧
      isNewerVersion two.text two.text = false ∧
      (¬(isNewerVersion "beta".toList "beta".toList = true ∧
          isNewerVersion "beta".toList "beta".toList = true) ↔
        "beta".toList = "beta".toList ∧ "beta".toList ≠ []) := by
  have htwo : two.Fits := by decide
  have hzero : Version.zero.Fits := by decide
  have hbeta : Unparsable "beta".toList := by decide +kernel
  obtain ⟨-, hfits, horder, hboth⟩ :=
    isNewerVersion_order_iff two .zero .zero "beta".toList "beta".toList (.inl hbeta)
  exact ⟨hfits.mpr htwo .zero hzero, (horder htwo hzero hzero).1, hboth⟩

/-- Two builds, each with the time it was made. -/
def earlierBuild : Version :=
  .ofParts (["1", "20240101120000", "2"].map String.toList) (by simp) (by decide +kernel)

def laterBuild : Version :=
  .ofParts (["1", "20250101120000", "1"].map String.toList) (by simp) (by decide +kernel)

/-- A later build is not found, and of two texts without numbers each is newer. -/
theorem laterBuild_not_newer :
    ¬laterBuild.Agrees earlierBuild ∧ ¬earlierBuild.Agrees laterBuild ∧
      isNewerVersion "beta".toList "alpha".toList = true ∧
      isNewerVersion "alpha".toList "beta".toList = true := by
  have hnewer : laterBuild.Newer earlierBuild := by
    refine ⟨1, fun j hj => ?_, by decide +kernel⟩
    obtain rfl : j = 0 := by omega
    decide +kernel
  have hfound : isNewerVersion laterBuild.text earlierBuild.text = false := by decide +kernel
  have hfound' : isNewerVersion earlierBuild.text laterBuild.text = true := by decide +kernel
  refine ⟨fun h => ?_, fun h => hnewer.asymm (h.mp hfound'), by decide +kernel, by decide +kernel⟩
  exact Bool.false_ne_true (hfound.symm.trans (h.mpr hnewer))

end SecureGuard.Astore
