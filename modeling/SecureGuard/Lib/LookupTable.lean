import Mathlib.Data.List.TakeWhile

/-! # Tables that refuse what a lookup finds

A query is looked up under several keys. A table is built from a list of keys one after the
other, and a key whose own lookup succeeds is refused as a duplicate. What the table holds
then depends on the order of the list: a key is in the table exactly if its first occurrence
was not refused. -/

namespace LookupTable

variable {κ : Type*} [DecidableEq κ] (probes : κ → List κ)

/-- One of the keys looked up for the query is in the table. -/
def finds (table : List κ) (query : κ) : Bool := (probes query).any fun k => table.contains k

def insert (table : List κ) (key : κ) : List κ :=
  if finds probes table key then table else table ++ [key]

def build (keys : List κ) : List κ := keys.foldl (insert probes) []

/-- The keys before the first occurrence of `key`. -/
def before (key : κ) (keys : List κ) : List κ := keys.takeWhile fun k => k != key

/-- The key is in the list, and is not refused when it first comes. -/
def counts (keys : List κ) (key : κ) : Bool :=
  keys.contains key && !finds probes (build probes (before key keys)) key

variable {probes}

theorem finds_iff {table : List κ} {query : κ} :
    finds probes table query = true ↔ ∃ k ∈ probes query, k ∈ table := by
  simp [finds, List.any_eq_true]

theorem finds_mono {t t' : List κ} (h : ∀ k ∈ t, k ∈ t') {query : κ}
    (hfinds : finds probes t query = true) : finds probes t' query = true := by
  obtain ⟨k, hk, hmem⟩ := finds_iff.mp hfinds
  exact finds_iff.mpr ⟨k, hk, h k hmem⟩

theorem mem_insert {table : List κ} {key k : κ} (h : k ∈ insert probes table key) :
    k ∈ table ∨ k = key := by
  unfold insert at h
  split at h
  · exact Or.inl h
  · simpa using h

theorem subset_insert {table : List κ} {key k : κ} (h : k ∈ table) :
    k ∈ insert probes table key := by
  unfold insert
  split
  · exact h
  · exact List.mem_append_left _ h

theorem subset_foldl (keys : List κ) {table : List κ} {k : κ} (h : k ∈ table) :
    k ∈ keys.foldl (insert probes) table := by
  induction keys generalizing table with
  | nil => exact h
  | cons key keys ih => exact ih (subset_insert h)

theorem mem_foldl {keys table : List κ} {k : κ} (h : k ∈ keys.foldl (insert probes) table) :
    k ∈ table ∨ k ∈ keys := by
  induction keys generalizing table with
  | nil => exact Or.inl h
  | cons key keys ih =>
    rcases ih h with h | h
    · rcases mem_insert h with h | rfl
      · exact Or.inl h
      · exact Or.inr List.mem_cons_self
    · exact Or.inr (List.mem_cons_of_mem _ h)

theorem mem_of_mem_build {keys : List κ} {k : κ} (h : k ∈ build probes keys) : k ∈ keys := by
  rcases mem_foldl h with h | h
  · simp at h
  · exact h

/-- A key that the table finds is refused for good. -/
theorem mem_of_finds {keys table : List κ} {k : κ} (hfinds : finds probes table k = true)
    (h : k ∈ keys.foldl (insert probes) table) : k ∈ table := by
  induction keys generalizing table with
  | nil => exact h
  | cons key keys ih =>
    have hmem := ih (finds_mono (fun _ => subset_insert) hfinds) h
    rcases mem_insert hmem with hmem | rfl
    · exact hmem
    · rwa [insert, if_pos hfinds] at hmem

/-! ## First occurrences -/

theorem not_mem_before (key : κ) (keys : List κ) : key ∉ before key keys := by
  intro h
  simpa using List.mem_takeWhile_imp h

/-- A list up to the first occurrence of a key in it, and what follows. -/
theorem exists_eq_before_append {key : κ} {keys : List κ} (h : key ∈ keys) :
    ∃ rest, keys = before key keys ++ key :: rest := by
  induction keys with
  | nil => simp at h
  | cons k keys ih =>
    by_cases hk : k = key
    · subst hk
      exact ⟨keys, by simp [before]⟩
    · obtain ⟨rest, he⟩ := ih (List.mem_of_ne_of_mem (Ne.symm hk) h)
      have hbefore : before key (k :: keys) = k :: before key keys := by simp [before, hk]
      exact ⟨rest, by rw [hbefore, List.cons_append, ← he]⟩

theorem mem_build_of_mem_build_before {key k : κ} {keys : List κ}
    (h : k ∈ build probes (before key keys)) : k ∈ build probes keys := by
  by_cases hmem : key ∈ keys
  · obtain ⟨rest, he⟩ := exists_eq_before_append hmem
    rw [he, build, List.foldl_append]
    exact subset_foldl _ h
  · have hbefore : before key keys = keys :=
      List.takeWhile_eq_self_iff.mpr fun k hk => by
        simpa using fun he : k = key => hmem (he ▸ hk)
    rwa [hbefore] at h

/-- **The table holds exactly the keys that count.** -/
theorem mem_build_iff {keys : List κ} {key : κ} :
    key ∈ build probes keys ↔ counts probes keys key = true := by
  rw [counts, Bool.and_eq_true, Bool.not_eq_true', List.contains_iff_mem]
  constructor
  · intro h
    have hmem := mem_of_mem_build h
    refine ⟨hmem, Bool.eq_false_iff.mpr fun hfinds => not_mem_before key keys ?_⟩
    obtain ⟨rest, he⟩ := exists_eq_before_append hmem
    rw [he, build, List.foldl_append] at h
    exact mem_of_mem_build (mem_of_finds hfinds h)
  · rintro ⟨hmem, h⟩
    obtain ⟨rest, he⟩ := exists_eq_before_append hmem
    have hstored : key ∈ insert probes (build probes (before key keys)) key := by
      rw [insert, h]
      simp
    rw [he, build, List.foldl_append]
    exact subset_foldl rest hstored

/-- A key of the list is found, if its own probes find it. -/
theorem finds_of_mem {keys : List κ} {key : κ} (hmem : key ∈ keys)
    (hself : key ∈ probes key) : finds probes (build probes keys) key = true := by
  cases h : finds probes (build probes (before key keys)) key with
  | true => exact finds_mono (fun _ => mem_build_of_mem_build_before) h
  | false =>
    have hcounts : counts probes keys key = true := by simp [counts, hmem, h]
    exact finds_iff.mpr ⟨key, hself, mem_build_iff.mpr hcounts⟩

end LookupTable
