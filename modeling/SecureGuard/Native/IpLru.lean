import SecureGuard.Native.Blacklist

/-! # The IP-to-host cache (`ip_lru.c`)

The cache is a `uthash` table, which iterates in insertion order, so it is a list with the
oldest entry first. Looking an entry up deletes and re-adds it. The two facts the code relies
on, one entry for each address and at most `max_size` of them, are fields. -/

namespace SecureGuard.Native

structure CacheEntry where
  key : ZdtunIp
  host : CStr
  deriving DecidableEq, Repr

structure IpLru where
  maxSize : Nat
  cache : List CacheEntry
  bounded : cache.length ≤ maxSize
  nodup : (cache.map CacheEntry.key).Nodup
  deriving DecidableEq

namespace IpLru

/-- `ip_lru_init`. -/
def init (maxSize : Nat) : IpLru where
  maxSize := maxSize
  cache := []
  bounded := Nat.zero_le _
  nodup := List.nodup_nil

def lookup (lru : IpLru) (ip : ZdtunIp) : Option CacheEntry :=
  lru.cache.find? fun e => e.key == ip

/-- The entries of the other addresses. -/
def others (lru : IpLru) (ip : ZdtunIp) : List CacheEntry :=
  lru.cache.filter fun e => e.key != ip

theorem lookup_key {lru : IpLru} {ip : ZdtunIp} {e : CacheEntry} (h : lru.lookup ip = some e) :
    e.key = ip := by
  simpa using List.find?_some h

theorem others_length_lt {lru : IpLru} {ip : ZdtunIp} {e : CacheEntry}
    (h : lru.lookup ip = some e) : (lru.others ip).length < lru.cache.length := by
  refine List.length_filter_lt_length_iff_exists.mpr ⟨e, List.mem_of_find?_eq_some h, ?_⟩
  simp [lookup_key h]

theorem others_nodup (lru : IpLru) (ip : ZdtunIp) (host : CStr) :
    (List.map CacheEntry.key (lru.others ip ++ [⟨ip, host⟩])).Nodup := by
  rw [List.map_append, List.nodup_append]
  refine ⟨lru.nodup.sublist (List.filter_sublist.map _), by simp, ?_⟩
  intro k hk k' hk'
  obtain ⟨e, he, rfl⟩ := List.mem_map.mp hk
  have hne : e.key ≠ ip := by simpa using (List.mem_filter.mp he).2
  simp only [List.map_cons, List.map_nil, List.mem_singleton] at hk'
  exact hk' ▸ hne

/-- Delete the entry and add it again, with the given host: it becomes the newest one. -/
def touch (lru : IpLru) (ip : ZdtunIp) (host : CStr) (e : CacheEntry)
    (h : lru.lookup ip = some e) : IpLru where
  maxSize := lru.maxSize
  cache := lru.others ip ++ [⟨ip, host⟩]
  bounded := by
    have hlt := others_length_lt h
    have hb := lru.bounded
    simp only [List.length_append, List.length_singleton]
    omega
  nodup := others_nodup lru ip host

/-- Add an entry for a new address; above `max_size` the oldest entry is deleted. -/
def push (lru : IpLru) (ip : ZdtunIp) (host : CStr) : IpLru :=
  let cache := lru.others ip ++ [⟨ip, host⟩]
  { maxSize := lru.maxSize
    cache := if cache.length > lru.maxSize then cache.drop 1 else cache
    bounded := by
      have hle : (lru.others ip).length ≤ lru.cache.length := List.length_filter_le _ _
      have hb := lru.bounded
      split
      · simp only [cache, List.length_drop, List.length_append, List.length_singleton]
        omega
      · omega
    nodup := by
      have hn := others_nodup lru ip host
      split
      · exact hn.sublist ((List.drop_sublist 1 cache).map _)
      · exact hn }

/-- `ip_lru_find`: the host, and the cache with the entry brought to the front. -/
def find (lru : IpLru) (ip : ZdtunIp) : Option CStr × IpLru :=
  match h : lru.lookup ip with
  | some e => (some e.host, lru.touch ip e.host e h)
  | none => (none, lru)

/-- `ip_lru_add`. -/
def add (lru : IpLru) (ip : ZdtunIp) (host : CStr) : IpLru :=
  match h : lru.lookup ip with
  | some e => lru.touch ip host e h
  | none => lru.push ip host

/-- What the cache answers for an address. -/
def host? (lru : IpLru) (ip : ZdtunIp) : Option CStr := (lru.lookup ip).map CacheEntry.host

theorem find_fst (lru : IpLru) (ip : ZdtunIp) : (lru.find ip).1 = lru.host? ip := by
  unfold find host?
  split <;> simp_all

end IpLru

end SecureGuard.Native
