import Mathlib.Data.List.Nodup
import SecureGuard.Lib.LruMap
import SecureGuard.Lib.Machine
import SecureGuard.Native.Connection
import SecureGuard.Native.SpoofedPacket

/-! # The IP-to-host cache as a map

The cache is meant to be a map from the addresses of both families to hosts that forgets the
address used least recently. Its keys are the 16 bytes of a `zdtun_ip_t`, which an IPv4 address
shares with an IPv6 address that ends in twelve zero bytes. -/

namespace SecureGuard.Native
open LruMap Machine

/-- An address of either family, as it is in a `zdtun_ip_t`. -/
structure Address where
  ipver : IpVer
  ip : ZdtunIp
  isIp4 : ipver = .v4 → IsIp4 ip
deriving DecidableEq

instance (ip : ZdtunIp) : Decidable (IsIp4 ip) := inferInstanceAs (Decidable (_ = _))

abbrev CacheCall := Call Address CStr

/-- `ip_lru_add` and `ip_lru_find`, as `process_dns_reply` and `pd_new_connection` call them. -/
def IpLru.perform (lru : IpLru) : CacheCall → IpLru
  | .add a host => lru.add a.ip host
  | .find a => (lru.find a.ip).2

/-- A cache with the calls made of it, the latest one first. -/
structure CacheRun where
  past : List CacheCall
  lru : IpLru

namespace CacheRun

def init (maxSize : Nat) : CacheRun := ⟨[], .init maxSize⟩

def step (s : CacheRun) (call : CacheCall) : CacheRun := ⟨call :: s.past, s.lru.perform call⟩

/-- A call is answered as the map has to answer it, and the cache forgets nothing but the address
used least recently. -/
structure Right (n : Nat) (s : CacheRun) (call : CacheCall) : Prop where
  answered : ∀ a, call = .find a → (s.lru.find a.ip).1 = answer n s.past a
  bounded : (s.step call).lru.cache.length ≤ n
  evicted : ∀ e ∈ s.lru.cache, e.key ∉ (s.step call).lru.cache.map CacheEntry.key →
    ∃ a, (held n s.past).getLast? = some a ∧ a.ip = e.key

/-- The address of a call. -/
def target : CacheCall → Address
  | .add a _ => a
  | .find a => a

/-- No address of the other family with the same bytes is held. -/
def Clear (n : Nat) (s : CacheRun) (call : CacheCall) : Prop :=
  ∀ b ∈ held n s.past, b.ip = (target call).ip → b = target call

/-- The cache has the addresses that the map holds, the one used least recently first, each with
the host that was added last. -/
structure Represents (n : Nat) (s : CacheRun) : Prop where
  size : s.lru.maxSize = n
  keys : s.lru.cache.map CacheEntry.key = (held n s.past).reverse.map Address.ip
  hosts : ∀ a ∈ held n s.past, ∀ e ∈ s.lru.cache, e.key = a.ip → lastAdded a s.past = some e.host

end CacheRun

/-! ## What a call does to the entries -/

namespace IpLru

variable {lru : IpLru} {ip : ZdtunIp} {e : CacheEntry}

theorem lookup_eq_none_iff : lru.lookup ip = none ↔ ip ∉ lru.cache.map CacheEntry.key := by
  simp [lookup]

theorem mem_of_lookup (h : lru.lookup ip = some e) : e ∈ lru.cache := List.mem_of_find?_eq_some h

theorem find_of_some (h : lru.lookup ip = some e) :
    lru.find ip = (some e.host, lru.touch ip e.host e h) := by
  unfold find
  split
  · next e' h' =>
    obtain rfl : e' = e := Option.some.inj (h'.symm.trans h)
    rfl
  · next h' => cases h'.symm.trans h

theorem find_of_none (h : lru.lookup ip = none) : lru.find ip = (none, lru) := by
  unfold find
  split
  · next e h' => cases h.symm.trans h'
  · rfl

theorem add_of_some (host : CStr) (h : lru.lookup ip = some e) :
    lru.add ip host = lru.touch ip host e h := by
  unfold add
  split
  · next e' h' =>
    obtain rfl : e' = e := Option.some.inj (h'.symm.trans h)
    rfl
  · next h' => cases h'.symm.trans h

theorem add_of_none (host : CStr) (h : lru.lookup ip = none) :
    lru.add ip host = lru.push ip host := by
  unfold add
  split
  · next e h' => cases h.symm.trans h'
  · rfl

/-- Without an entry for the address, all entries are of other ones. -/
theorem others_of_none (h : lru.lookup ip = none) : lru.others ip = lru.cache := by
  rw [others, List.filter_eq_self]
  intro e he
  rw [bne_iff_ne]
  rintro rfl
  exact lookup_eq_none_iff.mp h (List.mem_map_of_mem he)

theorem cache_find_of_some (h : lru.lookup ip = some e) :
    (lru.find ip).2.cache = lru.others ip ++ [⟨ip, e.host⟩] := by
  rw [find_of_some h]
  rfl

theorem cache_add_of_some (host : CStr) (h : lru.lookup ip = some e) :
    (lru.add ip host).cache = lru.others ip ++ [⟨ip, host⟩] := by
  rw [add_of_some host h]
  rfl

theorem cache_add_of_none (host : CStr) (h : lru.lookup ip = none) :
    (lru.add ip host).cache =
      if lru.cache.length < lru.maxSize then lru.cache ++ [⟨ip, host⟩]
      else (lru.cache ++ [(⟨ip, host⟩ : CacheEntry)]).drop 1 := by
  have hfull : (lru.cache ++ [(⟨ip, host⟩ : CacheEntry)]).length > lru.maxSize ↔
      ¬lru.cache.length < lru.maxSize := by
    rw [List.length_append, List.length_singleton]
    omega
  have hpush : (lru.push ip host).cache =
      if (lru.others ip ++ [(⟨ip, host⟩ : CacheEntry)]).length > lru.maxSize then
        (lru.others ip ++ [(⟨ip, host⟩ : CacheEntry)]).drop 1
      else lru.others ip ++ [⟨ip, host⟩] := rfl
  rw [add_of_none host h, hpush, others_of_none h]
  simp only [hfull, ite_not]

theorem keys_others (lru : IpLru) (ip : ZdtunIp) : (lru.others ip).map CacheEntry.key =
    (lru.cache.map CacheEntry.key).filter fun k => k != ip := by
  rw [others, List.filter_map]
  rfl

/-- A use keeps every key. -/
theorem key_mem_touched (he : e ∈ lru.cache) (ip : ZdtunIp) (host : CStr) :
    e.key ∈ (lru.others ip ++ [(⟨ip, host⟩ : CacheEntry)]).map CacheEntry.key := by
  rw [List.map_append, List.mem_append, keys_others, List.mem_filter]
  by_cases hip : e.key = ip
  · exact .inr (by simp [hip])
  · exact .inl ⟨List.mem_map_of_mem he, by simpa using hip⟩

@[simp] theorem maxSize_perform (lru : IpLru) (call : CacheCall) :
    (lru.perform call).maxSize = lru.maxSize := by
  cases call with
  | add a host =>
    rw [perform]
    cases h : lru.lookup a.ip with
    | none => rw [add_of_none host h]; rfl
    | some e => rw [add_of_some host h]; rfl
  | find a =>
    rw [perform]
    cases h : lru.lookup a.ip with
    | none => rw [find_of_none h]
    | some e => rw [find_of_some h]; rfl

end IpLru

/-! ## What the cache holds -/

namespace CacheRun

variable {n : Nat} {s : CacheRun} {call : CacheCall} {a : Address}

instance (s : CacheRun) (call : CacheCall) : Decidable (Clear n s call) :=
  inferInstanceAs (Decidable (∀ b ∈ held n s.past, b.ip = _ → b = _))

theorem represents_init (n : Nat) : (init n).Represents n where
  size := rfl
  keys := by simp [init, IpLru.init, held, recent]
  hosts a ha := by simp [init, held, recent] at ha

namespace Represents

theorem nodup_ip (h : s.Represents n) : ((held n s.past).reverse.map Address.ip).Nodup :=
  h.keys ▸ s.lru.nodup

theorem nodup (h : s.Represents n) : (held n s.past).Nodup :=
  List.nodup_reverse.mp (List.Nodup.of_map _ h.nodup_ip)

/-- Two addresses that are held do not have the same bytes. -/
theorem inj (h : s.Represents n) {b : Address} (ha : a ∈ held n s.past) (hb : b ∈ held n s.past)
    (he : a.ip = b.ip) : a = b :=
  List.inj_on_of_nodup_map h.nodup_ip (List.mem_reverse.mpr ha) (List.mem_reverse.mpr hb) he

/-- An address that is held has its entry. -/
theorem exists_lookup (h : s.Represents n) (ha : a ∈ held n s.past) :
    ∃ e, s.lru.lookup a.ip = some e := by
  have hmem : a.ip ∈ s.lru.cache.map CacheEntry.key := by
    rw [h.keys]
    exact List.mem_map_of_mem (List.mem_reverse.mpr ha)
  exact Option.ne_none_iff_exists'.mp fun hnone => IpLru.lookup_eq_none_iff.mp hnone hmem

/-- An entry belongs to an address that is held. -/
theorem exists_held (h : s.Represents n) {ip : ZdtunIp} {e : CacheEntry}
    (he : s.lru.lookup ip = some e) : ∃ b ∈ held n s.past, b.ip = ip := by
  have hmem : ip ∈ s.lru.cache.map CacheEntry.key := by
    rw [← IpLru.lookup_key he]
    exact List.mem_map_of_mem (IpLru.mem_of_lookup he)
  rw [h.keys, List.map_reverse, List.mem_reverse] at hmem
  exact List.mem_map.mp hmem

theorem length_cache (h : s.Represents n) : s.lru.cache.length = (held n s.past).length := by
  simpa using congrArg List.length h.keys

theorem lookup_eq_none (h : s.Represents n) (hclear : Clear n s call)
    (ha : target call ∉ held n s.past) : s.lru.lookup (target call).ip = none := by
  cases he : s.lru.lookup (target call).ip with
  | none => rfl
  | some e =>
    obtain ⟨b, hb, hip⟩ := h.exists_held he
    exact absurd (hclear b hb hip ▸ hb) ha

/-- Using an address that is held moves it behind the others. -/
theorem keys_others (h : s.Represents n) (ha : a ∈ held n s.past) :
    (s.lru.others a.ip).map CacheEntry.key ++ [a.ip] =
      (a :: (held n s.past).erase a).reverse.map Address.ip := by
  have hsame : ∀ b ∈ held n s.past, (b != a) = (b.ip != a.ip) := by
    intro b hb
    rw [Bool.eq_iff_iff, bne_iff_ne, bne_iff_ne]
    exact not_congr ⟨fun he => he ▸ rfl, h.inj hb ha⟩
  rw [IpLru.keys_others, h.keys, h.nodup.erase_eq_filter, List.filter_congr hsame,
    List.reverse_cons, List.map_append, ← List.filter_reverse, List.filter_map]
  rfl

/-- After a call with the address `a` an entry is the one of `a`, or is one from before. -/
theorem host_step (h : s.Represents n) (hclear : Clear n s call) {b : Address} {host : CStr}
    {e : CacheEntry} (hb : b = target call ∨ b ∈ held n s.past)
    (he : e = ⟨(target call).ip, host⟩ ∨ e ∈ s.lru.cache ∧ e.key ≠ (target call).ip)
    (hkey : e.key = b.ip) (hadded : lastAdded (target call) (call :: s.past) = some host)
    (hothers : ∀ b, b ≠ target call → lastAdded b (call :: s.past) = lastAdded b s.past) :
    lastAdded b (call :: s.past) = some e.host := by
  obtain rfl | ⟨hmem, hne⟩ := he
  · have hself : b = target call := hb.elim id fun hb => hclear b hb hkey.symm
    rw [hself, hadded]
  · have hba : b ≠ target call := fun hb => hne (hb ▸ hkey)
    rw [hothers b hba]
    exact h.hosts b (hb.resolve_left hba) e hmem hkey

/-- A call that moves an entry behind the others. -/
theorem touched (h : s.Represents n) (hclear : Clear n s call) {host : CStr}
    (ha : target call ∈ held n s.past)
    (hheld : held n (call :: s.past) = target call :: (held n s.past).erase (target call))
    (hcache : (s.step call).lru.cache =
      s.lru.others (target call).ip ++ [⟨(target call).ip, host⟩])
    (hadded : lastAdded (target call) (call :: s.past) = some host)
    (hothers : ∀ b, b ≠ target call → lastAdded b (call :: s.past) = lastAdded b s.past) :
    (s.step call).Represents n where
  size := (IpLru.maxSize_perform _ _).trans h.size
  keys := by
    rw [hcache, List.map_append]
    exact (h.keys_others ha).trans (congrArg (fun l => l.reverse.map Address.ip) hheld.symm)
  hosts b hb e he hkey := by
    have hb' : b = target call ∨ b ∈ held n s.past := by
      have hmem : b ∈ held n (call :: s.past) := hb
      rw [hheld, List.mem_cons] at hmem
      exact hmem.imp_right List.mem_of_mem_erase
    rw [hcache, List.mem_append, List.mem_singleton] at he
    refine h.host_step hclear hb' ?_ hkey hadded hothers
    obtain he | he := he
    · exact .inr ⟨(List.mem_filter.mp he).1, by simpa using (List.mem_filter.mp he).2⟩
    · exact .inl he

/-- A new entry pushes out the oldest one, and its address is the one used least recently. -/
theorem keys_pushed (h : s.Represents n) (a : Address) (host : CStr) :
    (if s.lru.cache.length < n then s.lru.cache ++ [(⟨a.ip, host⟩ : CacheEntry)]
      else (s.lru.cache ++ [(⟨a.ip, host⟩ : CacheEntry)]).drop 1).map CacheEntry.key =
    ((a :: held n s.past).take n).reverse.map Address.ip := by
  have hkeys : (s.lru.cache ++ [(⟨a.ip, host⟩ : CacheEntry)]).map CacheEntry.key =
      (a :: held n s.past).reverse.map Address.ip := by
    simp [h.keys]
  rw [h.length_cache]
  split
  · next hroom => rw [hkeys, List.take_of_length_le (by rw [List.length_cons]; omega)]
  · next hfull =>
    have hle := length_held_le n s.past
    have hdrop : (a :: held n s.past).take n = (a :: held n s.past).dropLast := by
      rw [List.dropLast_eq_take, List.length_cons]
      congr 1
      omega
    rw [List.map_drop, hkeys, hdrop, ← List.tail_reverse, List.map_tail, List.drop_one]

/-- A call that adds an entry. -/
theorem pushed (h : s.Represents n) {host : CStr} (hclear : Clear n s (.add a host))
    (ha : a ∉ held n s.past) : (s.step (.add a host)).Represents n := by
  have hnone : s.lru.lookup a.ip = none := h.lookup_eq_none hclear ha
  have hcache : (s.step (.add a host)).lru.cache = _ := IpLru.cache_add_of_none host hnone
  rw [h.size] at hcache
  have hheld : held n (s.step (.add a host)).past = (a :: held n s.past).take n :=
    held_add_of_not_mem ha host
  refine ⟨(IpLru.maxSize_perform _ _).trans h.size, ?_, fun b hb e he hkey => ?_⟩
  · rw [hcache, hheld, h.keys_pushed]
  · have hb' : b = a ∨ b ∈ held n s.past := by
      rw [hheld] at hb
      exact List.mem_cons.mp (List.mem_of_mem_take hb)
    have he' : e ∈ s.lru.cache ++ [(⟨a.ip, host⟩ : CacheEntry)] := by
      rw [hcache] at he
      split at he
      · exact he
      · exact List.mem_of_mem_drop he
    rw [List.mem_append, List.mem_singleton] at he'
    refine h.host_step hclear hb' (he'.symm.imp_right fun hmem => ⟨hmem, fun heq => ?_⟩) hkey
      (lastAdded_add host) fun b hb => lastAdded_add_of_ne (Ne.symm hb) host
    exact IpLru.lookup_eq_none_iff.mp hnone (heq ▸ List.mem_map_of_mem hmem)

theorem step (h : s.Represents n) (hclear : Clear n s call) : (s.step call).Represents n := by
  by_cases ha : target call ∈ held n s.past
  · obtain ⟨e, he⟩ := h.exists_lookup ha
    cases call with
    | add a host =>
      exact h.touched hclear ha (held_add_of_mem ha host) (IpLru.cache_add_of_some host he)
        (lastAdded_add host) fun b hb => lastAdded_add_of_ne (Ne.symm hb) host
    | find a =>
      have hhost := h.hosts a ha e (IpLru.mem_of_lookup he) (IpLru.lookup_key he)
      exact h.touched hclear ha (held_find_of_mem ha) (IpLru.cache_find_of_some he) hhost
        fun _ _ => lastAdded_find a
  · cases call with
    | add a host => exact h.pushed hclear ha
    | find a =>
      have hnone : s.lru.lookup a.ip = none := h.lookup_eq_none hclear ha
      have hheld : held n ((.find a : CacheCall) :: s.past) = held n s.past :=
        held_find_of_not_mem ha
      have hlru : (s.step (.find a)).lru = s.lru := by
        rw [CacheRun.step, IpLru.perform, IpLru.find_of_none hnone]
      refine ⟨hlru ▸ h.size, ?_, fun b hb e he => ?_⟩
      · rw [hlru]
        exact h.keys.trans (congrArg (fun l => l.reverse.map Address.ip) hheld.symm)
      · rw [hlru] at he
        have hmem : b ∈ held n ((.find a : CacheCall) :: s.past) := hb
        rw [hheld] at hmem
        exact h.hosts b hmem e he

/-- The code finds an address as the map does exactly if it does not find the other one. -/
theorem answered_iff (h : s.Represents n) (a : Address) :
    (s.lru.find a.ip).1 = answer n s.past a ↔ Clear n s (.find a) := by
  by_cases ha : a ∈ held n s.past
  · obtain ⟨e, he⟩ := h.exists_lookup ha
    have hhost := h.hosts a ha e (IpLru.mem_of_lookup he) (IpLru.lookup_key he)
    refine iff_of_true ?_ fun b hb hip => h.inj hb ha hip
    rw [IpLru.find_of_some he, answer, if_pos ha, hhost]
  · rw [answer, if_neg ha]
    constructor
    · intro hnone b hb hip
      obtain ⟨e, he⟩ := h.exists_lookup hb
      rw [show b.ip = a.ip from hip] at he
      rw [IpLru.find_of_some he] at hnone
      cases hnone
    · intro hclear
      have hnone : s.lru.lookup a.ip = none := h.lookup_eq_none hclear ha
      rw [IpLru.find_of_none hnone]

/-- Without the oldest entry only the address used least recently is missing. -/
theorem oldest (h : s.Represents n) {e : CacheEntry} (he : e ∈ s.lru.cache)
    (hgone : e.key ∉ (s.lru.cache.drop 1).map CacheEntry.key) :
    ∃ a, (held n s.past).getLast? = some a ∧ a.ip = e.key := by
  have hhead := congrArg List.head? h.keys
  rw [List.head?_map, List.head?_map, List.head?_reverse] at hhead
  cases hcache : s.lru.cache with
  | nil => simp [hcache] at he
  | cons e' rest =>
    rw [hcache, List.drop_one, List.tail_cons] at hgone
    obtain rfl | hrest := List.mem_cons.mp (hcache ▸ he)
    · rw [hcache] at hhead
      exact Option.map_eq_some_iff.mp hhead.symm
    · exact absurd (List.mem_map_of_mem hrest) hgone

/-- Only the entry used least recently is ever missing after a call. -/
theorem evicted (h : s.Represents n) {e : CacheEntry} (he : e ∈ s.lru.cache)
    (hgone : e.key ∉ (s.step call).lru.cache.map CacheEntry.key) :
    ∃ a, (held n s.past).getLast? = some a ∧ a.ip = e.key := by
  cases call with
  | add a host =>
    cases hlookup : s.lru.lookup a.ip with
    | some e' =>
      have hcache : (s.step (.add a host)).lru.cache = _ := IpLru.cache_add_of_some host hlookup
      rw [hcache] at hgone
      exact absurd (IpLru.key_mem_touched he a.ip host) hgone
    | none =>
      have hcache : (s.step (.add a host)).lru.cache = _ := IpLru.cache_add_of_none host hlookup
      rw [hcache] at hgone
      split at hgone
      · exact absurd (List.mem_map_of_mem (List.mem_append_left _ he)) hgone
      · refine h.oldest he fun hmem => hgone ?_
        have hpos : 1 ≤ s.lru.cache.length := List.length_pos_of_mem he
        rw [List.drop_append_of_le_length hpos, List.map_append]
        exact List.mem_append_left _ hmem
  | find a =>
    cases hlookup : s.lru.lookup a.ip with
    | some e' =>
      have hcache : (s.step (.find a)).lru.cache = _ := IpLru.cache_find_of_some hlookup
      rw [hcache] at hgone
      exact absurd (IpLru.key_mem_touched he a.ip e'.host) hgone
    | none =>
      have hlru : (s.step (.find a)).lru = s.lru := by
        rw [CacheRun.step, IpLru.perform, IpLru.find_of_none hlookup]
      rw [hlru] at hgone
      exact absurd (List.mem_map_of_mem he) hgone

theorem bounded (h : s.Represents n) (call : CacheCall) :
    (s.step call).lru.cache.length ≤ n := by
  have hb := (s.step call).lru.bounded
  rwa [show (s.step call).lru.maxSize = n from (IpLru.maxSize_perform _ _).trans h.size] at hb

theorem right (h : s.Represents n) (hclear : Clear n s call) : Right n s call where
  answered a ha := (h.answered_iff a).mpr (ha ▸ hclear)
  bounded := h.bounded call
  evicted _ he hgone := h.evicted he hgone

theorem right_find_iff (h : s.Represents n) (a : Address) :
    Right n s (.find a) ↔ Clear n s (.find a) :=
  ⟨fun hright => (h.answered_iff a).mp (hright.answered a rfl), h.right⟩

end Represents

end CacheRun

/-! ## A run of calls -/

/-- **The cache is a map that forgets the address used least recently**, in every run in which no
address is used while the map holds the other one with the same bytes; and after such a run it
finds an address right exactly if the map does not hold that other one. -/
theorem hostCache_isMap (n : Nat) (calls : List CacheCall)
    (h : EveryStep CacheRun.step (CacheRun.Clear n) (.init n) calls) :
    EveryStep CacheRun.step (CacheRun.Right n) (.init n) calls ∧
      ∀ a, (run CacheRun.step (.init n) calls).Right n (.find a) ↔
        (run CacheRun.step (.init n) calls).Clear n (.find a) := by
  have hinit := CacheRun.represents_init n
  have hkeeps : ∀ s call, CacheRun.Represents n s → CacheRun.Clear n s call →
      CacheRun.Represents n (s.step call) := fun _ _ hs => hs.step
  refine ⟨everyStep_of_invariant hkeeps (fun _ _ hs => hs.right) hinit h, fun a => ?_⟩
  have hlast := (everyState_of_invariant hkeeps (fun _ hs => hs) hinit h).last
  exact hlast.right_find_iff a

/-- The address `38.6.71.0`. -/
def ip4Address : Address := ⟨.v4, BitVec.ofNat 128 (0x26064700 <<< 96), fun _ => isIp4_ofNat _⟩

/-- The address `2606:4700::`. -/
def ip6Address : Address := ⟨.v6, BitVec.ofNat 128 (0x26064700 <<< 96), nofun⟩

theorem ip4Address_isMap :
    EveryStep CacheRun.step (CacheRun.Right 256) (.init 256)
        [.add ip4Address (cstr "a.com"), .find ip4Address] ∧
      ∀ a, (run CacheRun.step (.init 256)
          [.add ip4Address (cstr "a.com"), .find ip4Address]).Right 256 (.find a) ↔
        (run CacheRun.step (.init 256)
          [.add ip4Address (cstr "a.com"), .find ip4Address]).Clear 256 (.find a) :=
  hostCache_isMap 256 _ (by decide)

/-- An IPv4 address is found under the host of an IPv6 address. -/
theorem ip6_host_of_ip4 : ¬EveryStep CacheRun.step (CacheRun.Right 256) (.init 256)
    [.add ip6Address (cstr "a.com"), .find ip4Address] := by
  intro h
  obtain ⟨-, hright, -⟩ := h
  exact absurd (hright.answered ip4Address rfl) (by decide)

/-! ## The calls of the engine -/

section Reply

variable (l7 : Nat → UInt8)

/-- The address of a record, with the family its type tells. -/
def recordAddress (recType addrLen i : Nat) : Option Address :=
  if recType = 0x1 ∧ addrLen = 4 then
    some ⟨.v4, BitVec.ofNat 128 (beBytes l7 i 4 <<< 96), fun _ => isIp4_ofNat _⟩
  else if recType = 0x1c ∧ addrLen = 16 then
    some ⟨.v6, BitVec.ofNat 128 (beBytes l7 i 16), nofun⟩
  else none

/-- The addresses of the first `n` answers, as `readAnswers` finds them. -/
def readAddresses : (n : Nat) → Cursor → List Address
  | 0, _ => []
  | n + 1, c =>
    if c.len = 0 then []
    else
      let c := skipName l7 c.reply c.len
      if c.len < 10 then []
      else
        let recType := be16 l7 c.reply
        let addrLen := be16 l7 (c.reply + 8)
        let c := c.skip 10
        if c.len < addrLen then []
        else (recordAddress l7 recType addrLen c.reply).toList ++
          readAddresses n (c.skip addrLen)

/-- The calls of `process_dns_reply`. -/
def replyCalls (query : CStr) (pkt : Packet) : List CacheCall :=
  if query.isEmpty || !query.contains dot || pkt.l7Len < dnsHeaderLen then []
  else if 0x8000 ≤ be16 pkt.l7 2 ∧ be16 pkt.l7 4 ≠ 0 ∧ be16 pkt.l7 6 ≠ 0 then
    (readAddresses pkt.l7 (min (be16 pkt.l7 6) 32) (skipQueries pkt.l7 (be16 pkt.l7 4)
      ⟨dnsHeaderLen, pkt.l7Len - dnsHeaderLen⟩)).map fun a => .add a query
  else []

theorem map_ip_recordAddress (recType addrLen i : Nat) :
    (recordAddress l7 recType addrLen i).map Address.ip = recordAddr l7 recType addrLen i := by
  unfold recordAddress recordAddr
  split
  · rfl
  · split <;> rfl

theorem map_ip_readAddresses (n : Nat) (c : Cursor) :
    (readAddresses l7 n c).map Address.ip = readAnswers l7 n c := by
  induction n generalizing c with
  | zero => rfl
  | succ n ih =>
    rw [readAddresses, readAnswers]
    dsimp only
    split
    · rfl
    split
    · rfl
    split
    · rfl
    rw [List.map_append, ih, ← map_ip_recordAddress, Option.toList_map]

end Reply

/-- `process_dns_reply` is a run of its calls. -/
theorem processDnsReply_eq_run (lru : IpLru) (query : CStr) (pkt : Packet) :
    processDnsReply lru query pkt = (replyCalls query pkt).foldl IpLru.perform lru := by
  rw [processDnsReply, replyCalls, dnsReplyAddrs]
  split
  · rfl
  split
  · rw [← map_ip_readAddresses, List.foldl_map, List.foldl_map]
    rfl
  · rfl

/-- `pd_new_connection` looks its destination up once. -/
theorem newConnection_find (pd : Pcapdroid) {tuple : Tuple} {a : Address} (h : a.ip = tuple.dstIp)
    (uid : Int) : (enqueued pd tuple).ipToHost = pd.ipToHost.perform (.find a) ∧
      (freshConn pd tuple uid).info = (pd.ipToHost.find a.ip).1 := by
  rw [h, IpLru.find_fst, IpLru.perform, h]
  exact ⟨rfl, rfl⟩

end SecureGuard.Native
