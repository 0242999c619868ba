import SecureGuard.Native.SpoofedReply

/-! # The reads of `spoof_dns_reply` -/

namespace SecureGuard.Native

open Loops

variable {conn : SpoofConn} {l7 : Nat → UInt8} {l7Len fuel : Nat}

namespace NameScan

@[simp] theorem read_qlen (s : NameScan) (i n : Nat) : (s.read i n).qlen = s.qlen := rfl
@[simp] theorem read_remaining (s : NameScan) (i n : Nat) :
    (s.read i n).remaining = s.remaining := rfl

/-- Nothing past the payload has been read. -/
def InBounds (l7Len : Nat) (s : NameScan) : Prop := ∀ i ∈ s.reads, i < l7Len

theorem InBounds.read {s : NameScan} (h : s.InBounds l7Len) {i n : Nat} (hr : i + n ≤ l7Len) :
    (s.read i n).InBounds l7Len := by
  intro j hj
  rcases List.mem_append.mp hj with hj | hj
  · exact h j hj
  · obtain ⟨k, hk, rfl⟩ := List.mem_map.mp hj
    have := List.mem_range.mp hk
    omega

theorem mem_read (s : NameScan) (i n : Nat) (hn : 0 < n) : i ∈ (s.read i n).reads := by
  refine List.mem_append_right _ (List.mem_map.mpr ⟨0, by simpa using hn, rfl⟩)

theorem mem_read_of_mem {s : NameScan} {j : Nat} (h : j ∈ s.reads) (i n : Nat) :
    j ∈ (s.read i n).reads := List.mem_append_left _ h

/-- Where the loop is: the count and the index add up to the bytes behind the header, four bytes
are always left, and no byte before the index is zero. -/
structure Scanning (l7 : Nat → UInt8) (l7Len : Nat) (s : NameScan) : Prop where
  place : queriesAt s.qlen + s.remaining = l7Len
  four : 4 ≤ s.remaining
  inBounds : s.InBounds l7Len
  nonzero : ∀ i < s.qlen, l7 (queriesAt i) ≠ 0

end NameScan

open NameScan

/-- The loop leaves at a zero byte with a type and a class behind it, or at the fourth byte from
the end. -/
theorem nameScan_ends {s : NameScan} (h : s.Scanning l7 l7Len) (hf : l7Len < fuel) :
    Ends (loop (nameScanRound l7) fuel s) fun s' =>
      s'.Scanning l7 l7Len ∧ (5 ≤ s'.remaining → l7 (queriesAt s'.qlen) = 0) := by
  refine loop_ends (I := Scanning l7 l7Len) (μ := NameScan.remaining) ?_ fuel s h
    (by have := h.place; omega)
  intro s hs
  by_cases hgo : 5 ≤ s.remaining
  · have hp := hs.place
    have hr : (s.read (queriesAt s.qlen) 1).InBounds l7Len := hs.inBounds.read (by omega)
    by_cases hz : l7 (queriesAt s.qlen) = 0
    · have hround : nameScanRound l7 s = some (.inr (s.read (queriesAt s.qlen) 1)) := by
        simp [nameScanRound, hgo, hz]
      rw [hround]
      exact Ends.some ⟨⟨hp, hs.four, hr, hs.nonzero⟩, fun _ => hz⟩
    · have hround : nameScanRound l7 s = some (.inl { s.read (queriesAt s.qlen) 1 with
          qlen := s.qlen + 1, remaining := s.remaining - 1 }) := by
        simp [nameScanRound, hgo, hz]
      rw [hround]
      refine Ends.some ⟨⟨?_, ?_, hr, ?_⟩, ?_⟩
      · simp only [queriesAt] at hp ⊢
        omega
      · show 4 ≤ s.remaining - 1
        omega
      · intro i hi
        rcases Nat.lt_succ_iff_lt_or_eq.mp hi with hlt | rfl
        · exact hs.nonzero i hlt
        · exact hz
      · show s.remaining - 1 < s.remaining
        omega
  · have hround : nameScanRound l7 s = some (.inr s) := by simp [nameScanRound, hgo]
    rw [hround]
    exact Ends.some ⟨hs, fun h => absurd h hgo⟩

theorem refuseIf_pos {s : NameScan} {i : Nat} {bad : UInt8 → Bool} (next : NameScan → SpoofRun)
    (h : bad (l7 i) = true) : s.refuseIf l7 i bad next = (s.read i 1).refuse := if_pos h

theorem refuseIf_neg {s : NameScan} {i : Nat} {bad : UInt8 → Bool} (next : NameScan → SpoofRun)
    (h : bad (l7 i) = false) : s.refuseIf l7 i bad next = next (s.read i 1) :=
  if_neg (by simp [h])

/-- What is read before a check is read in the end, whatever comes after it. -/
theorem mem_refuseIf {s : NameScan} {i j : Nat} (bad : UInt8 → Bool)
    {next : NameScan → SpoofRun} (hj : j ∈ (s.read i 1).reads)
    (hn : ∀ t : NameScan, j ∈ t.reads → j ∈ (next t).reads) :
    j ∈ (s.refuseIf l7 i bad next).reads := by
  cases h : bad (l7 i) with
  | true =>
    rw [refuseIf_pos next h]
    exact hj
  | false =>
    rw [refuseIf_neg next h]
    exact hn _ hj

/-- A check in bounds, with what follows in bounds if it passes. -/
theorem NameScan.InBounds.refuseIf {s : NameScan} (h : s.InBounds l7Len) {i : Nat}
    {bad : UInt8 → Bool} {next : NameScan → SpoofRun} (hr : i + 1 ≤ l7Len)
    (hn : bad (l7 i) = false → (s.read i 1).InBounds l7Len →
      ∀ j ∈ (next (s.read i 1)).reads, j < l7Len) :
    ∀ j ∈ (s.refuseIf l7 i bad next).reads, j < l7Len := by
  have hs := h.read hr
  cases hb : bad (l7 i) with
  | true =>
    rw [refuseIf_pos next hb]
    exact hs
  | false =>
    rw [refuseIf_neg next hb]
    exact hn hb hs

/-- The checks and the copies stay in bounds, except where the loop has come to the fourth byte
from the end and the first three checks pass. -/
theorem spoofFrom_in_bounds {s : NameScan} (h : s.Scanning l7 l7Len)
    (hz : ¬(s.remaining = 4 ∧ l7 (queriesAt s.qlen) = 0 ∧ l7 (queriesAt (s.qlen + 1)) = 0 ∧
      l7 (queriesAt (s.qlen + 3)) = 0)) : ∀ i ∈ (spoofFrom conn l7 s).reads, i < l7Len := by
  have hp : 12 + s.qlen + s.remaining = l7Len := h.place
  have hfour := h.four
  refine h.inBounds.refuseIf (by simp only [queriesAt, dnsHeaderLen]; omega) fun z0 h0 => ?_
  refine h0.refuseIf (by simp only [queriesAt, dnsHeaderLen, read_qlen]; omega) fun z1 h1 => ?_
  refine h1.refuseIf (by simp only [queriesAt, dnsHeaderLen, read_qlen]; omega) fun z3 h3 => ?_
  have hfive : 5 ≤ s.remaining := by
    by_contra hlt
    exact hz ⟨by omega, by simpa using z0, by simpa using z1, by simpa using z3⟩
  refine h3.refuseIf (by simp only [queriesAt, dnsHeaderLen, read_qlen]; omega) fun _ h4 => ?_
  refine h4.refuseIf (by simp only [queriesAt, dnsHeaderLen, read_qlen]; omega) fun _ h2 => ?_
  have hid := (h2.read (i := 0) (n := 2) (by omega)).read (i := 4) (n := 2) (by omega)
  exact hid.read (by simp only [dnsHeaderLen, read_qlen]; omega)

/-- Four bytes before the end, the last check that is made reads past it. -/
theorem spoofFrom_past_end {s : NameScan} (h : s.Scanning l7 l7Len) (hfour : s.remaining = 4)
    (z0 : l7 (queriesAt s.qlen) = 0) (z1 : l7 (queriesAt (s.qlen + 1)) = 0)
    (z3 : l7 (queriesAt (s.qlen + 3)) = 0) : l7Len ∈ (spoofFrom conn l7 s).reads := by
  have hp : l7Len = queriesAt (s.qlen + 4) := by
    have : 12 + s.qlen + s.remaining = l7Len := h.place
    simp only [queriesAt, dnsHeaderLen]
    omega
  rw [spoofFrom, refuseIf_neg _ (by simp [z0]), refuseIf_neg _ (by simpa using z1),
    refuseIf_neg _ (by simpa using z3)]
  refine mem_refuseIf _ ?_ fun t ht => mem_refuseIf _ (mem_read_of_mem ht _ _) fun u hu => ?_
  · rw [hp]
    exact mem_read _ _ _ Nat.one_pos
  · exact mem_read_of_mem (mem_read_of_mem (mem_read_of_mem hu _ _) _ _) _ _

/-- A query without a zero byte before its last four, where the last check that is made falls
on the byte behind it: the name's zero byte, the type's high byte and the class's high byte stand
where the message lacks one byte. -/
def OneByteShort (l7 : Nat → UInt8) (l7Len : Nat) : Prop :=
  dnsHeaderLen + 5 ≤ l7Len ∧ be16 l7 4 = 1 ∧
    (∀ i, dnsHeaderLen ≤ i → i < l7Len - 4 → l7 i ≠ 0) ∧
    l7 (l7Len - 4) = 0 ∧ l7 (l7Len - 3) = 0 ∧ l7 (l7Len - 1) = 0

/-- Whether the loop has come that far and the checks pass, in terms of the payload. -/
theorem scan_stops_short_iff {s : NameScan} (h : s.Scanning l7 l7Len)
    (hstop : 5 ≤ s.remaining → l7 (queriesAt s.qlen) = 0) (hlen : dnsHeaderLen + 5 ≤ l7Len)
    (hq : be16 l7 4 = 1) :
    (s.remaining = 4 ∧ l7 (queriesAt s.qlen) = 0 ∧ l7 (queriesAt (s.qlen + 1)) = 0 ∧
      l7 (queriesAt (s.qlen + 3)) = 0) ↔ OneByteShort l7 l7Len := by
  have hp : 12 + s.qlen + s.remaining = l7Len := h.place
  have hfour := h.four
  simp only [queriesAt, dnsHeaderLen] at *
  constructor
  · rintro ⟨hr, z0, z1, z3⟩
    have e0 : 12 + s.qlen = l7Len - 4 := by omega
    have e1 : 12 + (s.qlen + 1) = l7Len - 3 := by omega
    have e3 : 12 + (s.qlen + 3) = l7Len - 1 := by omega
    refine ⟨hlen, hq, fun i hi hlt => ?_, e0 ▸ z0, e1 ▸ z1, e3 ▸ z3⟩
    have hnz := h.nonzero (i - 12) (by omega)
    have ei : queriesAt (i - 12) = i := by
      simp only [dnsHeaderLen] at hi
      simp only [queriesAt, dnsHeaderLen]
      omega
    rwa [ei] at hnz
  · rintro ⟨-, -, hnz, z0, z1, z3⟩
    have hr : s.remaining = 4 := by
      by_contra hne
      exact hnz (12 + s.qlen) (by simp [dnsHeaderLen]) (by omega) (hstop (by omega))
    have e0 : l7Len - 4 = 12 + s.qlen := by omega
    have e1 : l7Len - 3 = 12 + (s.qlen + 1) := by omega
    have e3 : l7Len - 1 = 12 + (s.qlen + 3) := by omega
    exact ⟨hr, e0 ▸ z0, e1 ▸ z1, e3 ▸ z3⟩

theorem scanning_start (l7 : Nat → UInt8) (hlen : dnsHeaderLen + 5 ≤ l7Len) :
    (NameScan.read ⟨0, l7Len - dnsHeaderLen, []⟩ 4 2).Scanning l7 l7Len := by
  simp only [dnsHeaderLen] at hlen
  refine ⟨?_, ?_, ?_, by simp⟩
  · simp only [queriesAt, dnsHeaderLen, read_qlen, read_remaining]
    omega
  · simp only [dnsHeaderLen, read_remaining]
    omega
  · exact InBounds.read (by simp [InBounds]) (by omega)

/-- With one question the call goes on from where the loop ends. -/
theorem spoofDnsReply_one (conn : SpoofConn) (hlen : dnsHeaderLen + 5 ≤ l7Len) (hq : be16 l7 4 = 1)
    (hf : l7Len < fuel) : ∃ s : NameScan, s.Scanning l7 l7Len ∧
      (5 ≤ s.remaining → l7 (queriesAt s.qlen) = 0) ∧
      spoofDnsReply conn l7 l7Len fuel = some (spoofFrom conn l7 s) := by
  obtain ⟨s, hs, hscan, hstop⟩ := nameScan_ends (scanning_start l7 hlen) hf
  refine ⟨s, hscan, hstop, ?_⟩
  rw [spoofDnsReply, if_neg (Nat.not_lt.mpr hlen), if_neg (not_not.mpr hq), hs, Option.map_some]

/-- `spoof_dns_reply` returns for every payload, and reads no byte past it exactly if the payload
is not a query short of one byte in this way. -/
theorem spoofDnsReply_in_bounds_iff (conn : SpoofConn) (l7 : Nat → UInt8) (l7Len fuel : Nat)
    (hf : l7Len < fuel) : ∃ run, spoofDnsReply conn l7 l7Len fuel = some run ∧
      ((∀ i ∈ run.reads, i < l7Len) ↔ ¬OneByteShort l7 l7Len) := by
  by_cases hlen : l7Len < dnsHeaderLen + 5
  · refine ⟨_, if_pos hlen, iff_of_true (by simp) ?_⟩
    rintro ⟨hge, -⟩
    omega
  have hge : dnsHeaderLen + 5 ≤ l7Len := Nat.le_of_not_lt hlen
  by_cases hq : be16 l7 4 = 1
  · obtain ⟨s, hscan, hstop, hrun⟩ := spoofDnsReply_one conn hge hq hf
    refine ⟨spoofFrom conn l7 s, hrun, ?_⟩
    rw [← scan_stops_short_iff hscan hstop hge hq]
    constructor
    · rintro hin ⟨hr, z0, z1, z3⟩
      exact Nat.lt_irrefl _ (hin _ (spoofFrom_past_end hscan hr z0 z1 z3))
    · exact spoofFrom_in_bounds hscan
  · refine ⟨NameScan.refuse _, by rw [spoofDnsReply, if_neg hlen, if_pos hq], ?_⟩
    refine iff_of_true (scanning_start l7 hge).inBounds ?_
    rintro ⟨-, h1, -⟩
    exact hq h1

/-! ## A query that lacks its last byte -/

/-- The query for `a`, of type A, without the last byte of its class. -/
def shortQuery : List UInt8 := [0, 1, 1, 0, 0, 1, 0, 0, 0, 0, 0, 0, 1, 97, 0, 0, 1, 0]

/-- A connection from 10.0.0.2 to a DNS server at 8.8.8.8. -/
def dnsConn : SpoofConn :=
  ⟨⟨0x0a000002#32 ++ 0#96, 0x08080808#32 ++ 0#96, 40000, 53, .v4, ipprotoUdp⟩, .none⟩

theorem shortQuery_reads_past_end :
    ∃ run, spoofDnsReply dnsConn (shortQuery.getD · 0) shortQuery.length 19 = some run ∧
      ¬∀ i ∈ run.reads, i < shortQuery.length := by
  have h : (spoofDnsReply dnsConn (shortQuery.getD · 0) shortQuery.length 19).map SpoofRun.reads =
      some [4, 5, 12, 13, 14, 15, 17, 18] := by decide
  obtain ⟨run, hrun, hreads⟩ := Option.map_eq_some_iff.mp h
  exact ⟨run, hrun, fun hin => absurd (hin 18 (by simp [hreads])) (by decide)⟩

theorem shortQuery_in_bounds_iff :
    ∃ run, spoofDnsReply dnsConn (shortQuery.getD · 0) shortQuery.length 19 = some run ∧
      ((∀ i ∈ run.reads, i < shortQuery.length) ↔
        ¬OneByteShort (shortQuery.getD · 0) shortQuery.length) :=
  spoofDnsReply_in_bounds_iff dnsConn _ shortQuery.length 19 (by decide)

end SecureGuard.Native
