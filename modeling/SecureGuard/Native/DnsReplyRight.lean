import SecureGuard.Lib.DnsWire
import SecureGuard.Native.DnsReplyScan

/-! # Which DNS replies are read right

The places where the parser's scans end are compared with those where the names of a
well-formed message end. -/

namespace SecureGuard.Native

open NetworkOrder DnsWire

/-! ## Replies and what they should add -/

/-- The payload of the packet is these bytes. -/
def Carries (pkt : Packet) (bytes : List UInt8) : Prop := Before pkt.l7 ⟨0, pkt.l7Len⟩ bytes

/-- The addresses handed to `ip_lru_add`, in their order. -/
def dnsReplyAdds (query : CStr) (pkt : Packet) : List ZdtunIp :=
  if query.isEmpty || !query.contains dot || pkt.l7Len < dnsHeaderLen then []
  else dnsReplyAddrs pkt.l7 pkt.l7Len

theorem processDnsReply_eq_adds (lru : IpLru) (query : CStr) (pkt : Packet) :
    processDnsReply lru query pkt =
      (dnsReplyAdds query pkt).foldl (fun lru ip => lru.add ip query) lru := by
  rw [processDnsReply, dnsReplyAdds]
  split <;> rfl

/-- The address of an A or AAAA record, as `zdtun_ip_t` holds it. -/
def hostAddr (r : Record) : Option ZdtunIp :=
  if r.body.type = typeA then some (BitVec.ofNat 128 (beNat r.body.rdata <<< 96))
  else if r.body.type = typeAaaa then some (BitVec.ofNat 128 (beNat r.body.rdata))
  else none

/-- The addresses of the A and AAAA records among the first 32 answers. -/
def hostAddrs (m : Message) : List ZdtunIp := (m.answers.take 32).filterMap hostAddr

/-- Whatever packet the message comes in: exactly these addresses are added, each under the name
that was asked for. -/
def ReadsRight (query : CStr) (m : Message) : Prop :=
  ∀ pkt, Carries pkt m.wire → dnsReplyAdds query pkt = hostAddrs m

/-- The fields of the header that the parser reads, and what it walks over. -/
structure HeaderRead (l7 : Nat → UInt8) (l7Len : Nat) (m : Message) : Prop where
  len : dnsHeaderLen ≤ l7Len
  flags : be16 l7 2 = m.flags.toNat
  questions : be16 l7 4 = m.questions.length
  answers : be16 l7 6 = m.answers.length
  body : Before l7 ⟨dnsHeaderLen, l7Len - dnsHeaderLen⟩ (m.wire.drop dnsHeaderLen)

theorem Carries.header {pkt : Packet} {m : Message} (h : Carries pkt m.wire) :
    HeaderRead pkt.l7 pkt.l7Len m := by
  have hl : pkt.l7Len = m.wire.length := h.len
  have hm : 12 ≤ m.wire.length := by simp [Message.wire]
  have hword : ∀ i, i + 2 ≤ 12 → be16 pkt.l7 i = wordAt m.wire i := by
    intro i hi
    have hb := Before.be16 h (i := i) (by omega)
    rwa [Nat.zero_add] at hb
  have hskip := Before.skip h dnsHeaderLen
  rw [Cursor.skip, Nat.zero_add] at hskip
  refine ⟨hl ▸ hm, ?_, ?_, ?_, hskip⟩
  · have hw := wordAt_append (u16 m.id.toNat) m.flags.toNat_lt (m.wire.drop 4)
    exact (hword 2 (by omega)).trans hw
  · have hw := wordAt_append (u16 m.id.toNat ++ u16 m.flags.toNat) m.questions_lt (m.wire.drop 6)
    exact (hword 4 (by omega)).trans hw
  · have hw := wordAt_append (u16 m.id.toNat ++ u16 m.flags.toNat ++ u16 m.questions.length)
      m.answers_lt (m.wire.drop 8)
    exact (hword 6 (by omega)).trans hw

theorem wire_drop_header (m : Message) : m.wire.drop dnsHeaderLen =
    m.questions.flatMap Question.wire ++ (m.answers.flatMap Record.wire ++
      (m.authority.flatMap Record.wire ++ m.additional.flatMap Record.wire)) := by
  simp only [Message.wire, List.append_assoc]
  exact List.drop_left' m.header_length

/-- A response, as the parser takes it apart. -/
theorem dnsReplyAdds_eq {query : CStr} {m : Message} {pkt : Packet} (hr : m.isResponse)
    (hp : Carries pkt m.wire) : dnsReplyAdds query pkt =
      if query.contains dot ∧ m.questions ≠ [] then
        addrsIn (min m.answers.length 32) (dropQuestions m.questions.length
          (m.questions.flatMap Question.wire ++ (m.answers.flatMap Record.wire ++
            (m.authority.flatMap Record.wire ++ m.additional.flatMap Record.wire))))
      else [] := by
  have hh := hp.header
  have hlen : ¬pkt.l7Len < dnsHeaderLen := Nat.not_lt.mpr hh.len
  have hguard : (query.isEmpty || !query.contains dot || decide (pkt.l7Len < dnsHeaderLen)) =
      !query.contains dot := by
    rw [decide_eq_false hlen, Bool.or_false]
    cases query <;> rfl
  rw [dnsReplyAdds, hguard, dnsReplyAddrs, hh.flags, hh.questions, hh.answers, ← wire_drop_header,
    (hh.body.queries m.questions.length).answers]
  cases query.contains dot with
  | false => rfl
  | true =>
    rw [if_neg (by decide)]
    by_cases hq : m.questions = []
    · rw [if_neg (fun h => h.2.1 (by rw [hq]; rfl)), if_neg (fun h => h.2 hq)]
    · rw [if_pos (c := true = true ∧ _) ⟨rfl, hq⟩]
      by_cases ha : m.answers.length = 0
      · rw [if_neg (fun h => h.2.2 ha), ha]
        rfl
      · exact if_pos ⟨hr, fun h => hq (List.length_eq_zero_iff.mp h), ha⟩

/-! ## Messages that are read right -/

/-- The scans for the ends of names end where the names end: for the questions and the first
answer together, then name by name. -/
def Readable (query : CStr) (m : Message) : Prop :=
  match (m.answers.take 32).map Record.name with
  | [] => True
  | name :: names => query.contains dot ∧ m.questions ≠ [] ∧
      (scanQuestions m.questions.length
        (m.questions.flatMap Question.wire ++ name.wire)).bind scanName = some [] ∧
      ∀ n ∈ names, scanName n.wire = some []

theorem wordAt_type (b : Body) (rest : List UInt8) : wordAt (b.wire ++ rest) 0 = b.type.toNat := by
  have h := wordAt_append [] b.type.toNat_lt (b.wire.drop 2 ++ rest)
  exact h

theorem wordAt_rdlength (b : Body) (rest : List UInt8) :
    wordAt (b.wire ++ rest) 8 = b.rdata.length := by
  have h := wordAt_append (u16 b.type.toNat ++ u16 b.cls.toNat ++ u32 b.ttl.toNat) b.le
    (b.rdata ++ rest)
  rw [← h, Body.wire]
  simp

theorem drop_rdata (b : Body) (rest : List UInt8) :
    (b.wire ++ rest).drop 10 = b.rdata ++ rest := by
  simp [Body.wire, u16, u32]

theorem addrIn_rdata (n : Name) (b : Body) (rest : List UInt8) :
    addrIn b.type.toNat b.rdata.length (b.rdata ++ rest) = hostAddr ⟨n, b⟩ := by
  unfold addrIn hostAddr
  by_cases ha : b.type = typeA
  · have hl := b.a ha
    rw [if_pos ⟨by rw [ha]; rfl, hl⟩, if_pos ha, ← hl, List.take_left]
  · have hna : b.type.toNat ≠ 0x1 := fun h => ha (UInt16.toNat_inj.mp h)
    rw [if_neg (fun h => hna h.1), if_neg ha]
    by_cases hq : b.type = typeAaaa
    · have hl := b.aaaa hq
      rw [if_pos ⟨by rw [hq]; rfl, hl⟩, if_pos hq, ← hl, List.take_left]
    · have hnq : b.type.toNat ≠ 0x1c := fun h => hq (UInt16.toNat_inj.mp h)
      rw [if_neg (fun h => hnq h.1), if_neg hq]

/-- A record is read right if its name has been skipped to its end. -/
theorem addrsIn_record (n : Nat) (name : Name) (b : Body) {bytes rest : List UInt8}
    (h : dropName bytes = b.wire ++ rest) :
    addrsIn (n + 1) bytes = (hostAddr ⟨name, b⟩).toList ++ addrsIn n rest := by
  have hne : bytes ≠ [] := by
    rintro rfl
    exact b.wire_ne_nil (List.append_eq_nil_iff.mp h.symm).1
  have hl := b.wire_length
  rw [addrsIn, if_neg hne, h]
  dsimp only
  rw [wordAt_type, wordAt_rdlength, drop_rdata, addrIn_rdata name, List.drop_left,
    if_neg (by simp; omega), if_neg (by simp; omega)]

theorem addrsIn_records (n : Nat) (rs : List Record) (rest : List UInt8) (hn : n ≤ rs.length)
    (h : ∀ r ∈ rs.take n, scanName r.name.wire = some []) :
    addrsIn n (rs.flatMap Record.wire ++ rest) = (rs.take n).filterMap hostAddr := by
  induction rs generalizing n with
  | nil =>
    obtain rfl : n = 0 := by simpa using hn
    rfl
  | cons r rs ih =>
    cases n with
    | zero => rfl
    | succ n =>
      have hd := dropName_append (h r (by simp))
        (r.body.wire ++ (rs.flatMap Record.wire ++ rest))
      rw [List.nil_append] at hd
      have hw : (r :: rs).flatMap Record.wire ++ rest =
          r.name.wire ++ (r.body.wire ++ (rs.flatMap Record.wire ++ rest)) := by
        simp [Record.wire]
      rw [hw, addrsIn_record n r.name r.body hd, ih n (by simpa using hn)
        (fun r' hr' => h r' (by simp [hr'])), List.take_succ_cons, List.filterMap_cons]
      cases hostAddr r <;> rfl

/-- A message in which the scans end with the names is read right. -/
theorem Readable.readsRight {query : CStr} {m : Message} (hr : m.isResponse)
    (h : Readable query m) : ReadsRight query m := by
  intro pkt hp
  rw [dnsReplyAdds_eq hr hp, hostAddrs]
  unfold Readable at h
  cases ha : m.answers with
  | nil =>
    simp only [List.length_nil, Nat.zero_min, addrsIn, ite_self, List.take_nil, List.filterMap_nil]
  | cons r rs =>
    rw [ha, List.take_succ_cons, List.map_cons] at h
    obtain ⟨hdot, hq, hfirst, hnames⟩ := h
    obtain ⟨left, hleft, hname⟩ := Option.bind_eq_some_iff.mp hfirst
    have hmin : min (rs.length + 1) 32 = min rs.length 31 + 1 := by omega
    have htake : rs.take 31 = rs.take (min rs.length 31) := by
      rw [Nat.min_comm, List.take_eq_take_iff]
      omega
    rw [if_pos ⟨hdot, hq⟩, List.length_cons, hmin, List.flatMap_cons, Record.wire]
    generalize htail : m.authority.flatMap Record.wire ++ m.additional.flatMap Record.wire = tail
    have hw : m.questions.flatMap Question.wire ++ (r.name.wire ++ r.body.wire ++
        rs.flatMap Record.wire ++ tail) = (m.questions.flatMap Question.wire ++ r.name.wire) ++
          (r.body.wire ++ (rs.flatMap Record.wire ++ tail)) := by
      simp
    have hd : dropName (dropQuestions m.questions.length (m.questions.flatMap Question.wire ++
        (r.name.wire ++ r.body.wire ++ rs.flatMap Record.wire ++ tail))) =
          r.body.wire ++ (rs.flatMap Record.wire ++ tail) := by
      rw [hw, dropQuestions_append hleft (by simp [r.body.wire_ne_nil]), dropName_append hname,
        List.nil_append]
    rw [addrsIn_record _ r.name r.body hd, addrsIn_records _ rs tail (by omega),
      List.take_succ_cons, List.filterMap_cons, htake]
    · cases hostAddr r <;> rfl
    · intro r' hr'
      exact hnames _ (List.mem_map_of_mem (htake ▸ hr'))

/-! ## Messages that are not

Two replies that differ only in the first byte of one address, where it is neither 0x00 nor
0xc0, are walked over in the same way. If both are read right, that byte is where the parser
looks for it, so the parser is at its place in front of it. -/

/-- The highest byte of an address. -/
def topByte (ip : ZdtunIp) : Nat := ip.toNat / 2 ^ 120

theorem topByte_of_beNat (b : UInt8) (bytes : List UInt8) (k : Nat)
    (hk : k + 8 * bytes.length = 120) :
    topByte (BitVec.ofNat 128 (beNat (b :: bytes) <<< k)) = b.toNat := by
  have hb := b.toNat_lt
  have hlt := beNat_lt bytes
  have hpow : 256 ^ bytes.length * 2 ^ k = 2 ^ 120 := by
    rw [← hk, pow_add, Nat.mul_comm, show 256 = 2 ^ 8 by rfl, ← pow_mul]
  have hle : beNat bytes * 2 ^ k < 2 ^ 120 := by
    rw [← hpow]
    exact Nat.mul_lt_mul_of_pos_right hlt (Nat.pow_pos (by omega))
  have heq : beNat (b :: bytes) <<< k = b.toNat * 2 ^ 120 + beNat bytes * 2 ^ k := by
    rw [Nat.shiftLeft_eq, beNat_cons, Nat.add_mul, Nat.mul_assoc, hpow]
  rw [topByte, BitVec.toNat_ofNat, heq]
  omega

/-- The first byte of the data of an address record is the highest byte of the address. -/
theorem topByte_addrIn {recType addrLen : Nat} {data : List UInt8} {ip : ZdtunIp}
    (hl : addrLen ≤ data.length) (h : addrIn recType addrLen data = some ip) :
    ∃ b, data[0]? = some b ∧ topByte ip = b.toNat := by
  unfold addrIn at h
  split at h
  · rename_i hc
    cases data with
    | nil => simp [hc.2] at hl
    | cons b data =>
      rw [hc.2] at hl
      have htop := topByte_of_beNat b (data.take 3) 96
        (by rw [List.length_take]; simp at hl; omega)
      exact ⟨b, rfl, Option.some.inj h ▸ htop⟩
  · split at h
    · rename_i hc
      cases data with
      | nil => simp [hc.2] at hl
      | cons b data =>
        rw [hc.2] at hl
        have htop := topByte_of_beNat b (data.take 15) 0
          (by rw [List.length_take]; simp at hl; omega)
        rw [Nat.shiftLeft_zero] at htop
        exact ⟨b, rfl, Option.some.inj h ▸ htop⟩
    · simp at h

/-- At most one address comes out of each answer. -/
theorem addrsIn_length_le (n : Nat) (bytes : List UInt8) : (addrsIn n bytes).length ≤ n := by
  induction n generalizing bytes with
  | zero => simp [addrsIn]
  | succ n ih =>
    rw [addrsIn]
    split
    · simp
    · dsimp only
      split
      · simp
      · split
        · simp
        · have hrest := ih (((dropName bytes).drop 10).drop (wordAt (dropName bytes) 8))
          cases addrIn (wordAt (dropName bytes) 0) (wordAt (dropName bytes) 8)
              ((dropName bytes).drop 10) with
          | none => simpa using Nat.le_succ_of_le hrest
          | some ip => simpa using hrest

/-- Where every answer gives an address, the first one begins ten bytes behind the first
name. -/
theorem topByte_of_addrsIn {n : Nat} {bytes : List UInt8} {ip : ZdtunIp} {ips : List ZdtunIp}
    (hl : ips.length = n) (h : addrsIn (n + 1) bytes = ip :: ips) :
    ∃ b, (dropName bytes)[10]? = some b ∧ topByte ip = b.toNat := by
  rw [addrsIn] at h
  split at h
  · simp at h
  dsimp only at h
  generalize dropName bytes = body at h ⊢
  split at h
  · simp at h
  split at h
  · simp at h
  rename_i _ hlen
  have hrest := addrsIn_length_le n ((body.drop 10).drop (wordAt body 8))
  cases ha : addrIn (wordAt body 0) (wordAt body 8) (body.drop 10) with
  | none =>
    rw [ha, Option.toList_none, List.nil_append] at h
    rw [h, List.length_cons] at hrest
    omega
  | some ip' =>
    rw [ha] at h
    obtain rfl : ip' = ip := (List.cons.inj h).1
    obtain ⟨b, hb, htop⟩ := topByte_addrIn (by rw [List.length_drop]; omega) ha
    refine ⟨b, ?_, htop⟩
    rwa [List.getElem?_drop, Nat.add_zero] at hb

/-- An A record for the address x.1.1.1. -/
def probe (x : UInt8) : Body where
  type := typeA
  cls := 1
  ttl := 0
  rdata := [x, 1, 1, 1]
  le := by simp
  a _ := rfl
  aaaa h := absurd h (by decide)

def probeAddr (x : UInt8) : ZdtunIp := BitVec.ofNat 128 (beNat [x, 1, 1, 1] <<< 96)

theorem hostAddr_probe (name : Name) (x : UInt8) : hostAddr ⟨name, probe x⟩ = some (probeAddr x) :=
  rfl

theorem probe_wire (x : UInt8) :
    (probe x).wire = [0, 1, 0, 1, 0, 0, 0, 0, 0, 4] ++ x :: [1, 1, 1] := by
  simp [probe, Body.wire, u16, u32, typeA]

theorem probe_wire_length (x : UInt8) : (probe x).wire.length = 14 := rfl

/-- A byte that stands at the same place whichever it is, is in the place where it varies. -/
theorem length_of_getElem? {left after : List UInt8} {k : Nat}
    (h1 : (left ++ 1 :: after)[k]? = some 1) (h2 : (left ++ 2 :: after)[k]? = some 2) :
    left.length = k := by
  rcases Nat.lt_trichotomy k left.length with hlt | heq | hgt
  · rw [List.getElem?_append_left hlt] at h1 h2
    rw [h1] at h2
    exact absurd h2 (by decide)
  · exact heq.symm
  · obtain ⟨j, rfl⟩ : ∃ j, k = left.length + (j + 1) := ⟨k - left.length - 1, by omega⟩
    rw [List.getElem?_append_right (by omega), Nat.add_sub_cancel_left,
      List.getElem?_cons_succ] at h1 h2
    rw [h1] at h2
    exact absurd h2 (by decide)

/-- Where two bytes are left at the same place, every other one is left there. -/
theorem Blind.length_eq {f : List UInt8 → List UInt8} (hf : Blind f) {before after : List UInt8}
    {k : Nat} (h1 : (f (before ++ 1 :: after))[k]? = some 1)
    (h2 : (f (before ++ 2 :: after))[k]? = some 2) {y : UInt8} (h0 : y ≠ 0) (hc : y ≠ 0xc0) :
    (f (before ++ y :: after)).length = k + 1 + after.length := by
  obtain ⟨left, hleft⟩ | ⟨left, hleft⟩ := hf before after
  · rw [hleft 1 (by decide) (by decide)] at h1
    rw [hleft 2 (by decide) (by decide)] at h2
    rw [hleft y h0 hc, List.length_append, length_of_getElem? h1 h2, List.length_cons]
    omega
  · rw [hleft 1 (by decide) (by decide)] at h1
    rw [hleft 2 (by decide) (by decide), h1] at h2
    exact absurd h2 (by decide)

/-- If the first answer is read right for both probes, the parser is at its place in front of
them. -/
theorem length_of_probes {f : List UInt8 → List UInt8} (hf : Blind f) {before after : List UInt8}
    {n : Nat} (h : ∀ x, x = 1 ∨ x = 2 → ∃ ips, ips.length = n ∧
      addrsIn (n + 1) (f (before ++ ((probe x).wire ++ after))) = probeAddr x :: ips) (y : UInt8)
    (hy : y = 1 ∨ y = 2) : (dropName (f (before ++ ((probe y).wire ++ after)))).length =
      ((probe y).wire ++ after).length := by
  have hbyte : ∀ x, x = 1 ∨ x = 2 →
      (dropName (f (before ++ ((probe x).wire ++ after))))[10]? = some x := by
    intro x hx
    obtain ⟨ips, hl, hips⟩ := h x hx
    obtain ⟨b, hb, htop⟩ := topByte_of_addrsIn hl hips
    have hx' : topByte (probeAddr x) = x.toNat := topByte_of_beNat x [1, 1, 1] 96 (by simp)
    rw [hb, UInt8.toNat_inj.mp (htop.symm.trans hx')]
  have hsplit : ∀ x, before ++ ((probe x).wire ++ after) =
      (before ++ [0, 1, 0, 1, 0, 0, 0, 0, 0, 4]) ++ x :: ([1, 1, 1] ++ after) := by
    intro x
    simp [probe_wire]
  have hy' : y ≠ 0 ∧ y ≠ 0xc0 := by
    obtain rfl | rfl := hy
    · decide
    · decide
  simp only [hsplit] at hbyte ⊢
  rw [(blind_dropName.comp hf).length_eq (hbyte 1 (.inl rfl)) (hbyte 2 (.inr rfl)) hy'.1 hy'.2,
    List.length_append, List.length_append, probe_wire_length]
  simp only [List.length_cons, List.length_nil]
  omega

/-- If the first answer is read right for both probes, the scans end with these bytes. -/
theorem scans_of_probes {q n : Nat} {before after : List UInt8}
    (h : ∀ x, x = 1 ∨ x = 2 → ∃ ips, ips.length = n ∧
      addrsIn (n + 1) (dropQuestions q (before ++ ((probe x).wire ++ after))) =
        probeAddr x :: ips) : (scanQuestions q before).bind scanName = some [] := by
  have hl := length_of_probes (blind_dropQuestions q) h 1 (.inl rfl)
  exact scans_of_length (by simp [(probe 1).wire_ne_nil]) hl

/-- Answers with these names, each with a probe. -/
def probes (names : List Name) (xs : List UInt8) : List Record :=
  List.zipWith (fun name x => ⟨name, probe x⟩) names xs

/-- One or two, for each name. -/
structure Probing (names : List Name) (xs : List UInt8) : Prop where
  length : xs.length = names.length
  mem : ∀ x ∈ xs, x = 1 ∨ x = 2

theorem Probing.ones (names : List Name) : Probing names (names.map fun _ => 1) :=
  ⟨by simp, by simp⟩

theorem Probing.cons {names : List Name} {xs : List UInt8} (h : Probing names xs) (name : Name)
    {x : UInt8} (hx : x = 1 ∨ x = 2) : Probing (name :: names) (x :: xs) :=
  ⟨by simp [h.length], by simpa [hx] using h.mem⟩

/-- Where all probes are read right, every name's scan ends with the name. -/
theorem names_of_probes {names : List Name} {n : Nat} (tail : List UInt8) (hn : n ≤ names.length)
    (h : ∀ xs, Probing names xs →
      addrsIn n ((probes names xs).flatMap Record.wire ++ tail) = (xs.take n).map probeAddr) :
    ∀ name ∈ names.take n, scanName name.wire = some [] := by
  induction names generalizing n with
  | nil => simp
  | cons name names ih =>
    cases n with
    | zero => simp
    | succ n =>
      have hn' : n ≤ names.length := by simpa using hn
      have hw : ∀ x xs, (probes (name :: names) (x :: xs)).flatMap Record.wire ++ tail =
          name.wire ++ ((probe x).wire ++ ((probes names xs).flatMap Record.wire ++ tail)) := by
        intro x xs
        simp [probes, Record.wire]
      have hfirst : scanName name.wire = some [] := by
        have hprobe : ∀ x, x = 1 ∨ x = 2 → ∃ ips, ips.length = n ∧
            addrsIn (n + 1) (dropQuestions 0 (name.wire ++ ((probe x).wire ++
              ((probes names (names.map fun _ => 1)).flatMap Record.wire ++ tail)))) =
              probeAddr x :: ips := by
          intro x hx
          have hp := h _ ((Probing.ones names).cons name hx)
          rw [hw, List.take_succ_cons, List.map_cons] at hp
          exact ⟨_, by simpa using hn', hp⟩
        exact scans_of_probes hprobe
      have hrest : ∀ name' ∈ names.take n, scanName name'.wire = some [] := by
        refine ih hn' fun xs hxs => ?_
        have hp := h _ (hxs.cons name (.inl rfl))
        have hd := dropName_append hfirst
          ((probe 1).wire ++ ((probes names xs).flatMap Record.wire ++ tail))
        rw [hw, addrsIn_record n name (probe 1) hd, hostAddr_probe] at hp
        exact (List.cons.inj hp).2
      intro name' hmem
      rw [List.take_succ_cons] at hmem
      rcases List.mem_cons.mp hmem with rfl | hmem
      · exact hfirst
      · exact hrest name' hmem

/-- The response to the same questions with these answers in place of the message's. -/
def withAnswers (m : Message) (rs : List Record) (h : rs.length = m.answers.length) : Message :=
  { m with
    flags := 0x8000
    answers := rs
    answers_lt := h ▸ m.answers_lt }

theorem Readable.congr {query : CStr} {m m' : Message} (hq : m'.questions = m.questions)
    (hn : m'.answers.map Record.name = m.answers.map Record.name) (h : Readable query m) :
    Readable query m' := by
  unfold Readable at h ⊢
  rw [List.map_take] at h ⊢
  rw [hq, hn]
  exact h

theorem probes_names {names : List Name} {xs : List UInt8} (h : xs.length = names.length) :
    (probes names xs).map Record.name = names := by
  induction names generalizing xs with
  | nil => rfl
  | cons name names ih =>
    cases xs with
    | nil => simp at h
    | cons x xs => exact congrArg (name :: ·) (ih (by simpa using h))

theorem probes_addrs {names : List Name} {xs : List UInt8} (h : xs.length = names.length)
    (n : Nat) : ((probes names xs).take n).filterMap hostAddr = (xs.take n).map probeAddr := by
  induction names generalizing xs n with
  | nil =>
    obtain rfl := List.length_eq_zero_iff.mp h
    simp [probes]
  | cons name names ih =>
    cases xs with
    | nil => simp at h
    | cons x xs =>
      cases n with
      | zero => rfl
      | succ n => exact congrArg (probeAddr x :: ·) (ih (by simpa using h) n)

/-- A packet with this payload. -/
theorem carries_opening (tuple : Tuple) (bytes : List UInt8) :
    Carries (.opening tuple bytes) bytes := by
  refine ⟨rfl, fun i hi => ?_⟩
  simp [Packet.opening, hi]

/-- What it means for the responses with probes that they are read right. -/
theorem probes_readRight {query : CStr} {m : Message} (xs : List UInt8)
    (h : ∀ m' : Message, m'.isResponse → m'.questions = m.questions →
      m'.answers.map Record.name = m.answers.map Record.name → ReadsRight query m')
    (hxs : Probing (m.answers.map Record.name) xs) :
    (if query.contains dot ∧ m.questions ≠ [] then
      addrsIn (min m.answers.length 32) (dropQuestions m.questions.length
        (m.questions.flatMap Question.wire ++
          ((probes (m.answers.map Record.name) xs).flatMap Record.wire ++
            (m.authority.flatMap Record.wire ++ m.additional.flatMap Record.wire))))
    else []) = (xs.take 32).map probeAddr := by
  have hlen : (probes (m.answers.map Record.name) xs).length = m.answers.length := by
    rw [probes, List.length_zipWith, hxs.length, Nat.min_self, List.length_map]
  have hr : (withAnswers m _ hlen).isResponse := Nat.le_refl 0x8000
  have hright := h (withAnswers m _ hlen) hr rfl (probes_names hxs.length)
    (.opening ⟨0, 0, 0, 0, .v4, .udp⟩ _) (carries_opening _ _)
  rw [dnsReplyAdds_eq hr (carries_opening _ _), hostAddrs] at hright
  simp only [withAnswers, hlen, probes_addrs hxs.length 32] at hright
  exact hright

/-- The responses with the questions of `m` and its names in the answers are read right, whatever
their records hold, exactly if the scans for the ends of the names end with the names. -/
theorem responses_readRight_iff (query : CStr) (m : Message) :
    (∀ m' : Message, m'.isResponse → m'.questions = m.questions →
      m'.answers.map Record.name = m.answers.map Record.name → ReadsRight query m') ↔
        Readable query m := by
  constructor
  swap
  · intro h m' hr hq hn
    exact (h.congr hq hn).readsRight hr
  intro h
  have hprobe := fun xs => probes_readRight xs h
  rw [Readable, List.map_take]
  have hlen : m.answers.length = (m.answers.map Record.name).length := by simp
  rw [hlen] at hprobe
  generalize m.answers.map Record.name = names at hprobe ⊢
  cases names with
  | nil => trivial
  | cons name names =>
    have hmin : min (name :: names).length 32 = min names.length 31 + 1 := by
      rw [List.length_cons]
      omega
    have htake : names.take 31 = names.take (min names.length 31) := by
      rw [List.take_eq_take_iff]
      omega
    by_cases hg : query.contains dot ∧ m.questions ≠ []
    swap
    · have hnil := hprobe _ (Probing.ones _)
      rw [if_neg hg] at hnil
      simp at hnil
    have hfirst : ∀ x xs, (x = 1 ∨ x = 2) → Probing names xs →
        addrsIn (min names.length 31 + 1) (dropQuestions m.questions.length
          ((m.questions.flatMap Question.wire ++ name.wire) ++ ((probe x).wire ++
            ((probes names xs).flatMap Record.wire ++ (m.authority.flatMap Record.wire ++
              m.additional.flatMap Record.wire))))) =
          probeAddr x :: (xs.take (min names.length 31)).map probeAddr := by
      intro x xs hx hxs
      have hp := hprobe _ (hxs.cons name hx)
      have ht : xs.take 31 = xs.take (min names.length 31) := by
        rw [List.take_eq_take_iff, hxs.length]
        omega
      rw [if_pos hg, hmin, List.take_succ_cons, List.map_cons, ht] at hp
      rw [← hp]
      simp [probes, Record.wire]
    have hscan := scans_of_probes fun x hx =>
      ⟨_, by simp, hfirst x _ hx (Probing.ones names)⟩
    refine ⟨hg.1, hg.2, hscan, ?_⟩
    rw [htake]
    refine names_of_probes (m.authority.flatMap Record.wire ++ m.additional.flatMap Record.wire)
      (by omega) ?_
    · intro xs hxs
      obtain ⟨left, hleft, hname⟩ := Option.bind_eq_some_iff.mp hscan
      have hp := hfirst 1 xs (.inl rfl) hxs
      rw [addrsIn_record _ name (probe 1), hostAddr_probe] at hp
      · exact (List.cons.inj hp).2
      · rw [dropQuestions_append hleft (by simp [(probe 1).wire_ne_nil]), dropName_append hname,
          List.nil_append]

/-! ## A label with the byte 0xc0 -/

/-- The name of the two labels `\xc0a` and `b`. -/
def labelName : Name :=
  ⟨[⟨[0xc0, 97], by decide, by decide⟩, ⟨[98], by decide, by decide⟩], .root, by decide⟩

/-- The response with the address 1.2.3.4 for it. -/
def labelReply : Message where
  id := 1
  flags := 0x8180
  questions := [⟨labelName, typeA, 1⟩]
  answers := [⟨labelName, ⟨typeA, 1, 60, [1, 2, 3, 4], by decide, fun _ => rfl, by decide⟩⟩]
  authority := []
  additional := []
  questions_lt := by decide
  answers_lt := by decide
  authority_lt := by decide
  additional_lt := by decide

theorem labelReply_loses_host : labelReply.isResponse ∧ ¬ReadsRight [97, 46, 98] labelReply := by
  refine ⟨by decide, fun h => ?_⟩
  have hadds := h (.opening ⟨0, 0, 53, 40000, .v4, .udp⟩ labelReply.wire) (carries_opening _ _)
  exact absurd hadds (by decide)

end SecureGuard.Native
