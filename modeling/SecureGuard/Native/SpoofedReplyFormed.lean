import SecureGuard.Native.DnsReplyRight
import SecureGuard.Native.SpoofedPacket
import SecureGuard.Native.SpoofedReads

/-! # When a spoofed reply is well formed

What the reply to a well-formed query should be, and when it is. -/

namespace SecureGuard.Native

open NetworkOrder DnsWire InternetChecksum

/-! ## What a reply should be -/

/-- The name of the question, by a pointer to it. -/
def questionPointer : Name := ⟨[], .pointer 12, by decide⟩

theorem nil_lt (α : Type) : ([] : List α).length < 0x10000 := by simp

theorem singleton_lt {α : Type} (x : α) : [x].length < 0x10000 := by simp

/-- The message with this one answer to the question of a query. -/
def answering (m : Message) (q : Question) (flags : UInt16) (r : Record) : Message :=
  ⟨m.id, flags, [q], [r], [], [], singleton_lt q, singleton_lt r, nil_lt Record, nil_lt Record⟩

/-- The message answers the query with a single record: zeros for the name in the question, of the
type that was asked for. -/
def ZeroAnswer (m : Message) (q : Question) (bytes : List UInt8) : Prop :=
  ∃ flags r, (answering m q flags r).isResponse ∧ bytes = (answering m q flags r).wire ∧
    r.name = questionPointer ∧ r.body.type = q.type ∧ r.body.cls = q.cls ∧
    (q.type = typeA ∨ q.type = typeAaaa) ∧ ∀ b ∈ r.body.rdata, b = 0

/-- The packet is a well-formed reply to the query `m` with the question `q` from `t`. -/
structure ReplyFormed (t : Zdtun5Tuple) (m : Message) (q : Question) (packet : List UInt8) :
    Prop where
  parsed : ∀ ids, zdtunParsePkt ids (bufferOf packet) packet.length =
    .ok (udpPkt t.swap packet.length, ids)
  ipLen : match t.ipver with
    | .v4 => wordAt packet 2 = packet.length
    | .v6 => wordAt packet 4 + ipv6HeaderLen = packet.length
  udpLen : wordAt packet (ipHeaderLen t.ipver + 4) = packet.length - ipHeaderLen t.ipver
  dns : ZeroAnswer m q (packet.drop (ipHeaderLen t.ipver + udpHeaderLen))
  ipSum : t.ipver = .v4 → Verifies (packet.take ipv4HeaderLen)
  udpSum : Verifies (udpPseudoHeader t.ipver packet ++ packet.drop (ipHeaderLen t.ipver))
  nonzero : t.ipver = .v6 → wordAt packet (ipHeaderLen t.ipver + 6) ≠ 0

/-! ## When it is -/

/-- The length of an address of the type that is asked for. -/
def addrLen (q : Question) : Nat := if q.type = typeA then 4 else 16

/-- The sum of the words that the UDP checksum of the reply covers over IPv6: addresses, length
(twice), protocol, ports, the header of the message, question and answer. -/
def replySum (t : Zdtun5Tuple) (m : Message) (q : Question) : Nat :=
  wordSum (ip6Bytes t.dstIp) + wordSum (ip6Bytes t.srcIp) +
    2 * (udpHeaderLen + dnsHeaderLen + q.wire.length + 12 + addrLen q) + 17 +
    t.dstPort + t.srcPort + (m.id.toNat + 0x8180 + 1 + 1) + wordSum q.wire +
    256 ^ q.wire.length * (0xc00c + q.type.toNat + 1 + 10 + addrLen q)

/-- The socket has the IP version of the query, the first zero byte of the name is its end, and
over IPv6 the words to be summed up do not add up to zero already. -/
structure FormsReply (conn : SpoofConn) (m : Message) (q : Question) : Prop where
  version : conn.sockIpver = conn.tuple.ipver
  name : toZero q.name.wire = [0]
  sum : conn.tuple.ipver = .v6 → ¬replySum conn.tuple m q ≡ 0 [MOD 0xffff]

/-! ## Accepted queries -/

/-- What the checks have seen of a payload when the reply is written: the first zero byte and what
is behind it. -/
structure Accepted (l7 : Nat → UInt8) (qlen : Nat) : Prop where
  nonzero : ∀ i < qlen, l7 (queriesAt i) ≠ 0
  zero : l7 (queriesAt qlen) = 0
  typeHigh : l7 (queriesAt (qlen + 1)) = 0
  type : l7 (queriesAt (qlen + 2)) = 0x01 ∨ l7 (queriesAt (qlen + 2)) = 0x1c
  clsHigh : l7 (queriesAt (qlen + 3)) = 0
  cls : l7 (queriesAt (qlen + 4)) = 1

variable {conn : SpoofConn} {l7 : Nat → UInt8} {l7Len fuel qlen : Nat} {m : Message} {q : Question}

theorem refuseIf_written {s : NameScan} {i : Nat} {bad : UInt8 → Bool}
    {next : NameScan → SpoofRun} {packet : List UInt8}
    (h : (s.refuseIf l7 i bad next).written = some packet) :
    bad (l7 i) = false ∧ (next (s.read i 1)).written = some packet := by
  cases hb : bad (l7 i) with
  | true =>
    rw [refuseIf_pos next hb] at h
    exact absurd h (by simp [NameScan.refuse])
  | false =>
    rw [refuseIf_neg next hb] at h
    exact ⟨rfl, h⟩

/-- A packet is written for what passes the checks only. -/
theorem spoofDnsReply_accepted {run : SpoofRun} {packet : List UInt8} (hf : l7Len < fuel)
    (h : spoofDnsReply conn l7 l7Len fuel = some run) (hw : run.written = some packet) :
    ∃ qlen, Accepted l7 qlen ∧ packet = spoofedPacket conn (spoofedDns l7 qlen) := by
  by_cases hlen : l7Len < dnsHeaderLen + 5
  · rw [spoofDnsReply, if_pos hlen] at h
    obtain rfl := Option.some.inj h
    simp at hw
  by_cases hq : be16 l7 4 = 1
  swap
  · rw [spoofDnsReply, if_neg hlen, if_pos hq] at h
    obtain rfl := Option.some.inj h
    simp [NameScan.refuse] at hw
  obtain ⟨s, hscan, -, hrun⟩ := spoofDnsReply_one conn (Nat.le_of_not_lt hlen) hq hf
  rw [hrun] at h
  rw [← Option.some.inj h] at hw
  obtain ⟨z0, hw⟩ := refuseIf_written hw
  obtain ⟨z1, hw⟩ := refuseIf_written hw
  obtain ⟨z3, hw⟩ := refuseIf_written hw
  obtain ⟨z4, hw⟩ := refuseIf_written hw
  obtain ⟨z2, hw⟩ := refuseIf_written hw
  refine ⟨s.qlen, ⟨hscan.nonzero, ?_, ?_, ?_, ?_, ?_⟩, (Option.some.inj hw).symm⟩
  · simpa using z0
  · simpa using z1
  · simp only [Bool.and_eq_false_iff, bne_eq_false_iff_eq] at z2
    exact z2
  · simpa using z3
  · simpa using z4

/-- The question as it is copied. -/
theorem Accepted.question (h : Accepted l7 qlen) : bytesAt l7 dnsHeaderLen (qlen + 5) =
    bytesAt l7 dnsHeaderLen qlen ++ [0] ++ u16 (l7 (queriesAt (qlen + 2))).toNat ++ u16 1 := by
  have hz := h.zero
  have hth := h.typeHigh
  have hch := h.clsHigh
  have hc := h.cls
  simp only [queriesAt] at hz hth hch hc
  have ht : u16 (l7 (queriesAt (qlen + 2))).toNat = [0, l7 (queriesAt (qlen + 2))] := by
    rcases h.type with hty | hty <;> rw [hty] <;> rfl
  rw [ht]
  simp [bytesAt, List.range_succ, hz, hth, hch, hc, queriesAt, u16]

theorem bytesAt_length (buf : Nat → UInt8) (i n : Nat) : (bytesAt buf i n).length = n := by
  simp [bytesAt]

theorem getElem?_bytesAt (buf : Nat → UInt8) (i : Nat) {k n : Nat} (h : k < n) :
    (bytesAt buf i n)[k]? = some (buf (i + k)) := by
  rw [bytesAt, List.getElem?_map, List.getElem?_range h, Option.map_some]

theorem Accepted.name_nonzero (h : Accepted l7 qlen) :
    ∀ b ∈ bytesAt l7 dnsHeaderLen qlen, b ≠ 0 := by
  intro b hb
  obtain ⟨i, hi, rfl⟩ := List.mem_map.mp hb
  exact h.nonzero i (List.mem_range.mp hi)

/-- The first zero byte is the last one. -/
theorem toZero_eq_iff (bytes : List UInt8) :
    toZero bytes = [0] ↔ ∃ first, (∀ b ∈ first, b ≠ 0) ∧ bytes = first ++ [0] := by
  induction bytes with
  | nil => simp [toZero]
  | cons b rest ih =>
    rw [toZero]
    by_cases hb : b = 0
    · rw [if_pos hb]
      constructor
      · intro h
        exact ⟨[], by simp, h⟩
      · rintro ⟨first, hf, he⟩
        cases first with
        | nil => exact he
        | cons c first => exact absurd (hb ▸ (List.cons.inj he).1).symm (hf c (by simp))
    · rw [if_neg hb, ih]
      constructor
      · rintro ⟨first, hf, rfl⟩
        exact ⟨b :: first, by simpa [hb] using hf, rfl⟩
      · rintro ⟨first, hf, he⟩
        cases first with
        | nil => exact absurd (List.cons.inj he).1 hb
        | cons c first => exact ⟨first, fun d hd => hf d (by simp [hd]), (List.cons.inj he).2⟩

/-! ## The question and the answer -/

theorem u16_inj {a b : Nat} (ha : a < 0x10000) (hb : b < 0x10000) (h : u16 a = u16 b) : a = b := by
  rw [← beNat_u16 ha, h, beNat_u16 hb]

/-- Bytes of a query, as they stand in its payload. -/
theorem Before.bytesAt {bytes : List UInt8} (h : Before l7 ⟨0, l7Len⟩ bytes) {i n : Nat}
    (hle : i + n ≤ bytes.length) : bytesAt l7 i n = (bytes.drop i).take n := by
  have ht := h.take hle
  rwa [Nat.zero_add] at ht

theorem bytesAt_question (hq : m.questions = [q]) (hb : Before l7 ⟨0, l7Len⟩ m.wire) :
    bytesAt l7 dnsHeaderLen q.wire.length = q.wire := by
  have hd := wire_drop_header m
  rw [hq, List.flatMap_singleton] at hd
  have hl := congrArg List.length hd
  rw [List.length_drop, List.length_append] at hl
  rw [hb.bytesAt (by simp only [dnsHeaderLen, Question.wire_length] at hl ⊢; omega), hd,
    List.take_left]

/-- Where the first zero byte of the name is its end, the question is copied as it is. -/
theorem Accepted.wire_eq (h : Accepted l7 qlen) (hq : m.questions = [q])
    (hb : Before l7 ⟨0, l7Len⟩ m.wire) (hn : toZero q.name.wire = [0]) :
    bytesAt l7 dnsHeaderLen (qlen + 5) = q.wire := by
  obtain ⟨first, hnz, hname⟩ := (toZero_eq_iff _).mp hn
  have hw : q.wire = first ++ 0 :: (u16 q.type.toNat ++ u16 q.cls.toNat) := by
    simp [Question.wire, hname]
  have hl : q.wire.length = first.length + 5 := by
    rw [Question.wire_length, hname]
    simp
  have hbytes := bytesAt_question hq hb
  have hget : ∀ i < q.wire.length, q.wire[i]? = some (l7 (queriesAt i)) := by
    intro i hi
    have hr := getElem?_bytesAt l7 dnsHeaderLen hi
    rwa [hbytes] at hr
  have hqlen : qlen = first.length := by
    rcases Nat.lt_trichotomy qlen first.length with hlt | heq | hgt
    · have hi := hget qlen (by omega)
      rw [hw, List.getElem?_append_left hlt, h.zero] at hi
      exact absurd rfl (hnz 0 (List.mem_of_getElem? hi))
    · exact heq
    · have hi := hget first.length (by omega)
      rw [hw, List.getElem?_append_right (Nat.le_refl _), Nat.sub_self] at hi
      exact absurd (Option.some.inj hi).symm (h.nonzero first.length hgt)
  rw [hqlen, ← hl, hbytes]

/-- An answer of zeros. -/
def zeroBody (type : UInt16) : Body :=
  if type = typeA then ⟨typeA, 1, 10, List.replicate 4 0, by decide, by decide, by decide⟩
  else ⟨typeAaaa, 1, 10, List.replicate 16 0, by decide, by decide, by decide⟩

def zeroRecord (type : UInt16) : Record := ⟨questionPointer, zeroBody type⟩

theorem zeroBody_spec {type : UInt16} (h : type = typeA ∨ type = typeAaaa) :
    (zeroBody type).type = type ∧ (zeroBody type).cls = 1 ∧
      ∀ b ∈ (zeroBody type).rdata, b = 0 := by
  unfold zeroBody
  split
  · next ha => exact ⟨ha.symm, rfl, fun _ => List.eq_of_mem_replicate⟩
  · next ha => exact ⟨(h.resolve_left ha).symm, rfl, fun _ => List.eq_of_mem_replicate⟩

/-- The type and the class of a question that is copied as it is. -/
theorem Accepted.type_cls (h : Accepted l7 qlen)
    (hw : bytesAt l7 dnsHeaderLen (qlen + 5) = q.wire) :
    q.type.toNat = (l7 (queriesAt (qlen + 2))).toNat ∧ q.cls = 1 := by
  rw [h.question, Question.wire] at hw
  obtain ⟨hw, hcls⟩ := List.append_inj' hw rfl
  obtain ⟨-, htype⟩ := List.append_inj' hw rfl
  have hlt := (l7 (queriesAt (qlen + 2))).toNat_lt
  have hc := u16_inj (by decide) q.cls.toNat_lt hcls
  exact ⟨(u16_inj (by omega) q.type.toNat_lt htype).symm, UInt16.toNat_inj.mp hc.symm⟩

theorem Accepted.type_cases (h : Accepted l7 qlen)
    (hw : bytesAt l7 dnsHeaderLen (qlen + 5) = q.wire) :
    (q.type = typeA ∧ l7 (queriesAt (qlen + 2)) = 0x01) ∨
      (q.type = typeAaaa ∧ l7 (queriesAt (qlen + 2)) = 0x1c) := by
  have ht := (h.type_cls hw).1
  rcases h.type with hty | hty <;> rw [hty] at ht
  · exact .inl ⟨UInt16.toNat_inj.mp ht, hty⟩
  · exact .inr ⟨UInt16.toNat_inj.mp ht, hty⟩

theorem Accepted.answer (h : Accepted l7 qlen)
    (hw : bytesAt l7 dnsHeaderLen (qlen + 5) = q.wire) :
    spoofedAnswer (l7 (queriesAt (qlen + 2))) = (zeroRecord q.type).wire := by
  rcases h.type_cases hw with ⟨ht, hty⟩ | ⟨ht, hty⟩ <;> rw [ht, hty] <;> decide

/-- The message that is written when the question is copied as it is. -/
theorem Accepted.dns (h : Accepted l7 qlen) (hq : m.questions = [q])
    (hb : Before l7 ⟨0, l7Len⟩ m.wire)
    (hw : bytesAt l7 dnsHeaderLen (qlen + 5) = q.wire) :
    spoofedDns l7 qlen = (answering m q 0x8180 (zeroRecord q.type)).wire := by
  have hlen : 12 ≤ m.wire.length := by simp [Message.wire]
  have hid : bytesAt l7 0 2 = u16 m.id.toNat := by
    rw [hb.bytesAt (by omega)]
    rfl
  have hone : bytesAt l7 4 2 = u16 1 := by
    have h4 : (m.wire.drop 4).take 2 = u16 m.questions.length := rfl
    rw [hb.bytesAt (by omega), h4, hq]
    rfl
  rw [spoofedDns, hid, hone, hw, h.answer hw]
  simp [Message.wire, Message.header, answering, u16]

/-- The message answers the query. -/
theorem Accepted.zeroAnswer (h : Accepted l7 qlen) (hq : m.questions = [q])
    (hb : Before l7 ⟨0, l7Len⟩ m.wire)
    (hw : bytesAt l7 dnsHeaderLen (qlen + 5) = q.wire) :
    ZeroAnswer m q (spoofedDns l7 qlen) := by
  refine ⟨0x8180, zeroRecord q.type, ?_, h.dns hq hb hw, rfl, ?_⟩
  · show 0x8000 ≤ (0x8180 : UInt16).toNat
    decide
  have htype : q.type = typeA ∨ q.type = typeAaaa :=
    (h.type_cases hw).imp And.left And.left
  obtain ⟨ht, hc, hzero⟩ := zeroBody_spec htype
  exact ⟨ht, hc.trans (h.type_cls hw).2.symm, htype, hzero⟩

/-- The lengths in the answer that is written and in one that should be. -/
theorem spoofedAnswer_length (qtype : UInt8) :
    (spoofedAnswer qtype).length = if qtype = 0x01 then 16 else 28 := by
  unfold spoofedAnswer
  split <;> rfl

theorem pointerRecord_length {r : Record} (hname : r.name = questionPointer) :
    r.wire.length = 12 + r.body.rdata.length := by
  rw [Record.wire, List.length_append, Body.wire_length, hname, ← Nat.add_assoc]
  rfl

/-- A question that has been copied as far as its first zero byte ends there. -/
theorem Accepted.name_of_wire_eq (h : Accepted l7 qlen)
    (hw : bytesAt l7 dnsHeaderLen (qlen + 5) = q.wire) : toZero q.name.wire = [0] := by
  rw [h.question, Question.wire] at hw
  obtain ⟨hw, -⟩ := List.append_inj' hw rfl
  obtain ⟨hname, -⟩ := List.append_inj' hw rfl
  exact (toZero_eq_iff _).mpr ⟨_, h.name_nonzero, hname.symm⟩

/-- Only where the question is copied as it is, the message answers the query. -/
theorem Accepted.name_of_zeroAnswer (h : Accepted l7 qlen)
    (hz : ZeroAnswer m q (spoofedDns l7 qlen)) : toZero q.name.wire = [0] := by
  obtain ⟨flags, r, -, hw, hname, htype, -, hq, -⟩ := hz
  -- behind the twelve bytes of the header
  have hbytes : bytesAt l7 dnsHeaderLen (qlen + 5) ++ spoofedAnswer (l7 (queriesAt (qlen + 2))) =
      q.wire ++ r.wire := by
    have hd := congrArg (List.drop 12) hw
    simpa [spoofedDns, Message.wire, answering, Message.header, bytesAt, List.range_succ, u16]
      using hd
  have hX := bytesAt_length l7 dnsHeaderLen (qlen + 5)
  have hl := congrArg List.length hbytes
  rw [List.length_append, List.length_append, hX, spoofedAnswer_length,
    pointerRecord_length hname, Question.wire_length] at hl
  rcases hq with ha | haaaa
  · have hr : r.body.rdata.length = 4 := r.body.a (htype.trans ha)
    rcases h.type with hty | hty <;> rw [hty] at hl hbytes
    · rw [if_pos rfl] at hl
      exact h.name_of_wire_eq (List.append_inj hbytes (by rw [hX, Question.wire_length]; omega)).1
    -- the type of the question would be the low half of the TTL
    · rw [if_neg (by decide)] at hl
      have hleft : wordAt (bytesAt l7 dnsHeaderLen (qlen + 5) ++ spoofedAnswer 0x1c)
          ((bytesAt l7 dnsHeaderLen (qlen + 5)).length + 8) = 10 := by
        rw [wordAt_append_right]
        rfl
      have hright : wordAt (q.wire ++ r.wire) q.name.wire.length = q.type.toNat := by
        rw [Question.wire, List.append_assoc]
        exact wordAt_append q.name.wire q.type.toNat_lt _
      rw [hbytes, hX, show qlen + 5 + 8 = q.name.wire.length by omega, hright, ha] at hleft
      exact absurd hleft (by decide)
  · have hr : r.body.rdata.length = 16 := r.body.aaaa (htype.trans haaaa)
    rcases h.type with hty | hty <;> rw [hty] at hl hbytes
    -- the class of the question would be the length of the address
    · rw [if_pos rfl] at hl
      have hleft := wordAt_append (bytesAt l7 dnsHeaderLen qlen ++ [0] ++
        u16 (l7 (queriesAt (qlen + 2))).toNat) (n := 1) (by decide) (spoofedAnswer 0x01)
      have hright : wordAt (q.wire ++ r.wire) (q.wire.length + 10) = 16 := by
        have hp : (10 : Nat) = questionPointer.wire.length + 8 := rfl
        have hb := wordAt_rdlength r.body []
        rw [List.append_nil, hr] at hb
        rw [wordAt_append_right, Record.wire, hname, hp, wordAt_append_right, hb]
      rw [← h.question, hbytes, List.length_append, List.length_append, bytesAt_length,
        u16_length, List.length_singleton, Question.wire_length] at *
      rw [show qlen + 1 + 2 = q.name.wire.length + 4 + 10 by omega, hright] at hleft
      exact absurd hleft (by decide)
    · rw [if_neg (by decide)] at hl
      exact h.name_of_wire_eq (List.append_inj hbytes (by rw [hX, Question.wire_length]; omega)).1

/-! ## The sum of the words -/

theorem zeroRecord_sum {type : UInt16} (h : type = typeA ∨ type = typeAaaa) :
    wordSum (zeroRecord type).wire =
      0xc00c + type.toNat + 1 + 10 + if type = typeA then 4 else 16 := by
  rcases h with rfl | rfl <;> decide

theorem zeroRecord_length {type : UInt16} (h : type = typeA ∨ type = typeAaaa) :
    (zeroRecord type).wire.length = 12 + if type = typeA then 4 else 16 := by
  rcases h with rfl | rfl <;> decide

theorem answering_wire (m : Message) (q : Question) (flags : UInt16) (r : Record) :
    (answering m q flags r).wire = u16 m.id.toNat ++ (u16 flags.toNat ++ (u16 1 ++ (u16 1 ++
      (u16 0 ++ (u16 0 ++ (q.wire ++ r.wire)))))) := by
  simp [answering, Message.wire, Message.header]

variable {dns : List UInt8}

theorem reply_length (ht : q.type = typeA ∨ q.type = typeAaaa)
    (hdns : dns = (answering m q 0x8180 (zeroRecord q.type)).wire) :
    dns.length = dnsHeaderLen + q.wire.length + 12 + addrLen q := by
  rw [hdns, answering_wire, addrLen]
  simp only [List.length_append, u16_length, zeroRecord_length ht, dnsHeaderLen]
  omega

/-- Names are short enough for all length fields. -/
theorem reply_length_lt (ht : q.type = typeA ∨ q.type = typeAaaa)
    (hdns : dns = (answering m q 0x8180 (zeroRecord q.type)).wire) :
    udpHeaderLen + dns.length + ipv6HeaderLen < 0x10000 := by
  have hname : q.name.wire.length ≤ 255 := q.name.le
  rw [reply_length ht hdns, Question.wire_length, addrLen]
  simp only [udpHeaderLen, dnsHeaderLen, ipv6HeaderLen]
  split <;> omega

/-- What the UDP checksum covers over IPv6, in terms of the query. -/
theorem udpTotal_modEq (ht : q.type = typeA ∨ q.type = typeAaaa)
    (hdns : dns = (answering m q 0x8180 (zeroRecord q.type)).wire) (h6 : conn.sockIpver = .v6) :
    udpTotal conn dns ≡ replySum conn.tuple m q [MOD 0xffff] := by
  have hsum : wordSum dns ≡ (m.id.toNat + 0x8180 + 1 + 1) + (wordSum q.wire +
      256 ^ q.wire.length * (0xc00c + q.type.toNat + 1 + 10 + addrLen q)) [MOD 0xffff] := by
    have happ := wordSum_append_modEq q.wire (zeroRecord q.type).wire
    rw [zeroRecord_sum ht] at happ
    rw [hdns, answering_wire, wordSum_u16_append m.id.toNat_lt, wordSum_u16_append (by decide),
      wordSum_u16_append (by decide), wordSum_u16_append (by decide),
      wordSum_u16_append (by decide), wordSum_u16_append (by decide)]
    have hadd := happ.add_left (m.id.toNat + 0x8180 + 1 + 1)
    simp only [Nat.zero_add, ← Nat.add_assoc] at hadd ⊢
    exact hadd
  have haddr : addrSum conn =
      wordSum (ip6Bytes conn.tuple.dstIp) + wordSum (ip6Bytes conn.tuple.srcIp) := by
    rw [addrSum, h6, ← wordSum_append (by simp)]
  have h := hsum.add_left (addrSum conn + 17 + 2 * (udpHeaderLen + dns.length) +
    conn.tuple.dstPort + conn.tuple.srcPort)
  rw [udpTotal]
  refine h.trans ?_
  rw [haddr, reply_length ht hdns, replySum]
  generalize 256 ^ q.wire.length * (0xc00c + q.type.toNat + 1 + 10 + addrLen q) = answer
  refine congrArg (· % 0xffff) ?_
  omega

/-! ## Well-formed replies -/

/-- A reply that is written is well formed if the condition holds. -/
theorem FormsReply.formed (hc : FormsReply conn m q) (h : Accepted l7 qlen)
    (hparsed : conn.tuple.Parsed) (hproto : conn.tuple.ipproto = ipprotoUdp)
    (hq : m.questions = [q]) (hb : Before l7 ⟨0, l7Len⟩ m.wire) :
    ReplyFormed conn.tuple m q (spoofedPacket conn (spoofedDns l7 qlen)) := by
  have hw := h.wire_eq hq hb hc.name
  have hdns := h.dns hq hb hw
  have hz := h.zeroAnswer hq hb hw
  have ht : q.type = typeA ∨ q.type = typeAaaa :=
    (h.type_cases hw).imp (fun h => h.1) fun h => h.1
  have hlen := reply_length_lt ht hdns
  have hlen' : udpHeaderLen + (spoofedDns l7 qlen).length < 0x10000 := by omega
  generalize spoofedDns l7 qlen = dns at hdns hz hlen hlen' ⊢
  have hipLen := spoofedPacket_ipLen conn hlen
  have hudpLen := spoofedPacket_udpLen conn hlen'
  have hdrop := spoofedPacket_dns conn dns
  have hver := spoofedPacket_udp_verifies hparsed hproto hlen'
  have hzero := spoofedPacket_checksum_zero_iff hparsed hproto hlen'
  rw [hc.version] at hipLen hudpLen hdrop hver hzero
  refine ⟨spoofedPacket_parsed hparsed hproto hc.version hlen, hipLen, hudpLen, ?_, ?_, hver, ?_⟩
  · rwa [hdrop]
  · intro h4
    exact spoofedPacket_ip_verifies dns (hc.version.trans h4)
  · intro h6 h0
    exact hc.sum h6 ((udpTotal_modEq ht hdns (hc.version.trans h6)).symm.trans (hzero.mp h0))

/-- The condition holds if the reply that is written is well formed. -/
theorem ReplyFormed.forms (conn : SpoofConn) (h : Accepted l7 qlen)
    (hr : ReplyFormed conn.tuple m q (spoofedPacket conn (spoofedDns l7 qlen)))
    (hparsed : conn.tuple.Parsed) (hproto : conn.tuple.ipproto = ipprotoUdp)
    (hq : m.questions = [q]) (hb : Before l7 ⟨0, l7Len⟩ m.wire) : FormsReply conn m q := by
  have hver : conn.sockIpver = conn.tuple.ipver :=
    (spoofedPacket_ipver (hr.parsed fun _ => (0, 0))).symm
  have hz := hr.dns
  rw [← hver, spoofedPacket_dns] at hz
  have hname := h.name_of_zeroAnswer hz
  have hw := h.wire_eq hq hb hname
  have hdns := h.dns hq hb hw
  have ht : q.type = typeA ∨ q.type = typeAaaa :=
    (h.type_cases hw).imp (fun h => h.1) fun h => h.1
  have hlen := reply_length_lt ht hdns
  refine ⟨hver, hname, fun h6 hsum => hr.nonzero h6 ?_⟩
  rw [← hver, spoofedPacket_checksum_zero_iff hparsed hproto (by omega)]
  exact (udpTotal_modEq ht hdns (hver.trans h6)).trans hsum

/-- For every UDP query that parses and every reply that is written to it: the reply is well formed
exactly if the condition holds. -/
theorem spoofedReply_formed_iff (ids ids' : FragPorts) (buf : Nat → UInt8) (pktLen : Nat)
    (pkt : ZdtunPkt) (hparse : zdtunParsePkt ids buf pktLen = .ok (pkt, ids'))
    (hfrag : pkt.isFragment = false) (hudp : pkt.tuple.ipproto = ipprotoUdp) (mode : ProxyMode)
    (m : Message) (q : Question) (hq : m.questions = [q])
    (hpayload : Before (pkt.l7 buf) ⟨0, pkt.l7Len⟩ m.wire) (fuel : Nat) (hf : pkt.l7Len < fuel)
    (run : SpoofRun) (packet : List UInt8)
    (hrun : spoofDnsReply ⟨pkt.tuple, mode⟩ (pkt.l7 buf) pkt.l7Len fuel = some run)
    (hwritten : run.written = some packet) :
    ReplyFormed pkt.tuple m q packet ↔ FormsReply ⟨pkt.tuple, mode⟩ m q := by
  have hparsed := zdtunParsePkt_tuple hparse hfrag
  obtain ⟨qlen, hacc, rfl⟩ := spoofDnsReply_accepted hf hrun hwritten
  constructor
  · intro h
    exact ReplyFormed.forms ⟨pkt.tuple, mode⟩ hacc h hparsed hudp hq hpayload
  · intro h
    exact h.formed hacc hparsed hudp hq hpayload

/-! ## A query whose reply adds up to zero -/

def zeroSumTuple : Zdtun5Tuple :=
  ⟨0xfd000002fd000001fd000001fd000002, 0x20014860486000000000000000008888, 40000, 53, .v6,
    ipprotoUdp⟩

/-- A label of one byte. -/
def oneByte (b : UInt8) : Label := ⟨[b], by simp, by simp⟩

def abQuestion : Question := ⟨⟨[oneByte 97, oneByte 98], .root, by decide⟩, typeA, 1⟩

/-- The query for the address of `a.b` with the transaction id 0x92c5. -/
def zeroSumQuery : Message :=
  ⟨0x92c5, 0x100, [abQuestion], [], [], [], singleton_lt abQuestion, nil_lt Record, nil_lt Record,
    nil_lt Record⟩

/-- Its packet, without a UDP checksum. -/
def zeroSumPacket : List UInt8 :=
  ip6Header ⟨zeroSumTuple.swap, .none⟩ (udpHeaderLen + zeroSumQuery.wire.length) ++
    udpSegment ⟨zeroSumTuple.swap, .none⟩ zeroSumQuery.wire 0

def zeroSumPkt : ZdtunPkt := udpPkt zeroSumTuple zeroSumPacket.length

theorem zeroSum_parse (ids : FragPorts) :
    zdtunParsePkt ids (bufferOf zeroSumPacket) zeroSumPacket.length = .ok (zeroSumPkt, ids) := by
  have hip : parseIpHeader (bufferOf zeroSumPacket) zeroSumPacket.length = .ok
      ⟨zeroSumTuple.srcIp, zeroSumTuple.dstIp, .v6, ipprotoUdp, ipv6HeaderLen,
        (udpSegment ⟨zeroSumTuple.swap, .none⟩ zeroSumQuery.wire 0).length + ipv6HeaderLen, 0⟩ :=
    parseIpHeader_ip6 (udpSegment ⟨zeroSumTuple.swap, .none⟩ zeroSumQuery.wire 0) rfl (by decide)
  have hsrc : be16 (bufferOf zeroSumPacket) 40 = 40000 := by decide
  have hdst : be16 (bufferOf zeroSumPacket) 42 = 53 := by decide
  have hparse := zdtunParsePkt_udp hip rfl rfl (by decide) ids
  dsimp only [ipv6HeaderLen] at hparse
  rw [hparse, hsrc, hdst]
  rfl

theorem zeroSum_payload : Before (zeroSumPkt.l7 (bufferOf zeroSumPacket)) ⟨0, zeroSumPkt.l7Len⟩
    zeroSumQuery.wire := ⟨by decide, by decide⟩

/-- The reply is written. -/
theorem zeroSum_written : ∃ run packet, spoofDnsReply ⟨zeroSumPkt.tuple, .none⟩
    (zeroSumPkt.l7 (bufferOf zeroSumPacket)) zeroSumPkt.l7Len 100 = some run ∧
      run.written = some packet := by
  have h : (spoofDnsReply ⟨zeroSumPkt.tuple, .none⟩ (zeroSumPkt.l7 (bufferOf zeroSumPacket))
      zeroSumPkt.l7Len 100).map (fun run => run.written.isSome) = some true := by decide
  obtain ⟨run, hrun, hw⟩ := Option.map_eq_some_iff.mp h
  obtain ⟨packet, hp⟩ := Option.isSome_iff_exists.mp hw
  exact ⟨run, packet, hrun, hp⟩

/-- The reply to a well-formed query over IPv6 has the checksum zero. -/
theorem zeroSum_not_formed : ∃ run packet,
    zdtunParsePkt (fun _ => (0, 0)) (bufferOf zeroSumPacket) zeroSumPacket.length =
      .ok (zeroSumPkt, fun _ => (0, 0)) ∧
    Before (zeroSumPkt.l7 (bufferOf zeroSumPacket)) ⟨0, zeroSumPkt.l7Len⟩ zeroSumQuery.wire ∧
    spoofDnsReply ⟨zeroSumPkt.tuple, .none⟩ (zeroSumPkt.l7 (bufferOf zeroSumPacket))
      zeroSumPkt.l7Len 100 = some run ∧ run.written = some packet ∧
    ¬ReplyFormed zeroSumPkt.tuple zeroSumQuery abQuestion packet := by
  obtain ⟨run, packet, hrun, hw⟩ := zeroSum_written
  refine ⟨run, packet, zeroSum_parse _, zeroSum_payload, hrun, hw, fun hformed => ?_⟩
  obtain ⟨qlen, hacc, rfl⟩ := spoofDnsReply_accepted (by decide) hrun hw
  have hparsed := zdtunParsePkt_tuple (zeroSum_parse fun _ => (0, 0)) rfl
  have hforms := ReplyFormed.forms ⟨zeroSumPkt.tuple, .none⟩ hacc hformed hparsed rfl rfl
    zeroSum_payload
  exact hforms.sum rfl (by decide)

theorem zeroSum_formed_iff : ∃ run packet,
    spoofDnsReply ⟨zeroSumPkt.tuple, .none⟩ (zeroSumPkt.l7 (bufferOf zeroSumPacket))
      zeroSumPkt.l7Len 100 = some run ∧ run.written = some packet ∧
    (ReplyFormed zeroSumPkt.tuple zeroSumQuery abQuestion packet ↔
      FormsReply ⟨zeroSumPkt.tuple, .none⟩ zeroSumQuery abQuestion) := by
  obtain ⟨run, packet, hrun, hw⟩ := zeroSum_written
  exact ⟨run, packet, hrun, hw, spoofedReply_formed_iff (fun _ => (0, 0)) _ _ _ zeroSumPkt
    (zeroSum_parse _) rfl rfl .none zeroSumQuery abQuestion rfl zeroSum_payload 100 (by decide) run
    packet hrun hw⟩

end SecureGuard.Native
