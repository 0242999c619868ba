import SecureGuard.Native.SpoofedPacket
import SecureGuard.Native.TcpSplice

/-! # The packets zdtun writes for its clients

`build_reply_tcpip`, `handle_udp_reply` and `handle_icmp_reply`, byte by byte, and what
`zdtun_parse_pkt` makes of them in `send_to_client`. The segments of a spliced connection are here
what goes over the wire. A segment is never longer than a `uint16_t` can say: it is written to the
reply buffer. -/

namespace SecureGuard.Native

open NetworkOrder InternetChecksum

/-! ## Segments -/

/-- `th_flags`. -/
def TcpFlags.toByte (f : TcpFlags) : UInt8 :=
  (if f.fin then 1 else 0) ||| (if f.syn then 2 else 0) ||| (if f.rst then 4 else 0) |||
    (if f.push then 8 else 0) ||| (if f.ack then 16 else 0) ||| (if f.urg then 32 else 0)

def TcpFlags.ofByte (b : UInt8) : TcpFlags :=
  ⟨b &&& 1 ≠ 0, b &&& 2 ≠ 0, b &&& 4 ≠ 0, b &&& 8 ≠ 0, b &&& 16 ≠ 0, b &&& 32 ≠ 0⟩

/-- A segment with its header up to the checksum, and behind it. -/
def tcpStart (conn : SpoofConn) (seg : ClientSegment) : List UInt8 :=
  u16 conn.tuple.dstPort ++ u16 conn.tuple.srcPort ++ u32 seg.seq.toNat ++ u32 seg.ackNum.toNat ++
    [UInt8.ofNat ((5 + seg.opts.length / 4) * 16), seg.flags.toByte] ++ u16 seg.win.toNat

def tcpSegment (conn : SpoofConn) (seg : ClientSegment) (sum : Nat) : List UInt8 :=
  tcpStart conn seg ++ store16 sum ++ ([0, 0] ++ seg.opts ++ seg.l7)

/-- A packet with this segment: the IP header, and the segment with its checksum. -/
def SpoofConn.packet (conn : SpoofConn) (segment : Nat → List UInt8) : List UInt8 :=
  conn.zdtunMakeIphdr (segment 0).length ++
    segment (conn.zdtunL3Checksum (conn.zdtunMakeIphdr (segment 0).length) (segment 0))

/-- `build_reply_tcpip`. -/
def buildReplyTcpip (conn : SpoofConn) (seg : ClientSegment) : List UInt8 :=
  conn.packet (tcpSegment conn seg)

theorem TcpFlags.ofByte_toByte (f : TcpFlags) : TcpFlags.ofByte f.toByte = f := by
  obtain ⟨fin, syn, rst, push, ack, urg⟩ := f
  revert fin syn rst push ack urg
  decide

/-! ## The IP header -/

/-- A protocol that zdtun forwards. -/
def Forwarded (proto : UInt8) : Prop :=
  proto = ipprotoTcp ∨ proto = ipprotoUdp ∨ proto = ipprotoIcmp

variable {conn : SpoofConn}

theorem nexthdr_parsed (h : Forwarded conn.tuple.ipproto) :
    isUpperLayer conn.nexthdr = true ∧
      (if conn.nexthdr = ipprotoIcmpv6 then ipprotoIcmp else conn.nexthdr) =
        conn.tuple.ipproto := by
  unfold SpoofConn.nexthdr
  obtain h | h | h := h <;> rw [h] <;> decide

/-- The IPv6 header is read back, with the protocol of the connection. -/
theorem parseIpHeader_v6 (l3 : List UInt8) (hproto : Forwarded conn.tuple.ipproto)
    (hlen : l3.length < 0x10000) :
    parseIpHeader (bufferOf (ip6Header conn l3.length ++ l3))
        (ip6Header conn l3.length ++ l3).length =
      .ok ⟨conn.tuple.dstIp, conn.tuple.srcIp, .v6, conn.tuple.ipproto, ipv6HeaderLen,
        l3.length + ipv6HeaderLen, 0⟩ := by
  obtain ⟨hup, hnext⟩ := nexthdr_parsed hproto
  have hd := ip6Header_dst conn l3.length l3
  have hs := ip6Header_src conn l3.length l3
  have hl : (ip6Header conn l3.length ++ l3).length = l3.length + ipv6HeaderLen := by
    rw [List.length_append, ip6Header_length, Nat.add_comm]
  have h0 : bufferOf (ip6Header conn l3.length ++ l3) 0 = 0x60 := rfl
  have h6 : bufferOf (ip6Header conn l3.length ++ l3) 6 = conn.nexthdr := rfl
  have h4 : wordAt (ip6Header conn l3.length ++ l3) 4 = l3.length :=
    wordAt_append [0x60, 0, 0, 0] hlen ((ip6Header conn l3.length ++ l3).drop 6)
  generalize ip6Header conn l3.length ++ l3 = bytes at *
  have h40 : ipv6HeaderLen = 40 := rfl
  have h20 : ipv4HeaderLen = 20 := rfl
  rw [← be16_bufferOf (by omega)] at h4
  have hd' : ip6At (bufferOf bytes) 8 = conn.tuple.dstIp := by
    rw [ip6At, bytesAt_bufferOf (by omega), hd, ofNat_ip6Bytes]
  have hs' : ip6At (bufferOf bytes) 24 = conn.tuple.srcIp := by
    rw [ip6At, bytesAt_bufferOf (by omega), hs, ofNat_ip6Bytes]
  have hn4 : ¬(0x60 : UInt8).toNat / 16 = 4 := by decide
  have hn6 : (0x60 : UInt8).toNat / 16 = 6 := rfl
  rw [parseIpHeader, h0, if_neg (by omega), if_neg hn4, if_pos hn6, h6, if_neg (by omega),
    if_neg (by simp [hup]), hnext, h4, hd', hs', hl, Nat.min_self]

/-- The IP header of a packet is read back, with source and destination swapped. -/
theorem parseIpHeader_reply (l3 : List UInt8) (ht : conn.tuple.Parsed)
    (hproto : Forwarded conn.tuple.ipproto) (hver : conn.sockIpver = conn.tuple.ipver)
    (hlen : l3.length + ipHeaderLen conn.tuple.ipver < 0x10000) : ∃ frag, frag % 0x4000 = 0 ∧
      parseIpHeader (bufferOf (conn.zdtunMakeIphdr l3.length ++ l3))
        (conn.zdtunMakeIphdr l3.length ++ l3).length =
      .ok ⟨conn.tuple.dstIp, conn.tuple.srcIp, conn.tuple.ipver, conn.tuple.ipproto,
        ipHeaderLen conn.tuple.ipver, l3.length + ipHeaderLen conn.tuple.ipver, frag⟩ := by
  cases h : conn.tuple.ipver with
  | v4 =>
    rw [h] at hlen
    rw [zdtunMakeIphdr_v4 (hver.trans h)]
    exact ⟨0x4000, rfl, parseIpHeader_ip4 _ (ht.src h) (ht.dst h) hlen⟩
  | v6 =>
    rw [zdtunMakeIphdr_v6 (hver.trans h)]
    exact ⟨0, rfl, parseIpHeader_v6 l3 hproto (Nat.lt_of_le_of_lt (Nat.le_add_right _ _) hlen)⟩

/-- A packet that is no fragment, from its headers on. -/
theorem zdtunParsePkt_of_headers {ids : FragPorts} {buf : Nat → UInt8} {pktLen l4Len : Nat}
    {sport dport : Nat} {ip : IpHeader} (h : parseIpHeader buf pktLen = .ok ip)
    (hfrag : ip.fragOff % 0x4000 = 0) (hl4 : parseL4Header buf ip = .ok (l4Len, sport, dport)) :
    zdtunParsePkt ids buf pktLen =
      .ok (⟨⟨ip.srcIp, ip.dstIp, sport, dport, ip.ipver, ip.ipproto⟩, false, false, ip.pktLen,
        ip.hdrLen, l4Len, ip.pktLen - ip.hdrLen - l4Len⟩, ids) := by
  have hlater : ¬ip.fragOff % 0x2000 ≠ 0 := by omega
  have hmore : ¬ip.fragOff / 0x2000 % 2 = 1 := by omega
  simp only [zdtunParsePkt, h, hl4, bind, Except.bind, pure, Except.pure, hlater, hmore,
    if_false, decide_false]

/-- A packet for a client as it is parsed: `l3Len` bytes behind the IP header, of them a header of
`l4Len` bytes. -/
def replyPkt (t : Zdtun5Tuple) (l3Len l4Len : Nat) : ZdtunPkt :=
  ⟨t, false, false, ipHeaderLen t.ipver + l3Len, ipHeaderLen t.ipver, l4Len, l3Len - l4Len⟩

/-- A packet with the IP header of `zdtun_make_iphdr` parses with the ports of what is behind it. -/
theorem zdtunParsePkt_reply (ids : FragPorts) (l3 : List UInt8) {l4Len sport dport : Nat}
    (ht : conn.tuple.Parsed) (hproto : Forwarded conn.tuple.ipproto)
    (hver : conn.sockIpver = conn.tuple.ipver)
    (hlen : ipHeaderLen conn.tuple.ipver + l3.length < 0x10000)
    (hl4 : ∀ ip : IpHeader, ip.ipproto = conn.tuple.ipproto →
      ip.hdrLen = (conn.zdtunMakeIphdr l3.length).length → ip.pktLen = ip.hdrLen + l3.length →
      parseL4Header (bufferOf (conn.zdtunMakeIphdr l3.length ++ l3)) ip =
        .ok (l4Len, sport, dport)) :
    zdtunParsePkt ids (bufferOf (conn.zdtunMakeIphdr l3.length ++ l3))
        (conn.zdtunMakeIphdr l3.length ++ l3).length =
      .ok (replyPkt { conn.tuple.swap with srcPort := sport, dstPort := dport } l3.length l4Len,
        ids) := by
  have hhdr : (conn.zdtunMakeIphdr l3.length).length = ipHeaderLen conn.tuple.ipver :=
    hver ▸ zdtunMakeIphdr_length l3.length
  rw [Nat.add_comm] at hlen
  obtain ⟨frag, hfrag, hip⟩ := parseIpHeader_reply l3 ht hproto hver hlen
  have hports := hl4 ⟨conn.tuple.dstIp, conn.tuple.srcIp, conn.tuple.ipver, conn.tuple.ipproto,
    ipHeaderLen conn.tuple.ipver, l3.length + ipHeaderLen conn.tuple.ipver, frag⟩ rfl hhdr.symm
    (Nat.add_comm _ _)
  rw [zdtunParsePkt_of_headers hip hfrag hports]
  dsimp only
  rw [Nat.add_sub_cancel, Nat.add_comm]
  rfl

/-! ## Checksums -/

/-- The pseudo header that the checksum of a segment covers. -/
def l4PseudoHeader (conn : SpoofConn) (len : Nat) : List UInt8 :=
  match conn.sockIpver with
  | .v4 => ip4Bytes conn.tuple.dstIp ++ ip4Bytes conn.tuple.srcIp ++
      [0, conn.tuple.ipproto] ++ u16 len
  | .v6 => ip6Bytes conn.tuple.dstIp ++ ip6Bytes conn.tuple.srcIp ++ u32 len ++
      [0, 0, 0, conn.nexthdr]

theorem l4PseudoHeader_length_even (conn : SpoofConn) (len : Nat) :
    (l4PseudoHeader conn len).length % 2 = 0 := by
  unfold l4PseudoHeader
  cases conn.sockIpver <;> simp

/-- The pseudo header that is summed up has the sum of the one that should be. -/
theorem wordSum_pseudo {len : Nat} (hlen : len < 0x10000) :
    wordSum (conn.pseudoHeader (conn.zdtunMakeIphdr len) len) =
      wordSum (l4PseudoHeader conn len) := by
  unfold l4PseudoHeader
  cases h : conn.sockIpver with
  | v4 =>
    have ha := ip4Header_addrs conn len (ip4Check conn len) []
    rw [List.append_nil] at ha
    rw [SpoofConn.pseudoHeader, if_pos h, zdtunMakeIphdr_v4 h, ha]
  | v6 =>
    have ha := ip6Header_addrs conn len []
    rw [List.append_nil] at ha
    have hl : ((ip6Header conn len).drop 4).take 2 = u16 len := rfl
    have hnext : wordSum [0, 0, 0, 0, 0, conn.nexthdr] = wordSum [0, 0, 0, conn.nexthdr] := by
      simp [wordSum]
    have heven : (ip6Bytes conn.tuple.dstIp ++ ip6Bytes conn.tuple.srcIp).length % 2 = 0 := by
      simp
    have hword : wordSum (u32 len) = len := by
      rw [u32, Nat.div_eq_of_lt hlen, wordSum_u16_append (by decide), wordSum_u16 hlen,
        Nat.zero_add]
    rw [SpoofConn.pseudoHeader, if_neg (by simp [h]), zdtunMakeIphdr_v6 h, ha, hl]
    dsimp only
    generalize ip6Bytes conn.tuple.dstIp ++ ip6Bytes conn.tuple.srcIp = addrs at heven
    have hsplit (word rest : List UInt8) (hw : word.length % 2 = 0) :
        wordSum (addrs ++ word ++ rest) = wordSum addrs + wordSum word + wordSum rest := by
      rw [wordSum_append (by simp only [List.length_append]; omega), wordSum_append heven]
    rw [hsplit _ _ (by simp), hsplit _ _ (by simp), wordSum_u16 hlen, hword, hnext]

theorem wordSum_checked {start rest : List UInt8} (heven : start.length % 2 = 0) (sum : Nat) :
    wordSum (start ++ store16 sum ++ rest) =
      wordSum (start ++ store16 0 ++ rest) + wordSum (store16 sum) := by
  have hz : wordSum (store16 0) = 0 := rfl
  have hsplit (sum : Nat) : wordSum (start ++ store16 sum ++ rest) =
      wordSum start + (wordSum (store16 sum) + wordSum rest) := by
    rw [List.append_assoc, wordSum_append heven, wordSum_append (by simp [store16])]
  rw [hsplit, hsplit 0, hz]
  omega

theorem l4PseudoHeader_sum_ne_zero (hproto : Forwarded conn.tuple.ipproto) (len : Nat) :
    wordSum (l4PseudoHeader conn len) ≠ 0 := by
  have hlast (n : UInt8) (hn : n ≠ 0) : wordSum [0, n] ≠ 0 ∧ wordSum [0, 0, 0, n] ≠ 0 := by
    have hpos : n.toNat ≠ 0 := fun hz => hn (UInt8.toNat_inj.mp hz)
    simp [wordSum, hpos]
  unfold l4PseudoHeader
  cases h : conn.sockIpver with
  | v4 =>
    have hne : conn.tuple.ipproto ≠ 0 := by
      obtain h | h | h := hproto <;> rw [h] <;> decide
    have hpos := (hlast _ hne).1
    dsimp only
    rw [wordSum_append (by simp), wordSum_append (by simp)]
    omega
  | v6 =>
    have hne : conn.nexthdr ≠ 0 := by
      unfold SpoofConn.nexthdr
      obtain h | h | h := hproto <;> rw [h] <;> decide
    have hpos := (hlast _ hne).2
    dsimp only
    rw [wordSum_append (by simp)]
    omega

/-- A segment with the checksum of `zdtun_l3_checksum` verifies, whatever else is in it. -/
theorem segment_verifies {segment : Nat → List UInt8} {start rest : List UInt8}
    (hseg : ∀ sum, segment sum = start ++ store16 sum ++ rest) (heven : start.length % 2 = 0)
    (hlen : (segment 0).length < 0x10000) (hproto : Forwarded conn.tuple.ipproto) :
    Verifies (l4PseudoHeader conn (segment 0).length ++ segment (conn.zdtunL3Checksum
      (conn.zdtunMakeIphdr (segment 0).length) (segment 0))) := by
  have hpseudo := l4PseudoHeader_length_even conn (segment 0).length
  have hne := l4PseudoHeader_sum_ne_zero hproto (segment 0).length
  unfold Verifies
  rw [wordSum_append hpseudo, hseg (conn.zdtunL3Checksum _ _), wordSum_checked heven, ← hseg 0]
  generalize segment 0 = l3 at *
  obtain ⟨-, hfirst, -⟩ := calcChecksum_spec 0 l3
  obtain ⟨hlt, hmod, -⟩ := calcChecksum_spec (calcChecksum 0 l3)
    (conn.pseudoHeader (conn.zdtunMakeIphdr l3.length) l3.length)
  rw [wordSum_pseudo hlen] at hmod
  rw [Nat.zero_add] at hfirst
  have htotal : calcChecksum (calcChecksum 0 l3)
      (conn.pseudoHeader (conn.zdtunMakeIphdr l3.length) l3.length) ≡
        256 * (wordSum (l4PseudoHeader conn l3.length) + wordSum l3) [MOD 0xffff] := by
    refine hmod.trans ((hfirst.add_right _).trans ?_)
    rw [← Nat.mul_add, Nat.add_comm]
  have hall := complement_sum hlt htotal
  rw [Nat.add_assoc] at hall
  refine ⟨by omega, hall⟩

/-- A segment with a checksum of its own verifies by itself. -/
theorem segment_verifies_alone {segment : Nat → List UInt8} {start rest : List UInt8}
    (hseg : ∀ sum, segment sum = start ++ store16 sum ++ rest) (heven : start.length % 2 = 0) :
    Verifies (segment (complement16 (calcChecksum 0 (segment 0)))) := by
  obtain ⟨hlt, hmod, hz⟩ := calcChecksum_spec 0 (segment 0)
  rw [Nat.zero_add] at hmod
  have hall := complement_sum hlt hmod
  unfold Verifies
  rw [hseg (complement16 _), wordSum_checked heven, ← hseg 0]
  refine ⟨fun hnone => ?_, hall⟩
  -- the complement of no sum at all is 0xFFFF
  have hsum : calcChecksum 0 (segment 0) = 0 := hz.mpr ⟨rfl, by omega⟩
  have hfull : wordSum (store16 (complement16 0)) = 0xffff := rfl
  rw [hsum, hfull] at hnone
  omega

/-! ## TCP -/

/-- The bytes of a segment in its packet. -/
theorem bytesAt_segment {hdr l3 : List UInt8} {i n : Nat} (h : i + n ≤ l3.length) :
    bytesAt (bufferOf (hdr ++ l3)) (hdr.length + i) n = (l3.drop i).take n := by
  rw [bytesAt_bufferOf (by rw [List.length_append]; omega), ← List.drop_drop, List.drop_left]

theorem be16_segment {hdr l3 : List UInt8} {i : Nat} (h : i + 2 ≤ l3.length) :
    be16 (bufferOf (hdr ++ l3)) (hdr.length + i) = wordAt l3 i := by
  rw [be16_bufferOf (by rw [List.length_append]; omega), wordAt_append_right]

theorem byte_segment {hdr l3 : List UInt8} {i : Nat} :
    bufferOf (hdr ++ l3) (hdr.length + i) = l3.getD i 0 := by
  rw [bufferOf, List.getD_eq_getElem?_getD, List.getElem?_append_right (Nat.le_add_right _ _),
    Nat.add_sub_cancel_left, List.getD_eq_getElem?_getD]

/-- What `handle_tcp_fwd` reads of a TCP packet, and the bytes of its options. -/
def ZdtunPkt.segment (pkt : ZdtunPkt) (buf : Nat → UInt8) : ClientSegment where
  seq := UInt32.ofNat (beNat (bytesAt buf (pkt.ipHdrLen + 4) 4))
  ackNum := UInt32.ofNat (beNat (bytesAt buf (pkt.ipHdrLen + 8) 4))
  win := UInt16.ofNat (be16 buf (pkt.ipHdrLen + 14))
  flags := TcpFlags.ofByte (buf (pkt.ipHdrLen + 13))
  opts := bytesAt buf (pkt.ipHdrLen + tcpHeaderLen) (pkt.l4HdrLen - tcpHeaderLen)
  l7 := bytesAt buf (pkt.ipHdrLen + pkt.l4HdrLen) pkt.l7Len

/-- The options are whole words, and the header can say how many there are. -/
structure ClientSegment.WellFormed (seg : ClientSegment) : Prop where
  words : seg.opts.length % 4 = 0
  short : seg.opts.length ≤ 40

variable {seg : ClientSegment}

theorem tcpStart_length : (tcpStart conn seg).length = 16 := by
  simp [tcpStart]

theorem tcpSegment_length (conn : SpoofConn) (seg : ClientSegment) (sum : Nat) :
    (tcpSegment conn seg sum).length = tcpHeaderLen + seg.opts.length + seg.l7.length := by
  simp [tcpSegment, tcpStart_length, store16, tcpHeaderLen]
  omega

theorem tcpSegment_ports (ht : conn.tuple.Parsed) (seg : ClientSegment) (sum : Nat) :
    wordAt (tcpSegment conn seg sum) 0 = conn.tuple.dstPort ∧
      wordAt (tcpSegment conn seg sum) 2 = conn.tuple.srcPort :=
  ⟨wordAt_append [] ht.dstPort ((tcpSegment conn seg sum).drop 2),
    wordAt_append (u16 conn.tuple.dstPort) ht.srcPort ((tcpSegment conn seg sum).drop 4)⟩

theorem tcpSegment_offset (conn : SpoofConn) (hseg : seg.WellFormed) (sum : Nat) :
    ((tcpSegment conn seg sum).getD 12 0).toNat / 16 * 4 = tcpHeaderLen + seg.opts.length := by
  have hbyte : (tcpSegment conn seg sum).getD 12 0 =
      UInt8.ofNat ((5 + seg.opts.length / 4) * 16) := rfl
  have hwords := hseg.words
  have hshort := hseg.short
  have h20 : tcpHeaderLen = 20 := rfl
  rw [hbyte, UInt8.toNat_ofNat']
  omega

/-- The number in the four bytes behind `a`. -/
theorem beNat_field (a rest : List UInt8) (n : UInt32) :
    UInt32.ofNat (beNat (((a ++ u32 n.toNat ++ rest).drop a.length).take 4)) = n := by
  have htake := take_drop_append a (u32 n.toNat) rest
  rw [u32_length] at htake
  have hval : beNat (u32 n.toNat) = n.toNat := by
    have hlt := n.toNat_lt
    have hlow : beNat (u16 n.toNat) = n.toNat % 0x10000 := by
      simp only [u16, beNat, List.foldl_cons, List.foldl_nil, UInt8.toNat_ofNat']
      omega
    rw [u32, beNat_append, beNat_u16 (by omega), u16_length, hlow]
    omega
  rw [htake, hval, UInt32.ofNat_toNat]

theorem UInt16_ofNat_wordAt (a rest : List UInt8) (n : UInt16) :
    UInt16.ofNat (wordAt (a ++ u16 n.toNat ++ rest) a.length) = n := by
  rw [wordAt_append a n.toNat_lt rest, UInt16.ofNat_toNat]

/-- The segment of the packet, checksum and all. -/
def sentSegment (conn : SpoofConn) (seg : ClientSegment) : List UInt8 :=
  tcpSegment conn seg (conn.zdtunL3Checksum
    (conn.zdtunMakeIphdr (tcpSegment conn seg 0).length) (tcpSegment conn seg 0))

theorem sentSegment_length (conn : SpoofConn) (seg : ClientSegment) :
    (sentSegment conn seg).length = tcpHeaderLen + seg.opts.length + seg.l7.length :=
  tcpSegment_length _ _ _

theorem buildReplyTcpip_eq (conn : SpoofConn) (seg : ClientSegment) : buildReplyTcpip conn seg =
    conn.zdtunMakeIphdr (sentSegment conn seg).length ++ sentSegment conn seg := by
  rw [sentSegment_length, ← tcpSegment_length conn seg 0]
  rfl

theorem buildReplyTcpip_length (conn : SpoofConn) (seg : ClientSegment) :
    (buildReplyTcpip conn seg).length =
      ipHeaderLen conn.sockIpver + (sentSegment conn seg).length := by
  rw [buildReplyTcpip_eq, List.length_append, zdtunMakeIphdr_length]

/-- The packet of a segment, as it is parsed. -/
def tcpPkt (t : Zdtun5Tuple) (seg : ClientSegment) : ZdtunPkt :=
  replyPkt t (tcpHeaderLen + seg.opts.length + seg.l7.length) (tcpHeaderLen + seg.opts.length)

/-- What is read of a segment behind an IP header is the segment. -/
theorem tcpPkt_segment {hdr : List UInt8} (conn : SpoofConn) (seg : ClientSegment) (sum : Nat)
    {t : Zdtun5Tuple} (hhdr : hdr.length = ipHeaderLen t.ipver) :
    (tcpPkt t seg).segment (bufferOf (hdr ++ tcpSegment conn seg sum)) = seg := by
  have hlen := tcpSegment_length conn seg sum
  have h20 : tcpHeaderLen = 20 := rfl
  have hseq : UInt32.ofNat (beNat (((tcpSegment conn seg sum).drop 4).take 4)) = seg.seq :=
    beNat_field (u16 conn.tuple.dstPort ++ u16 conn.tuple.srcPort)
      ((tcpSegment conn seg sum).drop 8) seg.seq
  have hack : UInt32.ofNat (beNat (((tcpSegment conn seg sum).drop 8).take 4)) = seg.ackNum :=
    beNat_field (u16 conn.tuple.dstPort ++ u16 conn.tuple.srcPort ++ u32 seg.seq.toNat)
      ((tcpSegment conn seg sum).drop 12) seg.ackNum
  have hwin : UInt16.ofNat (wordAt (tcpSegment conn seg sum) 14) = seg.win :=
    UInt16_ofNat_wordAt ((tcpSegment conn seg sum).take 14) ((tcpSegment conn seg sum).drop 16)
      seg.win
  have hflags : (tcpSegment conn seg sum).getD 13 0 = seg.flags.toByte := rfl
  have hsplit : tcpSegment conn seg sum =
      tcpStart conn seg ++ store16 sum ++ [0, 0] ++ seg.opts ++ seg.l7 := by
    simp [tcpSegment]
  have hopts : ((tcpSegment conn seg sum).drop 20).take seg.opts.length = seg.opts := by
    rw [hsplit]
    exact take_drop_append (tcpStart conn seg ++ store16 sum ++ [0, 0]) seg.opts seg.l7
  have hl7 : ((tcpSegment conn seg sum).drop (20 + seg.opts.length)).take seg.l7.length =
      seg.l7 := by
    have hdata : (tcpSegment conn seg sum).drop (20 + seg.opts.length) = seg.l7 := by
      have hskip : (tcpSegment conn seg sum).drop 20 = seg.opts ++ seg.l7 := rfl
      rw [← List.drop_drop, hskip, List.drop_left]
    rw [hdata, List.take_length]
  clear hsplit
  generalize tcpSegment conn seg sum = l3 at *
  unfold ZdtunPkt.segment tcpPkt replyPkt
  dsimp only
  rw [← hhdr, Nat.add_sub_cancel_left, Nat.add_sub_cancel_left, bytesAt_segment (by omega),
    bytesAt_segment (by omega), bytesAt_segment (by omega), bytesAt_segment (by omega),
    be16_segment (by omega), byte_segment, hseq, hack, hwin, hflags, TcpFlags.ofByte_toByte, h20,
    hopts, hl7]

/-- The header of a segment, behind any IP header. -/
theorem parseL4Header_segment {hdr : List UInt8} {ip : IpHeader} (ht : conn.tuple.Parsed)
    (hseg : seg.WellFormed) (sum : Nat) (hproto : ip.ipproto = ipprotoTcp)
    (hhdr : ip.hdrLen = hdr.length)
    (hlen : hdr.length + (tcpSegment conn seg sum).length ≤ ip.pktLen) :
    parseL4Header (bufferOf (hdr ++ tcpSegment conn seg sum)) ip =
      .ok (tcpHeaderLen + seg.opts.length, conn.tuple.dstPort, conn.tuple.srcPort) := by
  have hl := tcpSegment_length conn seg sum
  have h20 : tcpHeaderLen = 20 := rfl
  obtain ⟨hsport, hdport⟩ := tcpSegment_ports ht seg sum
  have hoff := tcpSegment_offset conn hseg sum
  have h0 : be16 (bufferOf (hdr ++ tcpSegment conn seg sum)) hdr.length = conn.tuple.dstPort := by
    rw [← Nat.add_zero hdr.length, be16_segment (by omega), hsport]
  rw [parseL4Header, if_pos hproto, hhdr, if_neg (by omega)]
  dsimp only
  rw [byte_segment, hoff, if_neg (by omega), h0, be16_segment (by omega), hdport]

theorem sentSegment_verifies (hproto : Forwarded conn.tuple.ipproto)
    (hlen : (sentSegment conn seg).length < 0x10000) :
    Verifies (l4PseudoHeader conn (sentSegment conn seg).length ++ sentSegment conn seg) := by
  have hl : (sentSegment conn seg).length = (tcpSegment conn seg 0).length := by
    rw [sentSegment_length, tcpSegment_length]
  have heven : (tcpStart conn seg).length % 2 = 0 := by rw [tcpStart_length]
  rw [hl] at hlen ⊢
  exact segment_verifies (fun _ => rfl) heven hlen hproto

/-- The checksum of the IPv4 header verifies, and the rest is what is behind it. -/
theorem reply_split (conn : SpoofConn) (l3 : List UInt8) :
    (conn.sockIpver = .v4 →
      Verifies ((conn.zdtunMakeIphdr l3.length ++ l3).take ipv4HeaderLen)) ∧
    (conn.zdtunMakeIphdr l3.length ++ l3).drop (ipHeaderLen conn.sockIpver) = l3 := by
  have hhdr : (conn.zdtunMakeIphdr l3.length).length = ipHeaderLen conn.sockIpver :=
    zdtunMakeIphdr_length _
  refine ⟨fun hv4 => ?_, ?_⟩
  · rw [hv4] at hhdr
    rw [show ipv4HeaderLen = ipHeaderLen .v4 from rfl, ← hhdr, List.take_left,
      zdtunMakeIphdr_v4 hv4]
    exact ip4Header_verifies _
  · rw [← hhdr, List.drop_left]

/-- `send_to_client` parses the packet of a segment: it goes back to where the connection comes
from, and is the segment that was to be sent. For the client, its checksums verify. -/
structure Arrives (conn : SpoofConn) (seg : ClientSegment) : Prop where
  parsed : ∀ ids, zdtunParsePkt ids (bufferOf (buildReplyTcpip conn seg))
    (buildReplyTcpip conn seg).length = .ok (tcpPkt conn.tuple.swap seg, ids)
  segment : (tcpPkt conn.tuple.swap seg).segment (bufferOf (buildReplyTcpip conn seg)) = seg
  ipChecksum : conn.sockIpver = .v4 → Verifies ((buildReplyTcpip conn seg).take ipv4HeaderLen)
  checksum : Verifies (l4PseudoHeader conn (sentSegment conn seg).length ++
    (buildReplyTcpip conn seg).drop (ipHeaderLen conn.sockIpver))

/-- What `build_reply_tcpip` writes and has room for arrives exactly where the socket has the IP
version of the client's packets. -/
theorem arrives_buildReplyTcpip_iff (ht : conn.tuple.Parsed)
    (hproto : conn.tuple.ipproto = ipprotoTcp) (hseg : seg.WellFormed)
    (hlen : (buildReplyTcpip conn seg).length < 0x10000) :
    Arrives conn seg ↔ conn.sockIpver = conn.tuple.ipver := by
  have hl := buildReplyTcpip_length conn seg
  have hhdr : (conn.zdtunMakeIphdr (sentSegment conn seg).length).length = _ :=
    zdtunMakeIphdr_length _
  obtain ⟨hcheck, hdrop⟩ := reply_split conn (sentSegment conn seg)
  rw [← buildReplyTcpip_eq] at hcheck hdrop
  rw [hl] at hlen
  constructor
  · intro harrives
    have hparsed := harrives.parsed fun _ => (0, 0)
    rw [buildReplyTcpip_eq] at hparsed
    exact (zdtunMakeIphdr_ipver hparsed).symm
  intro hver
  refine ⟨fun ids => ?_, ?_, hcheck, ?_⟩
  · have hparsed := zdtunParsePkt_reply ids (sentSegment conn seg) ht (.inl hproto) hver
      (hver ▸ hlen) fun ip hip hip' hip'' =>
        parseL4Header_segment ht hseg _ (hip.trans hproto) hip' (by rw [hip'', hip']; rfl)
    rw [buildReplyTcpip_eq, hparsed, sentSegment_length]
    rfl
  · rw [buildReplyTcpip_eq]
    exact tcpPkt_segment conn seg _ (hver ▸ hhdr)
  · rw [hdrop]
    exact sentSegment_verifies (.inl hproto) (by omega)

/-! ## UDP and ICMP -/

/-- The segment of `handle_udp_reply`. The checksum is left out over IPv4. -/
def udpReplySegment (conn : SpoofConn) (data : List UInt8) : List UInt8 :=
  udpSegment conn data
    (if conn.sockIpver = .v4 then 0
      else conn.zdtunL3Checksum (conn.zdtunMakeIphdr (udpHeaderLen + data.length))
        (udpSegment conn data 0))

/-- The packet of `handle_udp_reply` for this payload. -/
def handleUdpReply (conn : SpoofConn) (data : List UInt8) : List UInt8 :=
  conn.zdtunMakeIphdr (udpHeaderLen + data.length) ++ udpReplySegment conn data

/-- What the server's ICMP socket gave, with this checksum and the client's identifier. -/
def icmpSegment (conn : SpoofConn) (data : List UInt8) (sum : Nat) : List UInt8 :=
  data.take 2 ++ store16 sum ++ (u16 conn.tuple.srcPort ++ data.drop 6)

/-- The segment of `handle_icmp_reply`. -/
def icmpReplySegment (conn : SpoofConn) (data : List UInt8) : List UInt8 :=
  icmpSegment conn data
    (if conn.sockIpver = .v4 then complement16 (calcChecksum 0 (icmpSegment conn data 0))
      else conn.zdtunL3Checksum (conn.zdtunMakeIphdr data.length) (icmpSegment conn data 0))

def isEchoRequest (type : UInt8) : Bool := type == 8 || type == 128

def isEcho (type : UInt8) : Bool := isEchoRequest type || type == 0 || type == 129

/-- The packet of `handle_icmp_reply`, if it passes this on. -/
def handleIcmpReply (conn : SpoofConn) (data : List UInt8) : Option (List UInt8) :=
  if data.length < icmpHeaderLen then none
  else if !isEcho (data.getD 0 0) then none
  else some (conn.zdtunMakeIphdr data.length ++ icmpReplySegment conn data)

theorem parseL4Header_udp {hdr : List UInt8} {ip : IpHeader} (ht : conn.tuple.Parsed)
    (data : List UInt8) (sum : Nat) (hproto : ip.ipproto = ipprotoUdp)
    (hhdr : ip.hdrLen = hdr.length)
    (hlen : hdr.length + (udpSegment conn data sum).length ≤ ip.pktLen) :
    parseL4Header (bufferOf (hdr ++ udpSegment conn data sum)) ip =
      .ok (udpHeaderLen, conn.tuple.dstPort, conn.tuple.srcPort) := by
  have hl : (udpSegment conn data sum).length = _ := udpSegment_length data sum
  have h8 : udpHeaderLen = 8 := rfl
  have h0 : be16 (bufferOf (hdr ++ udpSegment conn data sum)) hdr.length = conn.tuple.dstPort := by
    rw [← Nat.add_zero hdr.length, be16_segment (by omega), udpSegment_dstPort _ _ ht.dstPort]
  have htcp : ¬ip.ipproto = ipprotoTcp := by
    rw [hproto]
    decide
  rw [parseL4Header, if_neg htcp, if_pos hproto, hhdr, if_neg (by omega), h0,
    be16_segment (by omega), udpSegment_srcPort _ _ ht.srcPort]

/-- A datagram of the server goes on with its payload and, over IPv6, with a checksum that verifies;
and it goes back to where the connection comes from exactly where the socket has the IP version of
the connection. -/
theorem handleUdpReply_parsed (conn : SpoofConn) (data : List UInt8) (ids : FragPorts)
    (ht : conn.tuple.Parsed) (hproto : conn.tuple.ipproto = ipprotoUdp)
    (hlen : (handleUdpReply conn data).length < 0x10000) :
    (zdtunParsePkt ids (bufferOf (handleUdpReply conn data)) (handleUdpReply conn data).length =
        .ok (replyPkt conn.tuple.swap (udpHeaderLen + data.length) udpHeaderLen, ids) ↔
      conn.sockIpver = conn.tuple.ipver) ∧
      (handleUdpReply conn data).drop (ipHeaderLen conn.sockIpver + udpHeaderLen) = data ∧
      (conn.sockIpver = .v4 →
        Verifies ((handleUdpReply conn data).take ipv4HeaderLen) ∧
        wordAt (udpReplySegment conn data) 6 = 0) ∧
      (conn.sockIpver = .v6 → Verifies (l4PseudoHeader conn (udpHeaderLen + data.length) ++
        (handleUdpReply conn data).drop (ipHeaderLen conn.sockIpver))) := by
  have hseg : (udpReplySegment conn data).length = udpHeaderLen + data.length :=
    udpSegment_length _ _
  have heq : handleUdpReply conn data =
      conn.zdtunMakeIphdr (udpReplySegment conn data).length ++ udpReplySegment conn data := by
    rw [hseg]
    rfl
  have hhdr : (conn.zdtunMakeIphdr (udpReplySegment conn data).length).length = _ :=
    zdtunMakeIphdr_length _
  obtain ⟨hcheck, hdrop⟩ := reply_split conn (udpReplySegment conn data)
  rw [heq, List.length_append, hhdr] at hlen
  rw [heq]
  refine ⟨⟨fun hparsed => (zdtunMakeIphdr_ipver hparsed).symm, fun hver => ?_⟩, ?_,
    fun hv4 => ⟨hcheck hv4, ?_⟩, fun hv6 => ?_⟩
  · have hparsed := zdtunParsePkt_reply ids (udpReplySegment conn data) ht (.inr (.inl hproto)) hver
      (hver ▸ hlen) fun ip hip hip' hip'' =>
        parseL4Header_udp ht data _ (hip.trans hproto) hip' (by rw [hip'', hip']; rfl)
    rw [hparsed, hseg]
    rfl
  · rw [← List.drop_drop, hdrop]
    rfl
  · rw [udpReplySegment, if_pos hv4]
    rfl
  · have hl : (udpSegment conn data 0).length = udpHeaderLen + data.length :=
      udpSegment_length _ _
    have hsum := segment_verifies (fun sum => (rfl : udpSegment conn data sum = _)) (by simp)
      (by omega) (.inr (.inl hproto))
    rw [hl] at hsum
    rw [hdrop, udpReplySegment, if_neg (by simp [hv6])]
    exact hsum

/-- An echo of a server, and the connection of a client to it. -/
def echoConn (proto : UInt8) (srcPort dstPort : Nat) : SpoofConn :=
  ⟨⟨ip4 10 215 173 1, ip4 9 9 9 1, srcPort, dstPort, .v4, proto⟩, .none⟩

theorem parsed_echoConn (proto : UInt8) {srcPort dstPort : Nat} (hsrc : srcPort < 0x10000)
    (hdst : dstPort < 0x10000) : (echoConn proto srcPort dstPort).tuple.Parsed :=
  ⟨fun _ => show (ip4 10 215 173 1).toNat % _ = 0 by decide,
    fun _ => show (ip4 9 9 9 1).toNat % _ = 0 by decide, hsrc, hdst⟩

theorem handleUdpReply_echo :
    let conn := echoConn ipprotoUdp 40001 7
    (zdtunParsePkt (fun _ => (0, 0)) (bufferOf (handleUdpReply conn [104, 105]))
        (handleUdpReply conn [104, 105]).length =
        .ok (replyPkt conn.tuple.swap (udpHeaderLen + 2) udpHeaderLen, fun _ => (0, 0)) ↔
      conn.sockIpver = conn.tuple.ipver) ∧
      (handleUdpReply conn [104, 105]).drop (ipHeaderLen conn.sockIpver + udpHeaderLen) =
        [104, 105] ∧
      (conn.sockIpver = .v4 →
        Verifies ((handleUdpReply conn [104, 105]).take ipv4HeaderLen) ∧
        wordAt (udpReplySegment conn [104, 105]) 6 = 0) ∧
      (conn.sockIpver = .v6 → Verifies (l4PseudoHeader conn (udpHeaderLen + 2) ++
        (handleUdpReply conn [104, 105]).drop (ipHeaderLen conn.sockIpver))) :=
  handleUdpReply_parsed (echoConn ipprotoUdp 40001 7) [104, 105] (fun _ => (0, 0))
    (parsed_echoConn _ (by decide) (by decide)) rfl (by decide)

theorem icmpSegment_length {data : List UInt8} (hlen : icmpHeaderLen ≤ data.length) (sum : Nat) :
    (icmpSegment conn data sum).length = data.length := by
  have h8 : icmpHeaderLen = 8 := rfl
  simp [icmpSegment, store16]
  omega

/-- An echo, behind any IP header. Its identifier is the source of a request and the destination
of a reply. -/
theorem parseL4Header_icmp {hdr data : List UInt8} {ip : IpHeader} (ht : conn.tuple.Parsed)
    (sum : Nat) (hshort : icmpHeaderLen ≤ data.length) (hecho : isEcho (data.getD 0 0) = true)
    (hproto : ip.ipproto = ipprotoIcmp) (hhdr : ip.hdrLen = hdr.length)
    (hlen : hdr.length + data.length ≤ ip.pktLen) :
    parseL4Header (bufferOf (hdr ++ icmpSegment conn data sum)) ip =
      .ok (icmpHeaderLen, if isEchoRequest (data.getD 0 0) then conn.tuple.srcPort else 0,
        if isEchoRequest (data.getD 0 0) then 0 else conn.tuple.srcPort) := by
  have hl : (icmpSegment conn data sum).length = data.length := icmpSegment_length hshort sum
  have h8 : icmpHeaderLen = 8 := rfl
  obtain ⟨type, code, rest, rfl⟩ : ∃ type code rest, data = type :: code :: rest := by
    match data, hshort with
    | type :: code :: rest, _ => exact ⟨type, code, rest, rfl⟩
  have hid : be16 (bufferOf (hdr ++ icmpSegment conn (type :: code :: rest) sum))
      (hdr.length + 4) = conn.tuple.srcPort := by
    rw [be16_segment (by omega)]
    exact wordAt_append ([type, code] ++ store16 sum) ht.srcPort _
  have htype : bufferOf (hdr ++ icmpSegment conn (type :: code :: rest) sum) hdr.length = type := by
    rw [← Nat.add_zero hdr.length, byte_segment]
    rfl
  have htcp : ¬ip.ipproto = ipprotoTcp := by
    rw [hproto]
    decide
  have hudp : ¬ip.ipproto = ipprotoUdp := by
    rw [hproto]
    decide
  rw [parseL4Header, if_neg htcp, if_neg hudp, if_pos hproto, hhdr, if_neg (by omega)]
  dsimp only
  rw [htype, hid]
  change isEcho type = true at hecho
  have hsome : ¬(type ≠ 8 ∧ type ≠ 0 ∧ type ≠ 128 ∧ type ≠ 129) := by
    simp only [isEcho, isEchoRequest, Bool.or_eq_true, beq_iff_eq] at hecho
    tauto
  change _ = Except.ok (icmpHeaderLen, if isEchoRequest type then _ else _,
    if isEchoRequest type then _ else _)
  rw [if_neg hsome]
  by_cases hreq : type = 8 ∨ type = 128
  · have hreq' : isEchoRequest type = true := by simpa [isEchoRequest] using hreq
    rw [if_pos hreq, if_pos hreq', if_pos hreq']
  · have hreq' : ¬isEchoRequest type = true := by simpa [isEchoRequest] using hreq
    rw [if_neg hreq, if_neg hreq', if_neg hreq']

/-- What the server's ICMP socket gave is passed on exactly if it is an echo with a whole header. It
goes back to where the connection comes from, with a checksum that verifies, and but for that and
the identifier as it was; an echo request of the server arrives as one. -/
theorem handleIcmpReply_parsed (conn : SpoofConn) (data : List UInt8) (ids : FragPorts)
    (ht : conn.tuple.Parsed) (hproto : conn.tuple.ipproto = ipprotoIcmp)
    (hver : conn.sockIpver = conn.tuple.ipver)
    (hlen : ipHeaderLen conn.sockIpver + data.length < 0x10000) :
    match handleIcmpReply conn data with
    | none => data.length < icmpHeaderLen ∨ isEcho (data.getD 0 0) = false
    | some packet => ∃ sum,
      zdtunParsePkt ids (bufferOf packet) packet.length = .ok (replyPkt
        { conn.tuple.swap with
          srcPort := if isEchoRequest (data.getD 0 0) then conn.tuple.srcPort else 0
          dstPort := if isEchoRequest (data.getD 0 0) then 0 else conn.tuple.srcPort }
        data.length icmpHeaderLen, ids) ∧
      packet.drop (ipHeaderLen conn.sockIpver) =
        data.take 2 ++ store16 sum ++ (u16 conn.tuple.srcPort ++ data.drop 6) ∧
      (conn.sockIpver = .v4 → Verifies (packet.take ipv4HeaderLen) ∧
        Verifies (packet.drop ipv4HeaderLen)) ∧
      (conn.sockIpver = .v6 → Verifies (l4PseudoHeader conn data.length ++
        packet.drop ipv6HeaderLen)) := by
  unfold handleIcmpReply
  by_cases hshort : data.length < icmpHeaderLen
  · rw [if_pos hshort]
    exact .inl hshort
  rw [if_neg hshort]
  cases hecho : isEcho (data.getD 0 0) with
  | false => exact .inr rfl
  | true =>
    have hshort := Nat.le_of_not_lt hshort
    have hseg : (icmpReplySegment conn data).length = data.length := icmpSegment_length hshort _
    obtain ⟨hcheck, hdrop⟩ := reply_split conn (icmpReplySegment conn data)
    rw [hseg] at hcheck hdrop
    have hparsed := zdtunParsePkt_reply ids (icmpReplySegment conn data) ht (.inr (.inr hproto))
      hver (by rw [hseg, ← hver]; exact hlen) fun ip hip hip' hip'' =>
        parseL4Header_icmp ht _ hshort hecho (hip.trans hproto) hip' (by
          rw [hip'', hip', hseg])
    rw [hseg] at hparsed
    have heven : (data.take 2).length % 2 = 0 := by
      have h8 : icmpHeaderLen = 8 := rfl
      rw [List.length_take]
      omega
    refine ⟨_, hparsed, hdrop, fun hv4 => ⟨hcheck hv4, ?_⟩, fun hv6 => ?_⟩
    · rw [hv4] at hdrop
      change Verifies (List.drop (ipHeaderLen .v4) _)
      rw [hdrop, icmpReplySegment, if_pos hv4]
      exact segment_verifies_alone (fun sum => (rfl : icmpSegment conn data sum = _)) heven
    · rw [hv6] at hdrop
      change Verifies (_ ++ List.drop (ipHeaderLen .v6) _)
      have hsum := segment_verifies (fun sum => (rfl : icmpSegment conn data sum = _)) heven
        (by rw [icmpSegment_length hshort]; omega) (.inr (.inr hproto))
      rw [icmpSegment_length hshort] at hsum
      rw [hdrop, icmpReplySegment, if_neg (by simp [hv6])]
      exact hsum

theorem handleIcmpReply_echo :
    let conn := echoConn ipprotoIcmp 700 0
    match handleIcmpReply conn [0, 0, 1, 2, 3, 4, 0, 1, 104] with
    | none => 9 < icmpHeaderLen ∨ isEcho 0 = false
    | some packet => ∃ sum,
      zdtunParsePkt (fun _ => (0, 0)) (bufferOf packet) packet.length =
        .ok (replyPkt { conn.tuple.swap with srcPort := 0, dstPort := 700 } 9 icmpHeaderLen,
          fun _ => (0, 0)) ∧
      packet.drop (ipHeaderLen conn.sockIpver) =
        [0, 0] ++ store16 sum ++ (u16 700 ++ [0, 1, 104]) ∧
      (conn.sockIpver = .v4 → Verifies (packet.take ipv4HeaderLen) ∧
        Verifies (packet.drop ipv4HeaderLen)) ∧
      (conn.sockIpver = .v6 → Verifies (l4PseudoHeader conn 9 ++ packet.drop ipv6HeaderLen)) :=
  handleIcmpReply_parsed (echoConn ipprotoIcmp 700 0) [0, 0, 1, 2, 3, 4, 0, 1, 104]
    (fun _ => (0, 0)) (parsed_echoConn _ (by decide) (by decide)) rfl rfl (by decide)

end SecureGuard.Native
