import SecureGuard.Lib.InternetChecksum
import SecureGuard.Native.DnsReplyScan
import SecureGuard.Native.SpoofedReply

/-! # The packet around a spoofed reply

What `zdtun_make_iphdr`, `zdtun_l3_checksum` and `zdtun_parse_pkt` make of each other: the
lengths, the addresses and the checksums of a packet with any DNS message in it. -/

namespace SecureGuard.Native

open NetworkOrder InternetChecksum

/-! ## The sums of the host -/

/-- Loaded the other way round, every word counts 256 times. -/
theorem hostWords_modEq (bytes : List UInt8) :
    hostWords bytes ≡ 256 * wordSum bytes [MOD 0xffff] := by
  induction bytes using hostWords.induct with
  | case1 => simp [hostWords, wordSum, Nat.ModEq]
  | case2 b =>
    simp only [hostWords, wordSum, Nat.ModEq]
    omega
  | case3 b b' rest ih =>
    simp only [hostWords, wordSum, Nat.ModEq] at ih ⊢
    omega

theorem hostWords_eq_zero_iff (bytes : List UInt8) : hostWords bytes = 0 ↔ wordSum bytes = 0 := by
  induction bytes using hostWords.induct with
  | case1 => simp [hostWords, wordSum]
  | case2 b =>
    simp only [hostWords, wordSum]
    omega
  | case3 b b' rest ih =>
    simp only [hostWords, wordSum]
    omega

/-- Folding the carries keeps the sum modulo 0xFFFF, and leaves a sum of zero and no other one
zero. -/
theorem foldCarries_spec (sum : Nat) : foldCarries sum < 0x10000 ∧
    foldCarries sum ≡ sum [MOD 0xffff] ∧ (foldCarries sum = 0 ↔ sum = 0) := by
  induction sum using foldCarries.induct with
  | case1 sum h =>
    rw [foldCarries, if_pos h]
    exact ⟨h, Nat.ModEq.rfl, Iff.rfl⟩
  | case2 sum h ih =>
    rw [foldCarries, if_neg h]
    obtain ⟨hlt, hmod, hz⟩ := ih
    refine ⟨hlt, hmod.trans ?_, hz.trans ?_⟩
    · rw [Nat.ModEq]
      omega
    · omega

theorem calcChecksum_spec (start : Nat) (bytes : List UInt8) :
    calcChecksum start bytes < 0x10000 ∧
      calcChecksum start bytes ≡ start + 256 * wordSum bytes [MOD 0xffff] ∧
      (calcChecksum start bytes = 0 ↔ start = 0 ∧ wordSum bytes = 0) := by
  obtain ⟨hlt, hmod, hz⟩ := foldCarries_spec (start + hostWords bytes)
  refine ⟨hlt, hmod.trans ((hostWords_modEq bytes).add_left start), hz.trans ?_⟩
  rw [← hostWords_eq_zero_iff]
  omega

theorem wordSum_store16_modEq {n : Nat} (h : n < 0x10000) :
    wordSum (store16 n) ≡ 256 * n [MOD 0xffff] := by
  have hw : wordSum (store16 n) = n % 256 * 256 + n / 256 := by
    simp only [store16, wordSum, UInt8.toNat_ofNat']
    omega
  have hn : 256 * n = n % 256 * 256 + n / 256 + 0xffff * (n / 256) := by omega
  rw [hw, hn, Nat.ModEq, Nat.add_mul_mod_self_left]

/-- Words together with the complement of their sum: whatever they add up to, the whole adds up
to 0xFFFF. -/
theorem complement_sum {total sum : Nat} (hs : sum < 0x10000)
    (h : sum ≡ 256 * total [MOD 0xffff]) :
    total + wordSum (store16 (complement16 sum)) ≡ 0 [MOD 0xffff] := by
  have hc : complement16 sum < 0x10000 := by
    unfold complement16
    omega
  have hw := wordSum_store16_modEq hc
  simp only [complement16, Nat.ModEq] at h hw ⊢
  omega

/-- The complement is zero exactly if the words add up to zero modulo 0xFFFF. -/
theorem complement_eq_zero_iff {total sum : Nat} (hs : sum < 0x10000)
    (h : sum ≡ 256 * total [MOD 0xffff]) (hne : sum ≠ 0) :
    complement16 sum = 0 ↔ total ≡ 0 [MOD 0xffff] := by
  simp only [complement16, Nat.ModEq] at h ⊢
  omega

/-! ## Addresses -/

@[simp] theorem ip4Bytes_length (ip : ZdtunIp) : (ip4Bytes ip).length = 4 := by simp [ip4Bytes]

@[simp] theorem ip6Bytes_length (ip : ZdtunIp) : (ip6Bytes ip).length = 16 := by simp [ip6Bytes]

theorem beNat_ip6Bytes (ip : ZdtunIp) : beNat (ip6Bytes ip) = ip.toNat := by
  have h := beNat_bytes 16 ip.toNat
  have he : (List.range 16).map (fun k => UInt8.ofNat (ip.toNat >>> (8 * (16 - 1 - k)))) =
      ip6Bytes ip := by
    refine List.map_congr_left fun k hk => ?_
    have hlt := List.mem_range.mp hk
    rw [show 8 * (16 - 1 - k) = 120 - 8 * k by omega]
  rw [← he, h]
  exact Nat.mod_eq_of_lt ip.isLt

theorem beNat_ip4Bytes (ip : ZdtunIp) : beNat (ip4Bytes ip) = ip.toNat / 2 ^ 96 := by
  have h := beNat_bytes 4 (ip.toNat >>> 96)
  have he : (List.range 4).map (fun k => UInt8.ofNat (ip.toNat >>> 96 >>> (8 * (4 - 1 - k)))) =
      ip4Bytes ip := by
    refine List.map_congr_left fun k hk => ?_
    have hlt := List.mem_range.mp hk
    rw [← Nat.shiftRight_add, show 96 + 8 * (4 - 1 - k) = 120 - 8 * k by omega]
  have hlt := ip.isLt
  rw [← he, h, Nat.shiftRight_eq_div_pow]
  omega

/-- An IPv4 address is in the first four bytes of its `zdtun_ip_t`. -/
def IsIp4 (ip : ZdtunIp) : Prop := ip.toNat % 2 ^ 96 = 0

theorem isIp4_ofNat (n : Nat) : IsIp4 (BitVec.ofNat 128 (n <<< 96)) := by
  rw [IsIp4, BitVec.toNat_ofNat, Nat.shiftLeft_eq]
  omega

theorem isIp4_ip4At (buf : Nat → UInt8) (i : Nat) : IsIp4 (ip4At buf i) := isIp4_ofNat _

theorem ofNat_ip4Bytes {ip : ZdtunIp} (h : IsIp4 ip) :
    BitVec.ofNat 128 (beNat (ip4Bytes ip) <<< 96) = ip := by
  have hlt := ip.isLt
  rw [IsIp4] at h
  apply BitVec.eq_of_toNat_eq
  rw [BitVec.toNat_ofNat, beNat_ip4Bytes, Nat.shiftLeft_eq]
  omega

theorem ofNat_ip6Bytes (ip : ZdtunIp) : BitVec.ofNat 128 (beNat (ip6Bytes ip)) = ip := by
  rw [beNat_ip6Bytes, BitVec.ofNat_toNat, BitVec.setWidth_eq]

/-! ## The bytes of a list as a buffer -/

/-- A buffer that holds these bytes. -/
abbrev bufferOf (bytes : List UInt8) : Nat → UInt8 := fun i => bytes.getD i 0

theorem before_bufferOf (bytes : List UInt8) :
    Before (bufferOf bytes) ⟨0, bytes.length⟩ bytes :=
  ⟨rfl, fun i hi => by simp [bufferOf, hi]⟩

theorem be16_bufferOf {bytes : List UInt8} {i : Nat} (h : i + 2 ≤ bytes.length) :
    be16 (bufferOf bytes) i = wordAt bytes i := by
  have hb := (before_bufferOf bytes).be16 h
  rwa [Nat.zero_add] at hb

theorem bytesAt_bufferOf {bytes : List UInt8} {i n : Nat} (h : i + n ≤ bytes.length) :
    bytesAt (bufferOf bytes) i n = (bytes.drop i).take n := by
  have hb := (before_bufferOf bytes).take h
  rwa [Nat.zero_add] at hb

/-- A field behind the bytes `a`. -/
theorem take_drop_append (a w rest : List UInt8) :
    ((a ++ w ++ rest).drop a.length).take w.length = w := by
  rw [List.append_assoc, List.drop_left, List.take_left]

/-! ## Parsing -/

/-- An unfragmented UDP packet, from its IP header on. -/
theorem zdtunParsePkt_udp {buf : Nat → UInt8} {pktLen : Nat} {ip : IpHeader}
    (h : parseIpHeader buf pktLen = .ok ip) (hfrag : ip.fragOff % 0x4000 = 0)
    (hproto : ip.ipproto = ipprotoUdp) (hlen : ip.hdrLen + udpHeaderLen ≤ ip.pktLen)
    (ids : FragPorts) : zdtunParsePkt ids buf pktLen =
      .ok (⟨⟨ip.srcIp, ip.dstIp, be16 buf ip.hdrLen, be16 buf (ip.hdrLen + 2), ip.ipver,
        ipprotoUdp⟩, false, false, ip.pktLen, ip.hdrLen, udpHeaderLen,
        ip.pktLen - ip.hdrLen - udpHeaderLen⟩, ids) := by
  have hl4 : parseL4Header buf ip =
      .ok (udpHeaderLen, be16 buf ip.hdrLen, be16 buf (ip.hdrLen + 2)) := by
    rw [parseL4Header, hproto, if_neg (by decide), if_pos rfl, if_neg (by omega)]
  have hlater : ¬ip.fragOff % 0x2000 ≠ 0 := by omega
  have hmore : ¬ip.fragOff / 0x2000 % 2 = 1 := by omega
  simp only [zdtunParsePkt, h, hl4, bind, Except.bind, pure, Except.pure, hlater, hmore, hproto,
    if_false, decide_false]

variable {conn : SpoofConn}

@[simp] theorem ip4Header_length (l3Len check : Nat) :
    (conn.ip4Header l3Len check).length = ipv4HeaderLen := by
  simp [SpoofConn.ip4Header, SpoofConn.ip4Start, store16, ipv4HeaderLen]

theorem ip4Header_dst (conn : SpoofConn) (l3Len check : Nat) (rest : List UInt8) :
    ((conn.ip4Header l3Len check ++ rest).drop 12).take 4 = ip4Bytes conn.tuple.dstIp := by
  have h := take_drop_append (conn.ip4Start l3Len check) (ip4Bytes conn.tuple.dstIp)
    (ip4Bytes conn.tuple.srcIp ++ rest)
  rw [ip4Bytes_length, ← List.append_assoc] at h
  exact h

theorem ip4Header_src (conn : SpoofConn) (l3Len check : Nat) (rest : List UInt8) :
    ((conn.ip4Header l3Len check ++ rest).drop 16).take 4 = ip4Bytes conn.tuple.srcIp := by
  have h := take_drop_append (conn.ip4Start l3Len check ++ ip4Bytes conn.tuple.dstIp)
    (ip4Bytes conn.tuple.srcIp) rest
  rw [List.length_append, ip4Bytes_length, ip4Bytes_length] at h
  exact h

/-- The IPv4 header that is written is read back: source and destination are swapped. -/
theorem parseIpHeader_ip4 {l3 : List UInt8} (check : Nat) (hsrc : IsIp4 conn.tuple.srcIp)
    (hdst : IsIp4 conn.tuple.dstIp) (hlen : l3.length + ipv4HeaderLen < 0x10000) :
    parseIpHeader (bufferOf (conn.ip4Header l3.length check ++ l3))
        (conn.ip4Header l3.length check ++ l3).length =
      .ok ⟨conn.tuple.dstIp, conn.tuple.srcIp, .v4, conn.tuple.ipproto, ipv4HeaderLen,
        l3.length + ipv4HeaderLen, 0x4000⟩ := by
  have hd := ip4Header_dst conn l3.length check l3
  have hs := ip4Header_src conn l3.length check l3
  have hl : (conn.ip4Header l3.length check ++ l3).length = l3.length + ipv4HeaderLen := by
    rw [List.length_append, ip4Header_length, Nat.add_comm]
  have h0 : bufferOf (conn.ip4Header l3.length check ++ l3) 0 = 0x45 := rfl
  have h9 : bufferOf (conn.ip4Header l3.length check ++ l3) 9 = conn.tuple.ipproto := rfl
  have h2 : wordAt (conn.ip4Header l3.length check ++ l3) 2 = l3.length + ipv4HeaderLen :=
    wordAt_append [0x45, 0] hlen ((conn.ip4Header l3.length check ++ l3).drop 4)
  have h6 : wordAt (conn.ip4Header l3.length check ++ l3) 6 = 0x4000 := rfl
  generalize conn.ip4Header l3.length check ++ l3 = bytes at *
  have h20 : ipv4HeaderLen = 20 := rfl
  rw [← be16_bufferOf (by omega)] at h2 h6
  have hd' : ip4At (bufferOf bytes) 12 = conn.tuple.dstIp := by
    rw [ip4At, bytesAt_bufferOf (by omega), hd, ofNat_ip4Bytes hdst]
  have hs' : ip4At (bufferOf bytes) 16 = conn.tuple.srcIp := by
    rw [ip4At, bytesAt_bufferOf (by omega), hs, ofNat_ip4Bytes hsrc]
  have hn : (0x45 : UInt8).toNat / 16 = 4 := rfl
  have hh : (0x45 : UInt8).toNat % 16 * 4 = ipv4HeaderLen := rfl
  rw [parseIpHeader, h0, if_neg (by omega), if_pos hn, hh, h2, h6, h9, hd', hs', hl,
    if_neg (by omega), if_neg (by omega), Nat.min_self]

@[simp] theorem ip6Start_length (l3Len : Nat) : (conn.ip6Start l3Len).length = 8 := rfl

theorem nexthdr_udp (h : conn.tuple.ipproto = ipprotoUdp) : conn.nexthdr = ipprotoUdp := by
  rw [SpoofConn.nexthdr, h, if_neg (by decide)]

/-- The IPv6 header that `zdtun_make_iphdr` writes. -/
abbrev ip6Header (conn : SpoofConn) (l3Len : Nat) : List UInt8 :=
  conn.ip6Start l3Len ++ ip6Bytes conn.tuple.dstIp ++ ip6Bytes conn.tuple.srcIp

theorem ip6Header_length (l3Len : Nat) : (ip6Header conn l3Len).length = ipv6HeaderLen := by
  simp [ip6Header, ipv6HeaderLen]

theorem ip6Header_dst (conn : SpoofConn) (l3Len : Nat) (rest : List UInt8) :
    ((ip6Header conn l3Len ++ rest).drop 8).take 16 = ip6Bytes conn.tuple.dstIp := by
  have h := take_drop_append (conn.ip6Start l3Len) (ip6Bytes conn.tuple.dstIp)
    (ip6Bytes conn.tuple.srcIp ++ rest)
  rw [ip6Bytes_length, ← List.append_assoc] at h
  exact h

theorem ip6Header_src (conn : SpoofConn) (l3Len : Nat) (rest : List UInt8) :
    ((ip6Header conn l3Len ++ rest).drop 24).take 16 = ip6Bytes conn.tuple.srcIp := by
  have h := take_drop_append (conn.ip6Start l3Len ++ ip6Bytes conn.tuple.dstIp)
    (ip6Bytes conn.tuple.srcIp) rest
  rw [List.length_append, ip6Bytes_length, ip6Bytes_length] at h
  exact h

/-- The IPv6 header that is written is read back. -/
theorem parseIpHeader_ip6 (l3 : List UInt8) (hproto : conn.tuple.ipproto = ipprotoUdp)
    (hlen : l3.length < 0x10000) :
    parseIpHeader (bufferOf (ip6Header conn l3.length ++ l3))
        (ip6Header conn l3.length ++ l3).length =
      .ok ⟨conn.tuple.dstIp, conn.tuple.srcIp, .v6, ipprotoUdp, ipv6HeaderLen,
        l3.length + ipv6HeaderLen, 0⟩ := by
  have hd := ip6Header_dst conn l3.length l3
  have hs := ip6Header_src conn l3.length l3
  have hl : (ip6Header conn l3.length ++ l3).length = l3.length + ipv6HeaderLen := by
    rw [List.length_append, ip6Header_length, Nat.add_comm]
  have h0 : bufferOf (ip6Header conn l3.length ++ l3) 0 = 0x60 := rfl
  have h6 : bufferOf (ip6Header conn l3.length ++ l3) 6 = ipprotoUdp := nexthdr_udp hproto
  have h4 : wordAt (ip6Header conn l3.length ++ l3) 4 = l3.length :=
    wordAt_append [0x60, 0, 0, 0] hlen ((ip6Header conn l3.length ++ l3).drop 6)
  generalize ip6Header conn l3.length ++ l3 = bytes at *
  have h40 : ipv6HeaderLen = 40 := rfl
  have h20 : ipv4HeaderLen = 20 := rfl
  rw [← be16_bufferOf (by omega)] at h4
  have hd' : ip6At (bufferOf bytes) 8 = conn.tuple.dstIp := by
    rw [ip6At, bytesAt_bufferOf (by omega), hd, ofNat_ip6Bytes]
  have hs' : ip6At (bufferOf bytes) 24 = conn.tuple.srcIp := by
    rw [ip6At, bytesAt_bufferOf (by omega), hs, ofNat_ip6Bytes]
  have hn4 : ¬(0x60 : UInt8).toNat / 16 = 4 := by decide
  have hn6 : (0x60 : UInt8).toNat / 16 = 6 := rfl
  have hup : ¬(!isUpperLayer ipprotoUdp) = true := by decide
  rw [parseIpHeader, h0, if_neg (by omega), if_neg hn4, if_pos hn6, h6, if_neg (by omega),
    if_neg hup, if_neg (by decide), h4, hd', hs', hl, Nat.min_self]

/-! ## What is written and read back -/

/-- Source and destination exchanged. -/
def Zdtun5Tuple.swap (t : Zdtun5Tuple) : Zdtun5Tuple :=
  { t with srcIp := t.dstIp, dstIp := t.srcIp, srcPort := t.dstPort, dstPort := t.srcPort }

/-- The length of an IP header without options. -/
def ipHeaderLen (ipver : IpVer) : Nat := if ipver = .v4 then ipv4HeaderLen else ipv6HeaderLen

/-- What a parser returns for a tuple. -/
structure Zdtun5Tuple.Parsed (t : Zdtun5Tuple) : Prop where
  src : t.ipver = .v4 → IsIp4 t.srcIp
  dst : t.ipver = .v4 → IsIp4 t.dstIp
  srcPort : t.srcPort < 0x10000
  dstPort : t.dstPort < 0x10000

/-- A UDP packet of this many bytes, as it is parsed. -/
def udpPkt (t : Zdtun5Tuple) (len : Nat) : ZdtunPkt :=
  ⟨t, false, false, len, ipHeaderLen t.ipver, udpHeaderLen,
    len - ipHeaderLen t.ipver - udpHeaderLen⟩

theorem udpSegment_length (dns : List UInt8) (sum : Nat) :
    (udpSegment conn dns sum).length = udpHeaderLen + dns.length := by
  simp [udpSegment, store16, udpHeaderLen]
  omega

theorem udpSegment_dstPort (dns : List UInt8) (sum : Nat) (h : conn.tuple.dstPort < 0x10000) :
    wordAt (udpSegment conn dns sum) 0 = conn.tuple.dstPort :=
  wordAt_append [] h ((udpSegment conn dns sum).drop 2)

theorem udpSegment_srcPort (dns : List UInt8) (sum : Nat) (h : conn.tuple.srcPort < 0x10000) :
    wordAt (udpSegment conn dns sum) 2 = conn.tuple.srcPort :=
  wordAt_append (u16 conn.tuple.dstPort) h ((udpSegment conn dns sum).drop 4)

theorem udpSegment_len (dns : List UInt8) (sum : Nat) (h : udpHeaderLen + dns.length < 0x10000) :
    wordAt (udpSegment conn dns sum) 4 = udpHeaderLen + dns.length :=
  wordAt_append (u16 conn.tuple.dstPort ++ u16 conn.tuple.srcPort) h
    ((udpSegment conn dns sum).drop 6)

/-- The checksum that the IPv4 header gets. -/
def ip4Check (conn : SpoofConn) (l3Len : Nat) : Nat :=
  complement16 (calcChecksum 0 (conn.ip4Header l3Len 0))

theorem zdtunMakeIphdr_v4 (h : conn.sockIpver = .v4) (l3Len : Nat) :
    conn.zdtunMakeIphdr l3Len = conn.ip4Header l3Len (ip4Check conn l3Len) := if_pos h

theorem zdtunMakeIphdr_v6 (h : conn.sockIpver = .v6) (l3Len : Nat) :
    conn.zdtunMakeIphdr l3Len = ip6Header conn l3Len := if_neg (by simp [h])

theorem zdtunMakeIphdr_length (l3Len : Nat) :
    (conn.zdtunMakeIphdr l3Len).length = ipHeaderLen conn.sockIpver := by
  cases h : conn.sockIpver with
  | v4 => rw [zdtunMakeIphdr_v4 h, ip4Header_length]; rfl
  | v6 => rw [zdtunMakeIphdr_v6 h, ip6Header_length]; rfl

/-- The UDP segment of the packet, checksum and all. -/
def spoofedSegment (conn : SpoofConn) (dns : List UInt8) : List UInt8 :=
  udpSegment conn dns (conn.zdtunL3Checksum (conn.zdtunMakeIphdr (udpHeaderLen + dns.length))
    (udpSegment conn dns 0))

theorem spoofedPacket_eq (conn : SpoofConn) (dns : List UInt8) : spoofedPacket conn dns =
    conn.zdtunMakeIphdr (spoofedSegment conn dns).length ++ spoofedSegment conn dns := by
  rw [spoofedSegment, udpSegment_length]
  rfl

theorem spoofedSegment_length (conn : SpoofConn) (dns : List UInt8) :
    (spoofedSegment conn dns).length = udpHeaderLen + dns.length := udpSegment_length dns _

theorem spoofedPacket_length (conn : SpoofConn) (dns : List UInt8) :
    (spoofedPacket conn dns).length = ipHeaderLen conn.sockIpver + (udpHeaderLen + dns.length) := by
  rw [spoofedPacket_eq, List.length_append, zdtunMakeIphdr_length, spoofedSegment_length]

/-- The header that is written is read back with source and destination swapped. -/
theorem parseIpHeader_spoofed (l3 : List UInt8) (ht : conn.tuple.Parsed)
    (hproto : conn.tuple.ipproto = ipprotoUdp) (hver : conn.sockIpver = conn.tuple.ipver)
    (hlen : l3.length + ipv6HeaderLen < 0x10000) : ∃ frag, frag % 0x4000 = 0 ∧
      parseIpHeader (bufferOf (conn.zdtunMakeIphdr l3.length ++ l3))
        (conn.zdtunMakeIphdr l3.length ++ l3).length =
      .ok ⟨conn.tuple.dstIp, conn.tuple.srcIp, conn.tuple.ipver, ipprotoUdp,
        ipHeaderLen conn.tuple.ipver, l3.length + ipHeaderLen conn.tuple.ipver, frag⟩ := by
  have h40 : ipv6HeaderLen = 40 := rfl
  have h20 : ipv4HeaderLen = 20 := rfl
  cases h : conn.tuple.ipver with
  | v4 =>
    rw [zdtunMakeIphdr_v4 (hver.trans h)]
    refine ⟨0x4000, rfl, ?_⟩
    rw [parseIpHeader_ip4 _ (ht.src h) (ht.dst h) (by omega), hproto]
    rfl
  | v6 =>
    rw [zdtunMakeIphdr_v6 (hver.trans h)]
    refine ⟨0, rfl, ?_⟩
    rw [parseIpHeader_ip6 l3 hproto (by omega)]
    rfl

/-- Where the socket has the version of the packet, the packet that is written parses as a UDP
packet with source and destination swapped. -/
theorem spoofedPacket_parsed {dns : List UInt8} (ht : conn.tuple.Parsed)
    (hproto : conn.tuple.ipproto = ipprotoUdp) (hver : conn.sockIpver = conn.tuple.ipver)
    (hlen : udpHeaderLen + dns.length + ipv6HeaderLen < 0x10000) (ids : FragPorts) :
    zdtunParsePkt ids (bufferOf (spoofedPacket conn dns)) (spoofedPacket conn dns).length =
      .ok (udpPkt conn.tuple.swap (spoofedPacket conn dns).length, ids) := by
  have hseg := spoofedSegment_length conn dns
  have hl := spoofedPacket_length conn dns
  obtain ⟨frag, hfrag, hip⟩ := parseIpHeader_spoofed (spoofedSegment conn dns) ht hproto hver
    (by omega)
  rw [← spoofedPacket_eq] at hip
  have hports : ∀ i, i + 2 ≤ udpHeaderLen → be16 (bufferOf (spoofedPacket conn dns))
      (ipHeaderLen conn.tuple.ipver + i) = wordAt (spoofedSegment conn dns) i := by
    intro i hi
    rw [be16_bufferOf (by rw [hl, hver]; omega), spoofedPacket_eq, ← hver,
      ← zdtunMakeIphdr_length (spoofedSegment conn dns).length, wordAt_append_right]
  have h0 := hports 0 (by decide)
  have h2 := hports 2 (by decide)
  rw [Nat.add_zero] at h0
  rw [spoofedSegment, udpSegment_dstPort _ _ ht.dstPort] at h0
  rw [spoofedSegment, udpSegment_srcPort _ _ ht.srcPort] at h2
  rw [zdtunParsePkt_udp hip hfrag rfl (by rw [hseg]; simp; omega)]
  have hpkt : (spoofedSegment conn dns).length + ipHeaderLen conn.tuple.ipver =
      (spoofedPacket conn dns).length := by
    rw [hl, hseg, hver, Nat.add_comm]
  dsimp only
  rw [h0, h2, hpkt, udpPkt, Zdtun5Tuple.swap, hproto]

/-! ## Checksums -/

theorem wordSum_ip4Header (l3Len check : Nat) : wordSum (conn.ip4Header l3Len check) =
    wordSum (conn.ip4Header l3Len 0) + wordSum (store16 check) := by
  have hsplit : ∀ check, wordSum (conn.ip4Header l3Len check) =
      wordSum ([0x45, 0] ++ u16 (l3Len + ipv4HeaderLen) ++ [0, 0] ++ u16 0x4000 ++
        [64, conn.tuple.ipproto]) + (wordSum (store16 check) +
          wordSum (ip4Bytes conn.tuple.dstIp ++ ip4Bytes conn.tuple.srcIp)) := by
    intro check
    rw [← wordSum_append (by simp [store16]), ← wordSum_append (by simp)]
    simp [SpoofConn.ip4Header, SpoofConn.ip4Start]
  have hz : wordSum (store16 0) = 0 := rfl
  rw [hsplit, hsplit 0, hz]
  omega

theorem ip4Header_sum_ne_zero (l3Len check : Nat) : wordSum (conn.ip4Header l3Len check) ≠ 0 := by
  have h : 0x4500 ≤ wordSum (conn.ip4Header l3Len check) := Nat.le_add_right 0x4500 _
  omega

/-- The checksum of the IPv4 header verifies. -/
theorem ip4Header_verifies (l3Len : Nat) :
    Verifies (conn.ip4Header l3Len (ip4Check conn l3Len)) := by
  refine ⟨ip4Header_sum_ne_zero _ _, ?_⟩
  obtain ⟨hlt, hmod, -⟩ := calcChecksum_spec 0 (conn.ip4Header l3Len 0)
  rw [Nat.zero_add] at hmod
  rw [wordSum_ip4Header]
  exact complement_sum hlt hmod

/-- The pseudo header that the UDP checksum of a packet covers. -/
def udpPseudoHeader (ipver : IpVer) (packet : List UInt8) : List UInt8 :=
  match ipver with
  | .v4 => (packet.drop 12).take 8 ++ [0, ipprotoUdp] ++
      u16 (packet.length - ipHeaderLen .v4)
  | .v6 => (packet.drop 8).take 32 ++ u32 (packet.length - ipHeaderLen .v6) ++
      [0, 0, 0, ipprotoUdp]

theorem wordSum_udpSegment (dns : List UInt8) (sum : Nat) : wordSum (udpSegment conn dns sum) =
    wordSum (udpSegment conn dns 0) + wordSum (store16 sum) := by
  have hsplit : ∀ sum, wordSum (udpSegment conn dns sum) =
      wordSum (u16 conn.tuple.dstPort ++ u16 conn.tuple.srcPort ++
        u16 (udpHeaderLen + dns.length)) + (wordSum (store16 sum) + wordSum dns) := by
    intro sum
    rw [← wordSum_append (by simp [store16]), ← wordSum_append (by simp)]
    simp [udpSegment]
  have hz : wordSum (store16 0) = 0 := rfl
  rw [hsplit, hsplit 0, hz]
  omega

/-- The sum of a segment without its checksum. -/
theorem wordSum_udpSegment_zero {dns : List UInt8} (ht : conn.tuple.Parsed)
    (hlen : udpHeaderLen + dns.length < 0x10000) : wordSum (udpSegment conn dns 0) =
      conn.tuple.dstPort + conn.tuple.srcPort + (udpHeaderLen + dns.length) + wordSum dns := by
  have h : udpSegment conn dns 0 = u16 conn.tuple.dstPort ++ (u16 conn.tuple.srcPort ++
      (u16 (udpHeaderLen + dns.length) ++ (u16 0 ++ dns))) := by
    simp [udpSegment, store16, u16]
  rw [h, wordSum_u16_append ht.dstPort, wordSum_u16_append ht.srcPort, wordSum_u16_append hlen,
    wordSum_u16_append (by decide)]
  omega

/-- The sum of the addresses of a header. -/
def addrSum (conn : SpoofConn) : Nat :=
  match conn.sockIpver with
  | .v4 => wordSum (ip4Bytes conn.tuple.dstIp ++ ip4Bytes conn.tuple.srcIp)
  | .v6 => wordSum (ip6Bytes conn.tuple.dstIp ++ ip6Bytes conn.tuple.srcIp)

theorem ip4Header_addrs (conn : SpoofConn) (l3Len check : Nat) (rest : List UInt8) :
    ((conn.ip4Header l3Len check ++ rest).drop 12).take 8 =
      ip4Bytes conn.tuple.dstIp ++ ip4Bytes conn.tuple.srcIp := by
  have h := take_drop_append (conn.ip4Start l3Len check)
    (ip4Bytes conn.tuple.dstIp ++ ip4Bytes conn.tuple.srcIp) rest
  rw [List.length_append, ip4Bytes_length, ip4Bytes_length, ← List.append_assoc] at h
  exact h

theorem ip6Header_addrs (conn : SpoofConn) (l3Len : Nat) (rest : List UInt8) :
    ((ip6Header conn l3Len ++ rest).drop 8).take 32 =
      ip6Bytes conn.tuple.dstIp ++ ip6Bytes conn.tuple.srcIp := by
  have h := take_drop_append (conn.ip6Start l3Len)
    (ip6Bytes conn.tuple.dstIp ++ ip6Bytes conn.tuple.srcIp) rest
  rw [List.length_append, ip6Bytes_length, ip6Bytes_length, ← List.append_assoc] at h
  exact h

/-- The pseudo header that is summed up has the sum of the one that should be: the length stands
in another of its words over IPv6. -/
theorem wordSum_pseudoHeader {len : Nat} (hproto : conn.tuple.ipproto = ipprotoUdp)
    (hlen : len < 0x10000) : wordSum (conn.pseudoHeader (conn.zdtunMakeIphdr len) len) =
      addrSum conn + 17 + len := by
  have h17 : wordSum [0, ipprotoUdp] = 17 := rfl
  cases h : conn.sockIpver with
  | v4 =>
    have ha := ip4Header_addrs conn len (ip4Check conn len) []
    rw [List.append_nil] at ha
    rw [SpoofConn.pseudoHeader, if_pos h, zdtunMakeIphdr_v4 h, ha, hproto, addrSum, h,
      wordSum_append (by simp), wordSum_append (by simp), h17, wordSum_u16 hlen]
  | v6 =>
    have ha := ip6Header_addrs conn len []
    rw [List.append_nil] at ha
    have hl : ((ip6Header conn len).drop 4).take 2 = u16 len := rfl
    have hn : wordSum [0, 0, 0, 0, 0, conn.nexthdr] = 17 := by rw [nexthdr_udp hproto]; rfl
    rw [SpoofConn.pseudoHeader, if_neg (by simp [h]), zdtunMakeIphdr_v6 h, ha, hl, addrSum, h,
      wordSum_append (by simp), wordSum_append (by simp), wordSum_u16 hlen, hn]
    dsimp only
    omega

theorem wordSum_udpPseudoHeader {l3 : List UInt8} (hlen : l3.length < 0x10000) :
    wordSum (udpPseudoHeader conn.sockIpver (conn.zdtunMakeIphdr l3.length ++ l3)) =
      addrSum conn + 17 + l3.length := by
  have h17 : wordSum [0, ipprotoUdp] = 17 := rfl
  have hl : (conn.zdtunMakeIphdr l3.length ++ l3).length - ipHeaderLen conn.sockIpver =
      l3.length := by
    rw [List.length_append, zdtunMakeIphdr_length, Nat.add_sub_cancel_left]
  unfold udpPseudoHeader
  cases h : conn.sockIpver with
  | v4 =>
    rw [h] at hl
    dsimp only
    rw [hl, zdtunMakeIphdr_v4 h, ip4Header_addrs, addrSum, h, wordSum_append (by simp),
      wordSum_append (by simp), h17, wordSum_u16 hlen]
  | v6 =>
    rw [h] at hl
    dsimp only
    have hn : wordSum [0, 0, 0, ipprotoUdp] = 17 := rfl
    rw [hl, zdtunMakeIphdr_v6 h, ip6Header_addrs, addrSum, h, wordSum_append (by simp),
      wordSum_append (by simp), hn, u32, Nat.div_eq_of_lt hlen, wordSum_u16_append (by decide),
      wordSum_u16 hlen]
    dsimp only
    omega

theorem udpPseudoHeader_length_even (packet : List UInt8) (ipver : IpVer)
    (h : ipHeaderLen ipver ≤ packet.length) : (udpPseudoHeader ipver packet).length % 2 = 0 := by
  cases ipver with
  | v4 =>
    have h20 : 20 ≤ packet.length := h
    simp [udpPseudoHeader]
    omega
  | v6 =>
    have h40 : 40 ≤ packet.length := h
    simp [udpPseudoHeader]
    omega

/-- The sum of the words that the UDP checksum covers, without the checksum. -/
def udpTotal (conn : SpoofConn) (dns : List UInt8) : Nat :=
  addrSum conn + 17 + 2 * (udpHeaderLen + dns.length) + conn.tuple.dstPort + conn.tuple.srcPort +
    wordSum dns

/-- The UDP checksum that is written. -/
def udpCheck (conn : SpoofConn) (dns : List UInt8) : Nat :=
  conn.zdtunL3Checksum (conn.zdtunMakeIphdr (udpHeaderLen + dns.length)) (udpSegment conn dns 0)

/-- The UDP checksum completes the sum, and is zero exactly if nothing was missing. -/
theorem udpCheck_spec {dns : List UInt8} (ht : conn.tuple.Parsed)
    (hproto : conn.tuple.ipproto = ipprotoUdp) (hlen : udpHeaderLen + dns.length < 0x10000) :
    udpCheck conn dns < 0x10000 ∧
      udpTotal conn dns + wordSum (store16 (udpCheck conn dns)) ≡ 0 [MOD 0xffff] ∧
      (udpCheck conn dns = 0 ↔ udpTotal conn dns ≡ 0 [MOD 0xffff]) := by
  obtain ⟨-, hmod1, -⟩ := calcChecksum_spec 0 (udpSegment conn dns 0)
  obtain ⟨hlt, hmod, hz⟩ := calcChecksum_spec (calcChecksum 0 (udpSegment conn dns 0))
    (conn.pseudoHeader (conn.zdtunMakeIphdr (udpHeaderLen + dns.length))
      (udpHeaderLen + dns.length))
  rw [wordSum_pseudoHeader hproto hlen] at hmod hz
  rw [Nat.zero_add, wordSum_udpSegment_zero ht hlen] at hmod1
  rw [udpCheck, SpoofConn.zdtunL3Checksum, udpSegment_length]
  generalize calcChecksum (calcChecksum 0 (udpSegment conn dns 0)) _ = sum at hlt hmod hz ⊢
  have htotal : sum ≡ 256 * udpTotal conn dns [MOD 0xffff] := by
    refine hmod.trans ((hmod1.add_right _).trans ?_)
    rw [udpTotal, ← Nat.mul_add]
    refine Nat.ModEq.mul_left 256 ?_
    rw [Nat.ModEq]
    congr 1
    omega
  have hne : sum ≠ 0 := by
    intro h0
    have h17 := (hz.mp h0).2
    omega
  refine ⟨?_, complement_sum hlt htotal, complement_eq_zero_iff hlt htotal hne⟩
  unfold complement16
  omega

/-! ## The packet as a whole -/

theorem spoofedPacket_drop (conn : SpoofConn) (dns : List UInt8) :
    (spoofedPacket conn dns).drop (ipHeaderLen conn.sockIpver) = spoofedSegment conn dns := by
  rw [spoofedPacket_eq, ← zdtunMakeIphdr_length (spoofedSegment conn dns).length, List.drop_left]

/-- Behind the headers there is the DNS message. -/
theorem spoofedPacket_dns (conn : SpoofConn) (dns : List UInt8) :
    (spoofedPacket conn dns).drop (ipHeaderLen conn.sockIpver + udpHeaderLen) = dns := by
  rw [← List.drop_drop, spoofedPacket_drop]
  rfl

theorem spoofedPacket_take (conn : SpoofConn) (dns : List UInt8) :
    (spoofedPacket conn dns).take (ipHeaderLen conn.sockIpver) =
      conn.zdtunMakeIphdr (spoofedSegment conn dns).length := by
  rw [spoofedPacket_eq, ← zdtunMakeIphdr_length (spoofedSegment conn dns).length, List.take_left]

/-- The length field of the IP header. -/
theorem spoofedPacket_ipLen (conn : SpoofConn) {dns : List UInt8}
    (hlen : udpHeaderLen + dns.length + ipv6HeaderLen < 0x10000) :
    match conn.sockIpver with
    | .v4 => wordAt (spoofedPacket conn dns) 2 = (spoofedPacket conn dns).length
    | .v6 => wordAt (spoofedPacket conn dns) 4 + ipv6HeaderLen =
        (spoofedPacket conn dns).length := by
  have hl := spoofedPacket_length conn dns
  have heq := spoofedPacket_eq conn dns
  rw [spoofedSegment_length] at heq
  have h40 : ipv6HeaderLen = 40 := rfl
  have h20 : ipv4HeaderLen = 20 := rfl
  cases h : conn.sockIpver with
  | v4 =>
    rw [h] at hl
    rw [zdtunMakeIphdr_v4 h] at heq
    have hw : wordAt (spoofedPacket conn dns) 2 = udpHeaderLen + dns.length + ipv4HeaderLen := by
      rw [heq]
      exact wordAt_append [0x45, 0] (by omega) _
    dsimp only
    rw [hw, hl, Nat.add_comm]
    rfl
  | v6 =>
    rw [h] at hl
    rw [zdtunMakeIphdr_v6 h] at heq
    have hw : wordAt (spoofedPacket conn dns) 4 = udpHeaderLen + dns.length := by
      rw [heq]
      exact wordAt_append [0x60, 0, 0, 0] (by omega) _
    dsimp only
    rw [hw, hl, Nat.add_comm]
    rfl

/-- The length field of the UDP header. -/
theorem spoofedPacket_udpLen (conn : SpoofConn) {dns : List UInt8}
    (hlen : udpHeaderLen + dns.length < 0x10000) :
    wordAt (spoofedPacket conn dns) (ipHeaderLen conn.sockIpver + 4) =
      (spoofedPacket conn dns).length - ipHeaderLen conn.sockIpver := by
  rw [spoofedPacket_length, Nat.add_sub_cancel_left, spoofedPacket_eq,
    ← zdtunMakeIphdr_length (spoofedSegment conn dns).length, wordAt_append_right]
  exact udpSegment_len dns _ hlen

theorem spoofedPacket_ip_verifies (dns : List UInt8) (h : conn.sockIpver = .v4) :
    Verifies ((spoofedPacket conn dns).take ipv4HeaderLen) := by
  have ht := spoofedPacket_take conn dns
  rw [h] at ht
  rw [show ipv4HeaderLen = ipHeaderLen .v4 from rfl, ht, zdtunMakeIphdr_v4 h]
  exact ip4Header_verifies _

/-- The UDP checksum verifies. -/
theorem spoofedPacket_udp_verifies {dns : List UInt8} (ht : conn.tuple.Parsed)
    (hproto : conn.tuple.ipproto = ipprotoUdp) (hlen : udpHeaderLen + dns.length < 0x10000) :
    Verifies (udpPseudoHeader conn.sockIpver (spoofedPacket conn dns) ++
      (spoofedPacket conn dns).drop (ipHeaderLen conn.sockIpver)) := by
  obtain ⟨-, hmod, -⟩ := udpCheck_spec ht hproto hlen
  have hsum : wordSum (udpPseudoHeader conn.sockIpver (spoofedPacket conn dns) ++
      (spoofedPacket conn dns).drop (ipHeaderLen conn.sockIpver)) =
        udpTotal conn dns + wordSum (store16 (udpCheck conn dns)) := by
    have hle : ipHeaderLen conn.sockIpver ≤ (spoofedPacket conn dns).length := by
      rw [spoofedPacket_length]
      omega
    have hseg : wordSum (spoofedSegment conn dns) =
        wordSum (udpSegment conn dns 0) + wordSum (store16 (udpCheck conn dns)) :=
      wordSum_udpSegment dns _
    rw [wordSum_append (udpPseudoHeader_length_even _ _ hle), spoofedPacket_drop, hseg,
      wordSum_udpSegment_zero ht hlen, spoofedPacket_eq,
      wordSum_udpPseudoHeader (by rw [spoofedSegment_length]; exact hlen), spoofedSegment_length,
      udpTotal]
    omega
  rw [Verifies, hsum]
  refine ⟨?_, hmod⟩
  unfold udpTotal
  omega

/-- The field of the UDP checksum is zero exactly if the words it covers add up to zero. -/
theorem spoofedPacket_checksum_zero_iff {dns : List UInt8} (ht : conn.tuple.Parsed)
    (hproto : conn.tuple.ipproto = ipprotoUdp) (hlen : udpHeaderLen + dns.length < 0x10000) :
    wordAt (spoofedPacket conn dns) (ipHeaderLen conn.sockIpver + 6) = 0 ↔
      udpTotal conn dns ≡ 0 [MOD 0xffff] := by
  obtain ⟨hlt, -, hz⟩ := udpCheck_spec ht hproto hlen
  rw [← hz, spoofedPacket_eq, ← zdtunMakeIphdr_length (spoofedSegment conn dns).length,
    wordAt_append_right]
  have hw : wordAt (spoofedSegment conn dns) 6 = beNat (store16 (udpCheck conn dns)) := rfl
  rw [hw]
  simp only [store16, beNat, List.foldl_cons, List.foldl_nil, UInt8.toNat_ofNat']
  omega

/-! ## What any parsed packet has -/

section

variable {ids ids' : FragPorts} {buf : Nat → UInt8} {n : Nat} {pkt : ZdtunPkt} {ip : IpHeader}

/-- A packet that parses has an IP header that parses, and its version and addresses. -/
theorem zdtunParsePkt_ip (h : zdtunParsePkt ids buf n = .ok (pkt, ids')) :
    ∃ ip, parseIpHeader buf n = .ok ip ∧ pkt.tuple.ipver = ip.ipver ∧
      pkt.tuple.srcIp = ip.srcIp ∧ pkt.tuple.dstIp = ip.dstIp ∧
      (pkt.isFragment = false → ∃ l4Len,
        parseL4Header buf ip = .ok (l4Len, pkt.tuple.srcPort, pkt.tuple.dstPort)) := by
  unfold zdtunParsePkt at h
  cases hip : parseIpHeader buf n with
  | error e => simp [hip, bind, Except.bind] at h
  | ok ip =>
    simp only [hip, bind, Except.bind, pure, Except.pure] at h
    refine ⟨ip, rfl, ?_⟩
    split at h
    · obtain ⟨rfl, -⟩ := Prod.mk.inj (Except.ok.inj h)
      exact ⟨rfl, rfl, rfl, fun hf => by simp at hf⟩
    · cases hl4 : parseL4Header buf ip with
      | error e => simp [hl4] at h
      | ok r =>
        obtain ⟨l4Len, sport, dport⟩ := r
        simp only [hl4] at h
        obtain ⟨rfl, -⟩ := Prod.mk.inj (Except.ok.inj h)
        exact ⟨rfl, rfl, rfl, fun _ => ⟨l4Len, rfl⟩⟩

/-- The version of a packet is in its first byte, and IPv4 addresses are IPv4 addresses. -/
theorem parseIpHeader_ok (h : parseIpHeader buf n = .ok ip) :
    (ip.ipver = .v4 ↔ (buf 0).toNat / 16 = 4) ∧
      (ip.ipver = .v4 → IsIp4 ip.srcIp ∧ IsIp4 ip.dstIp) := by
  unfold parseIpHeader at h
  split at h
  · simp at h
  split at h
  · rename_i h4
    dsimp only at h
    split at h
    · simp at h
    split at h
    · simp at h
    obtain rfl := Except.ok.inj h
    exact ⟨iff_of_true rfl h4, fun _ => ⟨isIp4_ip4At _ _, isIp4_ip4At _ _⟩⟩
  · rename_i h4
    split at h
    · split at h
      · simp at h
      split at h
      · simp at h
      obtain rfl := Except.ok.inj h
      exact ⟨iff_of_false (by simp) h4, fun hv => by simp at hv⟩
    · simp at h

theorem be16_lt (buf : Nat → UInt8) (i : Nat) : be16 buf i < 0x10000 := by
  have h1 := (buf i).toNat_lt
  have h2 := (buf (i + 1)).toNat_lt
  unfold be16
  omega

theorem parseL4Header_ports {l4Len sport dport : Nat}
    (h : parseL4Header buf ip = .ok (l4Len, sport, dport)) :
    sport < 0x10000 ∧ dport < 0x10000 := by
  have hlt := be16_lt buf
  unfold parseL4Header at h
  dsimp only at h
  split at h
  · split at h
    · simp at h
    split at h
    · simp at h
    obtain ⟨-, rfl, rfl⟩ := by simpa using h
    exact ⟨hlt _, hlt _⟩
  split at h
  · split at h
    · simp at h
    obtain ⟨-, rfl, rfl⟩ := by simpa using h
    exact ⟨hlt _, hlt _⟩
  split at h
  · split at h
    · simp at h
    split at h
    · simp at h
    split at h
    · obtain ⟨-, rfl, rfl⟩ := by simpa using h
      exact ⟨hlt _, by decide⟩
    · obtain ⟨-, rfl, rfl⟩ := by simpa using h
      exact ⟨by decide, hlt _⟩
  · simp at h

/-- The tuple of an unfragmented packet. -/
theorem zdtunParsePkt_tuple (h : zdtunParsePkt ids buf n = .ok (pkt, ids'))
    (hf : pkt.isFragment = false) : pkt.tuple.Parsed := by
  obtain ⟨ip, hip, hver, hsrc, hdst, hl4⟩ := zdtunParsePkt_ip h
  obtain ⟨l4Len, hports⟩ := hl4 hf
  obtain ⟨hs, hd⟩ := parseL4Header_ports hports
  refine ⟨fun hv => ?_, fun hv => ?_, hs, hd⟩
  · exact hsrc ▸ ((parseIpHeader_ok hip).2 (hver ▸ hv)).1
  · exact hdst ▸ ((parseIpHeader_ok hip).2 (hver ▸ hv)).2

end

/-- Whatever a packet with the header of `zdtun_make_iphdr` parses as has the IP version of the
socket. -/
theorem zdtunMakeIphdr_ipver {len : Nat} {l3 : List UInt8} {ids ids' : FragPorts} {n : Nat}
    {pkt : ZdtunPkt}
    (h : zdtunParsePkt ids (bufferOf (conn.zdtunMakeIphdr len ++ l3)) n = .ok (pkt, ids')) :
    pkt.tuple.ipver = conn.sockIpver := by
  obtain ⟨ip, hip, hver, -⟩ := zdtunParsePkt_ip h
  have hv4 := (parseIpHeader_ok hip).1
  rw [← hver] at hv4
  cases hs : conn.sockIpver with
  | v4 =>
    have h0 : bufferOf (conn.zdtunMakeIphdr len ++ l3) 0 = 0x45 := by
      rw [zdtunMakeIphdr_v4 hs]
      rfl
    rw [h0] at hv4
    exact hv4.mpr (by decide)
  | v6 =>
    have h0 : bufferOf (conn.zdtunMakeIphdr len ++ l3) 0 = 0x60 := by
      rw [zdtunMakeIphdr_v6 hs]
      rfl
    rw [h0] at hv4
    cases hp : pkt.tuple.ipver with
    | v4 => exact absurd (hv4.mp hp) (by decide)
    | v6 => rfl

theorem spoofedPacket_ipver {dns : List UInt8} {ids ids' : FragPorts} {n : Nat} {pkt : ZdtunPkt}
    (h : zdtunParsePkt ids (bufferOf (spoofedPacket conn dns)) n = .ok (pkt, ids')) :
    pkt.tuple.ipver = conn.sockIpver := by
  rw [spoofedPacket_eq] at h
  exact zdtunMakeIphdr_ipver h

end SecureGuard.Native
