import SecureGuard.Lib.Loops
import SecureGuard.Lib.NetworkOrder
import SecureGuard.Native.State

/-! # Spoofed DNS replies (`spoof_dns_reply`)

The reply to a query that is blocked, byte by byte, with the parts of zdtun that write and read
packets: `zdtun_make_iphdr`, `zdtun_l3_checksum`, `zdtun_parse_pkt`. A buffer is a function
from offsets to bytes and goes on behind the packet with whatever it holds there. The host is
little endian; a `uint16_t` that has been through `htons` is written by `u16`, another one by
`store16`. -/

namespace SecureGuard.Native

open Loops NetworkOrder

/-! ## Numbers and addresses as bytes -/

/-- A 16 bit number as the host stores it. -/
def store16 (n : Nat) : List UInt8 := [UInt8.ofNat n, UInt8.ofNat (n / 256)]

/-- `n` bytes from offset `i` on. -/
def bytesAt (buf : Nat → UInt8) (i n : Nat) : List UInt8 := (List.range n).map fun k => buf (i + k)

def ip4Bytes (ip : ZdtunIp) : List UInt8 :=
  (List.range 4).map fun k => UInt8.ofNat (ip.toNat >>> (120 - 8 * k))

def ip6Bytes (ip : ZdtunIp) : List UInt8 :=
  (List.range 16).map fun k => UInt8.ofNat (ip.toNat >>> (120 - 8 * k))

def ip4At (buf : Nat → UInt8) (i : Nat) : ZdtunIp :=
  BitVec.ofNat 128 (beNat (bytesAt buf i 4) <<< 96)

def ip6At (buf : Nat → UInt8) (i : Nat) : ZdtunIp := BitVec.ofNat 128 (beNat (bytesAt buf i 16))

/-! ## Packets (`zdtun.c`) -/

def ipprotoIcmp : UInt8 := 1
def ipprotoTcp : UInt8 := 6
def ipprotoUdp : UInt8 := 17
def ipprotoIcmpv6 : UInt8 := 58

def ipv4HeaderLen : Nat := 20
def ipv6HeaderLen : Nat := 40
def tcpHeaderLen : Nat := 20
def udpHeaderLen : Nat := 8
def icmpHeaderLen : Nat := 8

/-- `zdtun_5tuple_t` as the parser fills it in, with the number of the protocol. -/
structure Zdtun5Tuple where
  srcIp : ZdtunIp
  dstIp : ZdtunIp
  srcPort : Nat
  dstPort : Nat
  ipver : IpVer
  ipproto : UInt8
deriving DecidableEq, Repr

/-- `zdtun_pkt_t`; the pointers into the buffer follow from the lengths. -/
structure ZdtunPkt where
  tuple : Zdtun5Tuple
  isFragment : Bool
  isFirstFragment : Bool
  len : Nat
  ipHdrLen : Nat
  l4HdrLen : Nat
  l7Len : Nat
deriving DecidableEq, Repr

/-- The payload `pkt->l7` points to. -/
def ZdtunPkt.l7 (pkt : ZdtunPkt) (buf : Nat → UInt8) (i : Nat) : UInt8 :=
  buf (pkt.ipHdrLen + pkt.l4HdrLen + i)

/-- The ports of first fragments by IP id (`id2ports`). -/
abbrev FragPorts := Nat → Nat × Nat

/-- What `zdtun_parse_pkt` knows after the IP header. -/
structure IpHeader where
  srcIp : ZdtunIp
  dstIp : ZdtunIp
  ipver : IpVer
  ipproto : UInt8
  hdrLen : Nat
  pktLen : Nat
  fragOff : Nat

/-- `is_upper_layer`. -/
def isUpperLayer (proto : UInt8) : Bool :=
  proto == ipprotoTcp || proto == ipprotoUdp || proto == ipprotoIcmp || proto == ipprotoIcmpv6

/-- The IP header; the packet ends where the header says, if not before. -/
def parseIpHeader (buf : Nat → UInt8) (pktLen : Nat) : Except Int IpHeader :=
  if pktLen < ipv4HeaderLen then .error (-1)
  else if (buf 0).toNat / 16 = 4 then
    let hdrLen := (buf 0).toNat % 16 * 4
    let totLen := be16 buf 2
    if pktLen < hdrLen then .error (-1)
    else if totLen < hdrLen then .error (-1)
    else .ok ⟨ip4At buf 12, ip4At buf 16, .v4, buf 9, hdrLen, min pktLen totLen, be16 buf 6⟩
  else if (buf 0).toNat / 16 = 6 then
    if pktLen < ipv6HeaderLen then .error (-1)
    else if !isUpperLayer (buf 6) then .error (-1)
    else
      .ok ⟨ip6At buf 8, ip6At buf 24, .v6, if buf 6 = ipprotoIcmpv6 then ipprotoIcmp else buf 6,
        ipv6HeaderLen, min pktLen (be16 buf 4 + ipv6HeaderLen), 0⟩
  else .error (-1)

/-- The header behind it: its length, the source and the destination port. -/
def parseL4Header (buf : Nat → UInt8) (ip : IpHeader) : Except Int (Nat × Nat × Nat) :=
  let l4 := ip.hdrLen
  if ip.ipproto = ipprotoTcp then
    if ip.pktLen < ip.hdrLen + tcpHeaderLen then .error (-1)
    else
      let tcpLen := (buf (l4 + 12)).toNat / 16 * 4
      if ip.pktLen < ip.hdrLen + tcpLen then .error (-1)
      else .ok (tcpLen, be16 buf l4, be16 buf (l4 + 2))
  else if ip.ipproto = ipprotoUdp then
    if ip.pktLen < ip.hdrLen + udpHeaderLen then .error (-1)
    else .ok (udpHeaderLen, be16 buf l4, be16 buf (l4 + 2))
  else if ip.ipproto = ipprotoIcmp then
    if ip.pktLen < ip.hdrLen + icmpHeaderLen then .error (-1)
    else
      let type := buf l4
      let id := be16 buf (l4 + 4)
      if type ≠ 8 ∧ type ≠ 0 ∧ type ≠ 128 ∧ type ≠ 129 then .error (-2)
      else if type = 8 ∨ type = 128 then .ok (icmpHeaderLen, id, 0)
      else .ok (icmpHeaderLen, 0, id)
  else .error (-3)

/-- `zdtun_parse_pkt`, with the ports it notes of fragments. -/
def zdtunParsePkt (id2ports : FragPorts) (buf : Nat → UInt8) (pktLen : Nat) :
    Except Int (ZdtunPkt × FragPorts) := do
  let ip ← parseIpHeader buf pktLen
  let id := be16 buf 4
  let later := ip.fragOff % 0x2000 ≠ 0
  let more := ip.fragOff / 0x2000 % 2 = 1
  let tuple (sport dport : Nat) : Zdtun5Tuple :=
    ⟨ip.srcIp, ip.dstIp, sport, dport, ip.ipver, ip.ipproto⟩
  if later then
    let ports := id2ports id
    return (⟨tuple ports.1 ports.2, true, false, ip.pktLen, ip.hdrLen, 0, ip.pktLen - ip.hdrLen⟩,
      if more then id2ports else Function.update id2ports id (0, 0))
  else
    let (l4Len, sport, dport) ← parseL4Header buf ip
    return (⟨tuple sport dport, more, more, ip.pktLen, ip.hdrLen, l4Len,
        ip.pktLen - ip.hdrLen - l4Len⟩,
      if more then Function.update id2ports id (sport, dport) else id2ports)

/-! ## Checksums -/

/-- The 16 bit words as the host loads them, the last byte alone if their number is odd. -/
def hostWords : List UInt8 → Nat
  | [] => 0
  | [b] => b.toNat
  | b :: b' :: rest => b.toNat + b'.toNat * 256 + hostWords rest

/-- `while (sum >> 16) sum = (sum & 0xFFFF) + (sum >> 16)`. -/
def foldCarries (sum : Nat) : Nat :=
  if sum < 0x10000 then sum else foldCarries (sum % 0x10000 + sum / 0x10000)
termination_by sum
decreasing_by omega

/-- `calc_checksum`. The sum of 2^15 words fits into its `uint32_t`. -/
def calcChecksum (start : Nat) (bytes : List UInt8) : Nat := foldCarries (start + hostWords bytes)

/-- `~` of a `uint16_t`. -/
def complement16 (n : Nat) : Nat := 0xffff - n

/-! ## Connections -/

inductive ProxyMode
  | none
  | dnat (ipver : IpVer)
  | socks5 (ipver : IpVer)
deriving DecidableEq, Repr

/-- What the writing of packets reads of a `zdtun_conn_t`. -/
structure SpoofConn where
  tuple : Zdtun5Tuple
  proxyMode : ProxyMode
deriving DecidableEq, Repr

namespace SpoofConn

/-- `sock_ipver`. -/
def sockIpver (conn : SpoofConn) : IpVer :=
  match conn.proxyMode with
  | .none => conn.tuple.ipver
  | .dnat ipver => ipver
  | .socks5 ipver => ipver

/-- `zdtun_iphdr_len`. -/
def zdtunIphdrLen (conn : SpoofConn) : Nat :=
  if conn.sockIpver = .v4 then ipv4HeaderLen else ipv6HeaderLen

/-- The IPv4 header of `zdtun_make_iphdr` up to the addresses, with this checksum. -/
def ip4Start (conn : SpoofConn) (l3Len check : Nat) : List UInt8 :=
  [0x45, 0] ++ u16 (l3Len + ipv4HeaderLen) ++ [0, 0] ++ u16 0x4000 ++ [64, conn.tuple.ipproto] ++
    store16 check

def ip4Header (conn : SpoofConn) (l3Len check : Nat) : List UInt8 :=
  conn.ip4Start l3Len check ++ ip4Bytes conn.tuple.dstIp ++ ip4Bytes conn.tuple.srcIp

/-- The next header over IPv6. -/
def nexthdr (conn : SpoofConn) : UInt8 :=
  if conn.tuple.ipproto = ipprotoIcmp then ipprotoIcmpv6 else conn.tuple.ipproto

/-- The IPv6 header up to the addresses. -/
def ip6Start (conn : SpoofConn) (l3Len : Nat) : List UInt8 :=
  [0x60, 0, 0, 0] ++ u16 l3Len ++ [conn.nexthdr, 64]

/-- `zdtun_make_iphdr`. -/
def zdtunMakeIphdr (conn : SpoofConn) (l3Len : Nat) : List UInt8 :=
  if conn.sockIpver = .v4 then
    conn.ip4Header l3Len (complement16 (calcChecksum 0 (conn.ip4Header l3Len 0)))
  else conn.ip6Start l3Len ++ ip6Bytes conn.tuple.dstIp ++ ip6Bytes conn.tuple.srcIp

/-- The pseudo header of `zdtun_l3_checksum`. The 32 bit `ip6ph_len` takes over the 16 bit field
as it stands, so its bytes are followed by two zeros. -/
def pseudoHeader (conn : SpoofConn) (ip : List UInt8) (l3Len : Nat) : List UInt8 :=
  if conn.sockIpver = .v4 then
    (ip.drop 12).take 8 ++ [0, conn.tuple.ipproto] ++ u16 l3Len
  else
    (ip.drop 8).take 32 ++ (ip.drop 4).take 2 ++ [0, 0, 0, 0, 0, conn.nexthdr]

/-- `zdtun_l3_checksum`. -/
def zdtunL3Checksum (conn : SpoofConn) (ip l3 : List UInt8) : Nat :=
  complement16 (calcChecksum (calcChecksum 0 l3) (conn.pseudoHeader ip l3.length))

end SpoofConn

/-! ## The reply -/

/-- The locals of `spoof_dns_reply` while it looks for the end of the name, and the offsets of the
payload read so far. -/
structure NameScan where
  qlen : Nat
  remaining : Nat
  reads : List Nat

/-- Read `n` bytes of the payload at offset `i`. -/
def NameScan.read (s : NameScan) (i n : Nat) : NameScan :=
  { s with reads := s.reads ++ (List.range n).map (i + ·) }

/-- The offset of `queries[i]`. -/
def queriesAt (i : Nat) : Nat := dnsHeaderLen + i

section

variable (conn : SpoofConn) (l7 : Nat → UInt8)

/-- `while(remaining >= 5)`. -/
def nameScanRound (s : NameScan) : Option (NameScan ⊕ NameScan) :=
  if 5 ≤ s.remaining then
    let s := s.read (queriesAt s.qlen) 1
    if l7 (queriesAt s.qlen) = 0 then some (.inr s)
    else some (.inl { s with qlen := s.qlen + 1, remaining := s.remaining - 1 })
  else some (.inr s)

/-- The answer: a pointer to the question, type, class, TTL, the length of the address and an
address of zeros. -/
def spoofedAnswer (qtype : UInt8) : List UInt8 :=
  let alen := if qtype = 0x01 then 4 else 16
  [0xc0, 0x0c, 0x00, qtype, 0x00, 0x01, 0, 0, 0, 10, 0x00, UInt8.ofNat alen] ++
    List.replicate alen 0

/-- The DNS message of the reply. -/
def spoofedDns (qlen : Nat) : List UInt8 :=
  bytesAt l7 0 2 ++ u16 0x8180 ++ bytesAt l7 4 2 ++ bytesAt l7 4 2 ++ [0, 0, 0, 0] ++
    bytesAt l7 dnsHeaderLen (qlen + 5) ++ spoofedAnswer (l7 (queriesAt (qlen + 2)))

/-- The UDP header with this checksum and what it carries. -/
def udpSegment (dns : List UInt8) (sum : Nat) : List UInt8 :=
  u16 conn.tuple.dstPort ++ u16 conn.tuple.srcPort ++ u16 (udpHeaderLen + dns.length) ++
    store16 sum ++ dns

/-- The packet written to the tun. -/
def spoofedPacket (dns : List UInt8) : List UInt8 :=
  let iphdr := conn.zdtunMakeIphdr (udpHeaderLen + dns.length)
  iphdr ++ udpSegment conn dns (conn.zdtunL3Checksum iphdr (udpSegment conn dns 0))

/-- What a call has read of the payload, and the packet it has written unless it returned
false. -/
structure SpoofRun where
  reads : List Nat
  written : Option (List UInt8)

def NameScan.refuse (s : NameScan) : SpoofRun := ⟨s.reads, none⟩

/-- Read the byte at offset `i`, and return false where it is `bad`. -/
def NameScan.refuseIf (s : NameScan) (i : Nat) (bad : UInt8 → Bool)
    (next : NameScan → SpoofRun) : SpoofRun :=
  if bad (l7 i) then (s.read i 1).refuse else next (s.read i 1)

/-- The transaction id, the number of questions and the question are copied. -/
def NameScan.copy (s : NameScan) : NameScan :=
  ((s.read 0 2).read 4 2).read dnsHeaderLen (s.qlen + 5)

/-- From the end of the name on: the checks in their order, and the reply. -/
def spoofFrom (s : NameScan) : SpoofRun :=
  s.refuseIf l7 (queriesAt s.qlen) (· != 0) fun s =>
  s.refuseIf l7 (queriesAt (s.qlen + 1)) (· != 0) fun s =>
  s.refuseIf l7 (queriesAt (s.qlen + 3)) (· != 0) fun s =>
  s.refuseIf l7 (queriesAt (s.qlen + 4)) (· != 1) fun s =>
  s.refuseIf l7 (queriesAt (s.qlen + 2)) (fun qtype => qtype != 0x01 && qtype != 0x1c) fun s =>
  ⟨s.copy.reads, some (spoofedPacket conn (spoofedDns l7 s.qlen))⟩

/-- `spoof_dns_reply`. -/
def spoofDnsReply (l7Len fuel : Nat) : Option SpoofRun :=
  if l7Len < dnsHeaderLen + 5 then some ⟨[], none⟩
  else
    let s : NameScan := NameScan.read ⟨0, l7Len - dnsHeaderLen, []⟩ 4 2
    if be16 l7 4 ≠ 1 then some s.refuse
    else (loop (nameScanRound l7) fuel s).map (spoofFrom conn l7)

end

end SecureGuard.Native
