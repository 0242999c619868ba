import SecureGuard.Native.IpLru

/-! # The engine's data (`pcapdroid.h`, the globals of `vpnrelay.c`)

Fields that no modelled function reads are left out: counters and texts that only go to the
user interface, payload chunks, the pcap writer, byte totals. Ports are in host order. A
connection is known by its `incr_id`, which stands for the pointer to its `pd_conn_t`. -/

namespace SecureGuard.Native

/-! ## Protocols and packets -/

inductive IpProto
  | icmp
  | tcp
  | udp
  deriving DecidableEq, Repr

/-- nDPI's protocol ids, as far as the engine tells them apart. -/
inductive L7Proto
  | unknown
  | dns
  | http
  | tls
  | quic
  | other (id : UInt16)
  deriving DecidableEq, Repr

/-- `block_quic_mode_t`. -/
inductive BlockQuicMode
  | never
  | always
  | toDecrypt
  deriving DecidableEq, Repr

/-- `zdtun_5tuple_t`. -/
structure Tuple where
  srcIp : ZdtunIp
  dstIp : ZdtunIp
  srcPort : UInt16
  dstPort : UInt16
  ipver : IpVer
  ipproto : IpProto
  deriving DecidableEq, Repr

/-- A parsed packet. `l7 i` is the byte at `pkt->l7 + i`; the payload is the first `l7Len`
of them, what follows is whatever the buffer holds. -/
structure Packet where
  tuple : Tuple
  syn : Bool
  ack : Bool
  isFragment : Bool
  isFirstFragment : Bool
  l7 : Nat → UInt8
  l7Len : Nat

/-- An unfragmented packet with this payload, the first one where it is TCP. -/
def Packet.opening (tuple : Tuple) (payload : List UInt8) : Packet where
  tuple := tuple
  syn := true
  ack := false
  isFragment := false
  isFirstFragment := false
  l7 i := payload.getD i 0
  l7Len := payload.length

/-- A big-endian 16 bit field of a packet (`ntohs`). -/
def be16 (l7 : Nat → UInt8) (i : Nat) : Nat := (l7 i).toNat * 256 + (l7 (i + 1)).toNat

/-- A 16 bit field as the little-endian host loads it. -/
def le16 (l7 : Nat → UInt8) (i : Nat) : Nat := (l7 i).toNat + (l7 (i + 1)).toNat * 256

/-- `sizeof(dns_packet_t)`. -/
def dnsHeaderLen : Nat := 12

/-! ## Uids -/

def uidUnknown : Int := -1
def uidPhone : Int := 1001
def uidNetd : Int := 1051

/-! ## Connections -/

/-- `zdtun_conn_status_t`. -/
inductive ConnStatus
  | new
  | connecting
  | connected
  | closed
  | error
  | socketError
  | clientError
  | reset
  | unreachable
  | socks5Error
  deriving DecidableEq, Repr

/-- `status >= CONN_STATUS_CLOSED`. -/
def ConnStatus.isClosed : ConnStatus → Bool
  | .new | .connecting | .connected => false
  | _ => true

/-- The part of nDPI's flow state the engine reads itself. -/
structure NdpiFlow where
  hostServerName : CStr
  deriving DecidableEq, Repr

/-- `pd_conn_t`. -/
structure PdConn where
  incrId : Nat
  ndpiFlow : Option NdpiFlow
  l7proto : L7Proto
  fwPctx : Bool
  sentPkts : Nat
  rcvdPkts : Nat
  blockedPkts : Nat
  info : Option CStr
  uid : Int
  countryCode : CStr
  toPurge : Bool
  infoFromLru : Bool
  blacklistedInternal : Bool
  blacklistedIp : Bool
  blacklistedDomain : Bool
  whitelistedApp : Bool
  toBlock : Bool
  netdBlockMissed : Bool
  proxied : Bool
  decryptionIgnored : Bool
  portMappingApplied : Bool
  deriving DecidableEq, Repr

/-- What `pd_calloc` and `ndpi_calloc` leave in a new connection. -/
def PdConn.calloc : PdConn where
  incrId := 0
  ndpiFlow := some ⟨[]⟩
  l7proto := .unknown
  fwPctx := false
  sentPkts := 0
  rcvdPkts := 0
  blockedPkts := 0
  info := none
  uid := 0
  countryCode := []
  toPurge := false
  infoFromLru := false
  blacklistedInternal := false
  blacklistedIp := false
  blacklistedDomain := false
  whitelistedApp := false
  toBlock := false
  netdBlockMissed := false
  proxied := false
  decryptionIgnored := false
  portMappingApplied := false

/-- A `zdtun_conn_t` with its user data. `openedUid` is a ghost: the uid the connection was
created with, which `data.uid` may later be moved away from. -/
structure Conn where
  tuple : Tuple
  status : ConnStatus
  openedUid : Int
  data : PdConn
  deriving DecidableEq, Repr

/-! ## The engine -/

structure MalwareDetection where
  enabled : Bool
  bl : Option Blacklist
  whitelist : Option Blacklist
  reloadInProgress : Bool
  reloadDone : Bool
  newBl : Option Blacklist
  newWl : Option Blacklist
  deriving DecidableEq, Repr

structure Firewall where
  enabled : Bool
  bl : Option Blacklist
  newBl : Option Blacklist
  wlEnabled : Bool
  wl : Option Blacklist
  newWl : Option Blacklist
  deriving DecidableEq, Repr

structure TlsDecryption where
  enabled : Bool
  list : Option Blacklist
  newList : Option Blacklist
  deriving DecidableEq, Repr

/-- `pd->vpn`, with `getIntPref` and friends read once at start. -/
structure Vpn where
  blockQuicMode : BlockQuicMode
  knownDnsServers : Blacklist
  ipv4Enabled : Bool
  ipv4DnsServer : BitVec 32
  ipv4InternalDns : BitVec 32
  ipv6Enabled : Bool
  ipv6DnsServer : ZdtunIp
  deriving DecidableEq, Repr

/-- A `port_map_t` of the list of its protocol. -/
structure PortMap where
  ipproto : IpProto
  origPort : UInt16
  deriving DecidableEq, Repr

/-- The two file-level flags that let a host verdict stand in for the address check. -/
structure Gate where
  domainopen : Bool
  thischeck : Bool
  deriving DecidableEq, Repr

/-- The delay of the next dump while netd queries wait for the uid of their app. -/
structure NetdDelay where
  netdResolveWaiting : Int
  nextConnectionsDump : UInt64
  deriving DecidableEq, Repr

/-- `pcapdroid_t` and the globals of `vpnrelay.c`. -/
structure Pcapdroid where
  newConnId : Nat
  nowMs : UInt64
  ipToHost : IpLru
  conns : List Conn
  newConns : List Nat
  vpnCapture : Bool
  socks5Enabled : Bool
  vpn : Vpn
  portMaps : List PortMap
  malwareDetection : MalwareDetection
  firewall : Firewall
  tlsDecryption : TlsDecryption
  newStats : Bool
  lastUpdateMs : UInt64
  numDnsRequests : Nat
  gate : Gate
  netdDelay : NetdDelay
  isNetfree : Bool
  running : Bool
  blockPrivateDns : Bool
  dumpCaptureStatsNow : Bool
  reloadBlacklistsNow : Bool
  newDnsServer : BitVec 32
  deriving DecidableEq

/-! ## The connection table -/

namespace Pcapdroid

def conn? (pd : Pcapdroid) (id : Nat) : Option Conn :=
  pd.conns.find? fun c => c.data.incrId == id

/-- The open connection with this tuple, if any (`zdtun_lookup` without creation). -/
def lookup (pd : Pcapdroid) (tuple : Tuple) : Option Conn :=
  pd.conns.find? fun c => !c.status.isClosed && c.tuple == tuple

/-- Write a connection back. -/
def setConn (pd : Pcapdroid) (c : Conn) : Pcapdroid :=
  { pd with conns := pd.conns.map fun d => if d.data.incrId = c.data.incrId then c else d }

/-- `pd_refresh_time`. -/
def atTime (pd : Pcapdroid) (ms : UInt64) : Pcapdroid := { pd with nowMs := ms }

/-- The engine with the two file-level flags written. -/
def withGate (pd : Pcapdroid) (gate : Gate) : Pcapdroid := { pd with gate := gate }

@[simp] theorem withGate_gate (pd : Pcapdroid) (gate : Gate) : (pd.withGate gate).gate = gate :=
  rfl

@[simp] theorem withGate_malwareDetection (pd : Pcapdroid) (gate : Gate) :
    (pd.withGate gate).malwareDetection = pd.malwareDetection := rfl

@[simp] theorem withGate_firewall (pd : Pcapdroid) (gate : Gate) :
    (pd.withGate gate).firewall = pd.firewall := rfl

theorem mem_setConn {pd : Pcapdroid} {c d : Conn} (h : d ∈ (pd.setConn c).conns) :
    d = c ∨ d ∈ pd.conns := by
  obtain ⟨e, he, rfl⟩ := List.mem_map.mp h
  split
  · exact Or.inl rfl
  · exact Or.inr he

theorem mem_of_conn? {pd : Pcapdroid} {id : Nat} {c : Conn} (h : pd.conn? id = some c) :
    c ∈ pd.conns := List.mem_of_find?_eq_some h

theorem mem_of_lookup {pd : Pcapdroid} {tuple : Tuple} {c : Conn}
    (h : pd.lookup tuple = some c) : c ∈ pd.conns := List.mem_of_find?_eq_some h

end Pcapdroid

end SecureGuard.Native
