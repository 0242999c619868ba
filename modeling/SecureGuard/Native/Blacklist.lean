import Mathlib.Data.List.Basic

/-! # Rule lists (`blacklist.c`)

A rule list holds domains, uids, IP networks and countries. The native code keeps domains in
a string hash table, uids and countries in `uthash` tables and networks in nDPI's two patricia
trees; only membership is ever asked of the tables, and of a tree whether an address shares
the leading bits of an inserted network, so each is a list here. -/

namespace SecureGuard.Native

/-! ## Strings and addresses -/

/-- A C string: the bytes before the terminating zero. -/
abbrev CStr := List UInt8

/-- The bytes of an ASCII literal. -/
def cstr (s : String) : CStr := s.toList.map fun c => UInt8.ofNat c.toNat

inductive IpVer
  | v4
  | v6
  deriving DecidableEq, Repr

/-- The 16 bytes of a `zdtun_ip_t`, first byte most significant: an IPv4 address is the first
four of them, the rest being zero. -/
abbrev ZdtunIp := BitVec 128

/-- The union filled from an IPv4 address. -/
def ip4 (a b c d : UInt8) : ZdtunIp :=
  BitVec.ofNat 128 ((((a.toNat * 256 + b.toNat) * 256 + c.toNat) * 256 + d.toNat) <<< 96)

/-- An address with its version. -/
inductive NdpiIpAddr
  | ipv4 (addr : BitVec 32)
  | ipv6 (addr : BitVec 128)
  deriving DecidableEq, Repr

def ndpiIpAddr (ip : ZdtunIp) : IpVer → NdpiIpAddr
  | .v4 => .ipv4 (ip.extractLsb' 96 32)
  | .v6 => .ipv6 ip

/-- The length of an address of the version in bits. -/
def NdpiIpAddr.maxbits : NdpiIpAddr → Nat
  | .ipv4 _ => 32
  | .ipv6 _ => 128

/-! ## The patricia trees

A `ndpi_ip_addr_t` is a union that does not tell which of the two it holds. -/

/-- The 16 bytes of the union. -/
def NdpiIpAddr.bytes : NdpiIpAddr → BitVec 128
  | .ipv4 addr => addr ++ 0#96
  | .ipv6 addr => addr

/-- `ndpi_is_ipv6`: not all of the last twelve bytes are zero. -/
def ndpiIsIpv6 (addr : BitVec 128) : Bool := addr.extractLsb' 0 96 != 0

/-- The first `n` bits. -/
def leading (n : Nat) (addr : BitVec 128) : Nat := addr.toNat >>> (128 - n)

/-- One network, in the tree for IPv6 or the one for IPv4. -/
structure PtreeNode where
  isV6 : Bool
  addr : BitVec 128
  bits : Nat
  deriving DecidableEq, Repr

/-- A network in the tree `ndpi_ptree_insert` takes for its address. -/
def ptreeNode (addr : NdpiIpAddr) (bits : Nat) : PtreeNode :=
  ⟨ndpiIsIpv6 addr.bytes, addr.bytes, bits⟩

/-- `maxbits` of the tree. -/
def PtreeNode.maxbits (n : PtreeNode) : Nat := if n.isV6 then 128 else 32

/-- The address is looked up in the tree of the network, and shares its leading bits. -/
def PtreeNode.covers (n : PtreeNode) (addr : NdpiIpAddr) : Bool :=
  ndpiIsIpv6 addr.bytes == n.isV6 && leading n.bits addr.bytes == leading n.bits n.addr

/-! ## The lists -/

structure Blacklist where
  domains : List CStr
  uids : List Int
  ptree : List PtreeNode
  countries : List CStr
  deriving DecidableEq, Repr

/-- `blacklist_init`. -/
def Blacklist.init : Blacklist where
  domains := []
  uids := []
  ptree := []
  countries := []

/-! ## Matching -/

/-- The byte `'.'`. -/
def dot : UInt8 := 46

/-- `memrchr(s, '.', strlen(s))`, as an offset. -/
def lastDot : CStr → Option Nat
  | [] => none
  | c :: s => match lastDot s with
    | some i => some (i + 1)
    | none => if c = dot then some 0 else none

/-- Skip a leading `pre`, where the string has one. -/
def skipPrefix (pre s : CStr) : CStr := if pre.isPrefixOf s then s.drop pre.length else s

def getSecondLevelDomain (domain : CStr) : CStr :=
  match lastDot domain with
  | none => domain
  | some 0 => domain
  | some i => match lastDot (domain.take i) with
    | none => domain
    | some j => domain.drop (j + 1)

def getThreeLevelDomain (domain : CStr) : CStr :=
  match lastDot domain with
  | none => domain
  | some 0 => domain
  | some i => match lastDot (domain.take i) with
    | none => domain
    | some j => match lastDot (domain.take j) with
      | none => domain.drop (j + 1)
      | some k => domain.drop (k + 1)

/-- `snprintf(wildcard_key, 256, "*.%s", domain)`: at most 255 bytes are kept. -/
def wildcardKey (domain : CStr) : CStr := (cstr "*." ++ domain).take 255

namespace Blacklist

def matchIp (bl : Blacklist) (ip : ZdtunIp) (ipver : IpVer) : Bool :=
  bl.ptree.any fun n => n.covers (ndpiIpAddr ip ipver)

def matchCountry (bl : Blacklist) (countryCode : CStr) : Bool :=
  !countryCode.isEmpty && bl.countries.contains countryCode

def matchDomain (bl : Blacklist) (domain : CStr) : Bool :=
  let domain := skipPrefix (cstr "*.") (skipPrefix (cstr "www.") domain)
  bl.domains.contains domain ||
  bl.domains.contains (wildcardKey (getSecondLevelDomain domain)) ||
  bl.domains.contains (wildcardKey domain) ||
  bl.domains.contains (wildcardKey (getThreeLevelDomain domain))

def matchUid (bl : Blacklist) (uid : Int) : Bool := bl.uids.contains uid

/-! ## Adding rules -/

/-- `-EADDRINUSE`, where the list already has the rule, and `-EINVAL`. -/
inductive Errno
  | addrInUse
  | inval
  deriving DecidableEq, Repr

def addDomain (bl : Blacklist) (domain : CStr) : Except Errno Blacklist :=
  let domain := skipPrefix (cstr "www.") domain
  if bl.matchDomain domain then .error .addrInUse
  else .ok { bl with domains := bl.domains ++ [domain] }

/-- `blacklist_add_ip` over `ndpi_ptree_insert`: the tree refuses more bits than its addresses
have, and a network it already holds. -/
def addIp (bl : Blacklist) (addr : NdpiIpAddr) (bits : UInt8) : Except Errno Blacklist :=
  let node := ptreeNode addr bits.toNat
  if node.maxbits < node.bits then .error .inval
  else if bl.ptree.any fun n => n.bits == node.bits && n.covers addr then .error .addrInUse
  else .ok { bl with ptree := bl.ptree ++ [node] }

end Blacklist

/-! ## Lists that may be missing

The engine holds every list as a pointer and tests it for `NULL` before it asks. -/

section Missing

variable (bl : Option Blacklist)

def listedUid (uid : Int) : Bool := bl.any fun b => b.matchUid uid

def listedIp (ip : ZdtunIp) (ipver : IpVer) : Bool := bl.any fun b => b.matchIp ip ipver

def listedDomain (domain : CStr) : Bool := bl.any fun b => b.matchDomain domain

/-- `info && info[0] && blacklist_match_domain(bl, info)`. -/
def listedInfo (info : Option CStr) : Bool :=
  info.any fun host => !host.isEmpty && listedDomain bl host

end Missing

@[simp] theorem listedUid_some (b : Blacklist) (uid : Int) :
    listedUid (some b) uid = b.matchUid uid := rfl

@[simp] theorem listedIp_some (b : Blacklist) (ip : ZdtunIp) (ipver : IpVer) :
    listedIp (some b) ip ipver = b.matchIp ip ipver := rfl

@[simp] theorem listedDomain_some (b : Blacklist) (domain : CStr) :
    listedDomain (some b) domain = b.matchDomain domain := rfl

@[simp] theorem listedInfo_none (bl : Option Blacklist) : listedInfo bl none = false := rfl

@[simp] theorem listedInfo_some (bl : Option Blacklist) (host : CStr) :
    listedInfo bl (some host) = (!host.isEmpty && listedDomain bl host) := rfl

end SecureGuard.Native
