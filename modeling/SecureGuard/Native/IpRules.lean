import SecureGuard.Lib.CText
import SecureGuard.Native.DomainRules

/-! # IP rules

A rule is an address, or an address, a slash and a prefix length. Two parsers read it, one for
a single rule and one for the lines of a list file, and both read the length with `atoi`,
which takes what is no number for zero. The results here say exactly when a rule adds the
network it stands for, and nothing wider. -/

namespace SecureGuard.Native
open CText

/-! ## Reading an address -/

/-- The byte `'/'`. -/
def slash : UInt8 := 47

/-- `ndpi_parse_ip_string`. -/
def ndpiParseIpString (ipStr : CStr) : Option NdpiIpAddr :=
  if dot ∈ ipStr then (inetPton4 ipStr).map .ipv4 else (inetPton6 ipStr).map .ipv6

/-! ## One rule -/

namespace Blacklist

/-- The end of `blacklist_add_ipstr`: a negative number stands for no prefix length. -/
def addParsedIp (bl : Blacklist) (ip : CStr) (bits : Int) : Except Errno Blacklist :=
  match ndpiParseIpString ip with
  | none => .error .inval
  | some addr =>
    if bits < 0 then bl.addIp addr (UInt8.ofInt addr.maxbits)
    else if (addr.maxbits : Int) < bits then .error .inval
    else bl.addIp addr (UInt8.ofInt bits)

/-- `blacklist_add_ipstr`, whose buffer holds an address of up to 45 bytes. -/
def addIpstr (abi : Abi) (bl : Blacklist) (ip : CStr) : Except Errno Blacklist :=
  match cutAt slash ip with
  | (_, none) => bl.addParsedIp ip (-1)
  | (buf, some suffix) =>
    if buf.length = 0 ∨ 46 ≤ buf.length then .error .inval
    else bl.addParsedIp buf (atoi abi suffix)

end Blacklist

/-! ## The lines of a file -/

inductive BlacklistType
  | domain
  | ip
  | uid
  | country
  deriving DecidableEq, Repr

/-- The list and the counters while a file is read. -/
structure Loading where
  bl : Blacklist
  numOk : Nat
  numFail : Nat
  numDup : Nat
  deriving DecidableEq, Repr

/-- What `fgets` reads one after the other into a buffer for `room` bytes: up to the end of a
line, or as much as fits. -/
def fgets (room : Nat) (read : Bytes) : Bytes → List Bytes
  | [] => if read = [] then [] else [read]
  | c :: content =>
    if c = 10 ∨ read.length + 1 = room then (read ++ [c]) :: fgets room [] content
    else fgets room (read ++ [c]) content

/-- The C string of what was read. -/
def itemOf (read : Bytes) : CStr := read.takeWhile fun c => c != 0

def isSkipped (item : CStr) : Bool := item.isEmpty || item.head? == some 35 || item.head? == some 10

/-- `item[strcspn(buffer, "\r\n")] = '\0'`. -/
def lineOf (read : Bytes) : CStr := (itemOf read).takeWhile fun c => c != 13 && c != 10

def maxFileRules : Nat := 15000000

/-- The single addresses that are refused. The constant `0x7F000001` is compared with the
address as the processor reads it, least significant byte first. -/
def isInvalidIpv4 (addr : NdpiIpAddr) (bits : Int) : Bool :=
  bits == 32 && (addr == .ipv4 0 || addr == .ipv4 0xFFFFFFFF || addr == .ipv4 0x0100007F)

/-- The bits of a line: `atoi(slash + 1)`, or the whole address. -/
def bitsOf (abi : Abi) (addr : NdpiIpAddr) : Option CStr → Int
  | some suffix => atoi abi suffix
  | none => addr.maxbits

namespace Loading

def fail (st : Loading) : Loading := { st with numFail := st.numFail + 1 }

def account (st : Loading) : Except Blacklist.Errno Blacklist → Loading
  | .ok bl => { st with bl := bl, numOk := st.numOk + 1 }
  | .error .addrInUse => { st with numDup := st.numDup + 1 }
  | .error .inval => st.fail

/-- One round of the loop in `blacklist_load_file`. -/
def item (abi : Abi) (btype : BlacklistType) (st : Loading) (read : Bytes) : Loading :=
  if isSkipped (itemOf read) then st
  else
    let (buffer, suffix) := cutAt slash (lineOf read)
    let ip := ndpiParseIpString buffer
    if maxFileRules ≤ st.numOk then st.fail
    else match btype, ip with
      | .ip, none => st.fail
      | .ip, some addr =>
        let bits := bitsOf abi addr suffix
        if isInvalidIpv4 addr bits then st
        else st.account (st.bl.addIp addr (UInt8.ofInt bits))
      | .domain, some _ => st.fail
      | .domain, none => st.account (st.bl.addDomain buffer)
      -- no list of another type is ever loaded from a file
      | .uid, _ => st
      | .country, _ => st

end Loading

/-- `blacklist_load_file`. -/
def loadFile (abi : Abi) (btype : BlacklistType) (bl : Blacklist) (content : Bytes) : Loading :=
  (fgets 255 [] content).foldl (Loading.item abi btype) ⟨bl, 0, 0, 0⟩

/-! ## What a rule stands for -/

/-- A decimal number. -/
def prefixLength? (suffix : CStr) : Option Nat :=
  if suffix ≠ [] ∧ suffix.all isDigit = true then some (decimal suffix) else none

/-- A network: an address, and how many of its leading bits count. -/
structure IpNet where
  addr : NdpiIpAddr
  bits : Nat
  deriving DecidableEq, Repr

/-- An address of the same version shares the leading bits. -/
def IpNet.covers (net : IpNet) (addr : NdpiIpAddr) : Bool :=
  addr.maxbits == net.addr.maxbits &&
    leading net.bits addr.bytes == leading net.bits net.addr.bytes

/-- The network of a well-formed rule. -/
def ipRule? (rule : CStr) : Option IpNet :=
  (ndpiParseIpString (cutAt slash rule).1).bind fun addr =>
    match (cutAt slash rule).2 with
    | none => some ⟨addr, addr.maxbits⟩
    | some suffix => (prefixLength? suffix).bind fun bits =>
      if bits ≤ addr.maxbits then some ⟨addr, bits⟩ else none

/-- Of this address the list learns what the network says, and nothing else. -/
def GainsAt (bl bl' : Blacklist) (net : IpNet) (ip : ZdtunIp) (ipver : IpVer) : Prop :=
  bl'.matchIp ip ipver = (bl.matchIp ip ipver || net.covers (ndpiIpAddr ip ipver))

/-- The tree holds the network already. -/
def Blacklist.hasNode (bl : Blacklist) (addr : NdpiIpAddr) (bits : Nat) : Bool :=
  bl.ptree.any fun n => n.bits == bits && n.covers addr

def Blacklist.withNode (bl : Blacklist) (node : PtreeNode) : Blacklist :=
  { bl with ptree := bl.ptree ++ [node] }

theorem matchIp_withNode (bl : Blacklist) (node : PtreeNode) (ip : ZdtunIp) (ipver : IpVer) :
    (bl.withNode node).matchIp ip ipver =
      (bl.matchIp ip ipver || node.covers (ndpiIpAddr ip ipver)) := by
  simp [Blacklist.matchIp, Blacklist.withNode]

/-! ## Two versions in one union

Nothing in a union tells an IPv4 address from an IPv6 one whose last twelve bytes are zero, so
both go to the tree for IPv4. -/

/-- The versions of the network and the address differ exactly if their trees do, or the
address does not share the leading bits anyway. -/
def ToldApart (net : IpNet) (addr : NdpiIpAddr) : Prop :=
  (addr.maxbits = net.addr.maxbits ↔ ndpiIsIpv6 addr.bytes = ndpiIsIpv6 net.addr.bytes) ∨
    leading net.bits addr.bytes ≠ leading net.bits net.addr.bytes

instance (net : IpNet) (addr : NdpiIpAddr) : Decidable (ToldApart net addr) :=
  inferInstanceAs (Decidable (_ ∨ _))

theorem covers_ptreeNode_iff (net : IpNet) (addr : NdpiIpAddr) :
    (ptreeNode net.addr net.bits).covers addr = net.covers addr ↔ ToldApart net addr := by
  unfold PtreeNode.covers IpNet.covers ToldApart ptreeNode
  by_cases hlead : leading net.bits addr.bytes = leading net.bits net.addr.bytes
  · simp only [hlead, beq_self_eq_true, Bool.and_true, ne_eq, not_true_eq_false, or_false]
    rw [Bool.eq_iff_iff, beq_iff_eq, beq_iff_eq]
    exact iff_comm
  · simp only [beq_eq_false_iff_ne.mpr hlead, Bool.and_false, ne_eq, hlead, not_false_eq_true,
      or_true]

theorem gainsAt_withNode_iff (bl : Blacklist) (net : IpNet) (ip : ZdtunIp) (ipver : IpVer) :
    GainsAt bl (bl.withNode (ptreeNode net.addr net.bits)) net ip ipver ↔
      bl.matchIp ip ipver = true ∨ ToldApart net (ndpiIpAddr ip ipver) := by
  rw [GainsAt, matchIp_withNode, ← covers_ptreeNode_iff]
  cases bl.matchIp ip ipver with
  | true => simp
  | false => simp

/-! ## Accepting an address -/

theorem addIp_eq_ok_iff {bl bl' : Blacklist} {addr : NdpiIpAddr} {bits : UInt8} :
    bl.addIp addr bits = .ok bl' ↔
      bits.toNat ≤ (ptreeNode addr bits.toNat).maxbits ∧ bl.hasNode addr bits.toNat = false ∧
        bl' = bl.withNode (ptreeNode addr bits.toNat) := by
  have hnode : bl.hasNode addr bits.toNat =
      bl.ptree.any fun n => n.bits == (ptreeNode addr bits.toNat).bits && n.covers addr := rfl
  have hbits : (ptreeNode addr bits.toNat).bits = bits.toNat := rfl
  rw [Blacklist.addIp, ← hnode, hbits]
  by_cases hlarge : (ptreeNode addr bits.toNat).maxbits < bits.toNat
  · simp only [if_pos hlarge, reduceCtorEq, false_iff, not_and]
    intro hle
    omega
  · cases bl.hasNode addr bits.toNat with
    | true => simp [hlarge]
    | false =>
      simp only [if_neg hlarge, Bool.false_eq_true, if_false, Except.ok.injEq, true_and]
      exact ⟨fun h => ⟨by omega, h.symm⟩, fun h => h.2.symm⟩

theorem NdpiIpAddr.maxbits_le (addr : NdpiIpAddr) : addr.maxbits ≤ 128 := by
  cases addr
  · exact Nat.le_of_ble_eq_true rfl
  · exact Nat.le_refl _

theorem toNat_ofInt {bits : Int} (hlow : 0 ≤ bits) (hhigh : bits ≤ 128) :
    (UInt8.ofInt bits).toNat = bits.toNat := by
  simp only [UInt8.ofInt, UInt8.toNat_ofNat']
  omega

section Rule

variable {abi : Abi} {rule suffix : CStr} {net : IpNet} {addr : NdpiIpAddr}

theorem ipRule?_of_none (hparse : ndpiParseIpString (cutAt slash rule).1 = some addr)
    (hsuffix : (cutAt slash rule).2 = none) : ipRule? rule = some ⟨addr, addr.maxbits⟩ := by
  simp [ipRule?, hparse, hsuffix]

/-- The number `atoi` reads in a well-formed rule is its prefix length. -/
theorem atoi_of_ipRule? (abi : Abi) (h : ipRule? rule = some net)
    (hsuffix : (cutAt slash rule).2 = some suffix) :
    ndpiParseIpString (cutAt slash rule).1 = some net.addr ∧ atoi abi suffix = net.bits ∧
      net.bits ≤ net.addr.maxbits := by
  obtain ⟨addr, hparse, h⟩ := Option.bind_eq_some_iff.mp h
  rw [hsuffix] at h
  obtain ⟨bits, hlength, h⟩ := Option.bind_eq_some_iff.mp h
  unfold prefixLength? at hlength
  split at hlength
  · next hdigits =>
    split at h
    · next hle =>
      obtain rfl := Option.some.inj h
      have hmax := addr.maxbits_le
      have hbits : decimal suffix = bits := Option.some.inj hlength
      refine ⟨hparse, ?_, hle⟩
      rw [atoi_of_digits abi hdigits.2 (by omega), hbits]
    · cases h
  · cases hlength

end Rule

/-! ## A single rule -/

/-- The number read for the prefix length; `-1` where there is none. -/
def bitsRead (abi : Abi) : Option CStr → Int
  | none => -1
  | some suffix => atoi abi suffix

/-- The number of bits inserted: the whole address where the number is negative. -/
def netBits (addr : NdpiIpAddr) (bits : Int) : Nat :=
  if bits < 0 then addr.maxbits else bits.toNat

theorem addParsedIp_eq_ok_iff {bl bl' : Blacklist} {ip : CStr} {bits : Int} :
    bl.addParsedIp ip bits = .ok bl' ↔
      ∃ addr, ndpiParseIpString ip = some addr ∧ bits ≤ addr.maxbits ∧
        netBits addr bits ≤ (ptreeNode addr (netBits addr bits)).maxbits ∧
        bl.hasNode addr (netBits addr bits) = false ∧
        bl' = bl.withNode (ptreeNode addr (netBits addr bits)) := by
  unfold Blacklist.addParsedIp
  cases ndpiParseIpString ip with
  | none => simp
  | some addr =>
    have hmax := addr.maxbits_le
    simp only [Option.some.injEq, exists_eq_left', netBits]
    by_cases hneg : bits < 0
    · have hbits : (UInt8.ofInt addr.maxbits).toNat = addr.maxbits := by
        rw [toNat_ofInt (by omega) (by omega)]
        rfl
      rw [if_pos hneg, if_pos hneg, addIp_eq_ok_iff, hbits]
      refine (and_iff_right ?_).symm
      omega
    · rw [if_neg hneg, if_neg hneg]
      by_cases hle : bits ≤ addr.maxbits
      · have hbits : (UInt8.ofInt bits).toNat = bits.toNat :=
          toNat_ofInt (by omega) (by omega)
        rw [if_neg (by omega), addIp_eq_ok_iff, hbits]
        exact (and_iff_right hle).symm
      · rw [if_pos (by omega)]
        simp [hle]

/-- A rule is refused: its address is none or too long before a slash, or the number read for
its prefix length is larger than an address of its version or its tree has bits, or makes a
network the list has. -/
def IpstrRefused (abi : Abi) (bl : Blacklist) (rule : CStr) : Prop :=
  ∀ addr, ndpiParseIpString (cutAt slash rule).1 = some addr →
    ((cutAt slash rule).2.isSome = true ∧ 46 ≤ (cutAt slash rule).1.length) ∨
    (addr.maxbits : Int) < bitsRead abi (cutAt slash rule).2 ∨
    (ptreeNode addr (netBits addr (bitsRead abi (cutAt slash rule).2))).maxbits <
      netBits addr (bitsRead abi (cutAt slash rule).2) ∨
    bl.hasNode addr (netBits addr (bitsRead abi (cutAt slash rule).2)) = true

section Ipstr

variable {abi : Abi} {bl bl' : Blacklist} {rule : CStr} {net : IpNet} {addr : NdpiIpAddr}

theorem parse_nil : ndpiParseIpString [] = none := rfl

/-- An empty address is none, so only the length of the buffer is left to check. -/
theorem addIpstr_eq_ok_iff : bl.addIpstr abi rule = .ok bl' ↔
    ((cutAt slash rule).2.isSome = true → (cutAt slash rule).1.length < 46) ∧
      bl.addParsedIp (cutAt slash rule).1 (bitsRead abi (cutAt slash rule).2) = .ok bl' := by
  cases hsuffix : (cutAt slash rule).2 with
  | none =>
    have hcut : cutAt slash rule = ((cutAt slash rule).1, none) := by rw [← hsuffix]
    rw [Blacklist.addIpstr, hcut, cutAt_of_none hsuffix]
    simp [bitsRead]
  | some suffix =>
    have hcut : cutAt slash rule = ((cutAt slash rule).1, some suffix) := by rw [← hsuffix]
    rw [Blacklist.addIpstr, hcut]
    dsimp only [bitsRead]
    split
    · next hlength =>
      simp only [reduceCtorEq, Option.isSome_some, forall_const, false_iff, not_and]
      intro hshort hok
      obtain ⟨addr, hparse, -⟩ := addParsedIp_eq_ok_iff.mp hok
      have hzero := hlength.resolve_right (by omega)
      rw [List.length_eq_zero_iff.mp hzero, parse_nil] at hparse
      cases hparse
    · next hlength =>
      refine (and_iff_right fun _ => ?_).symm
      omega

/-- A rule that is accepted adds the network read for it. -/
theorem addIpstr_eq_ok (hok : bl.addIpstr abi rule = .ok bl') :
    ∃ addr, ndpiParseIpString (cutAt slash rule).1 = some addr ∧
      bl' = bl.withNode (ptreeNode addr (netBits addr (bitsRead abi (cutAt slash rule).2))) ∧
      ¬ IpstrRefused abi bl rule := by
  obtain ⟨hlength, hok⟩ := addIpstr_eq_ok_iff.mp hok
  obtain ⟨addr, hparse, hbits, htree, hnode, he⟩ := addParsedIp_eq_ok_iff.mp hok
  refine ⟨addr, hparse, he, fun hrefused => ?_⟩
  rcases hrefused addr hparse with ⟨hsome, hlong⟩ | hlarge | hlarge | hhas
  · have hshort := hlength hsome
    omega
  · omega
  · omega
  · rw [hnode] at hhas
    cases hhas

theorem exists_ok_of_not_refused (h : ¬ IpstrRefused abi bl rule) :
    ∃ bl', bl.addIpstr abi rule = .ok bl' := by
  simp only [IpstrRefused, not_forall, not_or, not_and, Bool.not_eq_true] at h
  obtain ⟨addr, hparse, hlength, hbits, htree, hnode⟩ := h
  refine ⟨bl.withNode (ptreeNode addr (netBits addr (bitsRead abi (cutAt slash rule).2))),
    addIpstr_eq_ok_iff.mpr ⟨fun hsome => ?_, ?_⟩⟩
  · have hshort := hlength hsome
    omega
  · exact addParsedIp_eq_ok_iff.mpr ⟨addr, hparse, by omega, by omega, hnode, rfl⟩

/-- The network added for a well-formed rule is the one it stands for. -/
theorem netBits_of_ipRule? (abi : Abi) (hrule : ipRule? rule = some net)
    (hparse : ndpiParseIpString (cutAt slash rule).1 = some addr) :
    (⟨addr, netBits addr (bitsRead abi (cutAt slash rule).2)⟩ : IpNet) = net := by
  cases hsuffix : (cutAt slash rule).2 with
  | none =>
    rw [ipRule?_of_none hparse hsuffix] at hrule
    exact Option.some.inj hrule
  | some suffix =>
    obtain ⟨haddr, hread, -⟩ := atoi_of_ipRule? abi hrule hsuffix
    obtain rfl : addr = net.addr := Option.some.inj (hparse.symm.trans haddr)
    rw [bitsRead, hread, netBits, if_neg (by omega), Int.toNat_natCast]

end Ipstr

theorem addIpstr_exact_iff (abi : Abi) (bl : Blacklist) (rule : CStr) (ip : ZdtunIp)
    (ipver : IpVer) :
    (∀ bl', bl.addIpstr abi rule = .ok bl' →
        ∃ net, ipRule? rule = some net ∧ GainsAt bl bl' net ip ipver) ↔
      IpstrRefused abi bl rule ∨ ∃ net, ipRule? rule = some net ∧
        (bl.matchIp ip ipver = true ∨ ToldApart net (ndpiIpAddr ip ipver)) := by
  constructor
  · intro h
    by_cases hrefused : IpstrRefused abi bl rule
    · exact Or.inl hrefused
    · obtain ⟨bl', hok⟩ := exists_ok_of_not_refused hrefused
      obtain ⟨net, hrule, hgains⟩ := h bl' hok
      obtain ⟨addr, hparse, rfl, -⟩ := addIpstr_eq_ok hok
      obtain rfl := netBits_of_ipRule? abi hrule hparse
      exact Or.inr ⟨_, hrule, (gainsAt_withNode_iff bl _ ip ipver).mp hgains⟩
  · intro h bl' hok
    obtain ⟨addr, hparse, rfl, hnot⟩ := addIpstr_eq_ok hok
    obtain ⟨net, hrule, htold⟩ := h.resolve_left hnot
    obtain rfl := netBits_of_ipRule? abi hrule hparse
    exact ⟨_, hrule, (gainsAt_withNode_iff bl _ ip ipver).mpr htold⟩

/-! ## A line of a file -/

/-- The bits inserted for a line. -/
def lineBits (abi : Abi) (addr : NdpiIpAddr) (suffix : Option CStr) : Nat :=
  (UInt8.ofInt (bitsOf abi addr suffix)).toNat

/-- A line is refused: it is skipped, the list is full, its address is none or a single one that
is refused, or the number read for its prefix length, cut to a byte, is larger than an address of
its tree has bits, or makes a network the list has. -/
def LineRefused (abi : Abi) (st : Loading) (read : Bytes) : Prop :=
  isSkipped (itemOf read) = true ∨ maxFileRules ≤ st.numOk ∨
  ∀ addr, ndpiParseIpString (cutAt slash (lineOf read)).1 = some addr →
    isInvalidIpv4 addr (bitsOf abi addr (cutAt slash (lineOf read)).2) = true ∨
    (ptreeNode addr (lineBits abi addr (cutAt slash (lineOf read)).2)).maxbits <
      lineBits abi addr (cutAt slash (lineOf read)).2 ∨
    st.bl.hasNode addr (lineBits abi addr (cutAt slash (lineOf read)).2) = true

/-- The line is accepted only as the rule it is, from the list `st` to `st'`. -/
def ExactLineAt (st st' : Loading) (line : CStr) (ip : ZdtunIp) (ipver : IpVer) : Prop :=
  st'.numOk ≠ st.numOk →
    ∃ net, ipRule? line = some net ∧ GainsAt st.bl st'.bl net ip ipver

section Line

variable {abi : Abi} {st : Loading} {read : Bytes} {line : CStr} {addr : NdpiIpAddr}
  {net : IpNet}

theorem item_of_address (hskip : isSkipped (itemOf read) = false)
    (hroom : st.numOk < maxFileRules)
    (hparse : ndpiParseIpString (cutAt slash (lineOf read)).1 = some addr) :
    st.item abi .ip read =
      if isInvalidIpv4 addr (bitsOf abi addr (cutAt slash (lineOf read)).2) then st
      else st.account (st.bl.addIp addr
        (UInt8.ofInt (bitsOf abi addr (cutAt slash (lineOf read)).2))) := by
  simp only [Loading.item, hskip, Bool.false_eq_true, if_false, if_neg (Nat.not_le.mpr hroom),
    hparse]

theorem account_cases (st : Loading) (addr : NdpiIpAddr) (bits : UInt8) :
    ((st.account (st.bl.addIp addr bits)).numOk = st.numOk ∧
      (st.account (st.bl.addIp addr bits)).bl = st.bl) ∨
    (bits.toNat ≤ (ptreeNode addr bits.toNat).maxbits ∧ st.bl.hasNode addr bits.toNat = false ∧
      (st.account (st.bl.addIp addr bits)).bl = st.bl.withNode (ptreeNode addr bits.toNat)) := by
  cases hadd : st.bl.addIp addr bits with
  | error e =>
    left
    cases e <;> exact ⟨rfl, rfl⟩
  | ok bl' =>
    obtain ⟨hle, hnode, rfl⟩ := addIp_eq_ok_iff.mp hadd
    exact Or.inr ⟨hle, hnode, rfl⟩

/-- A line changes nothing, or is accepted for the network read from it. -/
theorem item_cases (abi : Abi) (st : Loading) (read : Bytes) :
    ((st.item abi .ip read).numOk = st.numOk ∧ (st.item abi .ip read).bl = st.bl) ∨
    (¬ LineRefused abi st read ∧
      ∃ addr, ndpiParseIpString (cutAt slash (lineOf read)).1 = some addr ∧
        (st.item abi .ip read).bl =
          st.bl.withNode (ptreeNode addr (lineBits abi addr (cutAt slash (lineOf read)).2))) := by
  by_cases hskip : isSkipped (itemOf read) = true
  · left
    simp [Loading.item, hskip]
  by_cases hroom : maxFileRules ≤ st.numOk
  · left
    simp [Loading.item, hskip, hroom, Loading.fail]
  have hskip' := (Bool.not_eq_true _).mp hskip
  cases hparse : ndpiParseIpString (cutAt slash (lineOf read)).1 with
  | none =>
    left
    simp [Loading.item, hskip', hroom, hparse, Loading.fail]
  | some addr =>
    rw [item_of_address hskip' (by omega) hparse]
    cases hinvalid : isInvalidIpv4 addr (bitsOf abi addr (cutAt slash (lineOf read)).2) with
    | true => exact Or.inl ⟨rfl, rfl⟩
    | false =>
      refine (account_cases st addr _).imp_right fun ⟨hle, hnode, he⟩ => ?_
      refine ⟨fun hrefused => ?_, addr, rfl, he⟩
      rcases hrefused with h | h | h
      · exact hskip h
      · exact hroom h
      · rcases h addr hparse with h | h | h
        · rw [hinvalid] at h
          cases h
        · exact absurd hle (Nat.not_le.mpr h)
        · exact absurd (hnode.symm.trans h) Bool.false_ne_true

/-- The network of a line that is a rule is the one read from it. -/
theorem lineBits_of_ipRule? (abi : Abi) (hrule : ipRule? line = some net)
    (hparse : ndpiParseIpString (cutAt slash line).1 = some addr) :
    (⟨addr, lineBits abi addr (cutAt slash line).2⟩ : IpNet) = net := by
  cases hsuffix : (cutAt slash line).2 with
  | none =>
    rw [ipRule?_of_none hparse hsuffix] at hrule
    obtain rfl := Option.some.inj hrule
    have hmax := addr.maxbits_le
    rw [lineBits, bitsOf, toNat_ofInt (by omega) (by omega), Int.toNat_natCast]
  | some suffix =>
    obtain ⟨haddr, hread, hle⟩ := atoi_of_ipRule? abi hrule hsuffix
    obtain rfl : addr = net.addr := Option.some.inj (hparse.symm.trans haddr)
    have hmax := net.addr.maxbits_le
    rw [lineBits, bitsOf, hread, toNat_ofInt (by omega) (by omega), Int.toNat_natCast]

theorem accepted_of_not_refused (h : ¬ LineRefused abi st read) :
    (st.item abi .ip read).numOk ≠ st.numOk := by
  simp only [LineRefused, not_forall, not_or, Bool.not_eq_true] at h
  obtain ⟨hskip, hroom, addr, hparse, hinvalid, hle, hnode⟩ := h
  have hadd := addIp_eq_ok_iff.mpr ⟨Nat.not_lt.mp hle, hnode, rfl⟩
  rw [item_of_address hskip (by omega) hparse, hinvalid, if_neg Bool.false_ne_true, hadd]
  exact Nat.succ_ne_self _

end Line

theorem item_exact_iff (abi : Abi) (st : Loading) (read : Bytes) (ip : ZdtunIp) (ipver : IpVer) :
    ExactLineAt st (st.item abi .ip read) (lineOf read) ip ipver ↔
      LineRefused abi st read ∨ ∃ net, ipRule? (lineOf read) = some net ∧
        (st.bl.matchIp ip ipver = true ∨ ToldApart net (ndpiIpAddr ip ipver)) := by
  rcases item_cases abi st read with ⟨hsame, -⟩ | ⟨hnot, addr, hparse, he⟩
  · refine iff_of_true (fun haccepted => absurd hsame haccepted) (Or.inl ?_)
    by_contra hnot
    exact accepted_of_not_refused hnot hsame
  · constructor
    · intro h
      obtain ⟨net, hrule, hgains⟩ := h (accepted_of_not_refused hnot)
      obtain rfl := lineBits_of_ipRule? abi hrule hparse
      rw [he] at hgains
      exact Or.inr ⟨_, hrule, (gainsAt_withNode_iff st.bl _ ip ipver).mp hgains⟩
    · intro h _
      obtain ⟨net, hrule, htold⟩ := h.resolve_left hnot
      obtain rfl := lineBits_of_ipRule? abi hrule hparse
      rw [he]
      exact ⟨_, hrule, (gainsAt_withNode_iff st.bl _ ip ipver).mpr htold⟩

/-- **An IP rule never widens**, given alone or in a file, exactly if it is refused, or well
formed; and then of every address that is matched before, or that the union tells apart from the
addresses of the rule. -/
theorem ipRules_exact_iff (abi : Abi) (ip : ZdtunIp) (ipver : IpVer) :
    (∀ bl rule,
      (∀ bl', bl.addIpstr abi rule = .ok bl' →
          ∃ net, ipRule? rule = some net ∧ GainsAt bl bl' net ip ipver) ↔
        IpstrRefused abi bl rule ∨ ∃ net, ipRule? rule = some net ∧
          (bl.matchIp ip ipver = true ∨ ToldApart net (ndpiIpAddr ip ipver))) ∧
    (∀ st read,
      ExactLineAt st (st.item abi .ip read) (lineOf read) ip ipver ↔
        LineRefused abi st read ∨ ∃ net, ipRule? (lineOf read) = some net ∧
          (st.bl.matchIp ip ipver = true ∨ ToldApart net (ndpiIpAddr ip ipver))) :=
  ⟨fun bl rule => addIpstr_exact_iff abi bl rule ip ipver,
    fun st read => item_exact_iff abi st read ip ipver⟩

/-- A number too large for a byte, and no number at all, make the network of all addresses; and
a rule for IPv6 addresses matches one of IPv4. -/
theorem ipRules_widen :
    (ipRule? (cstr "1.2.3.4/256") = none ∧
      (loadFile .lp64 .ip Blacklist.init (cstr "1.2.3.4/256\n")).numOk = 1 ∧
      (loadFile .lp64 .ip Blacklist.init (cstr "1.2.3.4/256\n")).bl.matchIp
        (ip4 8 8 8 8) .v4 = true) ∧
    (ipRule? (cstr "1.2.3.4/") = none ∧
      (Blacklist.init.addIpstr .lp64 (cstr "1.2.3.4/")).map
        (·.matchIp (ip4 8 8 8 8) .v4) = .ok true) ∧
    ((ipRule? (cstr "2001:db8::/32")).map
        (·.covers (ndpiIpAddr (ip4 32 1 13 184) .v4)) = some false ∧
      (Blacklist.init.addIpstr .lp64 (cstr "2001:db8::/32")).map
        (·.matchIp (ip4 32 1 13 184) .v4) = .ok true) := by
  decide +kernel

/-! ## A whole file -/

/-- Every line of the pieces read is a rule or skipped. -/
def AllRules (reads : List Bytes) : Prop :=
  ∀ read ∈ reads,
    (ipRule? (lineOf read)).isSome = true ∨ isSkipped (itemOf read) = true

/-- The address is in the network of one of the lines, or not told apart from it. -/
def InSomeRule (reads : List Bytes) (addr : NdpiIpAddr) : Prop :=
  ∃ read ∈ reads, ∃ net, ipRule? (lineOf read) = some net ∧
    (net.covers addr = true ∨ ¬ ToldApart net addr)

theorem item_matchIp {abi : Abi} {st : Loading} {read : Bytes} (hrule : AllRules [read])
    {ip : ZdtunIp} {ipver : IpVer} (h : (st.item abi .ip read).bl.matchIp ip ipver = true) :
    st.bl.matchIp ip ipver = true ∨ InSomeRule [read] (ndpiIpAddr ip ipver) := by
  rcases item_cases abi st read with ⟨-, he⟩ | ⟨hnot, addr, hparse, he⟩
  · rw [he] at h
    exact Or.inl h
  · have hsome : (ipRule? (lineOf read)).isSome = true :=
      (hrule read List.mem_cons_self).resolve_right fun hskip => hnot (Or.inl hskip)
    obtain ⟨net, hnet⟩ := Option.isSome_iff_exists.mp hsome
    obtain rfl := lineBits_of_ipRule? abi hnet hparse
    rw [he, matchIp_withNode, Bool.or_eq_true] at h
    refine h.imp_right fun hcovers => ⟨read, List.mem_cons_self, _, hnet, ?_⟩
    by_cases htold : ToldApart ⟨addr, lineBits abi addr (cutAt slash (lineOf read)).2⟩
        (ndpiIpAddr ip ipver)
    · rw [(covers_ptreeNode_iff _ _).mpr htold] at hcovers
      exact Or.inl hcovers
    · exact Or.inr htold

theorem foldl_item_matchIp {abi : Abi} {reads : List Bytes} {st : Loading}
    (hrules : AllRules reads) {ip : ZdtunIp} {ipver : IpVer}
    (h : (reads.foldl (Loading.item abi .ip) st).bl.matchIp ip ipver = true) :
    st.bl.matchIp ip ipver = true ∨ InSomeRule reads (ndpiIpAddr ip ipver) := by
  induction reads generalizing st with
  | nil => exact Or.inl h
  | cons read reads ih =>
    have hhead : AllRules [read] := fun r hr =>
      hrules r (List.mem_cons.mpr (Or.inl (List.mem_singleton.mp hr)))
    rcases ih (fun r hr => hrules r (List.mem_cons_of_mem _ hr)) h with h | ⟨r, hr, hnet⟩
    · rcases item_matchIp hhead h with h | ⟨r, hr, hnet⟩
      · exact Or.inl h
      · obtain rfl := List.mem_singleton.mp hr
        exact Or.inr ⟨r, List.mem_cons_self, hnet⟩
    · exact Or.inr ⟨r, List.mem_cons_of_mem _ hr, hnet⟩

/-- **A file of rules adds nothing but its rules**: an address it makes match is in the
network of one of its lines. -/
theorem loadFile_matchIp {abi : Abi} {bl : Blacklist} {content : Bytes}
    (hrules : AllRules (fgets 255 [] content)) {ip : ZdtunIp} {ipver : IpVer}
    (h : (loadFile abi .ip bl content).bl.matchIp ip ipver = true) :
    bl.matchIp ip ipver = true ∨
      InSomeRule (fgets 255 [] content) (ndpiIpAddr ip ipver) :=
  foldl_item_matchIp hrules h

end SecureGuard.Native
