import SecureGuard.Native.State

/-! # The verdict on a connection

`check_blacklisted_domain`, `check_whitelist_mode_block` and `vpn_process_ndpi`: the
functions that write `to_block` and its reason flags while a connection lives. The word
blacklist is historical: `malware_detection.bl` is the list of what is allowed, and a
connection is blacklisted when the list does not match it. -/

namespace SecureGuard.Native

/-- One of the three reason flags is set. -/
def PdConn.flagged (d : PdConn) : Bool :=
  d.blacklistedInternal || d.blacklistedIp || d.blacklistedDomain

/-- A connection has a host that can be checked. -/
def PdConn.hasHost (d : PdConn) : Bool := d.info.any fun host => !host.isEmpty

/-! ## The allow-list and the firewall list, by host -/

section Checks

variable (pd : Pcapdroid) (tuple : Tuple) (data : PdConn)

/-- The allow-list part of `check_blacklisted_domain`. An allowed host moves a pending
`thischeck` to `domainopen`; any other host closes `domainopen` and blocks. -/
def checkAllowedDomain (host : CStr) : Gate × PdConn :=
  match pd.malwareDetection.bl with
  | none => (pd.gate, data)
  | some bl =>
    if data.blacklistedDomain || data.whitelistedApp then (pd.gate, data)
    else if bl.matchDomain host || listedDomain pd.malwareDetection.whitelist host then
      ({ domainopen := pd.gate.thischeck, thischeck := false }, data)
    else
      ({ pd.gate with domainopen := false },
        { data with blacklistedDomain := true, toBlock := true })

/-- The firewall part of `check_blacklisted_domain`. -/
def checkFirewallDomain (host : CStr) : PdConn :=
  if pd.firewall.enabled && !data.toBlock then
    { data with toBlock := listedDomain pd.firewall.bl host }
  else data

/-- `check_blacklisted_domain`. -/
def checkBlacklistedDomain : Gate × PdConn :=
  match data.info with
  | none => (pd.gate, data)
  | some host =>
    if host.isEmpty then (pd.gate, data)
    else
      let (gate, data) := checkAllowedDomain pd data host
      (gate, checkFirewallDomain pd data host)

/-! ## Whitelist mode -/

/-- DNS traffic to port 53 from a uid that belongs to no app. -/
def isSystemDns (uid : Int) : Bool :=
  tuple.ipproto == .udp && tuple.dstPort == 53 &&
    (uid == uidNetd || uid == uidPhone || uid == uidUnknown)

/-- `check_whitelist_mode_block`. -/
def checkWhitelistModeBlock : PdConn :=
  let data :=
    if pd.firewall.enabled && pd.firewall.wlEnabled && pd.firewall.wl.isSome &&
        !data.toBlock && !isSystemDns tuple data.uid then
      { data with toBlock := !listedUid pd.firewall.wl data.uid }
    else data
  if data.uid = uidUnknown then { data with toBlock := true } else data

/-- The verdict of whitelist mode on a connection not blocked otherwise. -/
def whitelistModeBlocks : Bool :=
  (pd.firewall.enabled && pd.firewall.wlEnabled && pd.firewall.wl.isSome &&
    !isSystemDns tuple data.uid && !listedUid pd.firewall.wl data.uid) ||
  data.uid == uidUnknown

/-- The (enabled) firewall list matches the uid, the address or the host. -/
def firewallMatches : Bool :=
  pd.firewall.enabled && (listedUid pd.firewall.bl data.uid ||
    listedIp pd.firewall.bl tuple.dstIp tuple.ipver || listedInfo pd.firewall.bl data.info)

/-! ## What nDPI found -/

def matchesDecryptionWhitelist : Bool :=
  pd.tlsDecryption.list.any fun list =>
    list.matchIp tuple.dstIp tuple.ipver || list.matchUid data.uid ||
      data.info.any fun host => list.matchDomain host

/-- The QUIC branch of `vpn_process_ndpi`. -/
def blocksQuic : Bool :=
  data.l7proto == .quic && (pd.vpn.blockQuicMode == .always ||
    (pd.vpn.blockQuicMode == .toDecrypt && matchesDecryptionWhitelist pd tuple data))

/-- The private DNS branch of `vpn_process_ndpi`. -/
def blocksPrivateDns : Bool :=
  pd.blockPrivateDns && !data.toBlock && data.l7proto == .tls &&
    data.info.any fun host => pd.vpn.knownDnsServers.matchDomain host

/-- `blacklisted_internal` and `to_block`, where `b`. -/
def blockInternal (b : Bool) (data : PdConn) : PdConn :=
  if b then { data with blacklistedInternal := true, toBlock := true } else data

/-- `vpn_process_ndpi`. -/
def vpnProcessNdpi : PdConn :=
  let data := blockInternal (blocksQuic pd tuple data) data
  blockInternal (blocksPrivateDns pd data) data

end Checks

/-! ## The host check in closed form -/

/-- The allow-list is asked about the host of the connection. -/
def asksHost (pd : Pcapdroid) (data : PdConn) : Bool :=
  pd.malwareDetection.bl.isSome && !(data.blacklistedDomain || data.whitelistedApp)

/-- The allow-list is asked about the host, and it is on neither list. -/
def refusesHost (pd : Pcapdroid) (data : PdConn) (host : CStr) : Bool :=
  asksHost pd data &&
    !(listedDomain pd.malwareDetection.bl host || listedDomain pd.malwareDetection.whitelist host)

def refusesInfo (pd : Pcapdroid) (data : PdConn) : Bool :=
  data.info.any fun host => !host.isEmpty && refusesHost pd data host

theorem withToBlock_self {d : PdConn} {b : Bool} (h : b = d.toBlock) :
    { d with toBlock := b } = d := by rw [h]

theorem checkAllowedDomain_eq (pd : Pcapdroid) (data : PdConn) (host : CStr) :
    checkAllowedDomain pd data host =
      (if asksHost pd data then
        { domainopen := pd.gate.thischeck && !refusesHost pd data host
          thischeck := pd.gate.thischeck && refusesHost pd data host }
        else pd.gate,
       { data with
         blacklistedDomain := data.blacklistedDomain || refusesHost pd data host
         toBlock := data.toBlock || refusesHost pd data host }) := by
  unfold checkAllowedDomain
  split
  · next hbl => simp [refusesHost, asksHost, hbl]
  · next bl hbl =>
    split
    · next h =>
      have hasks : asksHost pd data = false := by rw [asksHost, h, Bool.not_true, Bool.and_false]
      simp [refusesHost, hasks]
    · next h =>
      have hasks : asksHost pd data = true := by
        rw [asksHost, (Bool.not_eq_true _).mp h, hbl]
        rfl
      split
      · next hm =>
        have hno : refusesHost pd data host = false := by
          rw [refusesHost, hbl, listedDomain_some, hm, Bool.not_true, Bool.and_false]
        simp [hno]
      · next hm =>
        have hyes : refusesHost pd data host = true := by
          rw [refusesHost, hasks, hbl, listedDomain_some, (Bool.not_eq_true _).mp hm]
          rfl
        simp [hyes]

theorem checkFirewallDomain_eq (pd : Pcapdroid) (data : PdConn) (host : CStr) :
    checkFirewallDomain pd data host = { data with
      toBlock := data.toBlock || (pd.firewall.enabled && listedDomain pd.firewall.bl host) } := by
  unfold checkFirewallDomain
  split
  · next h =>
    simp only [Bool.and_eq_true, Bool.not_eq_true'] at h
    simp only [h, Bool.false_or, Bool.true_and]
  · next h =>
    refine (withToBlock_self ?_).symm
    cases hb : data.toBlock with
    | true => rfl
    | false =>
      have hen : pd.firewall.enabled = false := by simpa [hb] using h
      simp [hen]

/-- The gate after the host check. -/
def gateAfterHost (pd : Pcapdroid) (data : PdConn) : Gate :=
  if asksHost pd data && data.hasHost then
    { domainopen := pd.gate.thischeck && !refusesInfo pd data
      thischeck := pd.gate.thischeck && refusesInfo pd data }
  else pd.gate

/-- Without a host nothing is checked. -/
theorem checkBlacklistedDomain_of_noHost (pd : Pcapdroid) {data : PdConn}
    (h : data.hasHost = false) : checkBlacklistedDomain pd data = (pd.gate, data) := by
  unfold checkBlacklistedDomain
  split
  · rfl
  · next host hinfo =>
    have hempty : host.isEmpty = true := by simpa [PdConn.hasHost, hinfo] using h
    rw [if_pos hempty]

/-- `check_blacklisted_domain` in closed form. -/
theorem checkBlacklistedDomain_eq (pd : Pcapdroid) (data : PdConn) :
    checkBlacklistedDomain pd data =
      (gateAfterHost pd data,
       { data with
         blacklistedDomain := data.blacklistedDomain || refusesInfo pd data
         toBlock := data.toBlock || refusesInfo pd data ||
           (pd.firewall.enabled && listedInfo pd.firewall.bl data.info) }) := by
  cases hhost : data.hasHost with
  | false =>
    have hno : refusesInfo pd data = false := by
      cases hinfo : data.info <;> simp_all [refusesInfo, PdConn.hasHost]
    have hfw : listedInfo pd.firewall.bl data.info = false := by
      cases hinfo : data.info <;> simp_all [PdConn.hasHost]
    have hgate : gateAfterHost pd data = pd.gate := by
      rw [gateAfterHost, hhost, Bool.and_false]
      rfl
    rw [checkBlacklistedDomain_of_noHost pd hhost, hno, hfw, hgate]
    simp only [Bool.or_false, Bool.and_false]
  | true =>
    obtain ⟨host, hinfo, hne⟩ := Option.any_eq_true _ _ |>.mp hhost
    have hempty : host.isEmpty = false := by simpa using hne
    have hrefuse : refusesInfo pd data = refusesHost pd data host := by
      simp [refusesInfo, hinfo, hempty]
    simp only [checkBlacklistedDomain, hinfo, hempty, checkAllowedDomain_eq,
      checkFirewallDomain_eq, gateAfterHost, hhost, hrefuse, listedInfo_some,
      Bool.not_false, Bool.and_true, Bool.true_and, Bool.false_eq_true, if_false]

/-! ## What the checks keep

Every check of this module and of the dissector only tightens a connection: it may raise
flags and `to_block`, a flag only together with `to_block`, and it leaves alone what
identifies the connection. -/

structure Tightens (d d' : PdConn) : Prop where
  incrId : d'.incrId = d.incrId
  uid : d'.uid = d.uid
  whitelistedApp : d'.whitelistedApp = d.whitelistedApp
  sentPkts : d'.sentPkts = d.sentPkts
  portMappingApplied : d'.portMappingApplied = d.portMappingApplied
  fwPctx : d'.fwPctx = d.fwPctx
  toBlock : d.toBlock = true → d'.toBlock = true
  flagged : (d.flagged = true → d.toBlock = true) → d'.flagged = true → d'.toBlock = true

namespace Tightens

theorem refl (d : PdConn) : Tightens d d :=
  ⟨rfl, rfl, rfl, rfl, rfl, rfl, id, id⟩

theorem trans {a b c : PdConn} (h : Tightens a b) (k : Tightens b c) : Tightens a c where
  incrId := k.incrId.trans h.incrId
  uid := k.uid.trans h.uid
  whitelistedApp := k.whitelistedApp.trans h.whitelistedApp
  sentPkts := k.sentPkts.trans h.sentPkts
  portMappingApplied := k.portMappingApplied.trans h.portMappingApplied
  fwPctx := k.fwPctx.trans h.fwPctx
  toBlock := k.toBlock ∘ h.toBlock
  flagged := k.flagged ∘ h.flagged

/-- What is left unblocked was unblocked before. -/
theorem unblocked {d d' : PdConn} (h : Tightens d d') (hopen : d'.toBlock = false) :
    d.toBlock = false := by
  cases hb : d.toBlock with
  | false => rfl
  | true => exact absurd ((h.toBlock hb).symm.trans hopen) (by decide)

end Tightens

theorem checkBlacklistedDomain_tightens (pd : Pcapdroid) (data : PdConn) :
    Tightens data (checkBlacklistedDomain pd data).2 := by
  rw [checkBlacklistedDomain_eq]
  refine ⟨rfl, rfl, rfl, rfl, rfl, rfl, fun hb => by simp [hb], fun hf hf' => ?_⟩
  simp only [PdConn.flagged, Bool.or_eq_true] at hf hf' ⊢
  tauto

theorem blockInternal_tightens (b : Bool) (data : PdConn) :
    Tightens data (blockInternal b data) := by
  cases b with
  | false => exact Tightens.refl data
  | true => exact ⟨rfl, rfl, rfl, rfl, rfl, rfl, fun _ => rfl, fun _ _ => rfl⟩

theorem vpnProcessNdpi_tightens (pd : Pcapdroid) (tuple : Tuple) (data : PdConn) :
    Tightens data (vpnProcessNdpi pd tuple data) :=
  (blockInternal_tightens _ data).trans (blockInternal_tightens _ _)

theorem blockInternal_info (b : Bool) (data : PdConn) :
    (blockInternal b data).info = data.info := by cases b <;> rfl

theorem vpnProcessNdpi_info (pd : Pcapdroid) (tuple : Tuple) (data : PdConn) :
    (vpnProcessNdpi pd tuple data).info = data.info := by
  simp only [vpnProcessNdpi, blockInternal_info]

theorem checkBlacklistedDomain_info (pd : Pcapdroid) (data : PdConn) :
    (checkBlacklistedDomain pd data).2.info = data.info := by
  rw [checkBlacklistedDomain_eq]

/-- What is left unblocked by the host check has an allowed host or belongs to a
whitelisted app; `blacklisted_domain` is the one other way out, and it means blocked. -/
theorem checkBlacklistedDomain_allowed {pd : Pcapdroid} {data : PdConn} {bl : Blacklist}
    {host : CStr} (hbl : pd.malwareDetection.bl = some bl) (hinfo : data.info = some host)
    (hne : host ≠ []) (hflag : data.flagged = true → data.toBlock = true)
    (hopen : (checkBlacklistedDomain pd data).2.toBlock = false) :
    data.whitelistedApp = true ∨ bl.matchDomain host = true ∨
      listedDomain pd.malwareDetection.whitelist host = true := by
  rw [checkBlacklistedDomain_eq] at hopen
  simp only [Bool.or_eq_false_iff] at hopen
  have hdom : data.blacklistedDomain = false := by
    by_contra hd
    have hb := hflag (by simp [PdConn.flagged, hd])
    exact absurd (hb.symm.trans hopen.1.1) (by decide)
  have hempty : host.isEmpty = false := by simpa using hne
  have hkept : refusesInfo pd data = false := hopen.1.2
  simp only [refusesInfo, refusesHost, asksHost, hinfo, hbl, hdom, hempty, Option.any_some,
    Option.isSome_some, listedDomain_some, Bool.not_false, Bool.true_and, Bool.false_or,
    Bool.and_eq_false_iff, Bool.not_eq_false', Bool.or_eq_true] at hkept
  exact hkept

/-- Whitelist mode adds its verdict to what blocks the connection already. -/
theorem checkWhitelistModeBlock_eq (pd : Pcapdroid) (tuple : Tuple) (data : PdConn) :
    checkWhitelistModeBlock pd tuple data =
      { data with toBlock := data.toBlock || whitelistModeBlocks pd tuple data } := by
  have hsame : ∀ b, b = data.toBlock → data = { data with toBlock := b } := by
    rintro b rfl
    rfl
  by_cases hunk : data.uid = uidUnknown
  · simp only [checkWhitelistModeBlock, whitelistModeBlocks, hunk]
    split <;> simp [hunk]
  · have hno : (data.uid == uidUnknown) = false := by simpa using hunk
    simp only [checkWhitelistModeBlock, whitelistModeBlocks]
    split
    · next h =>
      simp only [Bool.and_eq_true, Bool.not_eq_true'] at h
      simp [h, hunk]
    · next h =>
      refine hsame _ ?_
      cases hb : data.toBlock with
      | true => rfl
      | false =>
        simp only [hb, Bool.not_false, Bool.and_true, Bool.not_eq_true] at h
        simp only [h, hno, Bool.false_and, Bool.or_false]

@[simp] theorem checkWhitelistModeBlock_toBlock (pd : Pcapdroid) (tuple : Tuple)
    (data : PdConn) : (checkWhitelistModeBlock pd tuple data).toBlock =
      (data.toBlock || whitelistModeBlocks pd tuple data) := by
  rw [checkWhitelistModeBlock_eq]

end SecureGuard.Native
