import SecureGuard.Native.Connection

/-! # Housekeeping

`pd_housekeeping` runs on the packet-loop thread after every turn of the loop. It dumps
statistics and connections, takes over freshly loaded lists and re-evaluates the active
connections under them. The lists are put in place by the Java side (`reload*`) and by the
thread that loads the allow-list. -/

namespace SecureGuard.Native

/-! ## Re-evaluation -/

/-- All three reason flags are set: the one case `check_blocked_conn_cb` does not block. -/
def PdConn.allFlags (d : PdConn) : Bool :=
  d.blacklistedInternal && d.blacklistedIp && d.blacklistedDomain

section Reevaluation

variable (pd : Pcapdroid) (tuple : Tuple) (data : PdConn)

/-- `check_blocked_conn_cb`. The first test is the source's: a missing reason flag blocks. -/
def checkBlockedConn : PdConn :=
  let toBlock :=
    !data.blacklistedInternal || !data.blacklistedIp || !data.blacklistedDomain
  let toBlock :=
    if !toBlock && pd.firewall.enabled && pd.firewall.bl.isSome then
      listedUid pd.firewall.bl data.uid ||
        listedIp pd.firewall.bl tuple.dstIp tuple.ipver || listedInfo pd.firewall.bl data.info
    else toBlock
  checkWhitelistModeBlock pd tuple { data with toBlock := toBlock }

/-- `check_blacklisted_conn_cb`, under a whitelist `wl` just installed. -/
def checkBlacklistedConn (wl : Blacklist) : PdConn :=
  let app := wl.matchUid data.uid
  let clearIp := data.blacklistedIp && (app || wl.matchIp tuple.dstIp tuple.ipver)
  let clearDomain := data.blacklistedDomain &&
    (app || data.info.any fun host => wl.matchDomain host)
  let data := { data with
    whitelistedApp := app
    blacklistedIp := data.blacklistedIp && !clearIp
    blacklistedDomain := data.blacklistedDomain && !clearDomain }
  if (clearIp || clearDomain) && pd.firewall.bl.isSome then checkBlockedConn pd tuple data
  else data

end Reevaluation

/-- What the re-evaluation leaves: the first test of the source, the firewall list, or
whitelist mode. -/
theorem checkBlockedConn_toBlock (pd : Pcapdroid) (tuple : Tuple) (data : PdConn) :
    (checkBlockedConn pd tuple data).toBlock =
      (!data.allFlags || firewallMatches pd tuple data || whitelistModeBlocks pd tuple data) := by
  have hflags : (!data.blacklistedInternal || !data.blacklistedIp || !data.blacklistedDomain) =
      !data.allFlags := by
    simp only [PdConn.allFlags, Bool.not_and]
  have hmissing : pd.firewall.bl = none → firewallMatches pd tuple data = false := by
    intro h
    cases hinfo : data.info <;>
      simp [firewallMatches, h, hinfo, listedUid, listedIp, listedDomain]
  have hmode : ∀ b, whitelistModeBlocks pd tuple { data with toBlock := b } =
      whitelistModeBlocks pd tuple data := fun _ => rfl
  simp only [checkBlockedConn, checkWhitelistModeBlock_toBlock, hmode, hflags]
  congr 1
  cases hbl : pd.firewall.bl with
  | none => simp [hmissing hbl]
  | some bl =>
    cases hall : data.allFlags with
    | false => simp
    | true => cases hen : pd.firewall.enabled <;> simp [firewallMatches, hen, hbl]

/-- The re-evaluation writes `to_block` only. -/
theorem checkBlockedConn_eq (pd : Pcapdroid) (tuple : Tuple) (data : PdConn) :
    checkBlockedConn pd tuple data =
      { data with toBlock := (checkBlockedConn pd tuple data).toBlock } := by
  simp only [checkBlockedConn, checkWhitelistModeBlock_eq]

/-- `iter_active_connections`: connections zdtun has closed are skipped. -/
def iterActiveConnections (pd : Pcapdroid) (cb : Tuple → PdConn → PdConn) : Pcapdroid :=
  if pd.vpnCapture then
    { pd with conns := pd.conns.map fun c =>
        if c.status.isClosed then c else { c with data := cb c.tuple c.data } }
  else pd

theorem iterActiveConnections_frame (pd : Pcapdroid) (cb : Tuple → PdConn → PdConn) :
    ∃ conns, iterActiveConnections pd cb = { pd with conns := conns } := by
  unfold iterActiveConnections
  split
  · exact ⟨_, rfl⟩
  · exact ⟨pd.conns, rfl⟩

/-! ## The stages of `pd_housekeeping` -/

/-- `sendConnectionsDump` and `conns_clear`: closed connections are freed with the dump that
reports them. -/
def connectionsDump (pd : Pcapdroid) : Pcapdroid :=
  { pd with
    conns := pd.conns.filter fun c => !c.data.toPurge
    newConns := []
    netdDelay :=
      { netdResolveWaiting := 0
        nextConnectionsDump := pd.nowMs + connectionDumpUpdateFrequencyMs } }

/-- `use_new_blacklists`. -/
def useNewBlacklists (md : MalwareDetection) : MalwareDetection :=
  match md.newBl with
  | none => md
  | some bl => { md with bl := some bl, newBl := none }

/-- The allow-list branch: take over a finished load, or start one that was asked for. -/
def reloadStep (pd : Pcapdroid) : Pcapdroid :=
  if pd.malwareDetection.reloadInProgress then
    if pd.malwareDetection.reloadDone then
      { pd with malwareDetection :=
          useNewBlacklists { pd.malwareDetection with reloadInProgress := false } }
    else pd
  else if pd.reloadBlacklistsNow then
    { pd with
      reloadBlacklistsNow := false
      malwareDetection := { pd.malwareDetection with
        reloadDone := false, newBl := none, reloadInProgress := true } }
  else pd

/-- The first `if` chain: a statistics dump, else a connections dump, else the allow-list. -/
def dumpOrReload (pd : Pcapdroid) : Pcapdroid :=
  if pd.dumpCaptureStatsNow ||
      (pd.newStats && captureStatsUpdateFrequencyMs ≤ pd.nowMs - pd.lastUpdateMs) then
    { pd with dumpCaptureStatsNow := false, newStats := false, lastUpdateMs := pd.nowMs }
  else if pd.netdDelay.nextConnectionsDump ≤ pd.nowMs then connectionsDump pd
  else if pd.malwareDetection.enabled then reloadStep pd
  else pd

/-- A pending malware whitelist is installed and may unblock connections. -/
def installMalwareWhitelist (pd : Pcapdroid) : Pcapdroid :=
  match pd.malwareDetection.newWl with
  | none => pd
  | some wl =>
    let pd := { pd with
      malwareDetection := { pd.malwareDetection with whitelist := some wl, newWl := none } }
    iterActiveConnections pd fun tuple data => checkBlacklistedConn pd tuple data wl

/-- A pending block list is taken over, else a pending whitelist: with both pending the
whitelist waits for the next turn. -/
def Firewall.installed (fw : Firewall) : Firewall :=
  match fw.newBl, fw.newWl with
  | some bl, _ => { fw with bl := some bl, newBl := none }
  | none, some wl => { fw with wl := some wl, newWl := none }
  | none, none => fw

def Firewall.pending (fw : Firewall) : Bool := fw.newBl.isSome || fw.newWl.isSome

/-- The engine with the pending firewall list taken over. -/
def withInstalled (pd : Pcapdroid) : Pcapdroid := { pd with firewall := pd.firewall.installed }

/-- With a list taken over, every active connection is re-evaluated. -/
def installFirewallLists (pd : Pcapdroid) : Pcapdroid :=
  if pd.firewall.pending then
    iterActiveConnections (withInstalled pd) (checkBlockedConn (withInstalled pd))
  else pd

def installDecryptionList (pd : Pcapdroid) : Pcapdroid :=
  match pd.tlsDecryption.newList with
  | none => pd
  | some list =>
    { pd with tlsDecryption := { pd.tlsDecryption with list := some list, newList := none } }

/-- The engine when `pd_housekeeping` comes to the firewall lists. -/
def beforeFirewall (pd : Pcapdroid) : Pcapdroid := installMalwareWhitelist (dumpOrReload pd)

/-- `pd_housekeeping`. -/
def pdHousekeeping (pd : Pcapdroid) : Pcapdroid :=
  installDecryptionList (installFirewallLists (beforeFirewall pd))

/-! ## What the stages change -/

theorem installMalwareWhitelist_frame (pd : Pcapdroid) : ∃ md conns,
    installMalwareWhitelist pd = { pd with malwareDetection := md, conns := conns } := by
  unfold installMalwareWhitelist
  split
  · exact ⟨pd.malwareDetection, pd.conns, rfl⟩
  · obtain ⟨conns, he⟩ := iterActiveConnections_frame _ _
    exact ⟨_, conns, he⟩

theorem installFirewallLists_frame (pd : Pcapdroid) : ∃ fw conns,
    installFirewallLists pd = { pd with firewall := fw, conns := conns } := by
  unfold installFirewallLists
  split
  · obtain ⟨conns, he⟩ := iterActiveConnections_frame (withInstalled pd) _
    exact ⟨_, conns, he⟩
  · exact ⟨pd.firewall, pd.conns, rfl⟩

theorem installDecryptionList_frame (pd : Pcapdroid) :
    ∃ tls, installDecryptionList pd = { pd with tlsDecryption := tls } := by
  unfold installDecryptionList
  split
  · exact ⟨pd.tlsDecryption, rfl⟩
  · exact ⟨_, rfl⟩

theorem pdHousekeeping_frame (pd : Pcapdroid) : ∃ fw conns tls, pdHousekeeping pd =
    { beforeFirewall pd with firewall := fw, conns := conns, tlsDecryption := tls } := by
  obtain ⟨fw, conns, hlists⟩ := installFirewallLists_frame (beforeFirewall pd)
  obtain ⟨tls, hdecryption⟩ :=
    installDecryptionList_frame (installFirewallLists (beforeFirewall pd))
  exact ⟨fw, conns, tls, by rw [pdHousekeeping, hdecryption, hlists]⟩

/-! ## The Java side -/

/-- The native methods that change what the engine decides with. A list is the native list
`blacklist_load_list_descriptor` built from the descriptor. -/
inductive JniCall
  | setisNetfree (enabled : Bool)
  | setPrivateDnsBlocked (toBlock : Bool)
  | setDnsServer (server : BitVec 32)
  | stopPacketLoop
  | nativeSetFirewallEnabled (enabled : Bool)
  | reloadBlacklists
  | reloadBlocklist (bl : Blacklist)
  | reloadFirewallWhitelist (wl : Option Blacklist)
  | reloadMalwareWhitelist (wl : Blacklist)
  | reloadDecryptionList (list : Blacklist)
  deriving DecidableEq, Repr

/-- `reloadBlocklist`: refused while the previous list is pending. -/
def reloadBlocklist (pd : Pcapdroid) (bl : Blacklist) : Pcapdroid :=
  if !pd.vpnCapture || pd.firewall.newBl.isSome then pd
  else { pd with firewall := { pd.firewall with newBl := some bl } }

/-- `reloadFirewallWhitelist`: `null` switches whitelist mode off. -/
def reloadFirewallWhitelist (pd : Pcapdroid) (wl : Option Blacklist) : Pcapdroid :=
  if !pd.vpnCapture || pd.firewall.newWl.isSome then pd
  else match wl with
    | none => { pd with firewall := { pd.firewall with wlEnabled := false } }
    | some wl => { pd with firewall := { pd.firewall with newWl := some wl, wlEnabled := true } }

def reloadMalwareWhitelist (pd : Pcapdroid) (wl : Blacklist) : Pcapdroid :=
  if !pd.malwareDetection.enabled || pd.malwareDetection.newWl.isSome then pd
  else { pd with malwareDetection := { pd.malwareDetection with newWl := some wl } }

def reloadDecryptionList (pd : Pcapdroid) (list : Blacklist) : Pcapdroid :=
  if !pd.tlsDecryption.enabled || pd.tlsDecryption.newList.isSome then pd
  else { pd with tlsDecryption := { pd.tlsDecryption with newList := some list } }

def jniCall (pd : Pcapdroid) : JniCall → Pcapdroid
  | .setisNetfree enabled => { pd with isNetfree := enabled }
  | .setPrivateDnsBlocked toBlock => { pd with blockPrivateDns := toBlock }
  | .setDnsServer server => { pd with newDnsServer := server }
  | .stopPacketLoop => { pd with running := false }
  | .nativeSetFirewallEnabled enabled =>
    { pd with firewall := { pd.firewall with enabled := enabled } }
  | .reloadBlacklists => { pd with reloadBlacklistsNow := true }
  | .reloadBlocklist bl => reloadBlocklist pd bl
  | .reloadFirewallWhitelist wl => reloadFirewallWhitelist pd wl
  | .reloadMalwareWhitelist wl => reloadMalwareWhitelist pd wl
  | .reloadDecryptionList list => reloadDecryptionList pd list

/-- The Java side never touches the connections, the cache or the clock. -/
theorem jniCall_frame (pd : Pcapdroid) (call : JniCall) :
    ∃ netfree privateDns server running fw reload md tls, jniCall pd call = { pd with
      isNetfree := netfree
      blockPrivateDns := privateDns
      newDnsServer := server
      running := running
      firewall := fw
      reloadBlacklistsNow := reload
      malwareDetection := md
      tlsDecryption := tls } := by
  cases call with
  | reloadBlocklist bl =>
    simp only [jniCall, reloadBlocklist]
    split
    · exact ⟨_, _, _, _, _, _, _, _, rfl⟩
    · exact ⟨_, _, _, _, _, _, _, _, rfl⟩
  | reloadFirewallWhitelist wl =>
    simp only [jniCall, reloadFirewallWhitelist]
    split
    · exact ⟨_, _, _, _, _, _, _, _, rfl⟩
    · cases wl <;> exact ⟨_, _, _, _, _, _, _, _, rfl⟩
  | reloadMalwareWhitelist wl =>
    simp only [jniCall, reloadMalwareWhitelist]
    split
    · exact ⟨_, _, _, _, _, _, _, _, rfl⟩
    · exact ⟨_, _, _, _, _, _, _, _, rfl⟩
  | reloadDecryptionList list =>
    simp only [jniCall, reloadDecryptionList]
    split
    · exact ⟨_, _, _, _, _, _, _, _, rfl⟩
    · exact ⟨_, _, _, _, _, _, _, _, rfl⟩
  | _ => exact ⟨_, _, _, _, _, _, _, _, rfl⟩

/-- `load_new_blacklists` on its thread: `none` where an allocation failed. -/
def loadNewBlacklists (pd : Pcapdroid) (bl : Option Blacklist) : Pcapdroid :=
  if pd.malwareDetection.reloadInProgress && !pd.malwareDetection.reloadDone then
    { pd with malwareDetection := { pd.malwareDetection with newBl := bl, reloadDone := true } }
  else pd

theorem loadNewBlacklists_frame (pd : Pcapdroid) (bl : Option Blacklist) :
    ∃ md, loadNewBlacklists pd bl = { pd with malwareDetection := md } := by
  unfold loadNewBlacklists
  split
  · exact ⟨_, rfl⟩
  · exact ⟨pd.malwareDetection, rfl⟩

end SecureGuard.Native
