import SecureGuard.Native.Reevaluation

/-! # A new malware whitelist and the open connections

When a malware whitelist is taken over, `check_blacklisted_conn_cb` lifts the address and
the host as reasons to block where the new list matches, and leaves the verdict to
`check_blocked_conn_cb`, but only if a firewall block list happens to be loaded. Without one
the old verdict stays; with one the first test of that function blocks, since a reason was
just lifted. -/

namespace SecureGuard.Native
open Machine

/-! ## What one connection keeps -/

section Lifting

variable (wl : Blacklist) (tuple : Tuple) (data : PdConn)

/-- The whitelist lifts the address as a reason. -/
def liftsIp : Bool :=
  data.blacklistedIp && (wl.matchUid data.uid || wl.matchIp tuple.dstIp tuple.ipver)

/-- The whitelist lifts the host as a reason. -/
def liftsDomain : Bool :=
  data.blacklistedDomain &&
    (wl.matchUid data.uid || data.info.any fun host => wl.matchDomain host)

def liftsReason : Bool := liftsIp wl tuple data || liftsDomain wl data

/-- The connection with the reasons the whitelist leaves. -/
def remaining : PdConn :=
  { data with
    whitelistedApp := wl.matchUid data.uid
    blacklistedIp := data.blacklistedIp && !liftsIp wl tuple data
    blacklistedDomain := data.blacklistedDomain && !liftsDomain wl data }

/-- A reason is lifted while a firewall block list is loaded: the verdict is recomputed. -/
def recomputes (pd : Pcapdroid) : Bool := liftsReason wl tuple data && pd.firewall.bl.isSome

/-- The whitelist takes effect on the connection: where the verdict is recomputed something
else blocks it, elsewhere its verdict already was the one of what remains. -/
def takesEffect (pd : Pcapdroid) : Bool :=
  if recomputes wl tuple data pd then freshDecision pd tuple (remaining wl tuple data)
  else data.toBlock == freshDecision pd tuple (remaining wl tuple data)

end Lifting

theorem checkBlacklistedConn_eq (pd : Pcapdroid) (tuple : Tuple) (data : PdConn)
    (wl : Blacklist) : checkBlacklistedConn pd tuple data wl =
      if recomputes wl tuple data pd then checkBlockedConn pd tuple (remaining wl tuple data)
      else remaining wl tuple data := rfl

/-- With a reason lifted, not all of them can be set. -/
theorem allFlags_remaining {wl : Blacklist} {tuple : Tuple} {data : PdConn}
    (h : liftsReason wl tuple data = true) : (remaining wl tuple data).allFlags = false := by
  rcases Bool.or_eq_true_iff.mp h with hip | hdomain
  · simp [PdConn.allFlags, remaining, hip]
  · simp [PdConn.allFlags, remaining, hdomain]

/-- A verdict recomputed after a reason was lifted blocks. -/
theorem checkBlacklistedConn_toBlock (pd : Pcapdroid) (tuple : Tuple) (data : PdConn)
    (wl : Blacklist) : (checkBlacklistedConn pd tuple data wl).toBlock =
      (recomputes wl tuple data pd || data.toBlock) := by
  rw [checkBlacklistedConn_eq]
  cases hrecomputes : recomputes wl tuple data pd with
  | false => rfl
  | true =>
    have hlifts := (Bool.and_eq_true_iff.mp hrecomputes).1
    rw [if_pos rfl, checkBlockedConn_toBlock, allFlags_remaining hlifts]
    rfl

/-- Nothing but the verdict comes out of the recomputation. -/
theorem checkBlacklistedConn_remaining (pd : Pcapdroid) (tuple : Tuple) (data : PdConn)
    (wl : Blacklist) : checkBlacklistedConn pd tuple data wl =
      { remaining wl tuple data with
        toBlock := (checkBlacklistedConn pd tuple data wl).toBlock } := by
  rw [checkBlacklistedConn_eq]
  split
  · exact checkBlockedConn_eq pd tuple _
  · rfl

/-- The decision does not depend on the verdict so far. -/
theorem freshDecision_withToBlock (pd : Pcapdroid) (tuple : Tuple) (data : PdConn) (b : Bool) :
    freshDecision pd tuple { data with toBlock := b } = freshDecision pd tuple data := rfl

/-- The decision depends on the firewall alone. -/
theorem freshDecision_congr {pd pd' : Pcapdroid} (h : pd'.firewall = pd.firewall)
    (tuple : Tuple) (data : PdConn) :
    freshDecision pd' tuple data = freshDecision pd tuple data := by
  simp only [freshDecision, firewallMatches, whitelistModeBlocks, h]

theorem checkBlacklistedConn_agrees_iff (pd : Pcapdroid) (tuple : Tuple) (data : PdConn)
    (wl : Blacklist) :
    (checkBlacklistedConn pd tuple data wl).toBlock =
        freshDecision pd tuple (checkBlacklistedConn pd tuple data wl) ↔
      takesEffect wl tuple data pd = true := by
  rw [checkBlacklistedConn_remaining, freshDecision_withToBlock, checkBlacklistedConn_toBlock,
    takesEffect]
  cases recomputes wl tuple data pd <;> simp

/-! ## All active connections -/

/-- The verdict of every active connection is the one its flags and the lists stand for. -/
def Agrees (pd : Pcapdroid) : Prop :=
  ∀ c ∈ pd.conns, c.status.isClosed = false →
    c.data.toBlock = freshDecision pd c.tuple c.data

instance (pd : Pcapdroid) : Decidable (Agrees pd) :=
  inferInstanceAs (Decidable (∀ c ∈ pd.conns, _))

/-- A callback over the active connections leaves them in agreement exactly if it does so
with each of them. -/
theorem agrees_iterActiveConnections {pd : Pcapdroid} (hvpn : pd.vpnCapture = true)
    (cb : Tuple → PdConn → PdConn) :
    Agrees (iterActiveConnections pd cb) ↔
      ∀ c ∈ pd.conns, c.status.isClosed = false →
        (cb c.tuple c.data).toBlock = freshDecision pd c.tuple (cb c.tuple c.data) := by
  have hfresh : ∀ tuple data, freshDecision (iterActiveConnections pd cb) tuple data =
      freshDecision pd tuple data := by
    obtain ⟨conns, he⟩ := iterActiveConnections_frame pd cb
    intro tuple data
    exact freshDecision_congr (by rw [he]) tuple data
  simp only [Agrees, hfresh]
  rw [iterActiveConnections, if_pos hvpn]
  constructor
  · intro h c hc hactive
    have hmem := h _ (List.mem_map_of_mem hc)
    rw [if_neg (by simp [hactive])] at hmem
    exact hmem hactive
  · intro h c hc hactive
    obtain ⟨c₀, hc₀, rfl⟩ := List.mem_map.mp hc
    cases hclosed : c₀.status.isClosed with
    | true => simp [hclosed] at hactive
    | false =>
      rw [if_neg (by simp)]
      exact h c₀ hc₀ hclosed

/-- The engine with the whitelist taken over. -/
def withWhitelist (pd : Pcapdroid) (wl : Blacklist) : Pcapdroid :=
  { pd with
    malwareDetection := { pd.malwareDetection with whitelist := some wl, newWl := none } }

theorem installMalwareWhitelist_eq {pd : Pcapdroid} {wl : Blacklist}
    (hnew : pd.malwareDetection.newWl = some wl) :
    installMalwareWhitelist pd = iterActiveConnections (withWhitelist pd wl)
      fun tuple data => checkBlacklistedConn (withWhitelist pd wl) tuple data wl := by
  rw [installMalwareWhitelist, hnew]
  rfl

theorem installMalwareWhitelist_agrees_iff {pd : Pcapdroid} {wl : Blacklist}
    (hvpn : pd.vpnCapture = true) (hnew : pd.malwareDetection.newWl = some wl) :
    Agrees (installMalwareWhitelist pd) ↔
      ∀ c ∈ pd.conns, c.status.isClosed = false → takesEffect wl c.tuple c.data pd = true := by
  rw [installMalwareWhitelist_eq hnew,
    agrees_iterActiveConnections (show (withWhitelist pd wl).vpnCapture = true from hvpn)]
  simp only [checkBlacklistedConn_agrees_iff]
  rfl

theorem dumpOrReload_newWl (pd : Pcapdroid) :
    (dumpOrReload pd).malwareDetection.newWl = pd.malwareDetection.newWl := by
  unfold dumpOrReload reloadStep useNewBlacklists
  repeat' split
  all_goals rfl

/-- **A new malware whitelist takes effect exactly where** each active connection whose
verdict is recomputed is blocked by something else, and each other one had the verdict of
what remains before. -/
theorem whitelistReload_iff (pd : Pcapdroid) (wl : Blacklist) (hvpn : pd.vpnCapture = true)
    (hnew : pd.malwareDetection.newWl = some wl) :
    Agrees (beforeFirewall pd) ↔
      ∀ c ∈ (dumpOrReload pd).conns, c.status.isClosed = false →
        takesEffect wl c.tuple c.data pd = true := by
  obtain ⟨hfw, hcapture⟩ := dumpOrReload_frame pd
  have heffect : ∀ tuple data, takesEffect wl tuple data (dumpOrReload pd) =
      takesEffect wl tuple data pd := by
    intro tuple data
    rw [takesEffect, takesEffect, recomputes, recomputes, hfw, freshDecision_congr hfw]
  rw [beforeFirewall, installMalwareWhitelist_agrees_iff (hcapture.trans hvpn)
    ((dumpOrReload_newWl pd).trans hnew)]
  simp only [heffect]

/-- A connection to an address on no list, and a whitelist with its app on the way. -/
def whitelistPending : Pcapdroid :=
  run step Leak.start [Leak.sent (Leak.tcpTuple (ip4 6 6 6 6) 40000) 2000 Leak.sawNothing,
    .jni (.reloadMalwareWhitelist { Blacklist.init with uids := [2000] })]

/-- The same, with an empty firewall block list in force. -/
def whitelistPendingFirewalled : Pcapdroid :=
  { whitelistPending with
    firewall := { whitelistPending.firewall with enabled := true, bl := some Blacklist.init } }

/-- The only reason of the connection is lifted, and it stays blocked, without a firewall
block list and with one. -/
theorem whitelistReload_keeps_blocked :
    (whitelistPending.vpnCapture = true ∧
      whitelistPending.malwareDetection.newWl.isSome = true ∧
      (beforeFirewall whitelistPending).conns.map
        (fun c => (c.status.isClosed, c.data.flagged, c.data.toBlock)) = [(false, false, true)] ∧
      ¬ Agrees (beforeFirewall whitelistPending)) ∧
    (whitelistPendingFirewalled.vpnCapture = true ∧
      whitelistPendingFirewalled.malwareDetection.newWl.isSome = true ∧
      (beforeFirewall whitelistPendingFirewalled).conns.map
        (fun c => (c.status.isClosed, c.data.flagged, c.data.toBlock)) = [(false, false, true)] ∧
      ¬ Agrees (beforeFirewall whitelistPendingFirewalled)) := by
  decide +kernel

/-- The whitelist of one app leaves the connection of another alone. -/
theorem whitelistReload_iff_other :
    Agrees (beforeFirewall (jniCall (run step Leak.start
        [Leak.sent (Leak.tcpTuple (ip4 6 6 6 6) 40000) 2000 Leak.sawNothing])
        (.reloadMalwareWhitelist Leak.wl))) :=
  (whitelistReload_iff _ Leak.wl (by decide +kernel) (by decide +kernel)).mpr
    (by decide +kernel)

end SecureGuard.Native
