import SecureGuard.Native.AllowList

/-! # Re-evaluation against a fresh decision

When a firewall list is taken over, `check_blocked_conn_cb` recomputes `to_block` from the
reason flags and the lists. It should agree with the decision the flags and the lists stand
for; its first test is the negation of the one that would, so it agrees exactly where that
test does not matter. -/

namespace SecureGuard.Native
open Machine

/-- The decision the flags and the lists stand for. -/
def freshDecision (pd : Pcapdroid) (tuple : Tuple) (data : PdConn) : Bool :=
  data.flagged || firewallMatches pd tuple data || whitelistModeBlocks pd tuple data

/-- The re-evaluation is right: a list or whitelist mode blocks anyway, or some but not all
of the reason flags are set. -/
def reevaluatesRight (pd : Pcapdroid) (tuple : Tuple) (data : PdConn) : Bool :=
  firewallMatches pd tuple data || whitelistModeBlocks pd tuple data ||
    (data.flagged && !data.allFlags)

theorem flagged_of_allFlags {d : PdConn} (h : d.allFlags = true) : d.flagged = true := by
  simp only [PdConn.allFlags, Bool.and_eq_true] at h
  simp [PdConn.flagged, h]

theorem checkBlockedConn_eq_freshDecision_iff (pd : Pcapdroid) (tuple : Tuple) (data : PdConn) :
    (checkBlockedConn pd tuple data).toBlock = freshDecision pd tuple data ↔
      reevaluatesRight pd tuple data = true := by
  rw [checkBlockedConn_toBlock, freshDecision, reevaluatesRight]
  cases hmatch : firewallMatches pd tuple data with
  | true => simp
  | false =>
    cases hmode : whitelistModeBlocks pd tuple data with
    | true => simp
    | false =>
      cases hall : data.allFlags with
      | true => simp [flagged_of_allFlags hall]
      | false => cases hflag : data.flagged <;> simp

theorem installDecryptionList_conns (pd : Pcapdroid) :
    (installDecryptionList pd).conns = pd.conns := by
  obtain ⟨tls, he⟩ := installDecryptionList_frame pd
  rw [he]

/-- A dump or a reload of the allow-list touches neither the firewall nor the capture mode. -/
theorem dumpOrReload_frame (pd : Pcapdroid) :
    (dumpOrReload pd).firewall = pd.firewall ∧
      (dumpOrReload pd).vpnCapture = pd.vpnCapture := by
  unfold dumpOrReload reloadStep
  repeat' split
  all_goals exact ⟨rfl, rfl⟩

/-- Neither does taking over a malware whitelist. -/
theorem beforeFirewall_frame (pd : Pcapdroid) :
    (beforeFirewall pd).firewall = pd.firewall ∧
      (beforeFirewall pd).vpnCapture = pd.vpnCapture := by
  obtain ⟨md, conns, he⟩ := installMalwareWhitelist_frame (dumpOrReload pd)
  rw [beforeFirewall, he]
  exact dumpOrReload_frame pd

/-- An active connection after a firewall list was taken over. -/
theorem mem_pdHousekeeping_conns {pd : Pcapdroid} (hvpn : pd.vpnCapture = true)
    (hpending : pd.firewall.pending = true) {c : Conn}
    (hc : c ∈ (beforeFirewall pd).conns) (hactive : c.status.isClosed = false) :
    { c with data := checkBlockedConn (withInstalled (beforeFirewall pd)) c.tuple c.data } ∈
      (pdHousekeeping pd).conns := by
  obtain ⟨hfw, hcapture⟩ := beforeFirewall_frame pd
  rw [pdHousekeeping, installDecryptionList_conns, installFirewallLists,
    if_pos (by rw [hfw, hpending]), iterActiveConnections,
    if_pos (by rw [withInstalled, hcapture, hvpn])]
  exact List.mem_map.mpr ⟨c, hc, by rw [if_neg (by simp [hactive])]⟩

/-- **The re-evaluation by `pd_housekeeping` agrees with the fresh decision exactly where it
is right**, and only there does it keep a verdict that agreed before. -/
theorem reevaluation_agrees_iff (pd : Pcapdroid) (hvpn : pd.vpnCapture = true)
    (hpending : pd.firewall.pending = true) (c : Conn) (hc : c ∈ (beforeFirewall pd).conns)
    (hactive : c.status.isClosed = false) :
    ∃ c' ∈ (pdHousekeeping pd).conns, c'.tuple = c.tuple ∧
      c'.data = { c.data with toBlock := c'.data.toBlock } ∧
      (c'.data.toBlock = freshDecision (withInstalled (beforeFirewall pd)) c.tuple c.data ↔
        reevaluatesRight (withInstalled (beforeFirewall pd)) c.tuple c.data = true) ∧
      (c.data.toBlock = freshDecision (withInstalled (beforeFirewall pd)) c.tuple c.data →
        (c'.data.toBlock = c.data.toBlock ↔
          reevaluatesRight (withInstalled (beforeFirewall pd)) c.tuple c.data = true)) := by
  have hagrees := checkBlockedConn_eq_freshDecision_iff (withInstalled (beforeFirewall pd))
    c.tuple c.data
  refine ⟨_, mem_pdHousekeeping_conns hvpn hpending hc hactive, rfl,
    checkBlockedConn_eq _ c.tuple c.data, hagrees, fun hconsistent => ?_⟩
  rw [hconsistent]
  exact hagrees

/-- A connection with no reason to be blocked, and an empty block list on its way. -/
def emptyListPending : Pcapdroid :=
  run step Leak.start [Leak.sent (Leak.dnsTuple 40000) 2000 (Leak.sawDns "good.com"),
    .jni (.nativeSetFirewallEnabled true), .jni (.reloadBlocklist Blacklist.init)]

/-- Taking over the empty list blocks the connection. -/
theorem reevaluation_blocks_unflagged :
    emptyListPending.vpnCapture = true ∧ emptyListPending.firewall.pending = true ∧
    (∀ c ∈ (beforeFirewall emptyListPending).conns, c.status.isClosed = false ∧
      c.data.flagged = false ∧
      freshDecision (withInstalled (beforeFirewall emptyListPending)) c.tuple c.data = false) ∧
    (pdHousekeeping emptyListPending).conns.map (fun c => c.data.toBlock) = [true] := by
  decide +kernel

def pendingConn : Conn := (beforeFirewall emptyListPending).conns.head (by decide +kernel)

/-- The connection that is blocked agreed with its fresh decision before, and no longer does. -/
theorem reevaluation_agrees_iff_pendingConn :
    ∃ c' ∈ (pdHousekeeping emptyListPending).conns, c'.tuple = pendingConn.tuple ∧
      c'.data = { pendingConn.data with toBlock := c'.data.toBlock } ∧
      (c'.data.toBlock =
          freshDecision (withInstalled (beforeFirewall emptyListPending)) pendingConn.tuple
            pendingConn.data ↔
        reevaluatesRight (withInstalled (beforeFirewall emptyListPending)) pendingConn.tuple
          pendingConn.data = true) ∧
      (pendingConn.data.toBlock =
          freshDecision (withInstalled (beforeFirewall emptyListPending)) pendingConn.tuple
            pendingConn.data →
        (c'.data.toBlock = pendingConn.data.toBlock ↔
          reevaluatesRight (withInstalled (beforeFirewall emptyListPending)) pendingConn.tuple
            pendingConn.data = true)) :=
  reevaluation_agrees_iff emptyListPending (by decide +kernel) (by decide +kernel) pendingConn
    (List.head_mem _) (by decide +kernel)

end SecureGuard.Native
