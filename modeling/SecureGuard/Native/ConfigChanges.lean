import SecureGuard.Native.WhitelistReload

/-! # Firewall settings and the open connections

The verdict of a connection is kept in `to_block` and recomputed when a list is taken over.
`nativeSetFirewallEnabled` and `reloadFirewallWhitelist(null)` change what the verdict
depends on without a list to take over, so nothing recomputes it. -/

namespace SecureGuard.Native
open Machine

/-! ## Runs of configuration calls and housekeeping -/

inductive ConfigEvent
  | nativeSetFirewallEnabled (enabled : Bool)
  | reloadFirewallWhitelist (wl : Option Blacklist)
  | reloadBlocklist (bl : Blacklist)
  | refreshTime (ms : UInt64)
  | housekeeping
  deriving DecidableEq, Repr

def ConfigEvent.event : ConfigEvent → Event
  | .nativeSetFirewallEnabled enabled => .jni (.nativeSetFirewallEnabled enabled)
  | .reloadFirewallWhitelist wl => .jni (.reloadFirewallWhitelist wl)
  | .reloadBlocklist bl => .jni (.reloadBlocklist bl)
  | .refreshTime ms => .refreshTime ms
  | .housekeeping => .housekeeping

def configStep (pd : Pcapdroid) (e : ConfigEvent) : Pcapdroid := step pd e.event

/-- `pd_housekeeping` finds no list to take over that a verdict depends on. -/
def quiet (pd : Pcapdroid) : Bool := !pd.firewall.pending && pd.malwareDetection.newWl.isNone

/-- The next `pd_housekeeping`, if it finds no pending list, leaves every active connection
with the verdict of its flags under the settings in force. -/
def Settles (pd : Pcapdroid) : Prop := quiet pd = true → Agrees (pdHousekeeping pd)

instance (pd : Pcapdroid) : Decidable (Settles pd) :=
  inferInstanceAs (Decidable (quiet pd = true → _))

/-- Connections are marked for purging when zdtun closes them. -/
def PurgesClosed (pd : Pcapdroid) : Prop :=
  ∀ c ∈ pd.conns, c.data.toPurge = true → c.status.isClosed = true

instance (pd : Pcapdroid) : Decidable (PurgesClosed pd) :=
  inferInstanceAs (Decidable (∀ c ∈ pd.conns, _))

/-! ## The condition -/

/-- No active connection's verdict depends on the change of the firewall settings. -/
def KeepsVerdicts (pd : Pcapdroid) (fw : Firewall) : Prop :=
  ∀ c ∈ pd.conns, c.status.isClosed = false →
    freshDecision { pd with firewall := fw } c.tuple c.data = freshDecision pd c.tuple c.data

instance (pd : Pcapdroid) (fw : Firewall) : Decidable (KeepsVerdicts pd fw) :=
  inferInstanceAs (Decidable (∀ c ∈ pd.conns, _))

/-- The callbacks of this housekeeping leave the right verdicts, unless a list stays pending. -/
def RecomputesRight (pd : Pcapdroid) : Prop :=
  if pd.firewall.pending then
    pd.firewall.installed.pending = false →
      ∀ c ∈ (beforeFirewall pd).conns, c.status.isClosed = false →
        reevaluatesRight (withInstalled (beforeFirewall pd)) c.tuple c.data = true
  else
    ∀ wl ∈ pd.malwareDetection.newWl, ∀ c ∈ (dumpOrReload pd).conns, c.status.isClosed = false →
      takesEffect wl c.tuple c.data (dumpOrReload pd) = true

instance (pd : Pcapdroid) : Decidable (RecomputesRight pd) := by
  unfold RecomputesRight
  infer_instance

/-- A setting is changed without a list pending only where no open connection's verdict
depends on it, and the callbacks of every housekeeping leave the right verdicts. -/
def changesRight (pd : Pcapdroid) : ConfigEvent → Prop
  | .nativeSetFirewallEnabled enabled =>
    quiet pd = true → KeepsVerdicts pd { pd.firewall with enabled := enabled }
  | .reloadFirewallWhitelist none =>
    quiet pd = true → KeepsVerdicts pd { pd.firewall with wlEnabled := false }
  | .reloadFirewallWhitelist (some _) | .reloadBlocklist _ | .refreshTime _ => True
  | .housekeeping => RecomputesRight pd

instance (pd : Pcapdroid) (e : ConfigEvent) : Decidable (changesRight pd e) := by
  unfold changesRight
  split <;> infer_instance

/-! ## What housekeeping does -/

theorem agrees_congr {pd pd' : Pcapdroid} (hconns : pd'.conns = pd.conns)
    (hfw : pd'.firewall = pd.firewall) : Agrees pd' ↔ Agrees pd := by
  simp only [Agrees, hconns, freshDecision_congr hfw]

/-- Settings that no verdict depends on keep the agreement, and only those. -/
theorem agrees_withFirewall_iff {pd : Pcapdroid} (fw : Firewall) (h : Agrees pd) :
    Agrees { pd with firewall := fw } ↔ KeepsVerdicts pd fw := by
  constructor
  · intro h' c hc hactive
    rw [← h c hc hactive]
    exact (h' c hc hactive).symm
  · intro hkeep c hc hactive
    rw [hkeep c hc hactive]
    exact h c hc hactive

theorem dumpOrReload_conns (pd : Pcapdroid) : (dumpOrReload pd).conns = pd.conns ∨
    (dumpOrReload pd).conns = pd.conns.filter fun c => !c.data.toPurge := by
  unfold dumpOrReload reloadStep
  repeat' split
  all_goals first | exact Or.inl rfl | exact Or.inr rfl

/-- A dump frees closed connections only. -/
theorem mem_dumpOrReload_iff {pd : Pcapdroid} (hpurge : PurgesClosed pd) {c : Conn}
    (hactive : c.status.isClosed = false) : c ∈ (dumpOrReload pd).conns ↔ c ∈ pd.conns := by
  rcases dumpOrReload_conns pd with he | he
  · rw [he]
  · rw [he, List.mem_filter]
    refine ⟨And.left, fun hc => ⟨hc, ?_⟩⟩
    cases hmarked : c.data.toPurge with
    | false => rfl
    | true => exact absurd (hpurge c hc hmarked) (by simp [hactive])

theorem agrees_dumpOrReload {pd : Pcapdroid} (hpurge : PurgesClosed pd) :
    Agrees (dumpOrReload pd) ↔ Agrees pd := by
  simp only [Agrees, freshDecision_congr (dumpOrReload_frame pd).1]
  constructor
  · intro h c hc hactive
    exact h c ((mem_dumpOrReload_iff hpurge hactive).mpr hc) hactive
  · intro h c hc hactive
    exact h c ((mem_dumpOrReload_iff hpurge hactive).mp hc) hactive

theorem agrees_installDecryptionList (pd : Pcapdroid) :
    Agrees (installDecryptionList pd) ↔ Agrees pd := by
  obtain ⟨tls, he⟩ := installDecryptionList_frame pd
  rw [he]
  exact agrees_congr rfl rfl

theorem installMalwareWhitelist_none {pd : Pcapdroid} (h : pd.malwareDetection.newWl = none) :
    installMalwareWhitelist pd = pd := by
  rw [installMalwareWhitelist, h]

theorem quiet_iff {pd : Pcapdroid} : quiet pd = true ↔
    pd.firewall.pending = false ∧ pd.malwareDetection.newWl = none := by
  simp [quiet]

/-- Without a pending firewall list the verdicts are those the malware whitelist leaves. -/
theorem agrees_pdHousekeeping_of_not_pending {pd : Pcapdroid}
    (h : pd.firewall.pending = false) :
    Agrees (pdHousekeeping pd) ↔ Agrees (beforeFirewall pd) := by
  rw [pdHousekeeping, agrees_installDecryptionList, installFirewallLists,
    (beforeFirewall_frame pd).1, h, if_neg (by simp)]

theorem agrees_pdHousekeeping_of_quiet {pd : Pcapdroid} (hpurge : PurgesClosed pd)
    (h : quiet pd = true) : Agrees (pdHousekeeping pd) ↔ Agrees pd := by
  obtain ⟨hpending, hnew⟩ := quiet_iff.mp h
  rw [agrees_pdHousekeeping_of_not_pending hpending, beforeFirewall,
    installMalwareWhitelist_none ((dumpOrReload_newWl pd).trans hnew),
    agrees_dumpOrReload hpurge]

/-- With one pending firewall list the verdicts are those of `check_blocked_conn_cb`. -/
theorem agrees_pdHousekeeping_of_pending {pd : Pcapdroid} (hvpn : pd.vpnCapture = true)
    (h : pd.firewall.pending = true) :
    Agrees (pdHousekeeping pd) ↔
      ∀ c ∈ (beforeFirewall pd).conns, c.status.isClosed = false →
        reevaluatesRight (withInstalled (beforeFirewall pd)) c.tuple c.data = true := by
  obtain ⟨hfw, hcapture⟩ := beforeFirewall_frame pd
  have hvpn' : (withInstalled (beforeFirewall pd)).vpnCapture = true := hcapture.trans hvpn
  have hfresh : ∀ tuple data,
      freshDecision (withInstalled (beforeFirewall pd)) tuple
        (checkBlockedConn (withInstalled (beforeFirewall pd)) tuple data) =
      freshDecision (withInstalled (beforeFirewall pd)) tuple data := by
    intro tuple data
    rw [checkBlockedConn_eq, freshDecision_withToBlock]
  rw [pdHousekeeping, agrees_installDecryptionList, installFirewallLists, hfw, h, if_pos rfl,
    agrees_iterActiveConnections hvpn']
  simp only [hfresh, checkBlockedConn_eq_freshDecision_iff]
  rfl

/-- Without a list to install, the lists are the installed ones. -/
theorem Firewall.installed_of_not_pending {fw : Firewall} (h : fw.pending = false) :
    fw.installed = fw := by
  cases hbl : fw.newBl <;> cases hwl : fw.newWl <;> simp_all [Firewall.pending, Firewall.installed]

theorem pdHousekeeping_firewall (pd : Pcapdroid) :
    (pdHousekeeping pd).firewall = pd.firewall.installed := by
  obtain ⟨tls, hdecryption⟩ :=
    installDecryptionList_frame (installFirewallLists (beforeFirewall pd))
  rw [pdHousekeeping, hdecryption, installFirewallLists, (beforeFirewall_frame pd).1]
  split
  · obtain ⟨conns, he⟩ := iterActiveConnections_frame (withInstalled (beforeFirewall pd))
      (checkBlockedConn (withInstalled (beforeFirewall pd)))
    rw [he]
    exact congrArg Firewall.installed (beforeFirewall_frame pd).1
  · next hpending =>
    rw [(beforeFirewall_frame pd).1, Firewall.installed_of_not_pending]
    exact eq_false_of_ne_true hpending

theorem pdHousekeeping_firewall_of_not_pending {pd : Pcapdroid}
    (h : pd.firewall.pending = false) : (pdHousekeeping pd).firewall = pd.firewall := by
  rw [pdHousekeeping_firewall, Firewall.installed_of_not_pending h]

/-- The lists installed last are not those of the malware detection. -/
theorem pdHousekeeping_malwareDetection (pd : Pcapdroid) :
    (pdHousekeeping pd).malwareDetection = (beforeFirewall pd).malwareDetection := by
  obtain ⟨fw, conns, tls, he⟩ := pdHousekeeping_frame pd
  rw [he]

/-- A pending malware whitelist is always taken over. -/
theorem pdHousekeeping_newWl (pd : Pcapdroid) :
    (pdHousekeeping pd).malwareDetection.newWl = none := by
  have hinstalled : ∀ pd', (installMalwareWhitelist pd').malwareDetection.newWl = none := by
    intro pd'
    unfold installMalwareWhitelist
    split
    · assumption
    · obtain ⟨conns, he⟩ := iterActiveConnections_frame _ _
      rw [he]
  rw [pdHousekeeping_malwareDetection, beforeFirewall, hinstalled]

/-! ## Marks for purging -/

theorem purgesClosed_iterActiveConnections {pd : Pcapdroid} (h : PurgesClosed pd)
    {cb : Tuple → PdConn → PdConn} (hcb : ∀ tuple data, (cb tuple data).toPurge = data.toPurge) :
    PurgesClosed (iterActiveConnections pd cb) := by
  unfold iterActiveConnections
  split
  · intro c hc hmarked
    obtain ⟨c₀, hc₀, rfl⟩ := List.mem_map.mp hc
    cases hclosed : c₀.status.isClosed with
    | true => simp [hclosed]
    | false =>
      have hmarked₀ : c₀.data.toPurge = true := by simpa [hclosed, hcb] using hmarked
      exact absurd (h c₀ hc₀ hmarked₀) (by simp [hclosed])
  · exact h

theorem purgesClosed_dumpOrReload {pd : Pcapdroid} (h : PurgesClosed pd) :
    PurgesClosed (dumpOrReload pd) := by
  intro c hc
  rcases dumpOrReload_conns pd with he | he
  · exact h c (he ▸ hc)
  · rw [he] at hc
    exact h c (List.mem_filter.mp hc).1

theorem purgesClosed_pdHousekeeping {pd : Pcapdroid} (h : PurgesClosed pd) :
    PurgesClosed (pdHousekeeping pd) := by
  have hblocked : ∀ pd' tuple data, (checkBlockedConn pd' tuple data).toPurge = data.toPurge := by
    intro pd' tuple data
    rw [checkBlockedConn_eq]
  have hlifted : ∀ pd' wl tuple data,
      (checkBlacklistedConn pd' tuple data wl).toPurge = data.toPurge := by
    intro pd' wl tuple data
    rw [checkBlacklistedConn_remaining]
    rfl
  have hbefore : PurgesClosed (beforeFirewall pd) := by
    have hdump := purgesClosed_dumpOrReload h
    cases hnew : (dumpOrReload pd).malwareDetection.newWl with
    | none => rwa [beforeFirewall, installMalwareWhitelist_none hnew]
    | some wl =>
      rw [beforeFirewall, installMalwareWhitelist_eq hnew]
      exact purgesClosed_iterActiveConnections
        (show PurgesClosed (withWhitelist (dumpOrReload pd) wl) from hdump) (hlifted _ _)
  unfold PurgesClosed
  rw [pdHousekeeping, installDecryptionList_conns, installFirewallLists]
  split
  · exact purgesClosed_iterActiveConnections
      (show PurgesClosed (withInstalled (beforeFirewall pd)) from hbefore) (hblocked _)
  · exact hbefore

/-! ## Runs -/

structure Configured (pd : Pcapdroid) : Prop where
  vpnCapture : pd.vpnCapture = true
  purgesClosed : PurgesClosed pd
  settles : Settles pd

theorem settles_iff {pd : Pcapdroid} (hpurge : PurgesClosed pd) :
    Settles pd ↔ (quiet pd = true → Agrees pd) := by
  unfold Settles
  constructor
  · intro h hquiet
    exact (agrees_pdHousekeeping_of_quiet hpurge hquiet).mp (h hquiet)
  · intro h hquiet
    exact (agrees_pdHousekeeping_of_quiet hpurge hquiet).mpr (h hquiet)

/-- Only housekeeping touches the connections, and no other step the kind of the capture. -/
theorem configStep_frame {pd : Pcapdroid} {e : ConfigEvent} (h : e ≠ .housekeeping) :
    (configStep pd e).conns = pd.conns ∧ (configStep pd e).vpnCapture = pd.vpnCapture := by
  cases e with
  | nativeSetFirewallEnabled enabled => exact ⟨rfl, rfl⟩
  | reloadFirewallWhitelist wl =>
    simp only [configStep, ConfigEvent.event, step, react, jniCall, reloadFirewallWhitelist]
    repeat' split
    all_goals exact ⟨rfl, rfl⟩
  | reloadBlocklist bl =>
    simp only [configStep, ConfigEvent.event, step, react, jniCall, reloadBlocklist]
    split <;> exact ⟨rfl, rfl⟩
  | refreshTime ms => exact ⟨rfl, rfl⟩
  | housekeeping => exact absurd rfl h

theorem configStep_conns {pd : Pcapdroid} {e : ConfigEvent} (h : e ≠ .housekeeping) :
    (configStep pd e).conns = pd.conns :=
  (configStep_frame h).1

theorem configStep_vpnCapture (pd : Pcapdroid) (e : ConfigEvent) :
    (configStep pd e).vpnCapture = pd.vpnCapture := by
  by_cases he : e = .housekeeping
  · subst he
    obtain ⟨fw, conns, tls, hpd⟩ := pdHousekeeping_frame pd
    change (pdHousekeeping pd).vpnCapture = pd.vpnCapture
    rw [hpd]
    exact (beforeFirewall_frame pd).2
  · exact (configStep_frame he).2

theorem configStep_purgesClosed {pd : Pcapdroid} (h : PurgesClosed pd) (e : ConfigEvent) :
    PurgesClosed (configStep pd e) := by
  by_cases he : e = .housekeeping
  · subst he
    exact purgesClosed_pdHousekeeping h
  · unfold PurgesClosed
    rw [configStep_conns he]
    exact h

/-- A call that leaves no list pending found none either, or was refused. -/
theorem settles_withFirewall_iff {pd : Pcapdroid} (h : Configured pd) (fw : Firewall)
    (hpending : fw.pending = pd.firewall.pending) :
    Settles { pd with firewall := fw } ↔ (quiet pd = true → KeepsVerdicts pd fw) := by
  have hquiet : quiet { pd with firewall := fw } = quiet pd := by simp only [quiet, hpending]
  rw [settles_iff (show PurgesClosed { pd with firewall := fw } from h.purgesClosed), hquiet]
  refine forall_congr' fun hq => agrees_withFirewall_iff fw ?_
  exact (settles_iff h.purgesClosed).mp h.settles hq

/-- With a list pending there is nothing to settle yet. -/
theorem settles_of_pending {pd : Pcapdroid} (h : pd.firewall.pending = true) : Settles pd :=
  fun hquiet => absurd (quiet_iff.mp hquiet).1 (by simp [h])

theorem settles_pdHousekeeping_iff {pd : Pcapdroid} (h : Configured pd) :
    Settles (pdHousekeeping pd) ↔ RecomputesRight pd := by
  have hnew := pdHousekeeping_newWl pd
  rw [settles_iff (purgesClosed_pdHousekeeping h.purgesClosed), quiet_iff,
    pdHousekeeping_firewall, RecomputesRight]
  cases hpending : pd.firewall.pending with
  | true =>
    rw [if_pos rfl, agrees_pdHousekeeping_of_pending h.vpnCapture hpending]
    exact ⟨fun hs hdone => hs ⟨hdone, hnew⟩, fun hs hdone => hs hdone.1⟩
  | false =>
    have hdone : pd.firewall.installed.pending = false := by
      rw [← pdHousekeeping_firewall, pdHousekeeping_firewall_of_not_pending hpending, hpending]
    rw [if_neg (by simp), agrees_pdHousekeeping_of_not_pending hpending, beforeFirewall]
    cases hold : pd.malwareDetection.newWl with
    | none =>
      have hquiet := quiet_iff.mpr ⟨hpending, hold⟩
      rw [installMalwareWhitelist_none ((dumpOrReload_newWl pd).trans hold),
        agrees_dumpOrReload h.purgesClosed]
      simp [(settles_iff h.purgesClosed).mp h.settles hquiet]
    | some wl =>
      rw [installMalwareWhitelist_agrees_iff ((dumpOrReload_frame pd).2.trans h.vpnCapture)
        ((dumpOrReload_newWl pd).trans hold)]
      simp [hdone, hnew]

/-- **One step**: the next housekeeping settles exactly where the condition holds. -/
theorem settles_configStep_iff {pd : Pcapdroid} (h : Configured pd) (e : ConfigEvent) :
    Settles (configStep pd e) ↔ changesRight pd e := by
  cases e with
  | nativeSetFirewallEnabled enabled => exact settles_withFirewall_iff h _ rfl
  | reloadFirewallWhitelist wl =>
    simp only [configStep, ConfigEvent.event, step, react, jniCall, reloadFirewallWhitelist]
    by_cases hwl : pd.firewall.newWl.isSome = true
    · have hpending : pd.firewall.pending = true := by simp [Firewall.pending, hwl]
      have hquiet : quiet pd = false := by simp [quiet, hpending]
      rw [if_pos (by simp [hwl])]
      cases wl <;> simp [changesRight, hquiet, settles_of_pending hpending]
    · rw [if_neg (by simpa [h.vpnCapture] using hwl)]
      cases wl with
      | none => exact settles_withFirewall_iff h _ rfl
      | some wl => exact iff_of_true (settles_of_pending (by simp [Firewall.pending])) trivial
  | reloadBlocklist bl =>
    simp only [configStep, ConfigEvent.event, step, react, jniCall, reloadBlocklist]
    refine iff_of_true (settles_of_pending ?_) trivial
    split
    · next hrefused => simpa [h.vpnCapture, Firewall.pending] using Or.inl hrefused
    · simp [Firewall.pending]
  | refreshTime ms =>
    refine iff_of_true ?_ trivial
    have hpurge : PurgesClosed (configStep pd (.refreshTime ms)) := h.purgesClosed
    exact (settles_iff hpurge).mpr ((settles_iff h.purgesClosed).mp h.settles)
  | housekeeping => exact settles_pdHousekeeping_iff h

/-- **Configuration changes reach the open connections** in a run exactly if the connections
agree at its start, unless a list is pending there, and every step meets the condition. -/
theorem configChanges_reach_iff (pd : Pcapdroid) (hvpn : pd.vpnCapture = true)
    (hpurge : PurgesClosed pd) (es : List ConfigEvent) :
    EveryState configStep Settles pd es ↔
      (quiet pd = true → Agrees pd) ∧ EveryStep configStep changesRight pd es := by
  have hrun : Settles pd →
      (EveryState configStep Settles pd es ↔ EveryStep configStep changesRight pd es) :=
    fun hsettles => everyState_iff_everyStep (fun _ h => h.settles)
      (fun _ e h => settles_configStep_iff h e)
      (fun s e h he => ⟨(configStep_vpnCapture s e).trans h.vpnCapture,
        configStep_purgesClosed h.purgesClosed e, (settles_configStep_iff h e).mpr he⟩)
      ⟨hvpn, hpurge, hsettles⟩ es
  rw [← settles_iff hpurge]
  constructor
  · intro h
    exact ⟨h.head, (hrun h.head).mp h⟩
  · rintro ⟨hsettles, h⟩
    exact (hrun hsettles).mpr h

/-- A connection of an app on the block list, opened while the firewall is disabled. -/
def firewallOff : Pcapdroid :=
  run step Leak.start [.jni (.reloadBlocklist { Blacklist.init with uids := [2000] }),
    .housekeeping, Leak.sent (Leak.dnsTuple 40000) 2000 (Leak.sawDns "good.com")]

/-- The firewall is enabled, and the connection of the blocked app stays open. -/
theorem configChanges_miss_enabling :
    firewallOff.vpnCapture = true ∧ PurgesClosed firewallOff ∧ Agrees firewallOff ∧
    quiet (configStep firewallOff (.nativeSetFirewallEnabled true)) = true ∧
    (pdHousekeeping (configStep firewallOff (.nativeSetFirewallEnabled true))).conns.map
      (fun c => (c.status.isClosed, c.data.toBlock)) = [(false, false)] ∧
    ¬ EveryState configStep Settles firewallOff
      [.nativeSetFirewallEnabled true, .housekeeping] := by
  decide +kernel

/-- Enabling it with a block list on its way is noticed. -/
theorem configChanges_reach_iff_pending :
    EveryState configStep Settles firewallOff
      [.reloadBlocklist { Blacklist.init with uids := [2000] }, .nativeSetFirewallEnabled true,
        .housekeeping, .housekeeping] :=
  (configChanges_reach_iff firewallOff (by decide +kernel) (by decide +kernel) _).mpr
    (by decide +kernel)

end SecureGuard.Native
