import Mathlib.Data.List.Nodup
import SecureGuard.Native.ConfigChanges

/-! # Blocks outlast the traffic

`to_block` is written by plain assignments and by or-assignments all over the engine. Of all that
happens to a connection in the table only the re-evaluation under a list just taken over can clear
the flag. What every other step does to the table is said once, by `Evolves`: the connections keep
their places and their ids, none loses its block, and the new ones get the ids next in turn. -/

namespace SecureGuard.Native
open Machine

namespace Pcapdroid

/-- The ids of the connections in the table. -/
def ids (pd : Pcapdroid) : List Nat := pd.conns.map fun c => c.data.incrId

/-- The connection is one of the table, perhaps blocked since. -/
def Current (pd : Pcapdroid) (c : Conn) : Prop :=
  ∃ d ∈ pd.conns, d.data.incrId = c.data.incrId ∧ (d.data.toBlock = true → c.data.toBlock = true)

/-- No two connections share an id, and the ids to come are those of no connection. -/
structure Numbered (pd : Pcapdroid) : Prop where
  nodup : pd.ids.Nodup
  below : ∀ id ∈ pd.ids, id < pd.newConnId

structure Evolves (pd pd' : Pcapdroid) : Prop where
  counter : pd.newConnId ≤ pd'.newConnId
  ids : pd'.ids = pd.ids ++ List.range' pd.newConnId (pd'.newConnId - pd.newConnId)
  old : ∀ c ∈ pd'.conns, c.data.incrId < pd.newConnId → pd.Current c

variable {pd pd' pd'' : Pcapdroid} {c : Conn}

theorem Current.of_mem (h : c ∈ pd.conns) : pd.Current c := ⟨c, h, rfl, id⟩

theorem Current.tighten (h : pd.Current c) {data : PdConn} (ht : Tightens c.data data) :
    pd.Current { c with data := data } := by
  obtain ⟨d, hd, hid, hblock⟩ := h
  exact ⟨d, hd, hid.trans ht.incrId.symm, fun hb => ht.toBlock (hblock hb)⟩

theorem Current.of_conns (h : pd.Current c) (hconns : pd'.conns = pd.conns) : pd'.Current c := by
  obtain ⟨d, hd, hc⟩ := h
  exact ⟨d, hconns ▸ hd, hc⟩

theorem Evolves.of_ids (hids : pd'.ids = pd.ids) (hnext : pd'.newConnId = pd.newConnId)
    (hold : ∀ c ∈ pd'.conns, pd.Current c) : pd.Evolves pd' where
  counter := Nat.le_of_eq hnext.symm
  ids := by rw [hids, hnext, Nat.sub_self, List.range'_zero, List.append_nil]
  old c hc _ := hold c hc

theorem Evolves.of_conns (hconns : pd'.conns = pd.conns) (hnext : pd'.newConnId = pd.newConnId) :
    pd.Evolves pd' := by
  refine Evolves.of_ids (by rw [Pcapdroid.ids, hconns, Pcapdroid.ids]) hnext fun c hc => ?_
  rw [hconns] at hc
  exact Current.of_mem hc

theorem Evolves.refl (pd : Pcapdroid) : pd.Evolves pd := Evolves.of_conns rfl rfl

theorem Evolves.trans (h : pd.Evolves pd') (k : pd'.Evolves pd'') : pd.Evolves pd'' where
  counter := Nat.le_trans h.counter k.counter
  ids := by
    obtain ⟨n, hn⟩ := Nat.exists_eq_add_of_le h.counter
    obtain ⟨m, hm⟩ := Nat.exists_eq_add_of_le k.counter
    have hfirst : pd'.newConnId - pd.newConnId = n := by omega
    have hsecond : pd''.newConnId - pd'.newConnId = m := by omega
    have hboth : pd''.newConnId - pd.newConnId = n + m := by omega
    rw [k.ids, h.ids, hfirst, hsecond, hboth, hn, List.append_assoc, List.range'_append_1]
  old := by
    intro c hc hid
    obtain ⟨d, hd, hsame, hblock⟩ := k.old c hc (Nat.lt_of_lt_of_le hid h.counter)
    obtain ⟨e, he, hsame', hblock'⟩ := h.old d hd (hsame ▸ hid)
    exact ⟨e, he, hsame'.trans hsame, hblock ∘ hblock'⟩

theorem Evolves.numbered (h : pd.Evolves pd') (hn : pd.Numbered) : pd'.Numbered where
  nodup := by
    rw [h.ids]
    refine hn.nodup.append List.nodup_range' fun id hid hnew => ?_
    have hlow := hn.below id hid
    have hhigh := (List.mem_range'_1.mp hnew).1
    omega
  below := by
    intro id hid
    rw [h.ids, List.mem_append, List.mem_range'_1] at hid
    have hcounter := h.counter
    rcases hid with hid | hid
    · exact Nat.lt_of_lt_of_le (hn.below id hid) hcounter
    · omega

/-- The connections in the table remain. -/
theorem Evolves.remains (h : pd.Evolves pd') (hc : c ∈ pd.conns) :
    ∃ c' ∈ pd'.conns, c'.data.incrId = c.data.incrId := by
  have hid : c.data.incrId ∈ pd'.ids := by
    rw [h.ids]
    exact List.mem_append_left _ (List.mem_map_of_mem hc)
  obtain ⟨c', hc', hsame⟩ := List.mem_map.mp hid
  exact ⟨c', hc', hsame⟩

theorem evolves_setConn (h : pd.Current c) : pd.Evolves (pd.setConn c) := by
  refine Evolves.of_ids ?_ rfl fun d hd => ?_
  · simp only [ids, setConn, List.map_map]
    refine List.map_congr_left fun d _ => ?_
    dsimp only [Function.comp]
    split
    · next hid => exact hid.symm
    · rfl
  · rcases mem_setConn hd with rfl | hd
    · exact h
    · exact Current.of_mem hd

end Pcapdroid

open Pcapdroid

/-! ## Packets from the network -/

theorem accountForwarded_same (pd : Pcapdroid) (data : PdConn) :
    (accountForwarded pd data).1.conns = pd.conns ∧
      (accountForwarded pd data).1.newConnId = pd.newConnId ∧
      (accountForwarded pd data).2.incrId = data.incrId ∧
      (accountForwarded pd data).2.toBlock = data.toBlock := by
  unfold accountForwarded
  split
  · exact ⟨rfl, rfl, rfl, rfl⟩
  · exact ⟨rfl, rfl, rfl, rfl⟩

theorem pdProcessPacket_same (pd : Pcapdroid) (pkt : Packet) (isTx : Bool) (dpi : DpiResult)
    (data : PdConn) : (pdProcessPacket pd pkt isTx dpi data).1.conns = pd.conns ∧
      (pdProcessPacket pd pkt isTx dpi data).1.newConnId = pd.newConnId := by
  obtain ⟨lru, gate, delay, he⟩ := pdProcessPacket_frame pd pkt isTx dpi data
  rw [he]
  exact ⟨rfl, rfl⟩

section Traffic

variable {pd : Pcapdroid} {c : Conn}

theorem current_accountForwarded (h : pd.Current c) :
    pd.Current { c with data := (accountForwarded pd c.data).2 } := by
  obtain ⟨d, hd, hid, hblock⟩ := h
  obtain ⟨-, -, hid', hblock'⟩ := accountForwarded_same pd c.data
  exact ⟨d, hd, hid.trans hid'.symm, fun hb => hblock'.trans (hblock hb)⟩

theorem evolves_countBlocked (h : pd.Current c) : pd.Evolves (countBlocked pd c) :=
  evolves_setConn (h.tighten ⟨rfl, rfl, rfl, rfl, rfl, rfl, id, id⟩)

theorem evolves_written (h : pd.Current c) (write : WriteResult) :
    pd.Evolves (written pd c write) := by
  have hset := evolves_setConn h
  cases write with
  | ok =>
    have hstats : pd.Evolves { pd with newStats := true } := Evolves.of_conns rfl rfl
    refine hstats.trans (evolves_setConn ?_)
    exact h.of_conns rfl
  | noBuffers | partialWrite => exact hset
  | failed => exact hset.trans (Evolves.of_conns rfl rfl)

theorem evolves_inspectIngress (h : pd.Current c) (i : Ingress) :
    pd.Evolves (inspectIngress pd c i).1 ∧
      (inspectIngress pd c i).1.Current (inspectIngress pd c i).2 := by
  obtain ⟨hconns, hnext, -, -⟩ := accountForwarded_same pd c.data
  obtain ⟨hconns', hnext'⟩ := pdProcessPacket_same
    ((accountForwarded pd c.data).1.atTime i.ms) i.pkt false i.dpi (accountForwarded pd c.data).2
  refine ⟨Evolves.of_conns (hconns'.trans hconns) (hnext'.trans hnext), ?_⟩
  have hseen := (current_accountForwarded h).tighten (pdProcessPacket_tightens
    ((accountForwarded pd c.data).1.atTime i.ms) i.pkt false i.dpi (accountForwarded pd c.data).2)
  exact hseen.of_conns (hconns'.trans hconns)

theorem evolves_deliver (h : pd.Current c) (write : WriteResult) :
    pd.Evolves (deliver pd c write).1 := by
  unfold deliver
  split
  · exact evolves_countBlocked h
  · exact evolves_written h write

theorem evolves_remote2vpn (pd : Pcapdroid) (id : Nat) (i : Ingress) :
    pd.Evolves (remote2vpn pd id i).1 := by
  unfold remote2vpn
  split
  · exact Evolves.refl pd
  · next c hc =>
    split
    · exact Evolves.refl pd
    · obtain ⟨hev, hcur⟩ := evolves_inspectIngress (Current.of_mem (mem_of_conn? hc)) i
      exact hev.trans (evolves_deliver hcur i.write)

theorem evolves_remote2vpns (id : Nat) (is : List Ingress) (pd : Pcapdroid) :
    pd.Evolves (remote2vpns id pd is).1 := by
  induction is generalizing pd with
  | nil => exact Evolves.refl pd
  | cons i is ih => exact (evolves_remote2vpn pd id i).trans (ih _)

/-! ## Packets from the tun -/

theorem prepareFirst_tightens (pd : Pcapdroid) (tuple : Tuple) (data : PdConn) :
    (prepareFirst pd tuple data).incrId = data.incrId ∧
      (prepareFirst pd tuple data).toBlock = data.toBlock := by
  unfold prepareFirst
  repeat' split
  all_goals exact ⟨rfl, rfl⟩

/-- What comes after the inspection of a first packet may block the connection or close it. -/
theorem checkFirst_same (h : pd.Current c) (p : TunPacket) :
    (checkFirst pd c p).1.conns = pd.conns ∧ (checkFirst pd c p).1.newConnId = pd.newConnId ∧
      pd.Current (checkFirst pd c p).2 := by
  have hsame : (checkFirst pd c p).1.conns = pd.conns ∧
      (checkFirst pd c p).1.newConnId = pd.newConnId := by
    obtain ⟨vpn, server, requests, gate, he⟩ := checkFirst_frame pd c p
    rw [he]
    exact ⟨rfl, rfl⟩
  have hmark : ∀ allowed, pd.Current { c with data := markInternal c.data allowed } := by
    intro allowed
    obtain ⟨d, hd, hid, hblock⟩ := h
    exact ⟨d, hd, hid, fun hb => by simp [markInternal, hblock hb]⟩
  refine ⟨hsame.1, hsame.2, ?_⟩
  unfold checkFirst closeSpoofed
  split
  · dsimp only
    split
    · obtain ⟨d, hd, hid, hblock⟩ := (hmark _).tighten (pdGiveupDpi_tightens _ _ _ _)
      exact ⟨d, hd, hid, hblock⟩
    · exact hmark _
  · exact h

theorem evolves_inspectEgress (h : pd.Current c) (p : TunPacket) :
    pd.Evolves (inspectEgress pd c p).1 ∧
      (inspectEgress pd c p).1.Current (inspectEgress pd c p).2 := by
  obtain ⟨hid, hblock⟩ := prepareFirst_tightens pd c.tuple c.data
  obtain ⟨hconns, hnext⟩ :=
    pdProcessPacket_same pd p.pkt true p.dpi (prepareFirst pd c.tuple c.data)
  have hprep : pd.Current { c with data := prepareFirst pd c.tuple c.data } := by
    obtain ⟨d, hd, hid', hblock'⟩ := h
    exact ⟨d, hd, hid'.trans hid.symm, fun hb => hblock.trans (hblock' hb)⟩
  have hseen := hprep.tighten (pdProcessPacket_tightens pd p.pkt true p.dpi _)
  obtain ⟨hconns', hnext', hcur⟩ := checkFirst_same (hseen.of_conns hconns) p
  exact ⟨Evolves.of_conns (hconns'.trans hconns) (hnext'.trans hnext), hcur.of_conns hconns'⟩

theorem evolves_accountForward (pd : Pcapdroid) (id : Nat) (forwarded : Bool) :
    pd.Evolves (accountForward pd id forwarded) := by
  unfold accountForward
  split
  · exact Evolves.refl pd
  · next c hc =>
    split
    · obtain ⟨hconns, hnext, -, -⟩ := accountForwarded_same pd c.data
      have hcur := current_accountForwarded (Current.of_mem (mem_of_conn? hc))
      exact (Evolves.of_conns hconns hnext).trans (evolves_setConn (hcur.of_conns hconns))
    · exact Evolves.refl pd

theorem evolves_decideEgress (h : pd.Current c) (p : TunPacket) :
    pd.Evolves (decideEgress pd c p).1 := by
  unfold decideEgress
  split
  · exact evolves_countBlocked h
  · have hflight : pd.Current (inFlight c) := h
    exact ((evolves_setConn hflight).trans (evolves_remote2vpns _ _ _)).trans
      (evolves_accountForward _ _ _)

theorem resolveNetd_same (pd : Pcapdroid) (host : CStr) (uid : Int) (data : PdConn) :
    (resolveNetd pd host uid data).incrId = data.incrId ∧
      (resolveNetd pd host uid data).toBlock = data.toBlock := by
  unfold resolveNetd
  split
  · exact ⟨rfl, rfl⟩
  · exact ⟨rfl, rfl⟩

/-- Resolving netd queries changes their uids. -/
theorem evolves_resolveForNew (pd : Pcapdroid) (data : PdConn) :
    pd.Evolves (resolveForNew pd data).1 := by
  unfold resolveForNew
  split
  · split
    · exact Evolves.refl pd
    · next host _ _ =>
      have hsame := fun c : Conn => resolveNetd_same pd host data.uid c.data
      refine Evolves.of_ids ?_ rfl fun c hc => ?_
      · simp only [resolveNetdConns, Pcapdroid.ids, List.map_map]
        refine List.map_congr_left fun c _ => ?_
        dsimp only [Function.comp]
        split
        · exact (hsame c).1
        · rfl
      · obtain ⟨d, hd, rfl⟩ := List.mem_map.mp hc
        split
        · exact ⟨d, hd, (hsame d).1.symm, fun hb => (hsame d).2.trans hb⟩
        · exact Current.of_mem hd
  · exact Evolves.refl pd

theorem resolvedNew_incrId (pd : Pcapdroid) (tuple : Tuple) (uid : Int) :
    (resolvedNew pd tuple uid).2.incrId = pd.newConnId := by
  obtain ⟨missed, hdata⟩ := resolvedNew_data pd tuple uid
  rw [hdata]
  rfl

/-- A new connection gets the next id. -/
theorem evolves_pdNewConnection (pd : Pcapdroid) (tuple : Tuple) (uid : Int) :
    pd.Evolves (pdNewConnection pd tuple uid).1 ∧
      (pdNewConnection pd tuple uid).1.Current (pdNewConnection pd tuple uid).2 := by
  have hres : (enqueued pd tuple).Evolves (resolvedNew pd tuple uid).1 :=
    evolves_resolveForNew _ _
  have hnext : (resolvedNew pd tuple uid).1.newConnId = pd.newConnId + 1 := by
    obtain ⟨conns, delay, he⟩ := resolvedNew_frame pd tuple uid
    rw [he]
    rfl
  have hid : (pdNewConnection pd tuple uid).2.data.incrId = pd.newConnId := by
    rw [pdNewConnection_data, (openVerdict_tightens _ _ _).incrId]
    exact resolvedNew_incrId pd tuple uid
  have hids : (resolvedNew pd tuple uid).1.ids = pd.ids := by
    have hcounter : (resolvedNew pd tuple uid).1.newConnId = (enqueued pd tuple).newConnId :=
      hnext
    rw [hres.ids, hcounter, Nat.sub_self, List.range'_zero, List.append_nil]
    rfl
  refine ⟨⟨?_, ?_, fun c hc hold => ?_⟩,
    Current.of_mem (List.mem_append_right _ (List.mem_singleton_self _))⟩
  · exact Nat.le_trans (Nat.le_succ _) (Nat.le_of_eq hnext.symm)
  · have hone : (pdNewConnection pd tuple uid).1.newConnId - pd.newConnId = 1 := by
      have hsucc : (pdNewConnection pd tuple uid).1.newConnId = pd.newConnId + 1 := hnext
      omega
    have hconns : (pdNewConnection pd tuple uid).1.conns =
      (resolvedNew pd tuple uid).1.conns ++ [(pdNewConnection pd tuple uid).2] := rfl
    rw [hone, List.range'_one, ← hids, ← hid, Pcapdroid.ids, hconns, List.map_append]
    rfl
  · rcases List.mem_append.mp hc with hc | hc
    · obtain ⟨d, hd, hsame⟩ := hres.old c hc (Nat.lt_succ_of_lt hold)
      exact ⟨d, hd, hsame⟩
    · rw [List.mem_singleton.mp hc] at hold
      exact absurd (hid ▸ hold) (Nat.lt_irrefl _)

theorem evolves_tunConn {p : TunPacket} {r : Pcapdroid × Conn} (h : tunConn pd p = some r) :
    pd.Evolves r.1 ∧ r.1.Current r.2 := by
  unfold tunConn at h
  split at h
  · cases h
  · split at h
    · next c hc =>
      cases h
      exact ⟨Evolves.of_conns rfl rfl, Current.of_mem (mem_of_lookup hc)⟩
    · split at h
      · cases h
      · cases h
        obtain ⟨hev, hcur⟩ :=
          evolves_pdNewConnection (pd.atTime p.ms) p.pkt.tuple (resolveUid p.uid)
        have htime : pd.Evolves (pd.atTime p.ms) := Evolves.of_conns rfl rfl
        exact ⟨htime.trans hev, hcur⟩

theorem evolves_tunPacket (pd : Pcapdroid) (p : TunPacket) :
    pd.Evolves (tunPacket pd p).1 := by
  unfold tunPacket
  split
  · exact Evolves.of_conns rfl rfl
  · next pd' c hr =>
    obtain ⟨hev, hcur⟩ := evolves_tunConn hr
    obtain ⟨hev', hcur'⟩ := evolves_inspectEgress hcur p
    exact (hev.trans hev').trans (evolves_decideEgress hcur' p)

/-! ## The other events -/

theorem evolves_closeConn (pd : Pcapdroid) (id : Nat) (status : ConnStatus) (guess : L7Proto) :
    pd.Evolves (closeConn pd id status guess) := by
  unfold closeConn
  split
  · exact Evolves.refl pd
  · next c hc =>
    split
    · exact Evolves.refl pd
    · obtain ⟨d, hd, hid, hblock⟩ := (Current.of_mem (mem_of_conn? hc)).tighten
        (pdGiveupDpi_tightens pd c.tuple guess c.data)
      have hgate : pd.Evolves (pd.withGate (pdGiveupDpi pd c.tuple guess c.data).1) :=
        Evolves.of_conns rfl rfl
      exact hgate.trans (evolves_setConn ⟨d, hd, hid, hblock⟩)

theorem evolves_jniCall (pd : Pcapdroid) (call : JniCall) : pd.Evolves (jniCall pd call) := by
  obtain ⟨netfree, privateDns, server, running, fw, reload, md, tls, he⟩ := jniCall_frame pd call
  rw [he]
  exact Evolves.of_conns rfl rfl

theorem evolves_loadNewBlacklists (pd : Pcapdroid) (bl : Option Blacklist) :
    pd.Evolves (loadNewBlacklists pd bl) := by
  obtain ⟨md, he⟩ := loadNewBlacklists_frame pd bl
  rw [he]
  exact Evolves.of_conns rfl rfl

/-- Of the events only housekeeping takes connections out of the table or re-evaluates them. -/
theorem evolves_step (pd : Pcapdroid) {e : Event} (he : e ≠ .housekeeping) :
    pd.Evolves (step pd e) := by
  cases e with
  | tunPacket p =>
    simp only [step, react]
    split
    · exact evolves_tunPacket pd p
    · exact Evolves.refl pd
  | netPacket id i => exact evolves_remote2vpn pd id i
  | connClosed id status guess => exact evolves_closeConn pd id status guess
  | refreshTime ms => exact Evolves.of_conns rfl rfl
  | housekeeping => exact absurd rfl he
  | blacklistsLoaded bl => exact evolves_loadNewBlacklists pd bl
  | jni call => exact evolves_jniCall pd call

/-! ## Housekeeping -/

/-- Housekeeping takes over a list that is pending, and re-evaluates connections under it. -/
def reloadsList (pd : Pcapdroid) : Event → Bool
  | .housekeeping => !quiet pd
  | _ => false

theorem ids_iterActiveConnections (pd : Pcapdroid) {cb : Tuple → PdConn → PdConn}
    (hcb : ∀ tuple data, (cb tuple data).incrId = data.incrId) :
    (iterActiveConnections pd cb).ids = pd.ids := by
  unfold iterActiveConnections
  split
  · simp only [Pcapdroid.ids, List.map_map]
    refine List.map_congr_left fun c _ => ?_
    dsimp only [Function.comp]
    split
    · rfl
    · exact hcb c.tuple c.data
  · rfl

theorem checkBlockedConn_incrId (pd : Pcapdroid) (tuple : Tuple) (data : PdConn) :
    (checkBlockedConn pd tuple data).incrId = data.incrId := by
  rw [checkBlockedConn_eq]

theorem checkBlacklistedConn_incrId (pd : Pcapdroid) (tuple : Tuple) (data : PdConn)
    (wl : Blacklist) : (checkBlacklistedConn pd tuple data wl).incrId = data.incrId := by
  unfold checkBlacklistedConn
  dsimp only
  split
  · exact checkBlockedConn_incrId pd tuple _
  · rfl

theorem dumpOrReload_newConnId (pd : Pcapdroid) :
    (dumpOrReload pd).newConnId = pd.newConnId := by
  unfold dumpOrReload reloadStep
  repeat' split
  all_goals rfl

theorem installMalwareWhitelist_ids (pd : Pcapdroid) :
    (installMalwareWhitelist pd).ids = pd.ids := by
  unfold installMalwareWhitelist
  split
  · rfl
  · exact ids_iterActiveConnections _ fun tuple data => checkBlacklistedConn_incrId _ _ _ _

theorem installFirewallLists_ids (pd : Pcapdroid) : (installFirewallLists pd).ids = pd.ids := by
  unfold installFirewallLists
  split
  · exact ids_iterActiveConnections _ fun tuple data => checkBlockedConn_incrId _ _ _
  · rfl

theorem pdHousekeeping_ids (pd : Pcapdroid) : (pdHousekeeping pd).ids = (dumpOrReload pd).ids ∧
    (pdHousekeeping pd).newConnId = (dumpOrReload pd).newConnId := by
  constructor
  · rw [Pcapdroid.ids, pdHousekeeping, installDecryptionList_conns]
    exact (installFirewallLists_ids _).trans (installMalwareWhitelist_ids _)
  · obtain ⟨md, conns, hbefore⟩ := installMalwareWhitelist_frame (dumpOrReload pd)
    obtain ⟨fw, conns', tls, he⟩ := pdHousekeeping_frame pd
    rw [he, beforeFirewall, hbefore]

/-- Housekeeping only ever takes connections out of the table. -/
theorem numbered_pdHousekeeping (h : pd.Numbered) : (pdHousekeeping pd).Numbered := by
  obtain ⟨hids, hnext⟩ := pdHousekeeping_ids pd
  have hsub : (dumpOrReload pd).ids.Sublist pd.ids := by
    unfold Pcapdroid.ids
    rcases dumpOrReload_conns pd with he | he
    · rw [he]
    · rw [he]
      exact List.filter_sublist.map _
  have hall : (pdHousekeeping pd).ids.Sublist pd.ids := hids ▸ hsub
  have hcounter : (pdHousekeeping pd).newConnId = pd.newConnId :=
    hnext.trans (dumpOrReload_newConnId pd)
  exact ⟨h.nodup.sublist hall, fun id hid => hcounter ▸ h.below id (hall.subset hid)⟩

/-- Without a list to take over housekeeping leaves what it does not take out as it was. -/
theorem pdHousekeeping_conns (h : reloadsList pd .housekeeping = false) :
    (pdHousekeeping pd).conns = (dumpOrReload pd).conns := by
  obtain ⟨hfw, hwl⟩ := quiet_iff.mp (by simpa [reloadsList] using h)
  have hmalware : beforeFirewall pd = dumpOrReload pd :=
    installMalwareWhitelist_none ((dumpOrReload_newWl pd).trans hwl)
  have hlists : installFirewallLists (beforeFirewall pd) = dumpOrReload pd := by
    rw [hmalware, installFirewallLists, (dumpOrReload_frame pd).1, hfw]
    rfl
  rw [pdHousekeeping, installDecryptionList_conns, hlists]

/-! ## Runs -/

theorem numbered_step (h : pd.Numbered) (e : Event) : (step pd e).Numbered := by
  by_cases he : e = .housekeeping
  · subst he
    exact numbered_pdHousekeeping h
  · exact (evolves_step pd he).numbered h

theorem numbered_run (es : List Event) (h : pd.Numbered) : (run step pd es).Numbered := by
  induction es generalizing pd with
  | nil => exact h
  | cons e es ih => exact ih (numbered_step h e)

theorem numbered_pdRun (prefs : Prefs) (bl : Option Blacklist) (nowMs : UInt64) :
    (pdRun prefs bl nowMs).Numbered :=
  ⟨List.nodup_nil, fun _ hid => by cases hid⟩

/-- All that is left in the table of the connection is blocked. -/
def Blocked (id : Nat) (pd : Pcapdroid) : Prop :=
  ∀ c ∈ pd.conns, c.data.incrId = id → c.data.toBlock = true

/-- If the connection is in the table and not closed, it is still there after the step. -/
def Kept (id : Nat) (pd : Pcapdroid) (e : Event) : Prop :=
  ∀ c ∈ pd.conns, c.data.incrId = id → c.data.toPurge = false →
    ∃ c' ∈ (step pd e).conns, c'.data.incrId = id

/-- Besides, its id was handed out before, so no new connection gets it. -/
structure Held (id : Nat) (pd : Pcapdroid) : Prop where
  blocked : Blocked id pd
  used : id < pd.newConnId

theorem held_step {id : Nat} (h : Held id pd) {e : Event} (hquiet : reloadsList pd e = false) :
    Held id (step pd e) := by
  by_cases he : e = .housekeeping
  · subst he
    have hconns := pdHousekeeping_conns hquiet
    have hcounter : (pdHousekeeping pd).newConnId = pd.newConnId :=
      (pdHousekeeping_ids pd).2.trans (dumpOrReload_newConnId pd)
    refine ⟨fun c hc hcid => ?_, hcounter ▸ h.used⟩
    have hc' : c ∈ (dumpOrReload pd).conns := hconns ▸ hc
    rcases dumpOrReload_conns pd with hsame | hfilter
    · exact h.blocked c (hsame ▸ hc') hcid
    · rw [hfilter] at hc'
      exact h.blocked c (List.mem_of_mem_filter hc') hcid
  · have hev := evolves_step pd he
    refine ⟨fun c hc hcid => ?_, Nat.lt_of_lt_of_le h.used hev.counter⟩
    obtain ⟨d, hd, hsame, hblock⟩ := hev.old c hc (hcid ▸ h.used)
    exact hblock (h.blocked d hd (hsame.trans hcid))

theorem kept_step (id : Nat) {e : Event} (hquiet : reloadsList pd e = false) :
    Kept id pd e := by
  intro c hc hcid hopen
  by_cases he : e = .housekeeping
  · subst he
    refine ⟨c, ?_, hcid⟩
    have hc' : c ∈ (dumpOrReload pd).conns := by
      rcases dumpOrReload_conns pd with hsame | hfilter
      · exact hsame ▸ hc
      · rw [hfilter]
        exact List.mem_filter.mpr ⟨hc, by simp [hopen]⟩
    exact pdHousekeeping_conns hquiet ▸ hc'
  · obtain ⟨c', hc', hsame⟩ := (evolves_step pd he).remains hc
    exact ⟨c', hc', hsame.trans hcid⟩

end Traffic

/-- **A block is never undone by traffic**: in whatever state of the loop a connection is blocked,
it stays so in all the states to come, and stays in the table until it is closed, as long as no
list is taken over. -/
theorem block_outlasts_traffic (prefs : Prefs) (bl : Option Blacklist) (nowMs : UInt64)
    (es es' : List Event) (c : Conn) (hc : c ∈ (run step (pdRun prefs bl nowMs) es).conns)
    (hblock : c.data.toBlock = true)
    (hquiet : EveryStep step (fun pd e => reloadsList pd e = false)
      (run step (pdRun prefs bl nowMs) es) es') :
    EveryState step (Blocked c.data.incrId) (run step (pdRun prefs bl nowMs) es) es' ∧
      EveryStep step (Kept c.data.incrId) (run step (pdRun prefs bl nowMs) es) es' := by
  have hnum := numbered_run es (numbered_pdRun prefs bl nowMs)
  have hid : c.data.incrId ∈ (run step (pdRun prefs bl nowMs) es).ids := List.mem_map_of_mem hc
  -- the connection is the only one of its id
  have hstart : Blocked c.data.incrId (run step (pdRun prefs bl nowMs) es) := by
    intro d hd hsame
    rw [List.inj_on_of_nodup_map hnum.nodup hd hc hsame]
    exact hblock
  have hheld : Held c.data.incrId (run step (pdRun prefs bl nowMs) es) :=
    ⟨hstart, hnum.below _ hid⟩
  constructor
  · exact everyState_of_invariant (fun pd e h hq => held_step h hq) (fun pd h => h.blocked) hheld
      hquiet
  · exact everyStep_of_invariant (fun _ _ (_ : True) _ => trivial)
      (fun pd e _ hq => kept_step c.data.incrId hq) trivial hquiet

namespace Leak

/-- The lists are in force, and an app opens a connection to an address on none of them. -/
def refusedEvents : List Event :=
  [.jni (.reloadMalwareWhitelist wl), .housekeeping,
    sent (tcpTuple (ip4 6 6 6 6) 40000) 2000 sawNothing]

def refusedConn : Conn :=
  (run step (pdRun prefs (some bl) 0) refusedEvents).conns.head (by decide +kernel)

end Leak

/-- More packets of the connection, an allowed host seen on it, and its end. -/
theorem block_outlasts_traffic_refused :
    EveryState step (Blocked Leak.refusedConn.data.incrId)
        (run step (pdRun Leak.prefs (some Leak.bl) 0) Leak.refusedEvents)
        [Leak.sent (Leak.tcpTuple (ip4 6 6 6 6) 40000) 2000 (Leak.sawDns "good.com"),
          .housekeeping, .connClosed 0 .closed .unknown] ∧
      EveryStep step (Kept Leak.refusedConn.data.incrId)
        (run step (pdRun Leak.prefs (some Leak.bl) 0) Leak.refusedEvents)
        [Leak.sent (Leak.tcpTuple (ip4 6 6 6 6) 40000) 2000 (Leak.sawDns "good.com"),
          .housekeeping, .connClosed 0 .closed .unknown] :=
  block_outlasts_traffic Leak.prefs (some Leak.bl) 0 Leak.refusedEvents _ Leak.refusedConn
    (List.head_mem _) (by decide +kernel) (by decide +kernel)

end SecureGuard.Native
