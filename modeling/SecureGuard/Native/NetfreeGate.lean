import SecureGuard.Native.AllowList

/-! # The NetFree gate in both directions

While `isNetfree` is false only connections to three hosts may pass packets. `run_vpn` tests
this for every egress packet; `remote2vpn` tests `to_block` alone, so what arrives for a
connection that was opened while the flag was set is passed still. The gate holds along the
runs in which the flag is cleared only while every connection with a socket is to one of the
three hosts or blocked, and in which none of these is given another host, or unblocked, before
the flag is set again. -/

namespace SecureGuard.Native
open Machine

/-- What every passed packet should satisfy, `netfree` being the flag when it passes. -/
def PassNetfree (netfree : Bool) (p : Passed) : Prop :=
  netfree = true ∨ netfreeExempt p.conn.data.info = true

instance (netfree : Bool) (p : Passed) : Decidable (PassNetfree netfree p) :=
  inferInstanceAs (Decidable (_ ∨ _))

/-! ## The connections behind the gate -/

/-- A packet of the connection was handed to `zdtun_forward`, which has opened a socket. -/
def PdConn.handed (d : PdConn) : Bool := d.fwPctx || decide (0 < d.sentPkts)

/-- The connection is blocked, or to one of the three hosts. -/
def PdConn.heldBack (d : PdConn) : Bool := d.toBlock || netfreeExempt d.info

/-- What may come from the network for the connection would be refused, or may pass. -/
def Conn.gated (c : Conn) : Bool := c.status.isClosed || !c.data.handed || c.data.heldBack

/-- The invariant while the flag is off. -/
def Gated (pd : Pcapdroid) : Prop := pd.isNetfree = false → ∀ c ∈ pd.conns, c.gated = true

/-! ## What a step may do -/

/-- nDPI names a host that is not one of the three. -/
def namesOther (dpi : DpiResult) : Bool :=
  !dpi.hostServerName.isEmpty && !netfreeExempt (some (dpi.hostServerName.take 256))

/-- A connection that is not blocked keeps a host from the cache that is one of the three. -/
def keepsHost (d : PdConn) (dpi : DpiResult) : Bool :=
  d.toBlock || !d.infoFromLru || !namesOther dpi

/-- A packet comes from the network for a connection that has a socket. -/
def arrivesGated (pd : Pcapdroid) (id : Nat) (i : Ingress) : Bool :=
  (pd.conn? id).all fun c => c.status.isClosed || (c.data.handed && keepsHost c.data i.dpi)

/-- The hosts of the connection of a packet from the tun, and of a new one. -/
def leavesGated (pd : Pcapdroid) (p : TunPacket) : Bool :=
  (tunConn pd p).all fun r =>
    (!r.2.data.handed || keepsHost r.2.data p.dpi) &&
      p.ingress.all fun i => keepsHost r.2.data i.dpi

/-- A firewall list that is taken over may unblock a connection with all three reason flags. -/
def reloadsGated (pd : Pcapdroid) : Bool :=
  !pd.firewall.pending || pd.conns.all fun c =>
    c.status.isClosed || !c.data.handed || netfreeExempt c.data.info || !c.data.allFlags

/-- The flag is cleared only while all connections are behind the gate, and while it is off, none
of them gets out. -/
def staysGated (pd : Pcapdroid) : Event → Bool
  | .jni (.setisNetfree false) => pd.conns.all Conn.gated
  | .netPacket id i => pd.isNetfree || arrivesGated pd id i
  | .tunPacket p => pd.isNetfree || leavesGated pd p
  | .housekeeping => pd.isNetfree || reloadsGated pd
  | _ => true

/-! ## The flag does not change while an event is processed -/

theorem pdProcessPacket_isNetfree (pd : Pcapdroid) (pkt : Packet) (isTx : Bool)
    (dpi : DpiResult) (d : PdConn) :
    (pdProcessPacket pd pkt isTx dpi d).1.isNetfree = pd.isNetfree := by
  obtain ⟨lru, gate, delay, he⟩ := pdProcessPacket_frame pd pkt isTx dpi d
  rw [he]

theorem checkFirst_isNetfree (pd : Pcapdroid) (c : Conn) (p : TunPacket) :
    (checkFirst pd c p).1.isNetfree = pd.isNetfree := by
  obtain ⟨vpn, server, requests, gate, he⟩ := checkFirst_frame pd c p
  rw [he]

theorem inspectEgress_isNetfree (pd : Pcapdroid) (c : Conn) (p : TunPacket) :
    (inspectEgress pd c p).1.isNetfree = pd.isNetfree :=
  (checkFirst_isNetfree _ _ p).trans (pdProcessPacket_isNetfree _ _ _ _ _)

theorem tunConn_isNetfree {pd : Pcapdroid} {p : TunPacket} {r : Pcapdroid × Conn}
    (h : tunConn pd p = some r) : r.1.isNetfree = pd.isNetfree := by
  unfold tunConn at h
  repeat' split at h
  · cases h
  · cases h
    rfl
  · cases h
  · cases h
    obtain ⟨conns, delay, he⟩ :=
      resolvedNew_frame (pd.atTime p.ms) p.pkt.tuple (resolveUid p.uid)
    have hnew : (resolvedNew (pd.atTime p.ms) p.pkt.tuple (resolveUid p.uid)).1.isNetfree =
        pd.isNetfree := by
      rw [he]
      rfl
    exact hnew

theorem accountForwarded_isNetfree (pd : Pcapdroid) (d : PdConn) :
    (accountForwarded pd d).1.isNetfree = pd.isNetfree := by
  obtain ⟨stats, he⟩ := accountForwarded_frame pd d
  rw [he]

theorem inspectIngress_isNetfree (pd : Pcapdroid) (c : Conn) (i : Ingress) :
    (inspectIngress pd c i).1.isNetfree = pd.isNetfree :=
  (pdProcessPacket_isNetfree _ _ _ _ _).trans (accountForwarded_isNetfree pd c.data)

theorem deliver_isNetfree (pd : Pcapdroid) (c : Conn) (write : WriteResult) :
    (deliver pd c write).1.isNetfree = pd.isNetfree := by
  obtain ⟨stats, conns, running, he⟩ := deliver_frame pd c write
  rw [he]

theorem remote2vpn_isNetfree (pd : Pcapdroid) (id : Nat) (i : Ingress) :
    (remote2vpn pd id i).1.isNetfree = pd.isNetfree := by
  unfold remote2vpn
  split
  · rfl
  · next c _ =>
    split
    · rfl
    · exact (deliver_isNetfree _ _ _).trans (inspectIngress_isNetfree pd c i)

theorem remote2vpns_isNetfree (id : Nat) (is : List Ingress) (pd : Pcapdroid) :
    (remote2vpns id pd is).1.isNetfree = pd.isNetfree := by
  induction is generalizing pd with
  | nil => rfl
  | cons i is ih => exact (ih _).trans (remote2vpn_isNetfree pd id i)

theorem decideEgress_isNetfree (pd : Pcapdroid) (c : Conn) (p : TunPacket) :
    (decideEgress pd c p).1.isNetfree = pd.isNetfree := by
  unfold decideEgress
  split
  · rfl
  · obtain ⟨stats, conns, he⟩ := accountForward_frame
      (remote2vpns c.data.incrId (pd.setConn (inFlight c)) p.ingress).1 c.data.incrId p.forwarded
    show (accountForward _ _ _).isNetfree = _
    rw [he]
    exact remote2vpns_isNetfree _ _ _

theorem tunPacket_isNetfree (pd : Pcapdroid) (p : TunPacket) :
    (tunPacket pd p).1.isNetfree = pd.isNetfree := by
  unfold tunPacket
  cases hr : tunConn pd p with
  | none => rfl
  | some r =>
    exact (decideEgress_isNetfree _ _ p).trans
      ((inspectEgress_isNetfree r.1 r.2 p).trans (tunConn_isNetfree hr))

theorem pdHousekeeping_isNetfree (pd : Pcapdroid) :
    (pdHousekeeping pd).isNetfree = pd.isNetfree := by
  have hreload : (reloadStep pd).isNetfree = pd.isNetfree := by
    unfold reloadStep
    repeat' split
    all_goals rfl
  have hdump : (dumpOrReload pd).isNetfree = pd.isNetfree := by
    unfold dumpOrReload
    repeat' split
    all_goals first | rfl | exact hreload
  obtain ⟨fw, conns, tls, he⟩ := pdHousekeeping_frame pd
  obtain ⟨md, conns', he'⟩ := installMalwareWhitelist_frame (dumpOrReload pd)
  rw [he, beforeFirewall, he']
  exact hdump

theorem closeConn_isNetfree (pd : Pcapdroid) (id : Nat) (status : ConnStatus) (guess : L7Proto) :
    (closeConn pd id status guess).isNetfree = pd.isNetfree := by
  unfold closeConn
  cases pd.conn? id with
  | none => rfl
  | some c =>
    dsimp only
    split
    · rfl
    · rfl

theorem jniCall_isNetfree (pd : Pcapdroid) {call : JniCall} (hset : ∀ b, call ≠ .setisNetfree b) :
    (jniCall pd call).isNetfree = pd.isNetfree := by
  cases call with
  | setisNetfree b => exact absurd rfl (hset b)
  | reloadBlocklist list =>
    simp only [jniCall, reloadBlocklist]
    split <;> rfl
  | reloadFirewallWhitelist list =>
    simp only [jniCall, reloadFirewallWhitelist]
    split
    · rfl
    · cases list <;> rfl
  | reloadMalwareWhitelist list =>
    simp only [jniCall, reloadMalwareWhitelist]
    split <;> rfl
  | reloadDecryptionList list =>
    simp only [jniCall, reloadDecryptionList]
    split <;> rfl
  | _ => rfl

/-- Nothing but `setisNetfree` writes the flag. -/
theorem step_isNetfree (pd : Pcapdroid) {e : Event} (hset : ∀ b, e ≠ .jni (.setisNetfree b)) :
    (step pd e).isNetfree = pd.isNetfree := by
  cases e with
  | tunPacket p =>
    show (ite _ (tunPacket pd p) (pd, [])).1.isNetfree = pd.isNetfree
    split
    · exact tunPacket_isNetfree pd p
    · rfl
  | netPacket id i => exact remote2vpn_isNetfree pd id i
  | connClosed id status guess => exact closeConn_isNetfree pd id status guess
  | refreshTime ms => rfl
  | housekeeping => exact pdHousekeeping_isNetfree pd
  | blacklistsLoaded bl =>
    obtain ⟨md, he⟩ := loadNewBlacklists_frame pd bl
    show (loadNewBlacklists pd bl).isNetfree = pd.isNetfree
    rw [he]
  | jni call => exact jniCall_isNetfree pd fun b he => hset b (congrArg Event.jni he)

/-! ## What an inspection does to a connection -/

/-- It may give the connection the host nDPI names, in place of none or one from the cache. -/
structure Inspects (dpi : DpiResult) (d d' : PdConn) : Prop where
  handed : d'.handed = d.handed
  toBlock : d.toBlock = true → d'.toBlock = true
  host : (d'.info = d.info ∧ d'.infoFromLru = d.infoFromLru) ∨
    (d.info.isNone || d.infoFromLru) = true ∧ dpi.hostServerName ≠ [] ∧
      d'.info = some (dpi.hostServerName.take 256) ∧ d'.infoFromLru = false

section Inspection

variable {dpi : DpiResult} {d d' d'' : PdConn}

theorem Inspects.keepsHost (h : Inspects dpi d d') {dpi' : DpiResult}
    (hkeeps : keepsHost d dpi' = true) : keepsHost d' dpi' = true := by
  simp only [Native.keepsHost, Bool.or_eq_true, Bool.not_eq_true'] at hkeeps ⊢
  rcases hkeeps with (hblock | hlru) | hnone
  · exact Or.inl (Or.inl (h.toBlock hblock))
  · refine Or.inl (Or.inr ?_)
    rcases h.host with ⟨-, he⟩ | ⟨-, -, -, he⟩
    · rw [he, hlru]
    · exact he
  · exact Or.inr hnone

theorem Inspects.heldBack (h : Inspects dpi d d') (hkeeps : Native.keepsHost d dpi = true)
    (hheld : d.heldBack = true) : d'.heldBack = true := by
  simp only [PdConn.heldBack, Bool.or_eq_true] at hheld ⊢
  rcases hheld with hblock | hexempt
  · exact Or.inl (h.toBlock hblock)
  · rcases h.host with ⟨he, -⟩ | ⟨hfree, hne, he, -⟩
    · rw [he]
      exact Or.inr hexempt
    · have hsome : d.info.isNone = false := by
        cases hinfo : d.info with
        | none =>
          rw [hinfo] at hexempt
          cases hexempt
        | some host => rfl
      rw [hsome, Bool.false_or] at hfree
      simp only [Native.keepsHost, hfree, Bool.not_true, Bool.or_false, Bool.or_eq_true,
        Bool.not_eq_true', namesOther, Bool.and_eq_false_iff, Bool.not_eq_false'] at hkeeps
      rcases hkeeps with hblock | hempty | hthree
      · exact Or.inl (h.toBlock hblock)
      · exact absurd (List.isEmpty_iff.mp hempty) hne
      · rw [he]
        exact Or.inr hthree

/-- A host found is the one named in the flow. -/
theorem foundInfo_eq {host : CStr} {flow : NdpiFlow} (hflow : d.ndpiFlow = some flow)
    (h : foundInfo d = some host) : host = flow.hostServerName := by
  rw [foundInfo, hflow, Option.bind_some] at h
  repeat' split at h
  all_goals first | exact (Option.some.inj h).symm | cases h

theorem inspects_processInfo (pd : Pcapdroid) (hflow : d.ndpiFlow = some ⟨dpi.hostServerName⟩) :
    Inspects dpi d (processInfo pd d).2 := by
  have htight := processInfo_tightens pd d
  refine ⟨by rw [PdConn.handed, PdConn.handed, htight.fwPctx, htight.sentPkts], htight.toBlock, ?_⟩
  unfold processInfo
  cases hfound : foundInfo d with
  | none => exact Or.inl ⟨rfl, rfl⟩
  | some host =>
    dsimp only
    split
    · next hfree =>
      obtain rfl := foundInfo_eq hflow hfound
      refine Or.inr ⟨hfree, foundInfo_ne_nil hfound, ?_, ?_⟩
      · rw [checkBlacklistedDomain_info]
      · rw [checkBlacklistedDomain_eq]
    · exact Or.inl ⟨rfl, rfl⟩

theorem vpnProcessNdpi_infoFromLru (pd : Pcapdroid) (tuple : Tuple) (d : PdConn) :
    (vpnProcessNdpi pd tuple d).infoFromLru = d.infoFromLru := by
  have hblock (b : Bool) (d : PdConn) : (blockInternal b d).infoFromLru = d.infoFromLru := by
    cases b <;> rfl
  simp only [vpnProcessNdpi, hblock]

theorem inspects_processNdpiData (pd : Pcapdroid) (tuple : Tuple)
    (hflow : d.ndpiFlow = some ⟨dpi.hostServerName⟩) :
    Inspects dpi d (processNdpiData pd tuple d).2 := by
  have hinfo := inspects_processInfo pd hflow
  have htight := processNdpiData_tightens pd tuple d
  refine ⟨by rw [PdConn.handed, PdConn.handed, htight.fwPctx, htight.sentPkts], htight.toBlock, ?_⟩
  rw [processNdpiData]
  dsimp only
  split
  · rw [vpnProcessNdpi_info, vpnProcessNdpi_infoFromLru]
    exact hinfo.host
  · exact hinfo.host

theorem Inspects.of_flow {l7proto : L7Proto} {flow : Option NdpiFlow}
    (h : Inspects dpi { d with l7proto := l7proto, ndpiFlow := flow } d') : Inspects dpi d d' :=
  ⟨h.handed, h.toBlock, h.host⟩

theorem Inspects.refl (dpi : DpiResult) (d : PdConn) : Inspects dpi d d :=
  ⟨rfl, id, Or.inl ⟨rfl, rfl⟩⟩

/-- Nothing changes that the gate asks for. -/
structure Same (d d' : PdConn) : Prop where
  handed : d'.handed = d.handed
  toBlock : d'.toBlock = d.toBlock
  info : d'.info = d.info
  infoFromLru : d'.infoFromLru = d.infoFromLru

theorem Inspects.after (h : Inspects dpi d' d'') (hsame : Same d d') : Inspects dpi d d'' := by
  refine ⟨h.handed.trans hsame.handed, fun hb => h.toBlock (hsame.toBlock.trans hb), ?_⟩
  rw [← hsame.info, ← hsame.infoFromLru]
  exact h.host

theorem inspects_pdGiveupDpi (pd : Pcapdroid) (tuple : Tuple) (guess : L7Proto)
    (hflow : d.ndpiFlow = some ⟨dpi.hostServerName⟩) :
    Inspects dpi d (pdGiveupDpi pd tuple guess d).2 := by
  rw [pdGiveupDpi, if_neg (by simp [hflow])]
  dsimp only
  split
  · have h : Inspects dpi { d with l7proto := guess }
        (processNdpiData pd tuple { d with l7proto := guess }).2 :=
      inspects_processNdpiData pd tuple hflow
    exact ⟨h.handed, h.toBlock, h.host⟩
  · have h := inspects_processNdpiData pd tuple hflow
    exact ⟨h.handed, h.toBlock, h.host⟩

theorem inspects_pdProcessPacket (pd : Pcapdroid) (pkt : Packet) (isTx : Bool) (dpi : DpiResult)
    (d : PdConn) : Inspects dpi d (pdProcessPacket pd pkt isTx dpi d).2 := by
  unfold pdProcessPacket
  split
  · rw [performDpi_snd]
    unfold dissect
    split
    · exact (inspects_pdGiveupDpi pd _ _ rfl).of_flow
    · exact (inspects_processNdpiData pd _ rfl).of_flow
  · exact Inspects.refl dpi d

end Inspection

/-! ## While the flag is off -/

/-- All connections are behind the gate, and every packet passed is of one of the three hosts. -/
structure Gates (r : Pcapdroid × List Passed) : Prop where
  conns : ∀ c ∈ r.1.conns, c.gated = true
  passed : ∀ p ∈ r.2, netfreeExempt p.conn.data.info = true

section Off

variable {pd : Pcapdroid} {c : Conn}

theorem Gates.silent (hg : ∀ c ∈ pd.conns, c.gated = true) : Gates (pd, []) :=
  ⟨hg, by simp⟩

theorem gated_setConn (hg : ∀ c ∈ pd.conns, c.gated = true) (hc : c.gated = true) :
    ∀ d ∈ (pd.setConn c).conns, d.gated = true := by
  intro d hd
  rcases Pcapdroid.mem_setConn hd with rfl | hd
  · exact hc
  · exact hg d hd

theorem same_accountForwarded (pd : Pcapdroid) (d : PdConn) :
    Same d (accountForwarded pd d).2 := by
  unfold accountForwarded
  split
  · next hfw =>
    refine ⟨?_, rfl, rfl, rfl⟩
    rw [PdConn.handed, PdConn.handed, hfw]
    rfl
  · exact ⟨rfl, rfl, rfl, rfl⟩

theorem inspects_inspectIngress (pd : Pcapdroid) (c : Conn) (i : Ingress) :
    Inspects i.dpi c.data (inspectIngress pd c i).2.data :=
  (inspects_pdProcessPacket ((accountForwarded pd c.data).1.atTime i.ms) i.pkt false i.dpi
    (accountForwarded pd c.data).2).after (same_accountForwarded pd c.data)

theorem pdProcessPacket_conns (pd : Pcapdroid) (pkt : Packet) (isTx : Bool) (dpi : DpiResult)
    (d : PdConn) : (pdProcessPacket pd pkt isTx dpi d).1.conns = pd.conns := by
  obtain ⟨lru, gate, delay, he⟩ := pdProcessPacket_frame pd pkt isTx dpi d
  rw [he]

theorem inspectIngress_conns (pd : Pcapdroid) (c : Conn) (i : Ingress) :
    (inspectIngress pd c i).1.conns = pd.conns := by
  have hacc : ((accountForwarded pd c.data).1.atTime i.ms).conns = pd.conns := by
    obtain ⟨stats, he⟩ := accountForwarded_frame pd c.data
    rw [he]
    rfl
  exact (pdProcessPacket_conns _ i.pkt false i.dpi _).trans hacc

theorem gates_deliver (hg : ∀ c ∈ pd.conns, c.gated = true) (hheld : c.data.heldBack = true)
    (write : WriteResult) : Gates (deliver pd c write) := by
  have hc : c.gated = true := by simp [Conn.gated, hheld]
  unfold deliver
  split
  · exact Gates.silent (gated_setConn hg hc)
  · next hopen =>
    refine ⟨?_, fun p hp => ?_⟩
    · cases write with
      | ok =>
        have hstats : ∀ c ∈ ({ pd with newStats := true } : Pcapdroid).conns, c.gated = true := hg
        exact gated_setConn hstats hc
      | noBuffers | partialWrite => exact gated_setConn hg hc
      | failed => exact gated_setConn hg hc
    · rw [List.mem_singleton.mp hp]
      simpa [PdConn.heldBack, hopen] using hheld

/-- What arrives for a connection with a socket is refused, or of one of the three hosts. -/
theorem gates_remote2vpn (hg : ∀ c ∈ pd.conns, c.gated = true) {id : Nat} {i : Ingress}
    (harrives : arrivesGated pd id i = true) : Gates (remote2vpn pd id i) := by
  unfold remote2vpn
  unfold arrivesGated at harrives
  cases hc : pd.conn? id with
  | none => exact Gates.silent hg
  | some c =>
    rw [hc, Option.all_some] at harrives
    dsimp only
    split
    · exact Gates.silent hg
    · next hopen =>
      have hclosed : c.status.isClosed = false := by
        simp only [Bool.or_eq_true, not_or, Bool.not_eq_true] at hopen
        exact hopen.2
      rw [hclosed, Bool.false_or, Bool.and_eq_true] at harrives
      have hgated := hg c (Pcapdroid.mem_of_conn? hc)
      rw [Conn.gated, hclosed, harrives.1, Bool.not_true, Bool.false_or, Bool.false_or] at hgated
      have hheld := (inspects_inspectIngress pd c i).heldBack harrives.2 hgated
      refine gates_deliver ?_ hheld i.write
      rw [inspectIngress_conns]
      exact hg

/-- The connection of this number has a socket, and keeps its host from all of these packets. -/
def AllArrive (pd : Pcapdroid) (id : Nat) (is : List Ingress) : Prop :=
  ∀ c ∈ pd.conns, c.data.incrId = id →
    c.status.isClosed = true ∨ c.data.handed = true ∧ ∀ i ∈ is, keepsHost c.data i.dpi = true

theorem arrivesGated_of_allArrive {id : Nat} {is : List Ingress} (h : AllArrive pd id is)
    {i : Ingress} (hi : i ∈ is) : arrivesGated pd id i = true := by
  unfold arrivesGated
  cases hc : pd.conn? id with
  | none => rfl
  | some c =>
    have hid : c.data.incrId = id := by simpa using List.find?_some hc
    rcases h c (Pcapdroid.mem_of_conn? hc) hid with hclosed | ⟨hhanded, hkeeps⟩
    · simp [hclosed]
    · simp [hhanded, hkeeps i hi]

/-- A connection that `remote2vpn` writes back. -/
theorem mem_deliver {write : WriteResult} {d : Conn} (h : d ∈ (deliver pd c write).1.conns) :
    d ∈ pd.conns ∨ d.status = c.status ∧ d.data.handed = c.data.handed ∧
      ∀ dpi, keepsHost d.data dpi = keepsHost c.data dpi := by
  unfold deliver at h
  split at h
  · refine (Pcapdroid.mem_setConn h).symm.imp_right ?_
    rintro rfl
    exact ⟨rfl, rfl, fun _ => rfl⟩
  · cases write with
    | ok =>
      refine (Pcapdroid.mem_setConn h).symm.imp_right ?_
      rintro rfl
      exact ⟨rfl, rfl, fun _ => rfl⟩
    | noBuffers | partialWrite | failed =>
      refine (Pcapdroid.mem_setConn h).symm.imp_right ?_
      rintro rfl
      exact ⟨rfl, rfl, fun _ => rfl⟩

theorem allArrive_remote2vpn {id : Nat} {i : Ingress} {is : List Ingress}
    (h : AllArrive pd id (i :: is)) : AllArrive (remote2vpn pd id i).1 id is := by
  have hrest : AllArrive pd id is := fun c hc hid =>
    (h c hc hid).imp_right fun ⟨hhanded, hkeeps⟩ =>
      ⟨hhanded, fun j hj => hkeeps j (List.mem_cons_of_mem _ hj)⟩
  unfold remote2vpn
  cases hc : pd.conn? id with
  | none => exact hrest
  | some c =>
    dsimp only
    split
    · exact hrest
    · intro d hd hid
      rcases mem_deliver hd with hd | ⟨hstatus, hhanded, hkeeps⟩
      · rw [inspectIngress_conns] at hd
        exact hrest d hd hid
      · have hcid : c.data.incrId = id := by simpa using List.find?_some hc
        have hinspects := inspects_inspectIngress pd c i
        refine (hrest c (Pcapdroid.mem_of_conn? hc) hcid).imp (fun hclosed => ?_) fun hall => ?_
        · rw [hstatus]
          exact hclosed
        · refine ⟨(hhanded.trans hinspects.handed).trans hall.1, fun j hj => ?_⟩
          rw [hkeeps]
          exact hinspects.keepsHost (hall.2 j hj)

theorem gates_remote2vpns {id : Nat} {is : List Ingress} (hg : ∀ c ∈ pd.conns, c.gated = true)
    (h : AllArrive pd id is) : Gates (remote2vpns id pd is) := by
  induction is generalizing pd with
  | nil => exact Gates.silent hg
  | cons i is ih =>
    have hfirst := gates_remote2vpn hg (arrivesGated_of_allArrive h List.mem_cons_self)
    have hrest := ih hfirst.conns (allArrive_remote2vpn h)
    refine ⟨hrest.conns, fun p hp => ?_⟩
    rcases List.mem_append.mp hp with hp | hp
    · exact hfirst.passed p hp
    · exact hrest.passed p hp

/-! ## Packets from the tun -/

/-- The inspection closes the connection, or it is the one it was. -/
structure Passes (dpi : DpiResult) (c c' : Conn) : Prop where
  incrId : c'.data.incrId = c.data.incrId
  kept : c'.status.isClosed = true ∨ c'.status = c.status ∧ Inspects dpi c.data c'.data

theorem Conn.gated_of_not_handed (h : c.data.handed = false) : c.gated = true := by
  rw [Conn.gated, h, Bool.not_false, Bool.or_true, Bool.true_or]

/-- Only a connection with a socket could get another host. -/
theorem Passes.gated {dpi : DpiResult} {c' : Conn} (h : Passes dpi c c') (hc : c.gated = true)
    (hhost : c.data.handed = false ∨ keepsHost c.data dpi = true) : c'.gated = true := by
  rcases h.kept with hclosed | ⟨hstatus, hinspects⟩
  · rw [Conn.gated, hclosed, Bool.true_or, Bool.true_or]
  · rcases hhost with hnot | hhost
    · exact Conn.gated_of_not_handed (hinspects.handed.trans hnot)
    · simp only [Conn.gated, Bool.or_eq_true, Bool.not_eq_true'] at hc ⊢
      rw [hstatus, hinspects.handed]
      exact hc.imp id fun hheld => hinspects.heldBack hhost hheld

theorem passes_checkFirst {dpi : DpiResult} {data : PdConn} (h : Inspects dpi c.data data)
    (hid : data.incrId = c.data.incrId) (pd : Pcapdroid) (p : TunPacket) :
    Passes dpi c (checkFirst pd { c with data := data } p).2 := by
  unfold checkFirst
  split
  · unfold closeSpoofed
    dsimp only
    split
    · refine ⟨?_, Or.inl rfl⟩
      exact (pdGiveupDpi_tightens _ _ _ _).incrId.trans hid
    · refine ⟨hid, Or.inr ⟨rfl, h.handed, fun hb => ?_, h.host⟩⟩
      simp [markInternal, h.toBlock hb]
  · exact ⟨hid, Or.inr ⟨rfl, h⟩⟩

theorem prepareFirst_same (pd : Pcapdroid) (tuple : Tuple) (d : PdConn) :
    Same d (prepareFirst pd tuple d) ∧ (prepareFirst pd tuple d).incrId = d.incrId := by
  unfold prepareFirst
  split
  · split
    · exact ⟨⟨rfl, rfl, rfl, rfl⟩, rfl⟩
    · exact ⟨⟨rfl, rfl, rfl, rfl⟩, rfl⟩
  · exact ⟨⟨rfl, rfl, rfl, rfl⟩, rfl⟩

theorem passes_inspectEgress (pd : Pcapdroid) (c : Conn) (p : TunPacket) :
    Passes p.dpi c (inspectEgress pd c p).2 := by
  obtain ⟨hsame, hid⟩ := prepareFirst_same pd c.tuple c.data
  have hinspects := inspects_pdProcessPacket pd p.pkt true p.dpi (prepareFirst pd c.tuple c.data)
  have htight := pdProcessPacket_tightens pd p.pkt true p.dpi (prepareFirst pd c.tuple c.data)
  exact passes_checkFirst (hinspects.after hsame) (htight.incrId.trans hid) _ p

theorem eq_of_mem_setConn {d : Conn} (h : d ∈ (pd.setConn c).conns)
    (hid : d.data.incrId = c.data.incrId) : d = c := by
  obtain ⟨e, -, rfl⟩ := List.mem_map.mp h
  split
  · rfl
  · next hne =>
    rw [if_neg hne] at hid
    exact absurd hid hne

theorem gates_accountForward (hg : ∀ c ∈ pd.conns, c.gated = true) (id : Nat) (forwarded : Bool) :
    ∀ c ∈ (accountForward pd id forwarded).conns, c.gated = true := by
  unfold accountForward
  cases hc : pd.conn? id with
  | none => exact hg
  | some c =>
    dsimp only
    split
    · have hsame := same_accountForwarded pd c.data
      obtain ⟨stats, he⟩ := accountForwarded_frame pd c.data
      have hgated := hg c (Pcapdroid.mem_of_conn? hc)
      refine gated_setConn ?_ ?_
      · rw [he]
        exact hg
      · rw [Conn.gated, PdConn.heldBack, hsame.handed, hsame.toBlock, hsame.info]
        exact hgated
    · exact hg

/-- A packet is handed on only for one of the three hosts. -/
theorem gates_decideEgress (hoff : pd.isNetfree = false) (hg : ∀ c ∈ pd.conns, c.gated = true)
    (hc : c.gated = true) {p : TunPacket} (hkeeps : c.status.isClosed = true ∨
      ∀ i ∈ p.ingress, keepsHost c.data i.dpi = true) : Gates (decideEgress pd c p) := by
  unfold decideEgress
  split
  · exact Gates.silent (gated_setConn hg hc)
  · next hopen =>
    have hexempt : netfreeExempt c.data.info = true := by
      simp only [egressBlocked, hoff, Bool.not_false, Bool.true_and, Bool.or_eq_true,
        Bool.not_eq_true', not_or, Bool.not_eq_false] at hopen
      exact hopen.2
    have hflight : (inFlight c).gated = true := by
      simp [Conn.gated, inFlight, PdConn.heldBack, hexempt]
    have harrive : AllArrive (pd.setConn (inFlight c)) c.data.incrId p.ingress := by
      intro d hd hid
      obtain rfl := eq_of_mem_setConn hd hid
      exact hkeeps.imp id fun hall => ⟨rfl, hall⟩
    have hrest := gates_remote2vpns (gated_setConn hg hflight) harrive
    refine ⟨gates_accountForward hrest.conns _ _, fun q hq => ?_⟩
    rcases List.mem_cons.mp hq with rfl | hq
    · exact hexempt
    · exact hrest.passed q hq

theorem checkFirst_conns (pd : Pcapdroid) (c : Conn) (p : TunPacket) :
    (checkFirst pd c p).1.conns = pd.conns := by
  obtain ⟨vpn, server, requests, gate, he⟩ := checkFirst_frame pd c p
  rw [he]

theorem gates_egress (hoff : pd.isNetfree = false) (hg : ∀ c ∈ pd.conns, c.gated = true)
    (hc : c.gated = true) {p : TunPacket}
    (hhost : c.data.handed = false ∨ keepsHost c.data p.dpi = true)
    (hkeeps : ∀ i ∈ p.ingress, keepsHost c.data i.dpi = true) : Gates (egress pd c p) := by
  have hpasses := passes_inspectEgress pd c p
  refine gates_decideEgress ((inspectEgress_isNetfree pd c p).trans hoff) ?_ ?_ ?_
  · have hconns : (inspectEgress pd c p).1.conns = pd.conns :=
      (checkFirst_conns _ _ p).trans (pdProcessPacket_conns _ _ _ _ _)
    rw [hconns]
    exact hg
  · exact hpasses.gated hc hhost
  · exact hpasses.kept.imp id fun h i hi => h.2.keepsHost (hkeeps i hi)

theorem gated_resolveNetd (host : CStr) (uid : Int) (hc : c.gated = true) :
    ({ c with data := resolveNetd pd host uid c.data } : Conn).gated = true := by
  unfold resolveNetd
  split
  · exact hc
  · exact hc

/-- A new connection has no socket yet. -/
theorem gated_pdNewConnection (hg : ∀ c ∈ pd.conns, c.gated = true) (tuple : Tuple) (uid : Int) :
    (pdNewConnection pd tuple uid).2.data.handed = false ∧
      ∀ c ∈ (pdNewConnection pd tuple uid).1.conns, c.gated = true := by
  have hresolved : ∀ c ∈ (resolvedNew pd tuple uid).1.conns, c.gated = true := by
    unfold resolvedNew resolveForNew
    split
    · split
      · exact hg
      · intro c hc
        obtain ⟨c', hc', rfl⟩ := List.mem_map.mp hc
        split
        · exact gated_resolveNetd _ _ (hg c' hc')
        · exact hg c' hc'
    · exact hg
  have hnew : (pdNewConnection pd tuple uid).2.data.handed = false := by
    have htight := openVerdict_tightens (resolvedNew pd tuple uid).1 tuple
      (resolvedNew pd tuple uid).2
    obtain ⟨missed, hdata⟩ := resolvedNew_data pd tuple uid
    rw [pdNewConnection_data, PdConn.handed, htight.fwPctx, htight.sentPkts, hdata]
    rfl
  refine ⟨hnew, fun c hc => ?_⟩
  rcases List.mem_append.mp hc with hc | hc
  · exact hresolved c hc
  · rw [List.mem_singleton.mp hc]
    exact Conn.gated_of_not_handed hnew

theorem gates_tunPacket (hoff : pd.isNetfree = false) (hg : ∀ c ∈ pd.conns, c.gated = true)
    {p : TunPacket} (hleaves : leavesGated pd p = true) : Gates (tunPacket pd p) := by
  unfold tunPacket
  unfold leavesGated at hleaves
  cases hr : tunConn pd p with
  | none => exact Gates.silent hg
  | some r =>
    rw [hr, Option.all_some, Bool.and_eq_true, Bool.or_eq_true, Bool.not_eq_true',
      List.all_eq_true] at hleaves
    have hoff' : r.1.isNetfree = false := (tunConn_isNetfree hr).trans hoff
    obtain ⟨hconns, hc⟩ : (∀ c ∈ r.1.conns, c.gated = true) ∧ r.2.gated = true := by
      unfold tunConn at hr
      split at hr
      · cases hr
      · split at hr
        · next c hc =>
          cases hr
          exact ⟨hg, hg c (Pcapdroid.mem_of_lookup hc)⟩
        · split at hr
          · cases hr
          · have hms : ∀ c ∈ (pd.atTime p.ms).conns, c.gated = true := hg
            obtain ⟨-, hall⟩ := gated_pdNewConnection hms p.pkt.tuple (resolveUid p.uid)
            rw [← Option.some.inj hr]
            exact ⟨hall, hall _ (List.mem_append_right _ List.mem_cons_self)⟩
    exact gates_egress hoff' hconns hc hleaves.1 hleaves.2

/-! ## The other events -/

theorem gates_closeConn (hg : ∀ c ∈ pd.conns, c.gated = true) (id : Nat) (status : ConnStatus)
    (guess : L7Proto) : ∀ c ∈ (closeConn pd id status guess).conns, c.gated = true := by
  unfold closeConn
  cases pd.conn? id with
  | none => exact hg
  | some c =>
    dsimp only
    split
    · exact hg
    · have hclosed : (if status.isClosed then status else ConnStatus.closed).isClosed = true := by
        split
        · assumption
        · rfl
      intro d hd
      rcases Pcapdroid.mem_setConn hd with rfl | hd
      · simp only [Conn.gated, connectionClosed, hclosed, Bool.true_or]
      · exact hg d hd

/-- What taking a malware whitelist over leaves of a connection: it unblocks none. -/
structure CarriedOver (c c' : Conn) : Prop where
  status : c'.status = c.status
  handed : c'.data.handed = c.data.handed
  info : c'.data.info = c.data.info
  toBlock : c.data.toBlock = true → c'.data.toBlock = true
  allFlags : c'.data.allFlags = true → c.data.allFlags = true

theorem carried_checkBlacklistedConn (pd : Pcapdroid) (c : Conn) (wl : Blacklist) :
    CarriedOver c { c with data := checkBlacklistedConn pd c.tuple c.data wl } := by
  unfold checkBlacklistedConn
  dsimp only
  split
  · next hclear =>
    rw [checkBlockedConn_eq]
    refine ⟨rfl, rfl, rfl, fun _ => ?_, fun hall => ?_⟩
    · -- a flag was cleared, and a missing flag blocks
      rw [checkBlockedConn_toBlock]
      simp only [Bool.and_eq_true, Bool.or_eq_true] at hclear
      rcases hclear.1 with hip | hdomain
      · simp [PdConn.allFlags, hip]
      · simp [PdConn.allFlags, hdomain]
    · simp only [PdConn.allFlags, Bool.and_eq_true] at hall ⊢
      exact ⟨⟨hall.1.1, hall.1.2.1⟩, hall.2.1⟩
  · refine ⟨rfl, rfl, rfl, id, fun hall => ?_⟩
    simp only [PdConn.allFlags, Bool.and_eq_true] at hall ⊢
    exact ⟨⟨hall.1.1, hall.1.2.1⟩, hall.2.1⟩

theorem dumpOrReload_firewall (pd : Pcapdroid) : (dumpOrReload pd).firewall = pd.firewall ∧
    ∀ c ∈ (dumpOrReload pd).conns, c ∈ pd.conns := by
  have hreload : (reloadStep pd).firewall = pd.firewall ∧ (reloadStep pd).conns = pd.conns := by
    unfold reloadStep
    repeat' split
    all_goals exact ⟨rfl, rfl⟩
  unfold dumpOrReload
  split
  · exact ⟨rfl, fun c hc => hc⟩
  · split
    · exact ⟨rfl, fun c hc => (List.mem_filter.mp hc).1⟩
    · split
      · refine ⟨hreload.1, fun c hc => ?_⟩
        rw [hreload.2] at hc
        exact hc
      · exact ⟨rfl, fun c hc => hc⟩

theorem carried_beforeFirewall (pd : Pcapdroid) : (beforeFirewall pd).firewall = pd.firewall ∧
    ∀ c' ∈ (beforeFirewall pd).conns, ∃ c ∈ pd.conns, CarriedOver c c' := by
  obtain ⟨hfw, hconns⟩ := dumpOrReload_firewall pd
  have hself (c : Conn) : CarriedOver c c := ⟨rfl, rfl, rfl, id, id⟩
  unfold beforeFirewall installMalwareWhitelist
  split
  · exact ⟨hfw, fun c hc => ⟨c, hconns c hc, hself c⟩⟩
  · unfold iterActiveConnections
    dsimp only
    split
    · refine ⟨hfw, fun c' hc' => ?_⟩
      obtain ⟨c, hc, rfl⟩ := List.mem_map.mp hc'
      split
      · exact ⟨c, hconns c hc, hself c⟩
      · exact ⟨c, hconns c hc, carried_checkBlacklistedConn _ c _⟩
    · exact ⟨hfw, fun c hc => ⟨c, hconns c hc, hself c⟩⟩

theorem CarriedOver.gated {c' : Conn} (h : CarriedOver c c') (hc : c.gated = true) :
    c'.gated = true := by
  simp only [Conn.gated, PdConn.heldBack, Bool.or_eq_true] at hc ⊢
  rw [h.status, h.handed, h.info]
  exact hc.imp id fun hheld => hheld.imp h.toBlock id

/-- A firewall list taken over blocks every connection that lacks one of the flags. -/
theorem gates_pdHousekeeping (hg : ∀ c ∈ pd.conns, c.gated = true)
    (hreload : reloadsGated pd = true) : ∀ c ∈ (pdHousekeeping pd).conns, c.gated = true := by
  obtain ⟨hfw, hcarried⟩ := carried_beforeFirewall pd
  have hbefore : ∀ c ∈ (beforeFirewall pd).conns, c.gated = true := by
    intro c' hc'
    obtain ⟨c, hc, h⟩ := hcarried c' hc'
    exact h.gated (hg c hc)
  obtain ⟨tls, hdecryption⟩ :=
    installDecryptionList_frame (installFirewallLists (beforeFirewall pd))
  rw [pdHousekeeping, hdecryption]
  show ∀ c ∈ (installFirewallLists (beforeFirewall pd)).conns, c.gated = true
  unfold installFirewallLists iterActiveConnections
  split
  · next hpending =>
    rw [hfw] at hpending
    rw [reloadsGated, hpending, Bool.not_true, Bool.false_or, List.all_eq_true] at hreload
    split
    · intro d hd
      obtain ⟨c', hc', rfl⟩ := List.mem_map.mp hd
      split
      · exact hbefore c' hc'
      · obtain ⟨c, hc, h⟩ := hcarried c' hc'
        have hc := hreload c hc
        rw [checkBlockedConn_eq]
        show (c'.status.isClosed || !c'.data.handed ||
          ((checkBlockedConn _ c'.tuple c'.data).toBlock || netfreeExempt c'.data.info)) = true
        rw [checkBlockedConn_toBlock, h.status, h.handed, h.info]
        cases hall : c'.data.allFlags with
        | false => simp
        | true =>
          simp only [h.allFlags hall, Bool.not_true, Bool.or_false, Bool.or_eq_true] at hc ⊢
          exact hc.imp id Or.inr
    · exact hbefore
  · exact hbefore

theorem gates_react (hoff : pd.isNetfree = false) (hg : ∀ c ∈ pd.conns, c.gated = true)
    {e : Event} (hstays : staysGated pd e = true) : Gates (react pd e) := by
  cases e with
  | tunPacket p =>
    unfold react
    dsimp only
    split
    · rw [staysGated, hoff, Bool.false_or] at hstays
      exact gates_tunPacket hoff hg hstays
    · exact Gates.silent hg
  | netPacket id i =>
    rw [staysGated, hoff, Bool.false_or] at hstays
    exact gates_remote2vpn hg hstays
  | connClosed id status guess => exact Gates.silent (gates_closeConn hg id status guess)
  | refreshTime ms =>
    have hms : ∀ c ∈ (pd.atTime ms).conns, c.gated = true := hg
    exact Gates.silent hms
  | housekeeping =>
    rw [staysGated, hoff, Bool.false_or] at hstays
    exact Gates.silent (gates_pdHousekeeping hg hstays)
  | blacklistsLoaded bl =>
    obtain ⟨md, he⟩ := loadNewBlacklists_frame pd bl
    refine Gates.silent ?_
    rw [he]
    exact hg
  | jni call =>
    obtain ⟨_, _, _, _, _, _, _, _, he⟩ := jniCall_frame pd call
    refine Gates.silent ?_
    rw [he]
    exact hg

end Off

/-! ## Runs -/

theorem gated_step {pd : Pcapdroid} {e : Event} (hg : Gated pd)
    (hstays : staysGated pd e = true) : Gated (step pd e) := by
  intro hoff
  by_cases hset : e = .jni (.setisNetfree false)
  · subst hset
    exact List.all_eq_true.mp hstays
  · have hbefore : pd.isNetfree = false := by
      rw [← step_isNetfree pd fun b he => ?_]
      · exact hoff
      · subst he
        cases b with
        | false => exact hset rfl
        | true => cases hoff
    exact (gates_react hbefore (hg hbefore) hstays).conns

/-- **The NetFree gate holds along every run that stays gated.** -/
theorem netfreeGate_holds {pd : Pcapdroid} (hstart : pd.conns = []) {es : List Event}
    (hstays : EveryStep step (fun pd e => staysGated pd e = true) pd es) :
    EveryStep step (fun pd e => ∀ p ∈ passes pd e, PassNetfree pd.isNetfree p) pd es := by
  have hg : Gated pd := fun _ => by simp [hstart]
  have hkeeps (pd : Pcapdroid) (e : Event) (hg : Gated pd) (hstays : staysGated pd e = true) :
      Gated (step pd e) := gated_step hg hstays
  have hpasses (pd : Pcapdroid) (e : Event) (hg : Gated pd) (hstays : staysGated pd e = true) :
      ∀ p ∈ passes pd e, PassNetfree pd.isNetfree p := by
    intro p hp
    cases hon : pd.isNetfree with
    | true => exact Or.inl rfl
    | false => exact Or.inr ((gates_react hon (hg hon) hstays).passed p hp)
  exact everyStep_of_invariant hkeeps hpasses hg hstays

/-- A connection opened while the flag was set keeps receiving after it is cleared. -/
theorem netfreeGate_ingress_open :
    ¬ EveryStep step (fun pd e => ∀ p ∈ passes pd e, PassNetfree pd.isNetfree p) Leak.start
      [Leak.sent (Leak.dnsTuple 40000) 2000 (Leak.sawDns "good.com"), .jni (.setisNetfree false),
        .netPacket 0 ⟨2, Packet.opening (Leak.dnsTuple 40000) Leak.reply,
          Leak.sawDns "good.com", .ok⟩] := by
  decide +kernel

/-- The flag is cleared before the first connection, set again, and cleared with one open to one
of the three hosts, which goes on. -/
theorem netfreeGate_holds_of_exempt :
    EveryStep step (fun pd e => ∀ p ∈ passes pd e, PassNetfree pd.isNetfree p) Leak.start
      [.jni (.setisNetfree false), Leak.sent (Leak.dnsTuple 40000) 2000 (Leak.sawDns "good.com"),
        .jni (.setisNetfree true),
        Leak.sent (Leak.dnsTuple 40001) 1000 (Leak.sawDns "netfree.link"),
        .jni (.setisNetfree false),
        .netPacket 1 ⟨2, Packet.opening (Leak.dnsTuple 40001) Leak.reply,
          Leak.sawDns "netfree.link", .ok⟩] :=
  netfreeGate_holds (by decide) (by decide +kernel)

end SecureGuard.Native
