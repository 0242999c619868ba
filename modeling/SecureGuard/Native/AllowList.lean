import SecureGuard.Native.PacketLoop

/-! # The allow-list over whole runs

Every packet passed should belong to a connection the allow-list vouches for: by the uid it
was opened with, by its destination, or by its current host. The reason is an invariant of
each connection, kept by everything that inspects or re-evaluates it; what breaks it are the
two places where the verdict of another connection, or a wrong test of the reason flags, is
used instead. The main theorem holds for the runs that stay clear of those two. -/

namespace SecureGuard.Native
open Machine

/-! ## Connections the allow-list vouches for -/

section Lists

variable (bl : Blacklist) (wl : Option Blacklist)

/-- The whitelist names the uid the connection was opened with, or one of the two lists
matches its destination or its current host. -/
def vouches (tuple : Tuple) (openedUid : Int) (info : Option CStr) : Bool :=
  listedUid wl openedUid ||
  (bl.matchIp tuple.dstIp tuple.ipver || listedIp wl tuple.dstIp tuple.ipver) ||
  (listedInfo (some bl) info || listedInfo wl info)

/-- What every passed packet should satisfy. -/
def PassAllowed (p : Passed) : Prop :=
  vouches bl wl p.conn.tuple p.conn.openedUid p.conn.data.info = true ∧
    p.conn.data.flagged = false

instance (p : Passed) : Decidable (PassAllowed bl wl p) :=
  inferInstanceAs (Decidable (_ ∧ _))

/-- The invariant of a connection: a reason flag means blocked, and not blocked means that
the lists vouch for it. -/
structure Guarded (tuple : Tuple) (openedUid : Int) (d : PdConn) : Prop where
  app : d.whitelistedApp = listedUid wl openedUid
  flagged : d.flagged = true → d.toBlock = true
  vouched : d.toBlock = false → vouches bl wl tuple openedUid d.info = true

/-- The invariant of the engine: the lists are the given ones, none is on its way, and every
connection is guarded. -/
structure Vouched (pd : Pcapdroid) : Prop where
  loaded : pd.malwareDetection.bl = some bl
  whitelist : pd.malwareDetection.whitelist = wl
  noNewWl : pd.malwareDetection.newWl = none
  noReload : pd.malwareDetection.reloadInProgress = false
  notAsked : pd.reloadBlacklistsNow = false
  conns : ∀ c ∈ pd.conns, Guarded bl wl c.tuple c.openedUid c.data

end Lists

section Connections

variable {bl : Blacklist} {wl : Option Blacklist} {pd : Pcapdroid} {tuple : Tuple}
  {openedUid : Int} {d d' : PdConn}

theorem Guarded.passAllowed (c : Conn) (h : Guarded bl wl c.tuple c.openedUid c.data)
    (hopen : c.data.toBlock = false) (dir : Dir) : PassAllowed bl wl ⟨dir, c⟩ := by
  refine ⟨h.vouched hopen, ?_⟩
  by_contra hf
  simp [h.flagged (by simpa using hf)] at hopen

/-- A tightening that keeps the host keeps the invariant. -/
theorem Guarded.tighten (h : Guarded bl wl tuple openedUid d) (ht : Tightens d d')
    (hinfo : d'.info = d.info) : Guarded bl wl tuple openedUid d' where
  app := ht.whitelistedApp.trans h.app
  flagged := ht.flagged h.flagged
  vouched hopen := hinfo ▸ h.vouched (ht.unblocked hopen)

/-- A blocked connection is guarded whatever its host. -/
theorem Guarded.of_blocked (happ : d.whitelistedApp = listedUid wl openedUid)
    (hb : d.toBlock = true) : Guarded bl wl tuple openedUid d :=
  ⟨happ, fun _ => hb, fun h => absurd (hb.symm.trans h) (by decide)⟩

/-- A nonempty host one of the lists matches vouches for its connection. -/
theorem vouches_of_host {info : Option CStr} {host : CStr} (hinfo : info = some host)
    (hne : host ≠ []) (hm : bl.matchDomain host = true ∨ listedDomain wl host = true) :
    vouches bl wl tuple openedUid info = true := by
  have hempty : host.isEmpty = false := by simpa using hne
  rcases hm with hm | hm <;> simp [vouches, hinfo, hempty, hm]

/-! ## Inspection keeps the invariant -/

/-- The host check restores the invariant after the host was replaced. -/
theorem guarded_checkBlacklistedDomain {host : CStr} (hbl : pd.malwareDetection.bl = some bl)
    (hwl : pd.malwareDetection.whitelist = wl) (happ : d.whitelistedApp = listedUid wl openedUid)
    (hflag : d.flagged = true → d.toBlock = true) (hinfo : d.info = some host)
    (hne : host ≠ []) :
    Guarded bl wl tuple openedUid (checkBlacklistedDomain pd d).2 where
  app := (checkBlacklistedDomain_tightens pd d).whitelistedApp.trans happ
  flagged := (checkBlacklistedDomain_tightens pd d).flagged hflag
  vouched hopen := by
    have hinfo' := (checkBlacklistedDomain_info pd d).trans hinfo
    rcases checkBlacklistedDomain_allowed hbl hinfo hne hflag hopen with h | h | h
    · simp [vouches, ← happ, h]
    · exact vouches_of_host hinfo' hne (Or.inl h)
    · exact vouches_of_host hinfo' hne (Or.inr (hwl ▸ h))

theorem guarded_processInfo (hv : Vouched bl wl pd) (h : Guarded bl wl tuple openedUid d) :
    Guarded bl wl tuple openedUid (processInfo pd d).2 := by
  unfold processInfo
  split
  · next host hfound =>
    split
    · have hne : host.take 256 ≠ [] := by
        simpa [List.take_eq_nil_iff] using foundInfo_ne_nil hfound
      have htight := withInfo_tightens d (some (host.take 256)) false
      exact guarded_checkBlacklistedDomain hv.loaded hv.whitelist
        (htight.whitelistedApp.trans h.app) (htight.flagged h.flagged) rfl hne
    · exact h
  · exact h

theorem guarded_processNdpiData (hv : Vouched bl wl pd) (h : Guarded bl wl tuple openedUid d)
    (pktTuple : Tuple) : Guarded bl wl tuple openedUid (processNdpiData pd pktTuple d).2 := by
  have hinfo := guarded_processInfo hv h
  simp only [processNdpiData]
  split
  · exact hinfo.tighten (vpnProcessNdpi_tightens pd _ _) (vpnProcessNdpi_info pd _ _)
  · exact hinfo

theorem guarded_pdGiveupDpi (hv : Vouched bl wl pd) (h : Guarded bl wl tuple openedUid d)
    (pktTuple : Tuple) (guess : L7Proto) :
    Guarded bl wl tuple openedUid (pdGiveupDpi pd pktTuple guess d).2 := by
  unfold pdGiveupDpi
  split
  · exact h
  · have hguess : Guarded bl wl tuple openedUid
        (if d.l7proto = .unknown then { d with l7proto := guess } else d) := by
      split
      · exact h.tighten (withFlow_tightens d guess d.ndpiFlow) rfl
      · exact h
    exact (guarded_processNdpiData hv hguess pktTuple).tighten (withFlow_tightens _ _ none) rfl

theorem guarded_dissect (hv : Vouched bl wl pd) (h : Guarded bl wl tuple openedUid d)
    (pkt : Packet) (dpi : DpiResult) :
    Guarded bl wl tuple openedUid (dissect pd pkt dpi d).2 := by
  unfold dissect
  split
  · exact guarded_pdGiveupDpi hv h _ _
  · exact guarded_processNdpiData hv h _

theorem guarded_pdProcessPacket (hv : Vouched bl wl pd) (h : Guarded bl wl tuple openedUid d)
    (pkt : Packet) (isTx : Bool) (dpi : DpiResult) :
    Guarded bl wl tuple openedUid (pdProcessPacket pd pkt isTx dpi d).2 := by
  unfold pdProcessPacket
  split
  · rw [performDpi_snd]
    exact guarded_dissect hv (h.tighten (withFlow_tightens d dpi.l7proto
      (some ⟨dpi.hostServerName⟩)) rfl) pkt dpi
  · exact h

/-! ## Opening -/

/-- The host check of a connection nothing is decided about yet. -/
theorem vouches_of_not_refusesInfo (hv : Vouched bl wl pd) (hclean : d.flagged = false)
    (happ : d.whitelistedApp = listedUid wl openedUid) (hhost : d.hasHost = true)
    (h : refusesInfo pd d = false) : vouches bl wl tuple openedUid d.info = true := by
  obtain ⟨host, hinfo, hnil⟩ := Option.any_eq_true _ _ |>.mp hhost
  have hempty : host.isEmpty = false := by simpa using hnil
  have hdom : d.blacklistedDomain = false := by
    simp only [PdConn.flagged, Bool.or_eq_false_iff] at hclean
    exact hclean.2
  simp only [refusesInfo, refusesHost, asksHost, hinfo, hdom, hempty, hv.loaded, hv.whitelist,
    Option.any_some, Option.isSome_some, listedDomain_some, Bool.not_false, Bool.true_and,
    Bool.false_or, Bool.and_eq_false_iff, Bool.not_eq_false', Bool.or_eq_true] at h
  rcases h with h | h
  · simp [vouches, ← happ, h]
  · exact vouches_of_host hinfo (by simpa using hnil) h

/-- A connection opened while `domainopen` is closed, or not read, is guarded from the
start. -/
theorem guarded_openVerdict (hv : Vouched bl wl pd)
    (happ : d.whitelistedApp = listedUid wl openedUid) (hclean : d.flagged = false)
    (hsafe : pd.gate.domainopen = true → listedUid wl openedUid = true ∨ d.hasHost = true ∨
      addressAllowed pd tuple = true) :
    Guarded bl wl tuple openedUid (openVerdict pd tuple d).2 where
  app := (openVerdict_tightens pd tuple d).whitelistedApp.trans happ
  flagged := (openVerdict_tightens pd tuple d).flagged (by simp [hclean])
  vouched hopen := by
    rw [openVerdict_info]
    rw [openVerdict_eq] at hopen
    simp only [Bool.or_eq_false_iff] at hopen
    have hinfo : refusesInfo pd d = false := hopen.1.1.1.1.2
    have hip : refusesAddress pd tuple d (seenDomainopen pd d) = false := hopen.1.1.2
    have hofAddress : addressAllowed pd tuple = true → vouches bl wl tuple openedUid d.info := by
      intro ha
      simp only [addressAllowed, hv.loaded, hv.whitelist, listedIp_some] at ha
      simp [vouches, ha]
    cases hhost : d.hasHost with
    | true => exact vouches_of_not_refusesInfo hv hclean happ hhost hinfo
    | false =>
      simp only [refusesAddress, seenDomainopen, hv.loaded, hhost, happ, Option.isSome_some,
        Bool.true_and, Bool.and_false, Bool.and_eq_false_iff, Bool.not_eq_false'] at hip
      rcases hip with (h | h) | h
      · simp [vouches, h]
      · exact hofAddress h
      · rcases hsafe h with hu | hh | ha
        · simp [vouches, hu]
        · exact absurd (hh.symm.trans hhost) (by decide)
        · exact hofAddress ha

/-! ## The engine keeps the invariant -/

/-- A change of the engine that touches neither the lists nor their reload, and whose
connections are guarded. -/
theorem Vouched.change {pd' : Pcapdroid} (hv : Vouched bl wl pd)
    (hmd : pd'.malwareDetection = pd.malwareDetection)
    (hasked : pd'.reloadBlacklistsNow = pd.reloadBlacklistsNow)
    (hconns : ∀ c ∈ pd'.conns, Guarded bl wl c.tuple c.openedUid c.data) :
    Vouched bl wl pd' where
  loaded := hmd ▸ hv.loaded
  whitelist := hmd ▸ hv.whitelist
  noNewWl := hmd ▸ hv.noNewWl
  noReload := hmd ▸ hv.noReload
  notAsked := hasked ▸ hv.notAsked
  conns := hconns

theorem Vouched.setConn (hv : Vouched bl wl pd) (c : Conn)
    (h : Guarded bl wl c.tuple c.openedUid c.data) : Vouched bl wl (pd.setConn c) := by
  refine hv.change rfl rfl fun d hd => ?_
  rcases Pcapdroid.mem_setConn hd with rfl | hd
  · exact h
  · exact hv.conns d hd

theorem guarded_resolveNetd (host : CStr) (uid : Int) (h : Guarded bl wl tuple openedUid d) :
    Guarded bl wl tuple openedUid (resolveNetd pd host uid d) := by
  unfold resolveNetd
  split
  · exact ⟨h.app, h.flagged, h.vouched⟩
  · exact h

/-- Resolving netd queries changes their uid, not the one they were opened with. -/
theorem vouched_resolveForNew (hv : Vouched bl wl pd) (d : PdConn) :
    Vouched bl wl (resolveForNew pd d).1 := by
  unfold resolveForNew
  split
  · split
    · exact hv
    · next host _ _ =>
      refine hv.change rfl rfl fun c hc => ?_
      obtain ⟨c', hc', rfl⟩ := List.mem_map.mp hc
      split
      · exact guarded_resolveNetd host d.uid (hv.conns c' hc')
      · exact hv.conns c' hc'
  · exact hv

theorem vouched_pdNewConnection (hv : Vouched bl wl pd) (uid : Int)
    (hsafe : readsDomainopen pd tuple uid = true → pd.gate.domainopen = false) :
    Vouched bl wl (pdNewConnection pd tuple uid).1 ∧
      Guarded bl wl tuple uid (pdNewConnection pd tuple uid).2.data := by
  have hv₁ : Vouched bl wl (enqueued pd tuple) := hv.change rfl rfl hv.conns
  have hv₂ : Vouched bl wl (resolvedNew pd tuple uid).1 := vouched_resolveForNew hv₁ _
  obtain ⟨missed, hdata⟩ := resolvedNew_data pd tuple uid
  have hnew : Guarded bl wl tuple uid (pdNewConnection pd tuple uid).2.data := by
    rw [pdNewConnection_data, hdata]
    refine guarded_openVerdict hv₂ (congrArg (listedUid · uid) hv.whitelist) rfl fun hopen => ?_
    have hread : readsDomainopen pd tuple uid = false := by
      by_contra hr
      obtain ⟨conns, delay, he⟩ := resolvedNew_frame pd tuple uid
      rw [he] at hopen
      exact absurd (hopen.symm.trans (hsafe (by simpa using hr))) (by decide)
    simp only [readsDomainopen, hasCachedHost, addressAllowed, hv.loaded, hv.whitelist,
      Option.isSome_some, Bool.true_and, Bool.and_eq_false_iff, Bool.not_eq_false'] at hread
    simp only [addressAllowed, hv₂.loaded, hv₂.whitelist, PdConn.hasHost, freshConn]
    tauto
  refine ⟨hv₂.change rfl rfl fun c hc => ?_, hnew⟩
  rcases List.mem_append.mp hc with hc | hc
  · exact hv₂.conns c hc
  · rw [List.mem_singleton.mp hc]
    exact hnew

/-- The invariant of a step's result: the engine is vouched for and every packet passed is
allowed. -/
def Sound (bl : Blacklist) (wl : Option Blacklist) (r : Pcapdroid × List Passed) : Prop :=
  Vouched bl wl r.1 ∧ ∀ p ∈ r.2, PassAllowed bl wl p

theorem Sound.silent (hv : Vouched bl wl pd) : Sound bl wl (pd, []) :=
  ⟨hv, by simp⟩

theorem vouched_pdProcessPacket (hv : Vouched bl wl pd) (pkt : Packet) (isTx : Bool)
    (dpi : DpiResult) (d : PdConn) : Vouched bl wl (pdProcessPacket pd pkt isTx dpi d).1 := by
  obtain ⟨lru, gate, delay, he⟩ := pdProcessPacket_frame pd pkt isTx dpi d
  rw [he]
  exact hv.change rfl rfl hv.conns

theorem accountForwarded_guarded (pd : Pcapdroid) (h : Guarded bl wl tuple openedUid d) :
    Guarded bl wl tuple openedUid (accountForwarded pd d).2 := by
  unfold accountForwarded
  split
  · exact ⟨h.app, h.flagged, h.vouched⟩
  · exact h

theorem accountForwarded_vouched (hv : Vouched bl wl pd) (d : PdConn) :
    Vouched bl wl (accountForwarded pd d).1 := by
  unfold accountForwarded
  split
  · exact hv.change rfl rfl hv.conns
  · exact hv

theorem vouched_countBlocked (hv : Vouched bl wl pd) {c : Conn}
    (h : Guarded bl wl c.tuple c.openedUid c.data) : Vouched bl wl (countBlocked pd c) :=
  hv.setConn _ ⟨h.app, h.flagged, h.vouched⟩

theorem vouched_written (hv : Vouched bl wl pd) {c : Conn}
    (h : Guarded bl wl c.tuple c.openedUid c.data) (write : WriteResult) :
    Vouched bl wl (written pd c write) := by
  have hset := hv.setConn c h
  cases write with
  | ok =>
    have hstats : Vouched bl wl { pd with newStats := true } := hv.change rfl rfl hv.conns
    exact hstats.setConn _ ⟨h.app, h.flagged, h.vouched⟩
  | noBuffers | partialWrite => exact hset
  | failed => exact hset.change rfl rfl hset.conns

theorem sound_deliver (hv : Vouched bl wl pd) {c : Conn}
    (h : Guarded bl wl c.tuple c.openedUid c.data) (write : WriteResult) :
    Sound bl wl (deliver pd c write) := by
  unfold deliver
  split
  · exact Sound.silent (vouched_countBlocked hv h)
  · next hopen =>
    refine ⟨vouched_written hv h write, fun p hp => ?_⟩
    rw [List.mem_singleton.mp hp]
    exact Guarded.passAllowed c h (by simpa using hopen) .ingress

theorem guarded_inspectIngress (hv : Vouched bl wl pd) {c : Conn}
    (h : Guarded bl wl c.tuple c.openedUid c.data) (i : Ingress) :
    Vouched bl wl (inspectIngress pd c i).1 ∧ Guarded bl wl (inspectIngress pd c i).2.tuple
      (inspectIngress pd c i).2.openedUid (inspectIngress pd c i).2.data := by
  have hacc := accountForwarded_vouched hv c.data
  have hms : Vouched bl wl ((accountForwarded pd c.data).1.atTime i.ms) :=
    hacc.change rfl rfl hacc.conns
  exact ⟨vouched_pdProcessPacket hms i.pkt false i.dpi _,
    guarded_pdProcessPacket hms (accountForwarded_guarded pd h) i.pkt false i.dpi⟩

theorem sound_remote2vpn (hv : Vouched bl wl pd) (id : Nat) (i : Ingress) :
    Sound bl wl (remote2vpn pd id i) := by
  unfold remote2vpn
  split
  · exact Sound.silent hv
  · next c hc =>
    split
    · exact Sound.silent hv
    · obtain ⟨hv', hg⟩ :=
        guarded_inspectIngress hv (hv.conns c (Pcapdroid.mem_of_conn? hc)) i
      exact sound_deliver hv' hg i.write

theorem sound_remote2vpns (id : Nat) (is : List Ingress) (hv : Vouched bl wl pd) :
    Sound bl wl (remote2vpns id pd is) := by
  induction is generalizing pd with
  | nil => exact Sound.silent hv
  | cons i is ih =>
    have hfirst := sound_remote2vpn hv id i
    have hrest := ih hfirst.1
    refine ⟨hrest.1, fun p hp => ?_⟩
    rcases List.mem_append.mp hp with hp | hp
    · exact hfirst.2 p hp
    · exact hrest.2 p hp

/-! ## Packets from the tun -/

theorem prepareFirst_guarded (h : Guarded bl wl tuple openedUid d) :
    Guarded bl wl tuple openedUid (prepareFirst pd tuple d) := by
  unfold prepareFirst
  split
  · split
    · exact ⟨h.app, h.flagged, h.vouched⟩
    · exact ⟨h.app, h.flagged, h.vouched⟩
  · exact h

theorem vouched_checkDnsReqAllowed (hv : Vouched bl wl pd) (tuple : Tuple) (pkt : Packet) :
    Vouched bl wl (checkDnsReqAllowed pd tuple pkt).1 := by
  obtain ⟨vpn, server, requests, he⟩ := checkDnsReqAllowed_frame pd tuple pkt
  rw [he]
  exact hv.change rfl rfl hv.conns

theorem guarded_markInternal (h : Guarded bl wl tuple openedUid d) (allowed : Bool) :
    Guarded bl wl tuple openedUid (markInternal d allowed) := by
  cases hi : d.blacklistedInternal || !allowed with
  | true => exact Guarded.of_blocked h.app (by simp [markInternal, hi])
  | false =>
    have hint : d.blacklistedInternal = false := (Bool.or_eq_false_iff.mp hi).1
    have hflag : (markInternal d allowed).flagged = d.flagged := by
      have hallow : (!allowed) = false := (Bool.or_eq_false_iff.mp hi).2
      simp only [markInternal, PdConn.flagged, hint, hallow, Bool.false_or]
    have hblock : (markInternal d allowed).toBlock = d.toBlock := by simp [markInternal, hi]
    refine ⟨h.app, ?_, ?_⟩
    · rw [hflag, hblock]
      exact h.flagged
    · rw [hblock]
      exact h.vouched

theorem connectionClosed_guarded (hv : Vouched bl wl pd) {c : Conn}
    (h : Guarded bl wl c.tuple c.openedUid c.data) (status : ConnStatus) (guess : L7Proto) :
    Vouched bl wl (connectionClosed pd status guess c).1 ∧
      Guarded bl wl (connectionClosed pd status guess c).2.tuple
        (connectionClosed pd status guess c).2.openedUid
        (connectionClosed pd status guess c).2.data := by
  have hg := guarded_pdGiveupDpi hv h c.tuple guess
  exact ⟨hv.change rfl rfl hv.conns, ⟨hg.app, hg.flagged, hg.vouched⟩⟩

theorem closeSpoofed_guarded (hv : Vouched bl wl pd) (c : Conn)
    (h : Guarded bl wl c.tuple c.openedUid c.data) (guess : L7Proto) :
    Vouched bl wl (closeSpoofed pd c guess).1 ∧ Guarded bl wl (closeSpoofed pd c guess).2.tuple
      (closeSpoofed pd c guess).2.openedUid (closeSpoofed pd c guess).2.data := by
  unfold closeSpoofed
  split
  · exact connectionClosed_guarded hv h .closed guess
  · exact ⟨hv, h⟩

theorem vouched_dnsAllowed (hv : Vouched bl wl pd) (c : Conn) (pkt : Packet) :
    Vouched bl wl (dnsAllowed pd c pkt).1 := by
  unfold dnsAllowed
  split
  · exact hv
  · exact vouched_checkDnsReqAllowed hv c.tuple pkt

theorem checkFirst_guarded (hv : Vouched bl wl pd) (c : Conn)
    (h : Guarded bl wl c.tuple c.openedUid c.data) (p : TunPacket) :
    Vouched bl wl (checkFirst pd c p).1 ∧ Guarded bl wl (checkFirst pd c p).2.tuple
      (checkFirst pd c p).2.openedUid (checkFirst pd c p).2.data := by
  unfold checkFirst
  split
  · exact closeSpoofed_guarded (vouched_dnsAllowed hv c p.pkt) { c with data := _ }
      (guarded_markInternal h _) p.dpi.guess
  · exact ⟨hv, h⟩

theorem vouched_accountForward (hv : Vouched bl wl pd) (id : Nat) (forwarded : Bool) :
    Vouched bl wl (accountForward pd id forwarded) := by
  unfold accountForward
  split
  · exact hv
  · next c hc =>
    split
    · exact (accountForwarded_vouched hv c.data).setConn _
        (accountForwarded_guarded pd (hv.conns c (Pcapdroid.mem_of_conn? hc)))
    · exact hv

theorem sound_forward (hv : Vouched bl wl pd) {c : Conn}
    (h : Guarded bl wl c.tuple c.openedUid c.data) (hopen : c.data.toBlock = false)
    (p : TunPacket) : Sound bl wl (forward pd c p) := by
  have hc : Guarded bl wl (inFlight c).tuple (inFlight c).openedUid (inFlight c).data :=
    ⟨h.app, h.flagged, h.vouched⟩
  have hrest := sound_remote2vpns c.data.incrId p.ingress (hv.setConn (inFlight c) hc)
  refine ⟨vouched_accountForward hrest.1 _ _, fun q hq => ?_⟩
  rcases List.mem_cons.mp hq with rfl | hq
  · exact Guarded.passAllowed (inFlight c) hc hopen .egress
  · exact hrest.2 q hq

theorem sound_decideEgress (hv : Vouched bl wl pd) {c : Conn}
    (h : Guarded bl wl c.tuple c.openedUid c.data) (p : TunPacket) :
    Sound bl wl (decideEgress pd c p) := by
  unfold decideEgress
  split
  · exact Sound.silent (vouched_countBlocked hv h)
  · next hb =>
    have hopen : c.data.toBlock = false := by
      simp only [egressBlocked, Bool.or_eq_true, not_or] at hb
      simpa using hb.1
    exact sound_forward hv h hopen p

theorem guarded_inspectEgress (hv : Vouched bl wl pd) {c : Conn}
    (h : Guarded bl wl c.tuple c.openedUid c.data) (p : TunPacket) :
    Vouched bl wl (inspectEgress pd c p).1 ∧ Guarded bl wl (inspectEgress pd c p).2.tuple
      (inspectEgress pd c p).2.openedUid (inspectEgress pd c p).2.data := by
  have hprep : Guarded bl wl c.tuple c.openedUid (prepareFirst pd c.tuple c.data) :=
    prepareFirst_guarded h
  exact checkFirst_guarded
    (vouched_pdProcessPacket hv p.pkt true p.dpi (prepareFirst pd c.tuple c.data))
    { c with data := (pdProcessPacket pd p.pkt true p.dpi _).2 }
    (guarded_pdProcessPacket hv hprep p.pkt true p.dpi) p

/-- The packet opens a connection. -/
def opens (pd : Pcapdroid) (p : TunPacket) : Bool :=
  pd.running && !discarded pd p.pkt && (pd.lookup p.pkt.tuple).isNone && !isTcpEstablished p.pkt

theorem guarded_tunConn (hv : Vouched bl wl pd) (p : TunPacket) (hrun : pd.running = true)
    (hsafe : opens pd p = true → readsDomainopen pd p.pkt.tuple (resolveUid p.uid) = true →
      pd.gate.domainopen = false) {r : Pcapdroid × Conn} (hr : tunConn pd p = some r) :
    Vouched bl wl r.1 ∧ Guarded bl wl r.2.tuple r.2.openedUid r.2.data := by
  have hms : Vouched bl wl (pd.atTime p.ms) := hv.change rfl rfl hv.conns
  unfold tunConn at hr
  split at hr
  · cases hr
  · next hdisc =>
    split at hr
    · next c hc =>
      cases hr
      exact ⟨hms, hv.conns c (Pcapdroid.mem_of_lookup hc)⟩
    · next hnone =>
      split at hr
      · cases hr
      · next hest =>
        cases hr
        have hopens : opens pd p = true := by
          simp only [opens, hrun, Bool.true_and, Bool.and_eq_true, Bool.not_eq_true']
          exact ⟨⟨by simpa using hdisc, by simpa using hnone⟩, by simpa using hest⟩
        exact vouched_pdNewConnection hms (resolveUid p.uid) (hsafe hopens)

theorem sound_tunPacket (hv : Vouched bl wl pd) (p : TunPacket) (hrun : pd.running = true)
    (hsafe : opens pd p = true → readsDomainopen pd p.pkt.tuple (resolveUid p.uid) = true →
      pd.gate.domainopen = false) : Sound bl wl (tunPacket pd p) := by
  unfold tunPacket
  split
  · exact Sound.silent (hv.change rfl rfl hv.conns)
  · next hr =>
    obtain ⟨hv', hg⟩ := guarded_tunConn hv p hrun hsafe hr
    obtain ⟨hv'', hg'⟩ := guarded_inspectEgress hv' hg p
    exact sound_decideEgress hv'' hg' p

/-! ## The other events -/

theorem vouched_closeConn (hv : Vouched bl wl pd) (id : Nat) (status : ConnStatus)
    (guess : L7Proto) : Vouched bl wl (closeConn pd id status guess) := by
  unfold closeConn
  split
  · exact hv
  · next c hc =>
    split
    · exact hv
    · obtain ⟨hv', hg⟩ := connectionClosed_guarded hv (hv.conns c (Pcapdroid.mem_of_conn? hc))
        (if status.isClosed then status else .closed) guess
      exact hv'.setConn _ hg

/-- Taking over the pending firewall list leaves every connection with all three reason flags
blocked, by the list or by whitelist mode. -/
def staysBlocked (pd : Pcapdroid) : Bool :=
  !pd.firewall.pending || pd.conns.all fun c =>
    c.status.isClosed || !c.data.allFlags || firewallMatches (withInstalled pd) c.tuple c.data ||
      whitelistModeBlocks (withInstalled pd) c.tuple c.data

/-- The dump and the allow-list branch: with no reload under way only connections and the
bookkeeping of dumps change. -/
theorem vouched_dumpOrReload (hv : Vouched bl wl pd) :
    Vouched bl wl (dumpOrReload pd) ∧ (dumpOrReload pd).firewall = pd.firewall ∧
      ∀ c ∈ (dumpOrReload pd).conns, c ∈ pd.conns := by
  unfold dumpOrReload
  split
  · exact ⟨hv.change rfl rfl hv.conns, rfl, fun _ => id⟩
  · split
    · exact ⟨hv.change rfl rfl fun c hc => hv.conns c (List.mem_filter.mp hc).1, rfl,
        fun c hc => (List.mem_filter.mp hc).1⟩
    · have hidle : reloadStep pd = pd := by
        simp [reloadStep, hv.noReload, hv.notAsked]
      split
      · rw [hidle]
        exact ⟨hv, rfl, fun _ => id⟩
      · exact ⟨hv, rfl, fun _ => id⟩

theorem vouched_installFirewallLists (hv : Vouched bl wl pd) (hstay : staysBlocked pd = true) :
    Vouched bl wl (installFirewallLists pd) := by
  unfold installFirewallLists
  split
  · next hpending =>
    unfold iterActiveConnections
    split
    · refine hv.change rfl rfl fun c hc => ?_
      obtain ⟨c', hc', rfl⟩ := List.mem_map.mp hc
      split
      · exact hv.conns c' hc'
      · next hactive =>
        have hc'' := hv.conns c' hc'
        refine Guarded.of_blocked ?_ ?_
        · rw [checkBlockedConn_eq]
          exact hc''.app
        · simp only [staysBlocked, hpending, Bool.not_true, Bool.false_or, List.all_eq_true]
            at hstay
          have := hstay c' hc'
          rw [checkBlockedConn_toBlock]
          simpa [hactive] using this
    · exact hv.change rfl rfl hv.conns
  · exact hv

theorem staysBlocked_mono {pd' : Pcapdroid} (hfw : pd'.firewall = pd.firewall)
    (hsub : ∀ c ∈ pd'.conns, c ∈ pd.conns) (hstay : staysBlocked pd = true) :
    staysBlocked pd' = true := by
  have hmatch : ∀ tuple data, firewallMatches (withInstalled pd') tuple data =
      firewallMatches (withInstalled pd) tuple data := by
    intro tuple data
    simp only [firewallMatches, withInstalled, hfw]
  have hmode : ∀ tuple data, whitelistModeBlocks (withInstalled pd') tuple data =
      whitelistModeBlocks (withInstalled pd) tuple data := by
    intro tuple data
    simp only [whitelistModeBlocks, withInstalled, hfw]
  simp only [staysBlocked, hfw, hmatch, hmode, Bool.or_eq_true, List.all_eq_true] at hstay ⊢
  exact hstay.imp_right fun h c hc => h c (hsub c hc)

theorem vouched_pdHousekeeping (hv : Vouched bl wl pd) (hstay : staysBlocked pd = true) :
    Vouched bl wl (pdHousekeeping pd) := by
  obtain ⟨hv₁, hfw, hsub⟩ := vouched_dumpOrReload hv
  have hidle : beforeFirewall pd = dumpOrReload pd := by
    simp [beforeFirewall, installMalwareWhitelist, hv₁.noNewWl]
  have hv₂ := vouched_installFirewallLists hv₁ (staysBlocked_mono hfw hsub hstay)
  unfold pdHousekeeping
  rw [hidle]
  unfold installDecryptionList
  split
  · exact hv₂
  · exact hv₂.change rfl rfl hv₂.conns

/-- The events that replace the allow-list or its whitelist. -/
def reloadsAllowList : Event → Bool
  | .jni .reloadBlacklists | .jni (.reloadMalwareWhitelist _) => true
  | _ => false

theorem vouched_jniCall (hv : Vouched bl wl pd) (call : JniCall)
    (hkeep : reloadsAllowList (.jni call) = false) : Vouched bl wl (jniCall pd call) := by
  cases call with
  | reloadBlacklists => exact absurd hkeep (by decide)
  | reloadMalwareWhitelist wl => exact absurd hkeep (by simp [reloadsAllowList])
  | reloadBlocklist list =>
    simp only [jniCall, reloadBlocklist]
    split
    · exact hv
    · exact hv.change rfl rfl hv.conns
  | reloadFirewallWhitelist list =>
    simp only [jniCall, reloadFirewallWhitelist]
    split
    · exact hv
    · cases list <;> exact hv.change rfl rfl hv.conns
  | reloadDecryptionList list =>
    simp only [jniCall, reloadDecryptionList]
    split
    · exact hv
    · exact hv.change rfl rfl hv.conns
  | _ => exact hv.change rfl rfl hv.conns

theorem vouched_loadNewBlacklists (hv : Vouched bl wl pd) (new : Option Blacklist) :
    Vouched bl wl (loadNewBlacklists pd new) := by
  simpa [loadNewBlacklists, hv.noReload] using hv

/-! ## Runs -/

/-- The step stays clear of the two defects: a connection whose address check reads
`domainopen` finds it closed, and a firewall list taken over unblocks no connection with all
three reason flags. -/
def staysClear (pd : Pcapdroid) : Event → Bool
  | .tunPacket p =>
    !opens pd p || !readsDomainopen pd p.pkt.tuple (resolveUid p.uid) || !pd.gate.domainopen
  | .housekeeping => staysBlocked pd
  | _ => true

theorem sound_react (hv : Vouched bl wl pd) {e : Event} (hkeep : reloadsAllowList e = false)
    (hclear : staysClear pd e = true) : Sound bl wl (react pd e) := by
  cases e with
  | tunPacket p =>
    unfold react
    dsimp only
    split
    · next hrun =>
      refine sound_tunPacket hv p hrun fun hopens hreads => ?_
      simpa [staysClear, hopens, hreads] using hclear
    · exact Sound.silent hv
  | netPacket id i => exact sound_remote2vpn hv id i
  | connClosed id status guess => exact Sound.silent (vouched_closeConn hv id status guess)
  | refreshTime ms => exact Sound.silent (hv.change rfl rfl hv.conns)
  | housekeeping => exact Sound.silent (vouched_pdHousekeeping hv hclear)
  | blacklistsLoaded new => exact Sound.silent (vouched_loadNewBlacklists hv new)
  | jni call => exact Sound.silent (vouched_jniCall hv call hkeep)

/-- The lists are in force, no reload is under way, and no connection is open yet. -/
structure Started (bl : Blacklist) (wl : Option Blacklist) (pd : Pcapdroid) : Prop where
  loaded : pd.malwareDetection.bl = some bl
  whitelist : pd.malwareDetection.whitelist = wl
  noNewWl : pd.malwareDetection.newWl = none
  noReload : pd.malwareDetection.reloadInProgress = false
  notAsked : pd.reloadBlacklistsNow = false
  noConns : pd.conns = []

theorem Started.vouched (h : Started bl wl pd) : Vouched bl wl pd where
  loaded := h.loaded
  whitelist := h.whitelist
  noNewWl := h.noNewWl
  noReload := h.noReload
  notAsked := h.notAsked
  conns := by simp [h.noConns]

/-- **The allow-list is sound along every run that stays clear of the two defects.** -/
theorem allowList_sound (hstart : Started bl wl pd) {es : List Event}
    (hkeep : ∀ e ∈ es, reloadsAllowList e = false)
    (hclear : EveryStep step (fun pd e => staysClear pd e = true) pd es) :
    EveryStep step (fun pd e => ∀ p ∈ passes pd e, PassAllowed bl wl p) pd es := by
  refine everyStep_of_invariant (fun pd e hv h => ?_) (fun pd e hv h => ?_) hstart.vouched
    ((everyStep_of_forall_mem pd hkeep).and hclear)
  · exact (sound_react hv h.1 h.2).1
  · exact (sound_react hv h.1 h.2).2

end Connections

/-! ## A run that leaks

A whitelisted app looks up and opens a host that is not on the allow-list, so its check
leaves `thischeck` set. A query of another app for an allowed host then sets `domainopen`,
and the next connection of that app passes to any address. -/

namespace Leak

/-- The allow-list: one host, and the DNS server. -/
def bl : Blacklist :=
  { Blacklist.init with
    domains := [cstr "good.com"]
    ptree := [ptreeNode (ndpiIpAddr (ip4 8 8 8 8) .v4) 32] }

/-- The whitelist: one app. -/
def wl : Blacklist := { Blacklist.init with uids := [1000] }

def prefs : Prefs where
  vpnCapture := true
  socks5Enabled := false
  vpn :=
    { blockQuicMode := .never, knownDnsServers := Blacklist.init, ipv4Enabled := true,
      ipv4DnsServer := 0, ipv4InternalDns := 0, ipv6Enabled := false, ipv6DnsServer := 0 }
  malwareDetectionEnabled := true
  firewallEnabled := false
  tlsDecryptionEnabled := false
  portMaps := []
  gate := { domainopen := false, thischeck := false }
  isNetfree := true
  blockPrivateDns := false
  dumpCaptureStatsNow := false

/-- The loop just started, with both lists in force. -/
def start : Pcapdroid :=
  run step (pdRun prefs (some bl) 0) [.jni (.reloadMalwareWhitelist wl), .housekeeping]

def client : ZdtunIp := ip4 10 215 173 1

def dnsTuple (srcPort : UInt16) : Tuple :=
  { srcIp := client, dstIp := ip4 8 8 8 8, srcPort := srcPort, dstPort := 53, ipver := .v4,
    ipproto := .udp }

def tcpTuple (dstIp : ZdtunIp) (srcPort : UInt16) : Tuple :=
  { srcIp := client, dstIp := dstIp, srcPort := srcPort, dstPort := 443, ipver := .v4,
    ipproto := .tcp }

def sawDns (host : String) : DpiResult := ⟨.dns, cstr host, true, .unknown⟩

def sawNothing : DpiResult := ⟨.unknown, [], true, .unknown⟩

def sent (tuple : Tuple) (uid : Int) (dpi : DpiResult) : Event :=
  .tunPacket
    { ms := 1, pkt := Packet.opening tuple [], uid := uid, dpi := dpi, ingress := [],
      forwarded := true }

/-- A response with one question, for `x.com`, and one answer, the address 9.9.9.1. -/
def reply : List UInt8 :=
  [0, 7, 0x81, 0x80, 0, 1, 0, 1, 0, 0, 0, 0] ++ [1, 120, 3, 99, 111, 109, 0, 0, 1, 0, 1] ++
    [0xc0, 12, 0, 1, 0, 1, 0, 0, 0, 60, 0, 4, 9, 9, 9, 1]

/-- The client's query for `x.com` and its reply, its connection to `x.com`, another app's
query for `good.com`, and that app's connection to an address on no list. -/
def events : List Event :=
  [sent (dnsTuple 40000) 1000 (sawDns "x.com"), .housekeeping,
    .netPacket 0 ⟨2, Packet.opening (dnsTuple 40000) reply, sawDns "x.com", .ok⟩, .housekeeping,
    sent (tcpTuple (ip4 9 9 9 1) 40001) 1000 sawNothing, .housekeeping,
    sent (dnsTuple 40002) 2000 (sawDns "good.com"), .housekeeping,
    sent (tcpTuple (ip4 6 6 6 6) 40003) 2000 sawNothing]

end Leak

theorem Leak.started : Started Leak.bl (some Leak.wl) Leak.start :=
  ⟨by decide, by decide, by decide, by decide, by decide, by decide⟩

theorem allowList_leaks :
    Started Leak.bl (some Leak.wl) Leak.start ∧
    (∀ e ∈ Leak.events, reloadsAllowList e = false) ∧
    ¬ EveryStep step (fun pd e => ∀ p ∈ passes pd e, PassAllowed Leak.bl (some Leak.wl) p)
        Leak.start Leak.events :=
  ⟨Leak.started, by decide, by decide +kernel⟩

/-- Up to the last connection the run stays clear, and its packets are allowed. -/
theorem allowList_sound_before_leak :
    EveryStep step (fun pd e => ∀ p ∈ passes pd e, PassAllowed Leak.bl (some Leak.wl) p)
      Leak.start (Leak.events.take 8) :=
  allowList_sound Leak.started (by decide) (by decide +kernel)

end SecureGuard.Native
