import SecureGuard.Native.AllowList

/-! # Non-interference of the opening verdict

Two engines that agree on their lists and on the IP-to-host cache should decide alike on the
same connection, whatever each of them processed before. The verdict in closed form shows
the one channel between connections: the value of `domainopen`, for the connections whose
address check reads it. What a history leaves there is said by the checks it made, one after the
other. -/

namespace SecureGuard.Native
open Machine

/-- Two engines with the same rule lists and the same configuration of the checks. -/
structure SameLists (pd₁ pd₂ : Pcapdroid) : Prop where
  bl : pd₁.malwareDetection.bl = pd₂.malwareDetection.bl
  whitelist : pd₁.malwareDetection.whitelist = pd₂.malwareDetection.whitelist
  enabled : pd₁.firewall.enabled = pd₂.firewall.enabled
  fwBl : pd₁.firewall.bl = pd₂.firewall.bl
  wlEnabled : pd₁.firewall.wlEnabled = pd₂.firewall.wlEnabled
  wl : pd₁.firewall.wl = pd₂.firewall.wl

/-- What two histories have to agree on: lists, configuration and IP-to-host cache. -/
structure SameSetup (pd₁ pd₂ : Pcapdroid) : Prop extends SameLists pd₁ pd₂ where
  cache : pd₁.ipToHost = pd₂.ipToHost

/-- The verdict of `pd_new_connection`: `to_block`, `blacklisted_ip`, `blacklisted_domain`. -/
def verdict (pd : Pcapdroid) (tuple : Tuple) (uid : Int) : Bool × Bool × Bool :=
  let d := (pdNewConnection pd tuple uid).2.data
  (d.toBlock, d.blacklistedIp, d.blacklistedDomain)

/-- The verdict on the undecided connection `d`, with the `domainopen` found as a
parameter. -/
def verdictWith (pd : Pcapdroid) (tuple : Tuple) (d : PdConn) (domainopen : Bool) :
    Bool × Bool × Bool :=
  let seen := if asksHost pd d && d.hasHost then !refusesInfo pd d else domainopen
  let refusesIp := refusesAddress pd tuple d seen
  (refusesInfo pd d || (pd.firewall.enabled && listedInfo pd.firewall.bl d.info) || refusesIp ||
      firewallRefuses pd tuple d || whitelistModeBlocks pd tuple d,
    refusesIp, refusesInfo pd d)

/-! ## The verdict reads the lists, the cache and `domainopen` -/

theorem verdictWith_congr {pd₁ pd₂ : Pcapdroid} (h : SameLists pd₁ pd₂) (tuple : Tuple)
    (d : PdConn) (domainopen : Bool) :
    verdictWith pd₁ tuple d domainopen = verdictWith pd₂ tuple d domainopen := by
  have hasks : asksHost pd₁ d = asksHost pd₂ d := by rw [asksHost, asksHost, h.bl]
  have hinfo : refusesInfo pd₁ d = refusesInfo pd₂ d := by
    simp only [refusesInfo, refusesHost, hasks, h.bl, h.whitelist]
  have haddr : ∀ b, refusesAddress pd₁ tuple d b = refusesAddress pd₂ tuple d b := by
    intro b
    simp only [refusesAddress, addressAllowed, h.bl, h.whitelist]
  have hfw : firewallRefuses pd₁ tuple d = firewallRefuses pd₂ tuple d := by
    simp only [firewallRefuses, h.enabled, h.fwBl]
  have hmode : whitelistModeBlocks pd₁ tuple d = whitelistModeBlocks pd₂ tuple d := by
    simp only [whitelistModeBlocks, h.enabled, h.wlEnabled, h.wl]
  rw [verdictWith, verdictWith, hasks, hinfo, hfw, hmode, h.enabled, h.fwBl, haddr]

/-- The undecided connection, with its id left open. -/
theorem freshConn_congr {pd₁ pd₂ : Pcapdroid} (h : SameSetup pd₁ pd₂) (tuple : Tuple)
    (uid : Int) : freshConn pd₁ tuple uid =
      { freshConn pd₂ tuple uid with incrId := pd₁.newConnId } := by
  simp only [freshConn, h.whitelist, h.cache]

theorem verdict_eq (pd : Pcapdroid) (tuple : Tuple) (uid : Int) :
    verdict pd tuple uid = verdictWith pd tuple (freshConn pd tuple uid) pd.gate.domainopen := by
  obtain ⟨missed, hdata⟩ := resolvedNew_data pd tuple uid
  obtain ⟨conns, delay, he⟩ := resolvedNew_frame pd tuple uid
  simp only [verdict, pdNewConnection_data, openVerdict_eq, hdata, he]
  rfl

theorem asksHost_freshConn (pd : Pcapdroid) (tuple : Tuple) (uid : Int) :
    asksHost pd (freshConn pd tuple uid) =
      (pd.malwareDetection.bl.isSome && !listedUid pd.malwareDetection.whitelist uid) := by
  simp only [asksHost, freshConn, PdConn.calloc, Bool.false_or]

/-- Only a connection that reads `domainopen` is decided by it, and it always is. -/
theorem verdictWith_eq_iff (pd : Pcapdroid) (tuple : Tuple) (uid : Int) (a b : Bool) :
    verdictWith pd tuple (freshConn pd tuple uid) a =
        verdictWith pd tuple (freshConn pd tuple uid) b ↔
      (readsDomainopen pd tuple uid = true → a = b) := by
  have happ : (freshConn pd tuple uid).whitelistedApp =
    listedUid pd.malwareDetection.whitelist uid := rfl
  have hhost : (freshConn pd tuple uid).hasHost = hasCachedHost pd tuple := rfl
  have hasks := asksHost_freshConn pd tuple uid
  constructor
  · intro h hreads
    have hip := congrArg (fun v => v.2.1) h
    simp only [readsDomainopen, Bool.and_eq_true, Bool.not_eq_true'] at hreads
    obtain ⟨⟨⟨hbl, huid⟩, hcached⟩, haddr⟩ := hreads
    simp only [verdictWith, refusesAddress, hbl, happ, huid, haddr, hhost, hcached] at hip
    simpa using hip
  · intro h
    cases hreads : readsDomainopen pd tuple uid with
    | true => rw [h hreads]
    | false =>
      -- Either no address is refused at all, or the host check has set `domainopen` anew.
      have hsame : ∀ c, refusesAddress pd tuple (freshConn pd tuple uid)
          (if asksHost pd (freshConn pd tuple uid) && (freshConn pd tuple uid).hasHost then
            !refusesInfo pd (freshConn pd tuple uid) else c) =
          refusesAddress pd tuple (freshConn pd tuple uid)
          (if asksHost pd (freshConn pd tuple uid) && (freshConn pd tuple uid).hasHost then
            !refusesInfo pd (freshConn pd tuple uid) else b) := by
        intro c
        cases hask : asksHost pd (freshConn pd tuple uid) with
        | false =>
          have hnone : ∀ x, refusesAddress pd tuple (freshConn pd tuple uid) x = false := by
            intro x
            rw [refusesAddress, happ, ← hasks, hask, Bool.false_and, Bool.false_and]
          rw [hnone, hnone]
        | true =>
          rw [readsDomainopen, ← hasks, hask, Bool.true_and, Bool.and_eq_false_iff,
            Bool.not_eq_false', Bool.not_eq_false'] at hreads
          rcases hreads with hcached | haddr
          · rw [hhost, hcached]
            rfl
          · simp only [refusesAddress, haddr, Bool.not_true, Bool.and_false, Bool.false_and]
      simp only [verdictWith, hsame a]

/-! ## What a history does to the two flags

Along a history connections are opened with a host from the cache, the allow-list is asked about
hosts, and addresses are checked. Nothing else touches the flags. -/

inductive Check
  | cachedHost
  | allowedHost
  | refusedHost
  | address
deriving DecidableEq, Repr

/-- The flags after a check. -/
def Check.apply (gate : Gate) : Check → Gate
  | .cachedHost => { gate with thischeck := true }
  | .allowedHost => ⟨gate.thischeck, false⟩
  | .refusedHost | .address => { gate with domainopen := false }

/-- The allow-list is asked about the host of the connection, if it has one. -/
def hostChecks (pd : Pcapdroid) (data : PdConn) : List Check :=
  if asksHost pd data && data.hasHost then
    [if refusesInfo pd data then .refusedHost else .allowedHost]
  else []

/-- A host found in the flow is asked about where it replaces a missing or cached one. -/
def infoChecks (pd : Pcapdroid) (data : PdConn) : List Check :=
  match foundInfo data with
  | some host =>
    if data.info.isNone || data.infoFromLru then
      hostChecks pd { data with info := some (host.take 256), infoFromLru := false }
    else []
  | none => []

/-- The end of the dissection. -/
def giveupChecks (pd : Pcapdroid) (guess : L7Proto) (data : PdConn) : List Check :=
  if data.ndpiFlow.isNone then []
  else infoChecks pd (if data.l7proto = .unknown then { data with l7proto := guess } else data)

/-- A packet of a connection that is still dissected. -/
def packetChecks (pd : Pcapdroid) (pkt : Packet) (dpi : DpiResult) (data : PdConn) : List Check :=
  if data.ndpiFlow.isSome && (!pkt.isFragment || pkt.isFirstFragment) then
    let data := { data with l7proto := dpi.l7proto, ndpiFlow := some ⟨dpi.hostServerName⟩ }
    if data.sentPkts + data.rcvdPkts + 1 ≥ maxDpiPackets ||
        (data.l7proto != .unknown && !dpi.extraDissection) then giveupChecks pd dpi.guess data
    else infoChecks pd data
  else []

/-- A new connection: its host, where the cache has one, and its address. -/
def openChecks (pd : Pcapdroid) (tuple : Tuple) (uid : Int) : List Check :=
  (if (freshConn pd tuple uid).info.isSome then
      .cachedHost :: hostChecks pd (freshConn pd tuple uid) else []) ++
    if pd.malwareDetection.bl.isSome && !listedUid pd.malwareDetection.whitelist uid then
      [.address] else []

/-- A packet from the network. -/
def ingressChecks (pd : Pcapdroid) (id : Nat) (i : Ingress) : List Check :=
  match pd.conn? id with
  | none => []
  | some c =>
    if !pd.running || c.status.isClosed then []
    else packetChecks ((accountForwarded pd c.data).1.atTime i.ms) i.pkt i.dpi
      (accountForwarded pd c.data).2

def ingressesChecks (id : Nat) : Pcapdroid → List Ingress → List Check
  | _, [] => []
  | pd, i :: is => ingressChecks pd id i ++ ingressesChecks id (remote2vpn pd id i).1 is

/-- The connection of a query for which a reply is spoofed is closed. -/
def spoofChecks (pd : Pcapdroid) (c : Conn) (guess : L7Proto) : List Check :=
  if egressBlocked pd c.data && c.data.l7proto == .dns && c.tuple.ipproto == .udp then
    giveupChecks pd guess c.data
  else []

def firstChecks (pd : Pcapdroid) (c : Conn) (p : TunPacket) : List Check :=
  if c.data.sentPkts = 0 then
    spoofChecks (dnsAllowed pd c p.pkt).1
      { c with data := markInternal c.data (dnsAllowed pd c p.pkt).2 } p.dpi.guess
  else []

/-- The inspection of a packet from the tun. -/
def inspectChecks (pd : Pcapdroid) (c : Conn) (p : TunPacket) : List Check :=
  packetChecks pd p.pkt p.dpi (prepareFirst pd c.tuple c.data) ++
    firstChecks (pdProcessPacket pd p.pkt true p.dpi (prepareFirst pd c.tuple c.data)).1
      { c with data :=
        (pdProcessPacket pd p.pkt true p.dpi (prepareFirst pd c.tuple c.data)).2 } p

/-- A packet that is forwarded may provoke packets from the network. -/
def egressChecks (pd : Pcapdroid) (c : Conn) (p : TunPacket) : List Check :=
  inspectChecks pd c p ++
    let (pd, c) := inspectEgress pd c p
    if egressBlocked pd c.data then []
    else ingressesChecks c.data.incrId (pd.setConn (inFlight c)) p.ingress

/-- A packet from the tun. -/
def tunChecks (pd : Pcapdroid) (p : TunPacket) : List Check :=
  match tunConn pd p with
  | none => []
  | some (pd', c) =>
    (if (pd.lookup p.pkt.tuple).isNone then
        openChecks (pd.atTime p.ms) p.pkt.tuple (resolveUid p.uid) else []) ++
      egressChecks pd' c p

def checks (pd : Pcapdroid) : Event → List Check
  | .tunPacket p => if pd.running then tunChecks pd p else []
  | .netPacket id i => ingressChecks pd id i
  | .connClosed id _ guess => match pd.conn? id with
    | none => []
    | some c => if c.status.isClosed then [] else giveupChecks pd guess c.data
  | _ => []

/-- The checks of a history, in their order. -/
def history : Pcapdroid → List Event → List Check
  | _, [] => []
  | pd, e :: es => checks pd e ++ history (step pd e) es

/-- Of checks, the newest first: since the last allowed host a connection was opened with a
cached one. -/
def pending (gate : Gate) : List Check → Bool
  | [] => gate.thischeck
  | .cachedHost :: _ => true
  | .allowedHost :: _ => false
  | .refusedHost :: cs | .address :: cs => pending gate cs

/-- Of checks, the newest first: but for cached hosts, the last one was of an allowed host, and one
was pending then. -/
def leavesOpen (gate : Gate) : List Check → Bool
  | [] => gate.domainopen
  | .cachedHost :: cs => leavesOpen gate cs
  | .allowedHost :: cs => pending gate cs
  | .refusedHost :: _ | .address :: _ => false

theorem foldr_apply_eq (gate : Gate) (cs : List Check) :
    cs.foldr (fun c g => c.apply g) gate = ⟨leavesOpen gate cs, pending gate cs⟩ := by
  induction cs with
  | nil => rfl
  | cons c cs ih =>
    rw [List.foldr_cons, ih]
    cases c <;> rfl

/-! ## The flags are what the checks make of them -/

section Checks

variable (pd : Pcapdroid)

theorem checkBlacklistedDomain_checks (data : PdConn) :
    (checkBlacklistedDomain pd data).1 = (hostChecks pd data).foldl Check.apply pd.gate := by
  rw [checkBlacklistedDomain_eq]
  unfold gateAfterHost hostChecks
  split
  · cases refusesInfo pd data with
    | true =>
      simp only [Bool.not_true, Bool.and_false, Bool.and_true, if_true, List.foldl_cons,
        List.foldl_nil, Check.apply]
    | false =>
      simp only [Bool.not_false, Bool.and_false, Bool.and_true, Bool.false_eq_true, if_false,
        List.foldl_cons, List.foldl_nil, Check.apply]
  · rfl

theorem processInfo_checks (data : PdConn) :
    (processInfo pd data).1 = (infoChecks pd data).foldl Check.apply pd.gate := by
  unfold processInfo infoChecks
  cases foundInfo data with
  | none => rfl
  | some host =>
    dsimp only
    split
    · exact checkBlacklistedDomain_checks pd _
    · rfl

theorem pdGiveupDpi_checks (tuple : Tuple) (guess : L7Proto) (data : PdConn) :
    (pdGiveupDpi pd tuple guess data).1 =
      (giveupChecks pd guess data).foldl Check.apply pd.gate := by
  unfold pdGiveupDpi giveupChecks
  split
  · rfl
  · exact processInfo_checks pd _

theorem pdProcessPacket_checks (pkt : Packet) (isTx : Bool) (dpi : DpiResult) (data : PdConn) :
    (pdProcessPacket pd pkt isTx dpi data).1.gate =
      (packetChecks pd pkt dpi data).foldl Check.apply pd.gate := by
  unfold pdProcessPacket packetChecks
  split
  · show (dissect pd pkt dpi _).1 = _
    unfold dissect
    dsimp only
    split
    · exact pdGiveupDpi_checks pd _ _ _
    · exact processInfo_checks pd _
  · rfl

theorem checkCachedHost_checks (data : PdConn) : (checkCachedHost pd data).1 =
    (if data.info.isSome then .cachedHost :: hostChecks pd data else []).foldl
      Check.apply pd.gate := by
  unfold checkCachedHost
  split
  · exact checkBlacklistedDomain_checks (pd.withGate { pd.gate with thischeck := true }) data
  · rfl

theorem checkAllowedIp_checks (tuple : Tuple) (data : PdConn) : (checkAllowedIp pd tuple data).1 =
    (if pd.malwareDetection.bl.isSome && !data.whitelistedApp then [.address] else []).foldl
      Check.apply pd.gate := by
  unfold checkAllowedIp
  cases pd.malwareDetection.bl with
  | none => rfl
  | some bl => cases data.whitelistedApp <;> rfl

/-- The checks of a new connection read the lists, which resolving netd queries leaves alone. -/
theorem pdNewConnection_checks (tuple : Tuple) (uid : Int) :
    (pdNewConnection pd tuple uid).1.gate =
      (openChecks pd tuple uid).foldl Check.apply pd.gate := by
  obtain ⟨missed, hdata⟩ := resolvedNew_data pd tuple uid
  obtain ⟨conns, delay, he⟩ := resolvedNew_frame pd tuple uid
  have hhost := checkCachedHost_checks (resolvedNew pd tuple uid).1 (resolvedNew pd tuple uid).2
  have hkept : (checkCachedHost (resolvedNew pd tuple uid).1
      (resolvedNew pd tuple uid).2).2.whitelistedApp =
        listedUid pd.malwareDetection.whitelist uid := by
    rw [checkCachedHost_eq, hdata]
    rfl
  have haddress := checkAllowedIp_checks
    ((resolvedNew pd tuple uid).1.withGate
      (checkCachedHost (resolvedNew pd tuple uid).1 (resolvedNew pd tuple uid).2).1) tuple
    (checkCachedHost (resolvedNew pd tuple uid).1 (resolvedNew pd tuple uid).2).2
  rw [hkept] at haddress
  refine Eq.trans haddress ?_
  rw [Pcapdroid.withGate_gate, hhost, hdata, he, openChecks, List.foldl_append]
  rfl

theorem remote2vpn_checks (id : Nat) (i : Ingress) :
    (remote2vpn pd id i).1.gate = (ingressChecks pd id i).foldl Check.apply pd.gate := by
  unfold remote2vpn ingressChecks
  cases pd.conn? id with
  | none => rfl
  | some c =>
    dsimp only
    split
    · rfl
    · obtain ⟨stats, conns, running, he⟩ :=
        deliver_frame (inspectIngress pd c i).1 (inspectIngress pd c i).2 i.write
      obtain ⟨stats', hacc⟩ := accountForwarded_frame pd c.data
      have hgate : (inspectIngress pd c i).1.gate =
          (packetChecks ((accountForwarded pd c.data).1.atTime i.ms) i.pkt i.dpi
            (accountForwarded pd c.data).2).foldl Check.apply
              ((accountForwarded pd c.data).1.atTime i.ms).gate :=
        pdProcessPacket_checks _ _ _ _ _
      have hsame : ((accountForwarded pd c.data).1.atTime i.ms).gate = pd.gate := by
        rw [hacc]
        rfl
      rw [he, ← hsame]
      exact hgate

theorem remote2vpns_checks (id : Nat) (is : List Ingress) :
    (remote2vpns id pd is).1.gate = (ingressesChecks id pd is).foldl Check.apply pd.gate := by
  induction is generalizing pd with
  | nil => rfl
  | cons i is ih =>
    rw [ingressesChecks, List.foldl_append, ← remote2vpn_checks, ← ih]
    rfl

theorem checkFirst_checks (c : Conn) (p : TunPacket) :
    (checkFirst pd c p).1.gate = (firstChecks pd c p).foldl Check.apply pd.gate := by
  have hdns : (dnsAllowed pd c p.pkt).1.gate = pd.gate := by
    unfold dnsAllowed
    split
    · rfl
    · obtain ⟨vpn, server, requests, he⟩ := checkDnsReqAllowed_frame pd c.tuple p.pkt
      rw [he]
  unfold checkFirst firstChecks
  split
  · rw [← hdns]
    unfold closeSpoofed spoofChecks
    dsimp only
    split
    · exact pdGiveupDpi_checks _ _ _ _
    · rfl
  · rfl

theorem inspectEgress_checks (c : Conn) (p : TunPacket) : (inspectEgress pd c p).1.gate =
    (inspectChecks pd c p).foldl Check.apply pd.gate := by
  rw [inspectChecks, List.foldl_append, ← pdProcessPacket_checks pd p.pkt true]
  exact checkFirst_checks _ _ p

theorem decideEgress_checks (c : Conn) (p : TunPacket) : (decideEgress pd c p).1.gate =
    (if egressBlocked pd c.data then []
      else ingressesChecks c.data.incrId (pd.setConn (inFlight c)) p.ingress).foldl
        Check.apply pd.gate := by
  unfold decideEgress
  split
  · rfl
  · obtain ⟨stats, conns, he⟩ := accountForward_frame
      (remote2vpns c.data.incrId (pd.setConn (inFlight c)) p.ingress).1 c.data.incrId p.forwarded
    show (accountForward (remote2vpns c.data.incrId (pd.setConn (inFlight c)) p.ingress).1
      c.data.incrId p.forwarded).gate = _
    rw [he]
    exact remote2vpns_checks (pd.setConn (inFlight c)) c.data.incrId p.ingress

theorem egress_checks (c : Conn) (p : TunPacket) :
    (egress pd c p).1.gate = (egressChecks pd c p).foldl Check.apply pd.gate := by
  rw [egressChecks, List.foldl_append, ← inspectEgress_checks]
  exact decideEgress_checks _ _ p

theorem tunPacket_checks (p : TunPacket) :
    (tunPacket pd p).1.gate = (tunChecks pd p).foldl Check.apply pd.gate := by
  unfold tunPacket tunChecks
  cases hr : tunConn pd p with
  | none => rfl
  | some r =>
    obtain ⟨pd', c⟩ := r
    have hconn : pd'.gate = (if (pd.lookup p.pkt.tuple).isNone then
        openChecks (pd.atTime p.ms) p.pkt.tuple (resolveUid p.uid) else []).foldl
          Check.apply pd.gate := by
      unfold tunConn at hr
      split at hr
      · cases hr
      · cases hlookup : pd.lookup p.pkt.tuple with
        | some c' =>
          rw [hlookup] at hr
          cases hr
          rfl
        | none =>
          rw [hlookup] at hr
          dsimp only at hr
          split at hr
          · cases hr
          · have hnew := pdNewConnection_checks (pd.atTime p.ms) p.pkt.tuple (resolveUid p.uid)
            rw [Option.some.inj hr] at hnew
            exact hnew
    rw [List.foldl_append, ← hconn]
    exact egress_checks pd' c p

theorem closeConn_checks (id : Nat) (status : ConnStatus) (guess : L7Proto) :
    (closeConn pd id status guess).gate =
      (checks pd (.connClosed id status guess)).foldl Check.apply pd.gate := by
  unfold closeConn checks
  dsimp only
  cases pd.conn? id with
  | none => rfl
  | some c =>
    dsimp only
    split
    · rfl
    · exact pdGiveupDpi_checks _ _ _ _

theorem pdHousekeeping_gate : (pdHousekeeping pd).gate = pd.gate := by
  have hreload : (reloadStep pd).gate = pd.gate := by
    unfold reloadStep
    split
    · split
      · rfl
      · rfl
    · split
      · rfl
      · rfl
  have hdump : (dumpOrReload pd).gate = pd.gate := by
    unfold dumpOrReload
    split
    · rfl
    · split
      · rfl
      · split
        · exact hreload
        · rfl
  obtain ⟨fw, conns, tls, he⟩ := pdHousekeeping_frame pd
  obtain ⟨md, conns', he'⟩ := installMalwareWhitelist_frame (dumpOrReload pd)
  rw [he, beforeFirewall, he']
  exact hdump

theorem step_checks (e : Event) :
    (step pd e).gate = (checks pd e).foldl Check.apply pd.gate := by
  cases e with
  | tunPacket p =>
    show (ite _ (tunPacket pd p) (pd, [])).1.gate = List.foldl Check.apply pd.gate (ite _ _ _)
    split
    · exact tunPacket_checks pd p
    · rfl
  | netPacket id i => exact remote2vpn_checks pd id i
  | connClosed id status guess => exact closeConn_checks pd id status guess
  | refreshTime ms => rfl
  | housekeeping => exact pdHousekeeping_gate pd
  | blacklistsLoaded bl =>
    obtain ⟨md, he⟩ := loadNewBlacklists_frame pd bl
    show (loadNewBlacklists pd bl).gate = pd.gate
    rw [he]
  | jni call =>
    obtain ⟨_, _, _, _, _, _, _, _, he⟩ := jniCall_frame pd call
    show (jniCall pd call).gate = pd.gate
    rw [he]

/-- The flags after a history. -/
theorem run_checks (es : List Event) :
    (run step pd es).gate = ⟨leavesOpen pd.gate (history pd es).reverse,
      pending pd.gate (history pd es).reverse⟩ := by
  rw [← foldr_apply_eq, List.foldr_reverse]
  induction es generalizing pd with
  | nil => rfl
  | cons e es ih =>
    rw [history, List.foldl_append, ← step_checks]
    exact ih (step pd e)

end Checks

/-- **The verdict of two histories differs exactly where the connection reads `domainopen` and
only one of them leaves it open.** -/
theorem verdict_eq_iff (s₁ s₂ : Pcapdroid) (es₁ es₂ : List Event)
    (h : SameSetup (run step s₁ es₁) (run step s₂ es₂)) (tuple : Tuple) (uid : Int) :
    verdict (run step s₁ es₁) tuple uid = verdict (run step s₂ es₂) tuple uid ↔
      (readsDomainopen (run step s₁ es₁) tuple uid = true →
        leavesOpen s₁.gate (history s₁ es₁).reverse =
          leavesOpen s₂.gate (history s₂ es₂).reverse) := by
  have hright : verdict (run step s₂ es₂) tuple uid = verdictWith (run step s₁ es₁) tuple
      (freshConn (run step s₁ es₁) tuple uid) (run step s₂ es₂).gate.domainopen := by
    rw [verdict_eq, ← verdictWith_congr h.toSameLists, freshConn_congr h]
    rfl
  rw [hright, verdict_eq, verdictWith_eq_iff, run_checks s₁, run_checks s₂]

/-- With and without the query that leaves `domainopen` set, the same connection to an
address on no list is decided differently. -/
theorem verdict_depends_on_history :
    SameSetup (run step Leak.start (Leak.events.take 8))
        (run step Leak.start (Leak.events.take 6)) ∧
    verdict (run step Leak.start (Leak.events.take 8)) (Leak.tcpTuple (ip4 6 6 6 6) 40003) 2000 ≠
      verdict (run step Leak.start (Leak.events.take 6)) (Leak.tcpTuple (ip4 6 6 6 6) 40003) 2000 :=
  ⟨⟨⟨by decide, by decide, by decide, by decide, by decide, by decide⟩, by decide +kernel⟩,
    by decide +kernel⟩

/-- A listed address is decided alike after both. -/
theorem verdict_eq_on_listed_address :
    verdict (run step Leak.start (Leak.events.take 8)) (Leak.tcpTuple (ip4 8 8 8 8) 40003) 2000 =
      verdict (run step Leak.start (Leak.events.take 6)) (Leak.tcpTuple (ip4 8 8 8 8) 40003) 2000 :=
  (verdict_eq_iff Leak.start Leak.start (Leak.events.take 8) (Leak.events.take 6)
    ⟨⟨by decide, by decide, by decide, by decide, by decide, by decide⟩, by decide +kernel⟩
    (Leak.tcpTuple (ip4 8 8 8 8) 40003) 2000).mpr (by decide +kernel)

end SecureGuard.Native
