import SecureGuard.Native.Dpi

/-! # The life of a connection

`pd_new_connection` decides on a connection before its first packet, `pd_account_stats`
counts its packets, `connection_closed` ends it. Allocation is taken to succeed. -/

namespace SecureGuard.Native

/-! ## Netd queries -/

/-- A query sent by netd for this host. -/
def isNetdOf (host : CStr) (data : PdConn) : Bool :=
  data.uid == uidNetd && data.info == some host

/-- The firewall would have blocked the query, had it come from the app itself. -/
def netdMissed (pd : Pcapdroid) (uid : Int) : Bool :=
  pd.firewall.enabled && pd.firewall.bl.isSome && (listedUid pd.firewall.bl uid ||
    (pd.firewall.wlEnabled && pd.firewall.wl.isSome && !listedUid pd.firewall.wl uid))

/-- One turn of the loop over `new_conns`: a query for the host gets the app's uid. -/
def resolveNetd (pd : Pcapdroid) (host : CStr) (uid : Int) (data : PdConn) : PdConn :=
  if isNetdOf host data then
    { data with
      uid := uid
      netdBlockMissed := data.netdBlockMissed || (!data.toBlock && netdMissed pd uid) }
  else data

/-- The delay when one more query is resolved. -/
def NetdDelay.resolved (d : NetdDelay) : NetdDelay :=
  if 0 < d.netdResolveWaiting then
    { netdResolveWaiting := d.netdResolveWaiting - 1
      nextConnectionsDump :=
        if d.netdResolveWaiting - 1 = 0 then d.nextConnectionsDump - netdResolveDelayMs
        else d.nextConnectionsDump }
  else d

/-- The whole loop over `new_conns`, which by now holds the new connection `data` too. No
turn looks at what another one changed, except for the delay, which is counted down once for
each query. -/
def resolveNetdConns (pd : Pcapdroid) (host : CStr) (data : PdConn) : Pcapdroid × PdConn :=
  let queries := (pd.conns.filter fun c =>
    pd.newConns.contains c.data.incrId && isNetdOf host c.data).length +
      (isNetdOf host data).toNat
  ({ pd with
      conns := pd.conns.map fun c =>
        if pd.newConns.contains c.data.incrId then
          { c with data := resolveNetd pd host data.uid c.data }
        else c
      netdDelay := Nat.repeat NetdDelay.resolved queries pd.netdDelay },
    resolveNetd pd host data.uid data)

/-! ## The verdict on opening -/

section Opening

variable (pd : Pcapdroid) (tuple : Tuple)

/-- The address check of `pd_new_connection`. `domainopen` stands in for it once. -/
def checkAllowedIp (data : PdConn) : Gate × PdConn :=
  match pd.malwareDetection.bl with
  | none => (pd.gate, data)
  | some bl =>
    if data.whitelistedApp then (pd.gate, data)
    else
      ({ pd.gate with domainopen := false },
        if bl.matchIp tuple.dstIp tuple.ipver || pd.gate.domainopen ||
            listedIp pd.malwareDetection.whitelist tuple.dstIp tuple.ipver then data
        else { data with blacklistedIp := true, toBlock := true })

/-- The firewall check of `pd_new_connection`. -/
def checkFirewallOpen (data : PdConn) : PdConn :=
  if pd.firewall.enabled && pd.firewall.bl.isSome && !data.toBlock then
    { data with
      toBlock := listedIp pd.firewall.bl tuple.dstIp tuple.ipver ||
        listedUid pd.firewall.bl data.uid ||
        pd.firewall.bl.any fun bl => bl.matchCountry data.countryCode }
  else data

/-- The host check of `pd_new_connection`, made only where the cache knew a host. -/
def checkCachedHost (data : PdConn) : Gate × PdConn :=
  if data.info.isSome then
    checkBlacklistedDomain (pd.withGate { pd.gate with thischeck := true }) data
  else (pd.gate, data)

/-- The checks of `pd_new_connection`, in their order. -/
def openVerdict (data : PdConn) : Gate × PdConn :=
  let (gate, data) := checkCachedHost pd data
  let (gate, data) := checkAllowedIp (pd.withGate gate) tuple data
  (gate, checkWhitelistModeBlock pd tuple (checkFirewallOpen pd tuple data))

/-- A new connection with its uid and the host the cache has for its destination. -/
def freshConn (uid : Int) : PdConn :=
  { PdConn.calloc with
    incrId := pd.newConnId
    uid := uid
    whitelistedApp := listedUid pd.malwareDetection.whitelist uid
    info := pd.ipToHost.host? tuple.dstIp
    infoFromLru := (pd.ipToHost.host? tuple.dstIp).isSome }

/-- The netd queries a new connection resolves, if it does. -/
def resolveForNew (data : PdConn) : Pcapdroid × PdConn :=
  match data.info with
  | some host => if data.uid = uidUnknown then (pd, data) else resolveNetdConns pd host data
  | none => (pd, data)

/-- The id handed out, the entry in `new_conns` and the cache entry brought to the front. -/
def enqueued : Pcapdroid :=
  { pd with
    newConnId := pd.newConnId + 1
    newConns := pd.newConns ++ [pd.newConnId]
    ipToHost := (pd.ipToHost.find tuple.dstIp).2 }

/-- The engine and the connection at the point where the checks begin. -/
def resolvedNew (uid : Int) : Pcapdroid × PdConn :=
  resolveForNew (enqueued pd tuple) (freshConn pd tuple uid)

/-- `pd_new_connection`, called with the uid from `handle_new_connection`. -/
def pdNewConnection (uid : Int) : Pcapdroid × Conn :=
  let (pd, data) := resolvedNew pd tuple uid
  let (gate, data) := openVerdict pd tuple data
  let c : Conn := { tuple := tuple, status := .new, openedUid := uid, data := data }
  ({ pd with gate := gate, conns := pd.conns ++ [c] }, c)

end Opening

/-! ## Accounting and closing -/

/-- `pd_account_stats`. -/
def pdAccountStats (pd : Pcapdroid) (isTx : Bool) (data : PdConn) : Pcapdroid × PdConn :=
  ({ pd with newStats := true },
    if isTx then { data with sentPkts := data.sentPkts + 1 }
    else { data with rcvdPkts := data.rcvdPkts + 1 })

/-- `connection_closed`, called back by `zdtun_conn_close`. -/
def connectionClosed (pd : Pcapdroid) (status : ConnStatus) (guess : L7Proto) (c : Conn) :
    Pcapdroid × Conn :=
  let (gate, data) := pdGiveupDpi pd c.tuple guess c.data
  (pd.withGate gate, { c with status := status, data := { data with toPurge := true } })

theorem pdNewConnection_data (pd : Pcapdroid) (tuple : Tuple) (uid : Int) :
    (pdNewConnection pd tuple uid).2.data =
      (openVerdict (resolvedNew pd tuple uid).1 tuple (resolvedNew pd tuple uid).2).2 := rfl

/-! ## What resolving netd queries keeps -/

/-- The new connection itself may at most be noted as missed. -/
theorem resolvedNew_data (pd : Pcapdroid) (tuple : Tuple) (uid : Int) :
    ∃ missed, (resolvedNew pd tuple uid).2 =
      { freshConn pd tuple uid with netdBlockMissed := missed } := by
  unfold resolvedNew resolveForNew resolveNetdConns resolveNetd
  repeat' split
  all_goals exact ⟨_, rfl⟩

/-- What resolving changes besides: the uids of queries, and the delay. -/
theorem resolvedNew_frame (pd : Pcapdroid) (tuple : Tuple) (uid : Int) :
    ∃ conns delay, (resolvedNew pd tuple uid).1 =
      { enqueued pd tuple with conns := conns, netdDelay := delay } := by
  unfold resolvedNew resolveForNew resolveNetdConns
  repeat' split
  all_goals exact ⟨_, _, rfl⟩

/-! ## The opening verdict in closed form -/

section ClosedForm

variable (pd : Pcapdroid) (tuple : Tuple) (data : PdConn)

/-- The address is matched by the allow-list or the whitelist. -/
def addressAllowed : Bool :=
  listedIp pd.malwareDetection.bl tuple.dstIp tuple.ipver ||
    listedIp pd.malwareDetection.whitelist tuple.dstIp tuple.ipver

/-- The address is checked, it is on neither list, and `domainopen` does not stand in. -/
def refusesAddress (domainopen : Bool) : Bool :=
  pd.malwareDetection.bl.isSome && !data.whitelistedApp && !addressAllowed pd tuple &&
    !domainopen

/-- The firewall list matches the address, the uid or the country. -/
def firewallRefuses : Bool :=
  pd.firewall.enabled && (listedIp pd.firewall.bl tuple.dstIp tuple.ipver ||
    listedUid pd.firewall.bl data.uid ||
    pd.firewall.bl.any fun bl => bl.matchCountry data.countryCode)

/-- The `domainopen` the address check finds. -/
def seenDomainopen : Bool :=
  if asksHost pd data && data.hasHost then !refusesInfo pd data else pd.gate.domainopen

end ClosedForm

theorem checkAllowedIp_eq (pd : Pcapdroid) (tuple : Tuple) (data : PdConn) :
    (checkAllowedIp pd tuple data).2 = { data with
      blacklistedIp := data.blacklistedIp || refusesAddress pd tuple data pd.gate.domainopen
      toBlock := data.toBlock || refusesAddress pd tuple data pd.gate.domainopen } := by
  unfold checkAllowedIp
  split
  · next hbl => simp [refusesAddress, hbl]
  · next bl hbl =>
    split
    · next happ =>
      have hno : ∀ b, refusesAddress pd tuple data b = false := by simp [refusesAddress, happ]
      simp only [hno, Bool.or_false]
    · next happ =>
      have hbool : ∀ a b c : Bool, (!(a || c) && !b) = !(a || b || c) := by decide
      have hrefuse : refusesAddress pd tuple data pd.gate.domainopen =
          !(bl.matchIp tuple.dstIp tuple.ipver || pd.gate.domainopen ||
            listedIp pd.malwareDetection.whitelist tuple.dstIp tuple.ipver) := by
        rw [← hbool]
        simp [refusesAddress, hbl, addressAllowed, happ]
      rw [hrefuse]
      dsimp only
      split
      · next h => simp only [h, Bool.not_true, Bool.or_false]
      · next h => simp only [(Bool.not_eq_true _).mp h, Bool.not_false, Bool.or_true]

theorem checkFirewallOpen_eq (pd : Pcapdroid) (tuple : Tuple) (data : PdConn) :
    checkFirewallOpen pd tuple data =
      { data with toBlock := data.toBlock || firewallRefuses pd tuple data } := by
  unfold checkFirewallOpen
  split
  · next h =>
    simp only [Bool.and_eq_true, Bool.not_eq_true'] at h
    simp only [h, firewallRefuses, Bool.false_or, Bool.true_and]
  · next h =>
    refine (withToBlock_self ?_).symm
    cases hb : data.toBlock with
    | true => rfl
    | false =>
      cases hbl : pd.firewall.bl with
      | none => simp [firewallRefuses, hbl, listedIp, listedUid]
      | some bl =>
        have hen : pd.firewall.enabled = false := by simpa [hb, hbl] using h
        simp [firewallRefuses, hen]

theorem checkCachedHost_eq (pd : Pcapdroid) (data : PdConn) :
    (checkCachedHost pd data).2 = { data with
      blacklistedDomain := data.blacklistedDomain || refusesInfo pd data
      toBlock := data.toBlock || refusesInfo pd data ||
        (pd.firewall.enabled && listedInfo pd.firewall.bl data.info) } := by
  unfold checkCachedHost
  split
  · rw [checkBlacklistedDomain_eq]
    rfl
  · next h =>
    have hinfo : data.info = none := by simpa using h
    have hno : refusesInfo pd data = false := by simp [refusesInfo, hinfo]
    simp only [hno, hinfo, listedInfo_none, Bool.and_false, Bool.or_false]
    exact hinfo ▸ rfl

theorem checkCachedHost_domainopen (pd : Pcapdroid) (data : PdConn) :
    (checkCachedHost pd data).1.domainopen = seenDomainopen pd data := by
  unfold checkCachedHost
  split
  · rw [checkBlacklistedDomain_eq]
    have hasks : asksHost (pd.withGate { pd.gate with thischeck := true }) data =
      asksHost pd data := rfl
    have hrefuse : refusesInfo (pd.withGate { pd.gate with thischeck := true }) data =
      refusesInfo pd data := rfl
    simp only [gateAfterHost, seenDomainopen, hasks, hrefuse, Pcapdroid.withGate_gate,
      Bool.true_and]
    split <;> rfl
  · next h =>
    have hhost : data.hasHost = false := by
      have hinfo : data.info = none := by simpa using h
      simp [PdConn.hasHost, hinfo]
    simp [seenDomainopen, hhost]

/-- **The verdict on a new connection**: its host, its address, the firewall list and
whitelist mode each may block it, and the first two leave their flag. -/
theorem openVerdict_eq (pd : Pcapdroid) (tuple : Tuple) (data : PdConn) :
    (openVerdict pd tuple data).2 = { data with
      blacklistedDomain := data.blacklistedDomain || refusesInfo pd data
      blacklistedIp := data.blacklistedIp ||
        refusesAddress pd tuple data (seenDomainopen pd data)
      toBlock := data.toBlock || refusesInfo pd data ||
        (pd.firewall.enabled && listedInfo pd.firewall.bl data.info) ||
        refusesAddress pd tuple data (seenDomainopen pd data) ||
        firewallRefuses pd tuple data || whitelistModeBlocks pd tuple data } := by
  have hgate := checkCachedHost_domainopen pd data
  simp only [openVerdict, checkWhitelistModeBlock_eq, checkFirewallOpen_eq, checkAllowedIp_eq,
    checkCachedHost_eq, Pcapdroid.withGate_gate, hgate]
  rfl

theorem openVerdict_info (pd : Pcapdroid) (tuple : Tuple) (data : PdConn) :
    (openVerdict pd tuple data).2.info = data.info := by
  rw [openVerdict_eq]

theorem openVerdict_tightens (pd : Pcapdroid) (tuple : Tuple) (data : PdConn) :
    Tightens data (openVerdict pd tuple data).2 := by
  rw [openVerdict_eq]
  refine ⟨rfl, rfl, rfl, rfl, rfl, rfl, fun hb => by simp [hb], fun hf hf' => ?_⟩
  simp only [PdConn.flagged, Bool.or_eq_true] at hf hf' ⊢
  tauto

/-! ## When `domainopen` is read

The address check asks `domainopen` for every connection it applies to, but the value left by
earlier connections survives until then only where no host of the new one was checked, and
matters only where neither list matches the address. -/

/-- The cache knows a nonempty host for the destination. -/
def hasCachedHost (pd : Pcapdroid) (tuple : Tuple) : Bool :=
  (pd.ipToHost.host? tuple.dstIp).any fun host => !host.isEmpty

/-- A connection opened now is decided by the `domainopen` found. -/
def readsDomainopen (pd : Pcapdroid) (tuple : Tuple) (uid : Int) : Bool :=
  pd.malwareDetection.bl.isSome && !listedUid pd.malwareDetection.whitelist uid &&
    !hasCachedHost pd tuple && !addressAllowed pd tuple

end SecureGuard.Native
