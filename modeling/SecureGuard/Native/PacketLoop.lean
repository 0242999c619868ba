import SecureGuard.Lib.Machine
import SecureGuard.Native.Housekeeping

/-! # The packet loop

`run_vpn` and `remote2vpn`, one event at a time. An event carries what comes from outside:
packets, nDPI's answers, uids, write results, list contents. The loop orders some of its
events (housekeeping follows each packet); here they come in any order, so a statement about
every run covers every run of the loop. -/

namespace SecureGuard.Native

/-! ## Packets handed out -/

inductive Dir
  | egress
  | ingress
  deriving DecidableEq, Repr

/-- A packet that was passed: handed to `zdtun_forward` (egress) or written to the tun by
`remote2vpn` (ingress), with the connection as it stood at that moment. -/
structure Passed where
  dir : Dir
  conn : Conn
  deriving DecidableEq, Repr

/-! ## The NetFree gate -/

/-- `strcmp(data->info, …) == 0` for one of the three exempt hosts. -/
def netfreeExempt (info : Option CStr) : Bool :=
  info.any fun host => host == cstr "netfree.link" ||
    host == cstr "api.internal.netfree.link" || host == cstr "horadah.click"

/-- The condition `run_vpn` writes twice. -/
def egressBlocked (pd : Pcapdroid) (data : PdConn) : Bool :=
  data.toBlock || (!pd.isNetfree && !netfreeExempt data.info)

/-! ## From the network: `remote2vpn` -/

/-- The outcome of `write` on the tun. -/
inductive WriteResult
  | ok
  | noBuffers
  | partialWrite
  | failed
  deriving DecidableEq, Repr

/-- A call of `remote2vpn`. -/
structure Ingress where
  ms : UInt64
  pkt : Packet
  dpi : DpiResult
  write : WriteResult

/-- The egress packet in flight is accounted before the ingress packet it provoked. -/
def accountForwarded (pd : Pcapdroid) (data : PdConn) : Pcapdroid × PdConn :=
  if data.fwPctx then
    let (pd, data) := pdAccountStats pd true data
    (pd, { data with fwPctx := false })
  else (pd, data)

theorem accountForwarded_frame (pd : Pcapdroid) (data : PdConn) :
    ∃ stats, (accountForwarded pd data).1 = { pd with newStats := stats } := by
  unfold accountForwarded
  split
  · exact ⟨_, rfl⟩
  · exact ⟨pd.newStats, rfl⟩

/-- `remote2vpn` after its `write`: only a complete one is accounted, and any error but a
full buffer or a partial write stops the loop. -/
def written (pd : Pcapdroid) (c : Conn) : WriteResult → Pcapdroid
  | .ok =>
    let (pd, data) := pdAccountStats pd false c.data
    pd.setConn { c with data := data }
  | .noBuffers | .partialWrite => pd.setConn c
  | .failed => { pd.setConn c with running := false }

/-- A packet not passed is counted, in either direction. -/
def countBlocked (pd : Pcapdroid) (c : Conn) : Pcapdroid :=
  pd.setConn { c with data := { c.data with blockedPkts := c.data.blockedPkts + 1 } }

/-- What `remote2vpn` does once the packet is inspected: refuse it, or write it. -/
def deliver (pd : Pcapdroid) (c : Conn) (write : WriteResult) : Pcapdroid × List Passed :=
  if c.data.toBlock then (countBlocked pd c, [])
  else (written pd c write, [⟨.ingress, c⟩])

theorem deliver_frame (pd : Pcapdroid) (c : Conn) (write : WriteResult) :
    ∃ stats conns running, (deliver pd c write).1 =
      { pd with newStats := stats, conns := conns, running := running } := by
  unfold deliver
  split
  · exact ⟨pd.newStats, _, pd.running, rfl⟩
  · cases write with
    | ok => exact ⟨_, _, pd.running, rfl⟩
    | noBuffers | partialWrite => exact ⟨pd.newStats, _, pd.running, rfl⟩
    | failed => exact ⟨pd.newStats, _, _, rfl⟩

/-- The inspection of an ingress packet. -/
def inspectIngress (pd : Pcapdroid) (c : Conn) (i : Ingress) : Pcapdroid × Conn :=
  let (pd, data) := accountForwarded pd c.data
  let (pd, data) := pdProcessPacket (pd.atTime i.ms) i.pkt false i.dpi data
  (pd, { c with data := data })

/-- `remote2vpn`, for a connection zdtun has not closed. -/
def remote2vpn (pd : Pcapdroid) (id : Nat) (i : Ingress) : Pcapdroid × List Passed :=
  match pd.conn? id with
  | none => (pd, [])
  | some c =>
    if !pd.running || c.status.isClosed then (pd, [])
    else
      let (pd, c) := inspectIngress pd c i
      deliver pd c i.write

/-- The calls `zdtun_forward` makes before it returns. -/
def remote2vpns (id : Nat) : Pcapdroid → List Ingress → Pcapdroid × List Passed
  | pd, [] => (pd, [])
  | pd, i :: is =>
    let (pd, out) := remote2vpn pd id i
    let (pd, outs) := remote2vpns id pd is
    (pd, out ++ outs)

/-! ## From the tun: `run_vpn` -/

/-- A packet read from the tun, with the uid `get_uid` finds for its connection and what
`zdtun_forward` does with it. -/
structure TunPacket where
  ms : UInt64
  pkt : Packet
  uid : Int
  dpi : DpiResult
  ingress : List Ingress
  forwarded : Bool

/-- `resolve_uid`. -/
def resolveUid (uid : Int) : Int := if 0 ≤ uid then uid else uidUnknown

def isInternalDns (pd : Pcapdroid) (tuple : Tuple) : Bool :=
  pd.vpn.ipv4Enabled && tuple.ipver == .v4 &&
    tuple.dstIp.extractLsb' 96 32 == pd.vpn.ipv4InternalDns

/-- The packets `run_vpn` drops before it looks up their connection. -/
def discarded (pd : Pcapdroid) (pkt : Packet) : Bool :=
  pkt.isFragment || (isInternalDns pd pkt.tuple && pkt.tuple.dstPort == 853) ||
    (pkt.tuple.ipver == .v6 && !pd.vpn.ipv6Enabled) ||
    (pkt.tuple.ipver == .v4 && !pd.vpn.ipv4Enabled)

def isTcpEstablished (pkt : Packet) : Bool :=
  pkt.tuple.ipproto == .tcp && (!pkt.syn || pkt.ack)

/-- `pd_check_port_map`. -/
def pdCheckPortMap (pd : Pcapdroid) (tuple : Tuple) : Bool :=
  pd.portMaps.any fun m => m.ipproto == tuple.ipproto && m.origPort == tuple.dstPort

/-- `should_proxify`. -/
def shouldProxify (pd : Pcapdroid) (tuple : Tuple) (data : PdConn) : Bool :=
  pd.socks5Enabled &&
    (pd.tlsDecryption.list.isNone || matchesDecryptionWhitelist pd tuple data) &&
    tuple.ipproto == .tcp

/-- The branch of `should_proxify` that notes `decryption_ignored`. -/
def ignoresDecryption (pd : Pcapdroid) (tuple : Tuple) (data : PdConn) : Bool :=
  pd.socks5Enabled && pd.tlsDecryption.list.isSome &&
    !matchesDecryptionWhitelist pd tuple data

/-- What precedes the inspection of a connection's first packet. -/
def prepareFirst (pd : Pcapdroid) (tuple : Tuple) (data : PdConn) : PdConn :=
  if data.sentPkts = 0 then
    if pdCheckPortMap pd tuple then { data with portMappingApplied := true }
    else
      { data with
        decryptionIgnored := data.decryptionIgnored || ignoresDecryption pd tuple data
        proxied := data.proxied || shouldProxify pd tuple data }
  else data

def isDnsServer (pd : Pcapdroid) (tuple : Tuple) : Bool :=
  isInternalDns pd tuple ||
    (pd.vpn.ipv6Enabled && tuple.ipver == .v6 && tuple.dstIp == pd.vpn.ipv6DnsServer) ||
    pd.vpn.knownDnsServers.matchIp tuple.dstIp tuple.ipver

/-- A UDP packet to port 53 long enough for a DNS header. -/
def hasDnsHeader (pkt : Packet) (tuple : Tuple) : Bool :=
  tuple.ipproto == .udp && tuple.dstPort == 53 && dnsHeaderLen ≤ pkt.l7Len

/-- A DNS server announced by the Java side is used from the next check on. -/
def useNewDnsServer (pd : Pcapdroid) : Pcapdroid :=
  if pd.newDnsServer ≠ 0 then
    { pd with vpn := { pd.vpn with ipv4DnsServer := pd.newDnsServer }, newDnsServer := 0 }
  else pd

/-- The DNS flags say response. They are tested as the host loads them, so the bit read is
the top one of the second byte. -/
def isDnsResponse (pkt : Packet) : Bool := 0x8000 ≤ le16 pkt.l7 2

/-- `check_dns_req_allowed`. -/
def checkDnsReqAllowed (pd : Pcapdroid) (tuple : Tuple) (pkt : Packet) : Pcapdroid × Bool :=
  let pd := useNewDnsServer pd
  if tuple.ipproto = .icmp || !isDnsServer pd tuple then (pd, true)
  else if hasDnsHeader pkt tuple then
    ({ pd with numDnsRequests := pd.numDnsRequests + (!isDnsResponse pkt).toNat }, true)
  else (pd, !pd.blockPrivateDns)

/-- What the DNS check changes besides its answer. -/
theorem checkDnsReqAllowed_frame (pd : Pcapdroid) (tuple : Tuple) (pkt : Packet) :
    ∃ vpn server requests, (checkDnsReqAllowed pd tuple pkt).1 =
      { pd with vpn := vpn, newDnsServer := server, numDnsRequests := requests } := by
  have hserver : ∃ vpn server, useNewDnsServer pd =
      { pd with vpn := vpn, newDnsServer := server } := by
    unfold useNewDnsServer
    split
    · exact ⟨_, _, rfl⟩
    · exact ⟨pd.vpn, pd.newDnsServer, rfl⟩
  obtain ⟨vpn, server, he⟩ := hserver
  simp only [checkDnsReqAllowed, he]
  split
  · exact ⟨vpn, server, pd.numDnsRequests, rfl⟩
  · split
    · exact ⟨vpn, server, _, rfl⟩
    · exact ⟨vpn, server, pd.numDnsRequests, rfl⟩

/-- A mapped port is exempt from the DNS check. -/
def dnsAllowed (pd : Pcapdroid) (c : Conn) (pkt : Packet) : Pcapdroid × Bool :=
  if c.data.portMappingApplied then (pd, true) else checkDnsReqAllowed pd c.tuple pkt

/-- `blacklisted_internal |= !allowed; to_block |= blacklisted_internal`. -/
def markInternal (data : PdConn) (allowed : Bool) : PdConn :=
  { data with
    blacklistedInternal := data.blacklistedInternal || !allowed
    toBlock := data.toBlock || (data.blacklistedInternal || !allowed) }

/-- For a DNS query that will not be forwarded a reply is spoofed and the connection
closed. -/
def closeSpoofed (pd : Pcapdroid) (c : Conn) (guess : L7Proto) : Pcapdroid × Conn :=
  if egressBlocked pd c.data && c.data.l7proto == .dns && c.tuple.ipproto == .udp then
    connectionClosed pd .closed guess c
  else (pd, c)

/-- The branch on a connection whose first packet was not forwarded yet. -/
def checkFirst (pd : Pcapdroid) (c : Conn) (p : TunPacket) : Pcapdroid × Conn :=
  if c.data.sentPkts = 0 then
    let (pd, allowed) := dnsAllowed pd c p.pkt
    closeSpoofed pd { c with data := markInternal c.data allowed } p.dpi.guess
  else (pd, c)

/-- It writes the flags of the gate besides what the DNS check changes. -/
theorem checkFirst_frame (pd : Pcapdroid) (c : Conn) (p : TunPacket) :
    ∃ vpn server requests gate, (checkFirst pd c p).1 =
      { pd with vpn := vpn, newDnsServer := server, numDnsRequests := requests, gate := gate } := by
  have hdns : ∃ vpn server requests, (dnsAllowed pd c p.pkt).1 =
      { pd with vpn := vpn, newDnsServer := server, numDnsRequests := requests } := by
    unfold dnsAllowed
    split
    · exact ⟨pd.vpn, pd.newDnsServer, pd.numDnsRequests, rfl⟩
    · exact checkDnsReqAllowed_frame pd c.tuple p.pkt
  obtain ⟨vpn, server, requests, he⟩ := hdns
  unfold checkFirst closeSpoofed
  split
  · simp only [he]
    split
    · exact ⟨vpn, server, requests, _, rfl⟩
    · exact ⟨vpn, server, requests, pd.gate, rfl⟩
  · exact ⟨pd.vpn, pd.newDnsServer, pd.numDnsRequests, pd.gate, rfl⟩

/-- The context of an egress packet nothing came back for is still pending. -/
def accountForward (pd : Pcapdroid) (id : Nat) (forwarded : Bool) : Pcapdroid :=
  match pd.conn? id with
  | none => pd
  | some c =>
    if forwarded then
      let (pd, data) := accountForwarded pd c.data
      pd.setConn { c with data := data }
    else pd

theorem accountForward_frame (pd : Pcapdroid) (id : Nat) (forwarded : Bool) :
    ∃ stats conns, accountForward pd id forwarded =
      { pd with newStats := stats, conns := conns } := by
  unfold accountForward
  split
  · exact ⟨pd.newStats, pd.conns, rfl⟩
  · next c hc =>
    split
    · obtain ⟨stats, he⟩ := accountForwarded_frame pd c.data
      dsimp only
      rw [he]
      exact ⟨stats, _, rfl⟩
    · exact ⟨pd.newStats, pd.conns, rfl⟩

/-- `data->vpn.fw_pctx = &pctx`. -/
def inFlight (c : Conn) : Conn := { c with data := { c.data with fwPctx := true } }

/-- `zdtun_forward` and what follows it. A failed forward closes the connection: the
callbacks of that close come as events of their own. -/
def forward (pd : Pcapdroid) (c : Conn) (p : TunPacket) : Pcapdroid × List Passed :=
  let (pd, outs) := remote2vpns c.data.incrId (pd.setConn (inFlight c)) p.ingress
  (accountForward pd c.data.incrId p.forwarded, ⟨.egress, inFlight c⟩ :: outs)

/-- The decision `run_vpn` ends with. -/
def decideEgress (pd : Pcapdroid) (c : Conn) (p : TunPacket) : Pcapdroid × List Passed :=
  if egressBlocked pd c.data then (countBlocked pd c, []) else forward pd c p

/-- The inspection of an egress packet, with what comes before and after it on a
connection's first packet. -/
def inspectEgress (pd : Pcapdroid) (c : Conn) (p : TunPacket) : Pcapdroid × Conn :=
  let data := prepareFirst pd c.tuple c.data
  let (pd, data) := pdProcessPacket pd p.pkt true p.dpi data
  checkFirst pd { c with data := data } p

/-- `run_vpn` on a packet whose connection is known. -/
def egress (pd : Pcapdroid) (c : Conn) (p : TunPacket) : Pcapdroid × List Passed :=
  let (pd, c) := inspectEgress pd c p
  decideEgress pd c p

/-- The connection of a packet from the tun: looked up, or opened, or none. -/
def tunConn (pd : Pcapdroid) (p : TunPacket) : Option (Pcapdroid × Conn) :=
  if discarded pd p.pkt then none
  else
    match pd.lookup p.pkt.tuple with
    | some c => some (pd.atTime p.ms, c)
    | none =>
      if isTcpEstablished p.pkt then none
      else some (pdNewConnection (pd.atTime p.ms) p.pkt.tuple (resolveUid p.uid))

/-- `run_vpn` on one packet from the tun. -/
def tunPacket (pd : Pcapdroid) (p : TunPacket) : Pcapdroid × List Passed :=
  match tunConn pd p with
  | none => (pd.atTime p.ms, [])
  | some (pd, c) => egress pd c p

/-! ## The machine -/

inductive Event
  | tunPacket (p : TunPacket)
  | netPacket (id : Nat) (i : Ingress)
  | connClosed (id : Nat) (status : ConnStatus) (guess : L7Proto)
  | refreshTime (ms : UInt64)
  | housekeeping
  | blacklistsLoaded (bl : Option Blacklist)
  | jni (call : JniCall)

/-- `zdtun_conn_close`: nothing happens to a connection already closed. -/
def closeConn (pd : Pcapdroid) (id : Nat) (status : ConnStatus) (guess : L7Proto) :
    Pcapdroid :=
  match pd.conn? id with
  | none => pd
  | some c =>
    if c.status.isClosed then pd
    else
      let (pd, c) := connectionClosed pd (if status.isClosed then status else .closed) guess c
      pd.setConn c

/-- One event: the next state and the packets passed. -/
def react (pd : Pcapdroid) : Event → Pcapdroid × List Passed
  | .tunPacket p => if pd.running then tunPacket pd p else (pd, [])
  | .netPacket id i => remote2vpn pd id i
  | .connClosed id status guess => (closeConn pd id status guess, [])
  | .refreshTime ms => (pd.atTime ms, [])
  | .housekeeping => (pdHousekeeping pd, [])
  | .blacklistsLoaded bl => (loadNewBlacklists pd bl, [])
  | .jni call => (jniCall pd call, [])

def step (pd : Pcapdroid) (e : Event) : Pcapdroid := (react pd e).1

/-- The preferences `runPacketLoop` and `run_vpn` read once, and the file-level globals, which
keep their values from one capture to the next. -/
structure Prefs where
  vpnCapture : Bool
  socks5Enabled : Bool
  vpn : Vpn
  malwareDetectionEnabled : Bool
  firewallEnabled : Bool
  tlsDecryptionEnabled : Bool
  portMaps : List PortMap
  gate : Gate
  isNetfree : Bool
  blockPrivateDns : Bool
  dumpCaptureStatsNow : Bool

/-- The state in which `pd_run` enters the loop, `bl` being what it loaded before. -/
def pdRun (prefs : Prefs) (bl : Option Blacklist) (nowMs : UInt64) : Pcapdroid where
  newConnId := 0
  nowMs := nowMs
  ipToHost := IpLru.init 256
  conns := []
  newConns := []
  vpnCapture := prefs.vpnCapture
  socks5Enabled := prefs.socks5Enabled
  vpn := prefs.vpn
  portMaps := prefs.portMaps
  malwareDetection :=
    { enabled := prefs.malwareDetectionEnabled, bl := bl, whitelist := none,
      reloadInProgress := false, reloadDone := false, newBl := none, newWl := none }
  firewall :=
    { enabled := prefs.firewallEnabled, bl := none, newBl := none, wlEnabled := false,
      wl := none, newWl := none }
  tlsDecryption := { enabled := prefs.tlsDecryptionEnabled, list := none, newList := none }
  newStats := false
  lastUpdateMs := 0
  numDnsRequests := 0
  gate := prefs.gate
  netdDelay := { netdResolveWaiting := 0, nextConnectionsDump := nowMs + 500 }
  isNetfree := prefs.isNetfree
  running := true
  blockPrivateDns := prefs.blockPrivateDns
  dumpCaptureStatsNow := prefs.dumpCaptureStatsNow
  reloadBlacklistsNow := false
  newDnsServer := 0

/-- What an event passes. -/
def passes (pd : Pcapdroid) (e : Event) : List Passed := (react pd e).2

end SecureGuard.Native
