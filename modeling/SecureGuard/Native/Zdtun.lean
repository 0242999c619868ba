import SecureGuard.Native.PacketLoop

/-! # The connections of zdtun

What zdtun keeps of a connection and every path of the packet loop on which it is forwarded,
answered, closed or destroyed. What the sockets and the tun do is given with each event. The
sequence numbers, windows and addresses that go into the packets are left out: where a branch
depends on them, the event says which way it goes. -/

namespace SecureGuard.Native

/-! ## Connections -/

inductive Socks5Status
  | hello
  | auth
  | connecting
  | skipBnd
  | established
deriving DecidableEq, Repr

/-- `zdtun_conn_t` with the mark of its `pd_conn_t`. Noted besides: that the entry is destroyed,
and how often `connection_closed` was called. -/
structure ZdtunConn where
  tuple : Tuple
  status : ConnStatus
  sockOpen : Bool
  proxySocks5 : Bool
  socks5Status : Socks5Status
  socks5Skip : Nat
  txQueue : List Nat
  finAckSent : Bool
  clientClosed : Bool
  pendingQueries : UInt8
  toPurge : Bool
  destroyed : Bool
  closedCalls : Nat
deriving DecidableEq, Repr

/-- A connection as `zdtun_lookup` allocates it. -/
def ZdtunConn.calloc (tuple : Tuple) : ZdtunConn :=
  ⟨tuple, .new, false, false, .hello, 0, [], false, false, 0, false, false, 0⟩

def ZdtunConn.isTcp (c : ZdtunConn) : Bool := c.tuple.ipproto == .tcp

/-- `socks5_in_progress`. -/
def ZdtunConn.socks5InProgress (c : ZdtunConn) : Bool :=
  c.proxySocks5 && c.socks5Status != .established

/-! ## What comes from outside -/

/-- What `remote2vpn` does with a packet while the loop runs: refuse it for `to_block`, or
write it. -/
structure Send where
  blocked : Bool
  write : WriteResult
deriving DecidableEq, Repr

/-- `socket_errno`, as far as it is told apart. -/
inductive SocketErrno
  | conReset
  | brokenPipe
  | conRefused
  | conAborted
  | netUnreachable
  | hostUnreachable
  | other
deriving DecidableEq, Repr

inductive Connect
  | done
  | inProgress
  | error (errno : SocketErrno)
deriving DecidableEq, Repr

/-- `bind_and_connect_udp`: a bind address that cannot be made, or a call that fails. -/
inductive UdpSetup
  | done
  | noBindAddr
  | error (errno : SocketErrno)
deriving DecidableEq, Repr

inductive QueuedSend
  | sent (n : Nat)
  | wouldBlock
  | error (errno : SocketErrno)
deriving DecidableEq, Repr

/-- The answers to the calls of one event: `open_socket`, `connect`, the setup of an UDP socket,
`send` (an error, if any), the sends of queued data, `calloc`, and what becomes of a packet for
the client and of the RST of a close. -/
structure Answers where
  opened : Bool
  connect : Connect
  udpSetup : UdpSetup
  send : Option SocketErrno
  queued : List QueuedSend
  alloc : Bool
  socks5User : Bool
  reply : Send
  rst : Send
deriving DecidableEq, Repr

/-- A packet from the tun. `keepAlive` and `inSequence` stand for the comparisons of its sequence
number, `dnsRequest` for `check_dns_request`; `proxify`, `blocked` and `spoofed` are what
`run_vpn` decides on it. -/
structure Segment where
  tuple : Tuple
  syn : Bool
  ack : Bool
  fin : Bool
  rst : Bool
  urg : Bool
  keepAlive : Bool
  inSequence : Bool
  l7Len : Nat
  dnsRequest : Bool
  accepted : Bool
  proxify : Bool
  blocked : Bool
  spoofed : Bool
deriving DecidableEq, Repr

/-- What `recv` gives, and what the packet says: the TCP window is too small for it, it is a DNS
response, it is too short for ICMP or of a type that is not supported. -/
inductive Recv
  | error (errno : SocketErrno)
  | data (bytes : List UInt8) (windowFull dnsResponse tooSmall unsupported : Bool)
deriving DecidableEq, Repr

/-- What `getsockopt` says of an asynchronous connect. -/
inductive AsyncConnect
  | failed
  | connected
  | error (errno : SocketErrno)
deriving DecidableEq, Repr

/-! ## Closing -/

/-- The connection at work and the flag `running`. -/
structure Turn where
  running : Bool
  conn : ZdtunConn
deriving DecidableEq, Repr

/-- `remote2vpn`: the flag, and whether it returns 0. -/
def sendClient (running : Bool) (s : Send) : Bool × Bool :=
  if !running then (false, true)
  else if s.blocked then (true, false)
  else
    match s.write with
    | .ok => (true, true)
    | .noBuffers | .partialWrite => (true, false)
    | .failed => (false, false)

namespace Turn

def withConn (t : Turn) (c : ZdtunConn) : Turn := { t with conn := c }

/-- `update_conn_status`, the callback `account_packet`. -/
def updateConnStatus (t : Turn) : Turn :=
  t.withConn { t.conn with toPurge := t.conn.toPurge || t.conn.status.isClosed }

def closeSocket (t : Turn) : Turn := t.withConn { t.conn with sockOpen := false }

/-- The end of `zdtun_conn_close`, with `connection_closed` called back. -/
def connectionClosed (t : Turn) (status : ConnStatus) : Turn :=
  t.withConn { t.conn with
    txQueue := []
    status := if status.isClosed then status else .closed
    toPurge := true
    closedCalls := t.conn.closedCalls + 1 }

/-- `zdtun_conn_close` where no RST is sent. -/
def closeSilently (t : Turn) (status : ConnStatus) : Turn :=
  if t.conn.status.isClosed then t else t.closeSocket.connectionClosed status

/-- A packet that the client does not get closes the connection. `fin_ack_sent` keeps the close
from sending in turn. -/
def sendFailed (t : Turn) : Turn :=
  (t.withConn { t.conn with finAckSent := t.conn.finAckSent || t.conn.isTcp }).closeSilently
    .clientError

/-- `send_to_client` with a well-formed packet; the result says whether it returns 0. -/
def sendToClient (t : Turn) (s : Send) : Turn × Bool :=
  let (running, ok) := sendClient t.running s
  if ok then (updateConnStatus ⟨running, t.conn⟩, true)
  else (sendFailed ⟨running, t.conn⟩, false)

/-- `zdtun_conn_close`. The RST goes out before the status is set. -/
def zdtunConnClose (t : Turn) (status : ConnStatus) (rst : Send) : Turn :=
  if t.conn.status.isClosed then t
  else
    let t := t.closeSocket
    let t := if t.conn.isTcp && !t.conn.finAckSent then (t.sendToClient rst).1 else t
    t.connectionClosed status

end Turn

/-- The status `close_with_socket_error` closes with. -/
def SocketErrno.status : SocketErrno → ConnStatus
  | .conReset => .reset
  | .netUnreachable | .hostUnreachable => .unreachable
  | .brokenPipe | .conRefused | .conAborted | .other => .socketError

/-- `close_with_socket_error` returns 0. -/
def SocketErrno.serverSide : SocketErrno → Bool
  | .conReset | .brokenPipe | .conRefused | .conAborted => true
  | .netUnreachable | .hostUnreachable | .other => false

namespace Turn

def closeWithSocketError (t : Turn) (errno : SocketErrno) (rst : Send) : Turn × Bool :=
  (t.zdtunConnClose errno.status rst, errno.serverSide)

/-! ## SOCKS5 -/

/-- `socks5_connect`, `socks5_auth` and `socks5_req`: a request, then the status to come. -/
def socks5Send (t : Turn) (next : Socks5Status) (a : Answers) : Turn × Bool :=
  match a.send with
  | some errno => t.closeWithSocketError errno a.rst
  | none => (t.withConn { t.conn with socks5Status := next }, true)

def socks5Connect (t : Turn) (a : Answers) : Turn × Bool := t.socks5Send .hello a

def socks5Auth (t : Turn) (a : Answers) : Turn × Bool := t.socks5Send .auth a

def socks5Req (t : Turn) (a : Answers) : Turn × Bool := t.socks5Send .connecting a

def socks5Refuse (t : Turn) (a : Answers) : Turn × Bool :=
  (t.zdtunConnClose .socks5Error a.rst, false)

/-- The bytes of the bound address, which may come in a message of their own. -/
def socks5SkipBnd (t : Turn) (len : Nat) (a : Answers) : Turn × Bool :=
  if len ≤ t.conn.socks5Skip then
    (t.withConn { t.conn with
      socks5Skip := t.conn.socks5Skip - len
      socks5Status := if t.conn.socks5Skip = len then .established else t.conn.socks5Status },
      true)
  else t.socks5Refuse a

/-- What a SOCKS5 proxy answers to a request to connect. -/
def socks5Failure (code : UInt8) : ConnStatus × Bool :=
  if code = 3 ∨ code = 4 then (.unreachable, true)
  else if code = 5 then (.socketError, true)
  else (.socks5Error, false)

/-- The length of the bound address and port. -/
def socks5BndLen (addrtype : UInt8) : Nat := (if addrtype = 1 then 4 else 16) + 2

def byteAt (data : List UInt8) (i : Nat) : UInt8 := data.getD i 0

/-- `handle_socks5_reply`. -/
def handleSocks5Reply (t : Turn) (data : List UInt8) (a : Answers) : Turn × Bool :=
  match t.conn.socks5Status with
  | .hello =>
    if data.length != 2 || byteAt data 0 != 5 then t.socks5Refuse a
    else if byteAt data 1 != 0 then
      if byteAt data 1 == 2 && a.socks5User then t.socks5Auth a else t.socks5Refuse a
    else t.socks5Req a
  | .auth =>
    if data.length < 2 || byteAt data 0 != 1 || byteAt data 1 != 0 then t.socks5Refuse a
    else t.socks5Req a
  | .connecting =>
    if data.length < 4 || byteAt data 0 != 5 then t.socks5Refuse a
    else if byteAt data 1 != 0 then
      (t.zdtunConnClose (socks5Failure (byteAt data 1)).1 a.rst, (socks5Failure (byteAt data 1)).2)
    else if byteAt data 3 != 1 && byteAt data 3 != 4 then t.socks5Refuse a
    else
      let t := t.withConn { t.conn with
        socks5Skip := socks5BndLen (byteAt data 3), socks5Status := .skipBnd }
      if 4 < data.length then t.socks5SkipBnd (data.length - 4) a else (t, true)
  | .skipBnd => t.socks5SkipBnd data.length a
  | .established => t.socks5Refuse a

/-! ## From the tun -/

/-- `tcp_socket_syn`. -/
def tcpSocketSyn (t : Turn) (a : Answers) : Turn × Bool :=
  let t := t.withConn { t.conn with status := .connected }
  if t.conn.proxySocks5 then t.socks5Connect a else t.sendToClient a.reply

/-- The branch of `handle_tcp_fwd` on a new connection. -/
def openTcp (t : Turn) (a : Answers) : Turn × Bool :=
  if !a.opened then (t.withConn { t.conn with status := .socketError }, false)
  else
    let t := (t.withConn { t.conn with sockOpen := true }).updateConnStatus
    match a.connect with
    | .error errno => ((t.closeWithSocketError errno a.rst).1, true)
    | .done => t.tcpSocketSyn a
    | .inProgress => (t.withConn { t.conn with status := .connecting }, true)

/-- `enqueue_tcp_data`. -/
def enqueueTcpData (t : Turn) (len : Nat) (a : Answers) : Turn × Bool :=
  if !a.alloc then (t.zdtunConnClose .error a.rst, false)
  else (t.withConn { t.conn with txQueue := t.conn.txQueue ++ [len] }, true)

/-- The payload of a packet: queued, or only acknowledged once the server has closed. -/
def tcpPayload (t : Turn) (pkt : Segment) (a : Answers) : Turn × Bool :=
  if pkt.l7Len = 0 then (t, true)
  else if t.conn.sockOpen then t.enqueueTcpData pkt.l7Len a
  else t.sendToClient a.reply

/-- The branch of `handle_tcp_fwd` on an active connection. -/
def forwardActive (t : Turn) (pkt : Segment) (a : Answers) : Turn × Bool :=
  let t := t.updateConnStatus
  if !pkt.keepAlive && !pkt.inSequence then (t, true)
  else if t.conn.socks5InProgress then t.socks5Refuse a
  else if pkt.rst then (t.zdtunConnClose .closed a.rst, true)
  else if pkt.fin && pkt.ack then
    let (t, ok) := (t.withConn { t.conn with clientClosed := true }).sendToClient a.reply
    (if t.conn.sockOpen then t else t.zdtunConnClose .closed a.rst, ok)
  else if pkt.ack && t.conn.sockOpen && pkt.keepAlive then
    let (t, ok) := t.sendToClient a.reply
    if ok then t.tcpPayload pkt a else (t, false)
  else t.tcpPayload pkt a

/-- `handle_tcp_fwd`. -/
def handleTcpFwd (t : Turn) (pkt : Segment) (a : Answers) : Turn × Bool :=
  if pkt.urg then (t.zdtunConnClose .error a.rst, false)
  else if t.conn.status = .connecting then (t, true)
  else if t.conn.status = .new then t.openTcp a
  else t.forwardActive pkt a

/-- `handle_udp_fwd` once the socket is set up. -/
def sendUdp (t : Turn) (pkt : Segment) (a : Answers) : Turn × Bool :=
  let t := t.updateConnStatus
  if t.conn.proxySocks5 then t.socks5Connect a
  else
    match a.send with
    | some errno => ((t.closeWithSocketError errno a.rst).1, true)
    | none =>
      (t.withConn { t.conn with
        pendingQueries := t.conn.pendingQueries + (if pkt.dnsRequest then 1 else 0) }, true)

/-- `handle_udp_fwd`. A socket that cannot be opened leaves the connection new. -/
def handleUdpFwd (t : Turn) (pkt : Segment) (a : Answers) : Turn × Bool :=
  if t.conn.status = .new then
    if !a.opened then (t, false)
    else
      let t := t.withConn { t.conn with sockOpen := true }
      match a.udpSetup with
      | .noBindAddr => (t.zdtunConnClose .error a.rst, false)
      | .error errno => ((t.closeWithSocketError errno a.rst).1, false)
      | .done => (t.withConn { t.conn with status := .connected }).sendUdp pkt a
  else t.sendUdp pkt a

/-- `handle_icmp_fwd` once the socket is open. -/
def sendIcmp (t : Turn) (a : Answers) : Turn × Bool :=
  let t := t.updateConnStatus
  match a.send with
  | some errno => ((t.closeWithSocketError errno a.rst).1, false)
  | none => (t, true)

/-- `handle_icmp_fwd`. -/
def handleIcmpFwd (t : Turn) (a : Answers) : Turn × Bool :=
  if t.conn.status = .new then
    if !a.opened then (t.withConn { t.conn with status := .socketError }, false)
    else (t.withConn { t.conn with sockOpen := true, status := .connected }).sendIcmp a
  else t.sendIcmp a

/-- `zdtun_forward`. -/
def zdtunForward (t : Turn) (pkt : Segment) (a : Answers) : Turn × Bool :=
  if t.conn.status.isClosed then (t, true)
  else
    match t.conn.tuple.ipproto with
    | .tcp => t.handleTcpFwd pkt a
    | .udp => t.handleUdpFwd pkt a
    | .icmp => t.handleIcmpFwd a

/-- `zdtun_conn_proxy`, where `run_vpn` calls it. -/
def zdtunConnProxy (t : Turn) (pkt : Segment) : Turn :=
  t.withConn { t.conn with proxySocks5 := t.conn.proxySocks5 || pkt.proxify }

/-- `run_vpn` on a packet whose connection is known. -/
def forward (t : Turn) (pkt : Segment) (a : Answers) : Turn :=
  let t := t.zdtunConnProxy pkt
  if pkt.blocked then
    if pkt.spoofed && t.conn.tuple.ipproto == .udp then t.zdtunConnClose .closed a.rst else t
  else
    let (t, ok) := t.zdtunForward pkt a
    if ok then t else t.zdtunConnClose .error a.rst

/-! ## From the sockets -/

/-- The server has closed its side. -/
def serverClosed (t : Turn) (a : Answers) : Turn :=
  let t :=
    if t.conn.finAckSent then t
    else
      let t := (t.sendToClient a.reply).1
      t.withConn { t.conn with finAckSent := true }
  let t := t.closeSocket
  if t.conn.clientClosed then t.zdtunConnClose .closed a.rst else t

/-- `handle_tcp_reply`. -/
def handleTcpReply (t : Turn) (r : Recv) (a : Answers) : Turn :=
  match r with
  | .error errno => (t.closeWithSocketError errno a.rst).1
  | .data bytes windowFull _ _ _ =>
    if bytes = [] then t.serverClosed a
    else if t.conn.socks5InProgress then
      let (t, ok) := t.handleSocks5Reply bytes a
      if ok && t.conn.socks5Status == .established then (t.sendToClient a.reply).1 else t
    else if windowFull then t.zdtunConnClose .error a.rst
    else (t.sendToClient a.reply).1

/-- `check_dns_purge`. -/
def checkDnsPurge (t : Turn) (dnsResponse : Bool) (rst : Send) : Turn :=
  if dnsResponse && t.conn.pendingQueries != 0 then
    let t := t.withConn { t.conn with pendingQueries := t.conn.pendingQueries - 1 }
    if t.conn.pendingQueries = 0 then t.zdtunConnClose .closed rst else t
  else t

/-- `handle_udp_reply`. -/
def handleUdpReply (t : Turn) (r : Recv) (a : Answers) : Turn :=
  match r with
  | .error errno => (t.closeWithSocketError errno a.rst).1
  | .data _ _ dnsResponse _ _ =>
    let (t, ok) := t.sendToClient a.reply
    if ok then t.checkDnsPurge dnsResponse a.rst else t

/-- `handle_icmp_reply`. -/
def handleIcmpReply (t : Turn) (r : Recv) (a : Answers) : Turn :=
  match r with
  | .error errno => (t.closeWithSocketError errno a.rst).1
  | .data _ _ _ tooSmall unsupported =>
    if tooSmall || unsupported then t.zdtunConnClose .error a.rst
    else (t.sendToClient a.reply).1

/-- The loop of `handle_queued_tcp_data`: what is left, what was sent, and an error if any. -/
def sendQueued : List Nat → List QueuedSend → List Nat × Nat × Option SocketErrno
  | item :: queue, .sent n :: answers =>
    if n = item then
      let (left, sent, errno) := sendQueued queue answers
      (left, sent + item, errno)
    else ((item - n) :: queue, n, none)
  | queue, .error errno :: _ => (queue, 0, some errno)
  | queue, _ => (queue, 0, none)

/-- `handle_queued_tcp_data`. -/
def handleQueuedTcpData (t : Turn) (a : Answers) : Turn :=
  let (left, sent, errno) := sendQueued t.conn.txQueue a.queued
  let t := t.withConn { t.conn with txQueue := left }
  match errno with
  | some errno => (t.closeWithSocketError errno a.rst).1
  | none => if 0 < sent then (t.sendToClient a.reply).1 else t

/-- `handle_tcp_connect_async`. -/
def handleTcpConnectAsync (t : Turn) (r : AsyncConnect) (a : Answers) : Turn :=
  match r with
  | .failed => t.zdtunConnClose .socketError a.rst
  | .connected => (t.tcpSocketSyn a).1
  | .error errno => (t.closeWithSocketError errno a.rst).1

/-- `zdtun_handle_fd` on a connection whose socket can be read. -/
def readable (t : Turn) (r : Recv) (a : Answers) : Turn :=
  if !t.conn.sockOpen then t
  else
    match t.conn.tuple.ipproto with
    | .tcp => t.handleTcpReply r a
    | .udp => t.handleUdpReply r a
    | .icmp => t.handleIcmpReply r a

/-- `zdtun_handle_fd` on a connection whose socket can be written. -/
def writable (t : Turn) (r : AsyncConnect) (a : Answers) : Turn :=
  if !t.conn.sockOpen || !t.conn.isTcp then t
  else if t.conn.txQueue ≠ [] then t.handleQueuedTcpData a
  else t.handleTcpConnectAsync r a

/-- `destroy_conn`. -/
def destroyConn (t : Turn) (rst : Send) : Turn :=
  let t := t.zdtunConnClose .closed rst
  t.withConn { t.conn with destroyed := true }

end Turn

/-! ## The machine -/

/-- Every connection that was accepted, in the order in which they were. -/
structure Zdtun where
  running : Bool
  conns : List ZdtunConn
deriving DecidableEq, Repr

/-- The loops over the table come as one event a connection: of `zdtun_handle_fd`, of
`zdtun_purge_expired` whenever it purges, of `zdtun_finalize`. -/
inductive ZdtunEvent
  | tunPacket (pkt : Segment) (a : Answers)
  | readable (i : Nat) (r : Recv) (a : Answers)
  | writable (i : Nat) (r : AsyncConnect) (a : Answers)
  | destroy (i : Nat) (rst : Send)
  | stopPacketLoop
deriving DecidableEq, Repr

namespace Zdtun

def init : Zdtun := ⟨true, []⟩

/-- Work on the connection `i`, while its entry is there. -/
def onConn (zdt : Zdtun) (i : Nat) (work : Turn → Turn) : Zdtun :=
  match zdt.conns[i]? with
  | none => zdt
  | some c =>
    if c.destroyed then zdt
    else ⟨(work ⟨zdt.running, c⟩).running, zdt.conns.set i (work ⟨zdt.running, c⟩).conn⟩

/-- `HASH_FIND`. -/
def find (zdt : Zdtun) (tuple : Tuple) : Option Nat :=
  zdt.conns.findIdx? fun c => !c.destroyed && c.tuple == tuple

/-- The part of `zdtun_lookup` that creates a connection, with `on_connection_open`. -/
def create (zdt : Zdtun) (pkt : Segment) : Zdtun × Option Nat :=
  if (pkt.tuple.ipproto == .tcp && (!pkt.syn || pkt.ack)) || !pkt.accepted then (zdt, none)
  else ({ zdt with conns := zdt.conns ++ [ZdtunConn.calloc pkt.tuple] }, some zdt.conns.length)

/-- `zdtun_lookup`. -/
def zdtunLookup (zdt : Zdtun) (pkt : Segment) (a : Answers) : Zdtun × Option Nat :=
  match zdt.find pkt.tuple with
  | none => zdt.create pkt
  | some i =>
    if zdt.conns[i]?.any fun c => c.status.isClosed then
      (zdt.onConn i fun t => t.destroyConn a.rst).create pkt
    else (zdt, some i)

/-- `run_vpn` on a packet from the tun. -/
def runVpn (zdt : Zdtun) (pkt : Segment) (a : Answers) : Zdtun :=
  match zdt.zdtunLookup pkt a with
  | (zdt, none) => zdt
  | (zdt, some i) => zdt.onConn i fun t => t.forward pkt a

def step (zdt : Zdtun) : ZdtunEvent → Zdtun
  | .tunPacket pkt a => zdt.runVpn pkt a
  | .readable i r a => zdt.onConn i fun t => t.readable r a
  | .writable i r a => zdt.onConn i fun t => t.writable r a
  | .destroy i rst => zdt.onConn i fun t => t.destroyConn rst
  | .stopPacketLoop => { zdt with running := false }

end Zdtun

end SecureGuard.Native
