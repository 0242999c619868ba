import SecureGuard.Lib.Machine
import SecureGuard.Native.SpoofedReply
import SecureGuard.Native.Zdtun

/-! # A TCP connection of zdtun, byte by byte

The TCP paths of zdtun once more, now with what the connections of zdtun leave out: the bytes,
the sequence numbers, the windows, the queue of data for the server and the sets `select` looks
at. A connection splices the client's TCP, which arrives as packets of the tun, and a socket to
the server (or to a SOCKS5 proxy), whose other end sends and closes as it likes.

A shift by a window scale of 32 or more is undefined in C and taken modulo 32 here. -/

namespace SecureGuard.Native

/-! ## Packets -/

structure TcpFlags where
  fin : Bool
  syn : Bool
  rst : Bool
  push : Bool
  ack : Bool
  urg : Bool
deriving DecidableEq, Repr

def thAck : TcpFlags := ⟨false, false, false, false, true, false⟩

def thFinAck : TcpFlags := { thAck with fin := true }

def thSynAck : TcpFlags := { thAck with syn := true }

def thRstAck : TcpFlags := { thAck with rst := true }

/-- A TCP packet from the tun. `mss` and `scale` are what the options say, or the defaults. -/
structure TcpPacket where
  seq : UInt32
  ackNum : UInt32
  win : UInt16
  flags : TcpFlags
  mss : UInt16
  scale : UInt8
  l7 : List UInt8
deriving DecidableEq, Repr

/-- A packet for the client (`build_reply_tcpip`). The options are those of a SYN+ACK. -/
structure ClientSegment where
  seq : UInt32
  ackNum : UInt32
  win : UInt16
  flags : TcpFlags
  opts : List UInt8
  l7 : List UInt8
deriving DecidableEq, Repr

/-- `tcp_data_t`; `len` is the length of the data. -/
structure TcpData where
  data : List UInt8
  sofar : Nat
  push : Bool
deriving DecidableEq, Repr

/-- What is still to be sent. -/
def TcpData.rest (item : TcpData) : List UInt8 := item.data.drop item.sofar

/-! ## State -/

/-- `zdtun_conn_t` of a TCP connection. `selected` and `awaited` are the bits of its socket in
`all_fds` and `write_fds`; the last three are those of `ZdtunConn`. -/
structure TcpConn where
  status : ConnStatus
  sockOpen : Bool
  selected : Bool
  awaited : Bool
  proxySocks5 : Bool
  socks5Status : Socks5Status
  socks5Skip : UInt8
  txQueue : List TcpData
  txQueueSize : UInt32
  clientSeq : UInt32
  zdtunSeq : UInt32
  windowSize : UInt32
  mss : UInt16
  windowScale : UInt8
  finAckSent : Bool
  clientClosed : Bool
  toPurge : Bool
  destroyed : Bool
  closedCalls : Nat
deriving DecidableEq, Repr

/-- The socket seen from its other end: what came and was not read, that nothing more comes, and
all that was written. -/
structure ServerSocket where
  inbox : List UInt8
  eof : Bool
  outbox : List UInt8
  shutWr : Bool
deriving DecidableEq, Repr

/-- What is noted of a run besides. Of the upload: the client's first sequence number, the
requests to the proxy, the payloads queued, how many bytes were acknowledged and thrown away, how
many FINs were acknowledged. Of the download: all that the server sent, what the SOCKS5 handshake
read of it, what was forwarded, and where the window of the client ends, counted from the first
sequence number of zdtun. -/
structure SpliceLog where
  isn : UInt32
  asked : List UInt8
  accepted : List UInt8
  dropped : Nat
  fins : Nat
  sent : List UInt8
  told : List UInt8
  forwarded : List UInt8
  edge : Nat
deriving DecidableEq, Repr

/-- A connection, the other end of its socket and the packets for the client that `remote2vpn` took.
Once the packet loop has stopped, it takes them without writing them. -/
structure Splice where
  running : Bool
  conn : TcpConn
  server : ServerSocket
  client : List ClientSegment
  log : SpliceLog
deriving DecidableEq, Repr

/-- What stays as it is: the connection's addresses, `default_mss`, and user and password for the
proxy, if any. -/
structure SpliceConfig where
  tuple : Tuple
  isTcp : tuple.ipproto = .tcp
  defaultMss : UInt16
  userPass : Option (List UInt8 × List UInt8)

/-- The answers to the calls of one event, as in `Answers`; `SO_SNDBUF` and `SIOCOUTQ` besides. A
send takes at most what it is given. -/
structure TcpAnswers where
  opened : Bool
  connect : Connect
  send : Option SocketErrno
  queued : List QueuedSend
  alloc : Bool
  reply : Send
  rst : Send
  sndbuf : UInt32
  outq : UInt32
deriving DecidableEq, Repr

/-! ## Packets for the client -/

def defaultTcpWindow : UInt32 := 65535

/-- `get_available_sndbuf`; the difference is that of 32 bit numbers, then read as an `int`. -/
def TcpConn.availableSndbuf (c : TcpConn) (a : TcpAnswers) : UInt32 :=
  let bufsize := if a.sndbuf = 0 then defaultTcpWindow else a.sndbuf
  let avail := bufsize - a.outq - c.txQueueSize
  if avail < 0x80000000 then avail else 0

/-- The window `build_reply_tcpip` announces. -/
def TcpConn.announcedWindow (c : TcpConn) (a : TcpAnswers) : UInt16 :=
  let scale := c.windowScale.toUInt32
  let maxWin : UInt32 := 0xFFFF <<< scale
  let tcpwin := if c.availableSndbuf a < maxWin then c.availableSndbuf a else maxWin
  (tcpwin >>> scale).toUInt16

/-- `build_reply_tcpip`. -/
def TcpConn.buildReply (c : TcpConn) (a : TcpAnswers) (flags : TcpFlags) (opts l7 : List UInt8) :
    ClientSegment :=
  ⟨c.zdtunSeq, if flags.ack then c.clientSeq else 0, c.announcedWindow a, flags, opts, l7⟩

/-- The options of `send_syn_ack`: MSS, window scale, end. -/
def SpliceConfig.synAckOpts (cfg : SpliceConfig) (scale : UInt8) : List UInt8 :=
  [2, 4] ++ NetworkOrder.u16 cfg.defaultMss.toNat ++ [3, 3, scale, 0]

def SpliceConfig.socks5Hello (cfg : SpliceConfig) : List UInt8 :=
  [5, 1, if cfg.userPass.isSome then 2 else 0]

/-- The request of `socks5_auth`. The lengths go into one byte each. -/
def socks5AuthReq (user pass : List UInt8) : List UInt8 :=
  [1, UInt8.ofNat user.length] ++ user ++ [UInt8.ofNat pass.length] ++ pass

/-- The request of `socks5_req`. -/
def SpliceConfig.socks5ConnectReq (cfg : SpliceConfig) : List UInt8 :=
  [5, 1, 0] ++
  (if cfg.tuple.ipver = .v4 then 1 :: ip4Bytes cfg.tuple.dstIp
    else 4 :: ip6Bytes cfg.tuple.dstIp) ++
  NetworkOrder.u16 cfg.tuple.dstPort.toNat

/-- `socks5_in_progress`. -/
def TcpConn.socks5InProgress (c : TcpConn) : Bool :=
  c.proxySocks5 && c.socks5Status != .established

/-- How much `handle_tcp_reply` asks for. -/
def TcpConn.toRecv (c : TcpConn) : Nat :=
  (if c.windowSize < c.mss.toUInt32 then c.windowSize else c.mss.toUInt32).toNat

theorem TcpConn.toRecv_le (c : TcpConn) : c.toRecv ≤ c.windowSize.toNat := by
  unfold TcpConn.toRecv
  split
  · exact Nat.le_refl _
  · rename_i h
    exact Nat.le_of_not_lt fun hlt => h (UInt32.lt_iff_toNat_lt.mpr hlt)

namespace Splice

def withConn (s : Splice) (c : TcpConn) : Splice := { s with conn := c }

/-- `update_conn_status`, the callback `account_packet`. -/
def updateConnStatus (s : Splice) : Splice :=
  s.withConn { s.conn with toPurge := s.conn.toPurge || s.conn.status.isClosed }

/-! ## Closing -/

/-- `close_socket`. -/
def closeSocket (s : Splice) : Splice :=
  s.withConn { s.conn with sockOpen := false, selected := false, awaited := false }

/-- The end of `zdtun_conn_close`. -/
def connectionClosed (s : Splice) (status : ConnStatus) : Splice :=
  s.withConn { s.conn with
    txQueue := []
    status := if status.isClosed then status else .closed
    toPurge := true
    closedCalls := s.conn.closedCalls + 1 }

/-- `zdtun_conn_close` where no RST is sent. -/
def closeSilently (s : Splice) (status : ConnStatus) : Splice :=
  if s.conn.status.isClosed then s else s.closeSocket.connectionClosed status

/-- `send_to_client`. -/
def sendToClient (s : Splice) (seg : ClientSegment) (snd : Send) : Splice × Bool :=
  let (running, ok) := sendClient s.running snd
  let s := { s with running }
  if ok then (({ s with client := s.client ++ [seg] }).updateConnStatus, true)
  else ((s.withConn { s.conn with finAckSent := true }).closeSilently .clientError, false)

/-- `zdtun_conn_close`. -/
def zdtunConnClose (s : Splice) (status : ConnStatus) (a : TcpAnswers) : Splice :=
  if s.conn.status.isClosed then s
  else
    let s := s.closeSocket
    let s :=
      if s.conn.finAckSent then s
      else (s.sendToClient (s.conn.buildReply a thRstAck [] []) a.rst).1
    s.connectionClosed status

def closeWithSocketError (s : Splice) (errno : SocketErrno) (a : TcpAnswers) : Splice × Bool :=
  (s.zdtunConnClose errno.status a, errno.serverSide)

/-- A packet without payload: `build_reply_tcpip` and `send_to_client`. -/
def reply (s : Splice) (flags : TcpFlags) (a : TcpAnswers) : Splice × Bool :=
  s.sendToClient (s.conn.buildReply a flags [] []) a.reply

/-- The number of a SYN or a FIN that the client got. -/
def countSeq (s : Splice) : Splice := s.withConn { s.conn with zdtunSeq := s.conn.zdtunSeq + 1 }

/-- `send_syn_ack`. -/
def sendSynAck (cfg : SpliceConfig) (s : Splice) (a : TcpAnswers) : Splice × Bool :=
  let (s, ok) := s.sendToClient
    (s.conn.buildReply a thSynAck (cfg.synAckOpts s.conn.windowScale) []) a.reply
  (if ok then s.countSeq else s, ok)

/-! ## SOCKS5 -/

def requested (s : Splice) (request : List UInt8) (next : Socks5Status) : Splice :=
  { s with
    conn := { s.conn with socks5Status := next }
    server := { s.server with outbox := s.server.outbox ++ request }
    log := { s.log with asked := s.log.asked ++ request } }

/-- A request to the proxy, then the status to come. -/
def socks5Send (s : Splice) (request : List UInt8) (next : Socks5Status) (a : TcpAnswers) :
    Splice × Bool :=
  match a.send with
  | some errno => s.closeWithSocketError errno a
  | none => (s.requested request next, true)

def socks5Connect (cfg : SpliceConfig) (s : Splice) (a : TcpAnswers) : Splice × Bool :=
  s.socks5Send (cfg.socks5Hello) .hello a

def socks5Req (cfg : SpliceConfig) (s : Splice) (a : TcpAnswers) : Splice × Bool :=
  s.socks5Send (cfg.socks5ConnectReq) .connecting a

def socks5Refuse (s : Splice) (a : TcpAnswers) : Splice × Bool :=
  (s.zdtunConnClose .socks5Error a, false)

/-- `len` bytes of the bound address less to come; the last ones end the handshake. -/
def skipped (s : Splice) (len : Nat) : Splice :=
  s.withConn { s.conn with
    socks5Skip := UInt8.ofNat (s.conn.socks5Skip.toNat - len)
    socks5Status :=
      if s.conn.socks5Skip.toNat = len then .established else s.conn.socks5Status }

/-- The request is granted, and the bound address is still to come. -/
def granted (s : Splice) (addrtype : UInt8) : Splice :=
  s.withConn { s.conn with
    socks5Skip := UInt8.ofNat (Turn.socks5BndLen addrtype)
    socks5Status := .skipBnd }

/-- The bytes of the bound address, which may come in a message of their own. -/
def socks5SkipBnd (s : Splice) (len : Nat) (a : TcpAnswers) : Splice × Bool :=
  if len ≤ s.conn.socks5Skip.toNat then
    (s.skipped len, true)
  else s.socks5Refuse a

/-- `handle_socks5_reply`. -/
def handleSocks5Reply (cfg : SpliceConfig) (s : Splice) (data : List UInt8) (a : TcpAnswers) :
    Splice × Bool :=
  match s.conn.socks5Status with
  | .hello =>
    if data.length != 2 || Turn.byteAt data 0 != 5 then s.socks5Refuse a
    else if Turn.byteAt data 1 != 0 then
      match cfg.userPass with
      | some (user, pass) =>
        if Turn.byteAt data 1 == 2 then s.socks5Send (socks5AuthReq user pass) .auth a
        else s.socks5Refuse a
      | none => s.socks5Refuse a
    else socks5Req cfg s a
  | .auth =>
    if data.length < 2 || Turn.byteAt data 0 != 1 || Turn.byteAt data 1 != 0 then s.socks5Refuse a
    else socks5Req cfg s a
  | .connecting =>
    if data.length < 4 || Turn.byteAt data 0 != 5 then s.socks5Refuse a
    else if Turn.byteAt data 1 != 0 then
      (s.zdtunConnClose (Turn.socks5Failure (Turn.byteAt data 1)).1 a,
        (Turn.socks5Failure (Turn.byteAt data 1)).2)
    else if Turn.byteAt data 3 != 1 && Turn.byteAt data 3 != 4 then s.socks5Refuse a
    else
      let s := s.granted (Turn.byteAt data 3)
      if 4 < data.length then s.socks5SkipBnd (data.length - 4) a else (s, true)
  | .skipBnd => s.socks5SkipBnd data.length a
  | .established => s.socks5Refuse a

/-! ## From the tun -/

/-- The first sequence number of zdtun. -/
def firstSeq : UInt32 := 0x77EB77EB

def connected (s : Splice) : Splice :=
  s.withConn { s.conn with awaited := false, status := .connected }

/-- `tcp_socket_syn`. -/
def tcpSocketSyn (cfg : SpliceConfig) (s : Splice) (a : TcpAnswers) : Splice × Bool :=
  let s := s.connected
  if s.conn.proxySocks5 then socks5Connect cfg s a else sendSynAck cfg s a

/-- The socket is there, and what the options and the window of the SYN say. The window is scaled
here already. -/
def socketOpened (s : Splice) (pkt : TcpPacket) : Splice :=
  let window := pkt.win.toUInt32 <<< pkt.scale.toUInt32
  { s with
    conn := { s.conn with
      sockOpen := true
      selected := true
      windowSize := window
      windowScale := pkt.scale
      mss := pkt.mss }
    log := { s.log with edge := 1 + window.toNat } }

/-- The first sequence numbers. -/
def numbered (s : Splice) (pkt : TcpPacket) : Splice :=
  { s with
    conn := { s.conn with clientSeq := pkt.seq + 1, zdtunSeq := firstSeq }
    log := { s.log with isn := pkt.seq } }

/-- The connect is under way, and `select` tells when it is done. -/
def connecting (s : Splice) : Splice :=
  s.withConn { s.conn with status := .connecting, awaited := true }

/-- The branch of `handle_tcp_fwd` on a new connection. -/
def openTcp (cfg : SpliceConfig) (s : Splice) (pkt : TcpPacket) (a : TcpAnswers) :
    Splice × Bool :=
  if !a.opened then (s.withConn { s.conn with status := .socketError }, false)
  else
    let s := s.updateConnStatus.socketOpened pkt
    match a.connect with
    | .error errno => ((s.closeWithSocketError errno a).1, true)
    | .done => tcpSocketSyn cfg (s.numbered pkt) a
    | .inProgress => ((s.numbered pkt).connecting, true)

/-- The payload at the end of the queue. -/
def queued (s : Splice) (pkt : TcpPacket) : Splice :=
  { s with
    conn := { s.conn with
      txQueue := s.conn.txQueue ++ [⟨pkt.l7, 0, pkt.flags.push⟩]
      txQueueSize := s.conn.txQueueSize + UInt32.ofNat pkt.l7.length
      awaited := true }
    log := { s.log with accepted := s.log.accepted ++ pkt.l7 } }

/-- `enqueue_tcp_data`. -/
def enqueueTcpData (s : Splice) (pkt : TcpPacket) (a : TcpAnswers) : Splice × Bool :=
  if !a.alloc then (s.zdtunConnClose .error a, false) else (s.queued pkt, true)

/-- The client is still sending after the server has closed. -/
def dropPayload (s : Splice) (pkt : TcpPacket) : Splice :=
  { s with
    conn := { s.conn with clientSeq := s.conn.clientSeq + UInt32.ofNat pkt.l7.length }
    log := { s.log with dropped := s.log.dropped + pkt.l7.length } }

/-- The payload of a packet: queued, or only acknowledged once the server has closed. -/
def tcpPayload (s : Splice) (pkt : TcpPacket) (a : TcpAnswers) : Splice × Bool :=
  if pkt.l7 = [] then (s, true)
  else if s.conn.sockOpen then s.enqueueTcpData pkt a
  else (s.dropPayload pkt).reply thAck a

/-- Half close, and take the FIN for received with what came along. -/
def finReceived (s : Splice) (pkt : TcpPacket) : Splice :=
  { s with
    server := { s.server with shutWr := s.server.shutWr || s.conn.sockOpen }
    conn := { s.conn with
      clientSeq := s.conn.clientSeq + (UInt32.ofNat pkt.l7.length + 1)
      clientClosed := true }
    log := { s.log with dropped := s.log.dropped + pkt.l7.length, fins := s.log.fins + 1 } }

/-- A FIN+ACK of the client. -/
def clientFin (s : Splice) (pkt : TcpPacket) (a : TcpAnswers) : Splice × Bool :=
  let (s, ok) := (s.finReceived pkt).reply thAck a
  (if s.conn.sockOpen then s else s.zdtunConnClose .closed a, ok)

/-- The bytes in flight that the client has not acknowledged. -/
def inFlight (c : TcpConn) (ackNum : UInt32) : UInt32 :=
  if ackNum ≤ c.zdtunSeq then c.zdtunSeq - ackNum else 0xFFFFFFFF - ackNum + c.zdtunSeq + 1

/-- The window of a packet, scaled. -/
def TcpPacket.window (c : TcpConn) (pkt : TcpPacket) : UInt32 :=
  pkt.win.toUInt32 <<< c.windowScale.toUInt32

/-- An ACK of the client updates the window. -/
def updateWindow (s : Splice) (pkt : TcpPacket) : Splice :=
  let window := TcpPacket.window s.conn pkt - inFlight s.conn pkt.ackNum
  { s with
    conn := { s.conn with windowSize := window, selected := s.conn.selected || 0 < window }
    log := { s.log with
      edge := 1 + s.log.forwarded.length + (TcpPacket.window s.conn pkt).toNat -
        (inFlight s.conn pkt.ackNum).toNat } }

def isKeepAlive (c : TcpConn) (pkt : TcpPacket) : Bool :=
  pkt.flags.ack && pkt.seq + 1 == c.clientSeq

def inSequence (c : TcpConn) (pkt : TcpPacket) : Bool :=
  pkt.seq == c.clientSeq + c.txQueueSize

/-- A keep-alive is acknowledged; the payload that comes along is taken as any other. -/
def keepAlive (s : Splice) (pkt : TcpPacket) (a : TcpAnswers) : Splice × Bool :=
  let (s, ok) := s.reply thAck a
  if ok then s.tcpPayload pkt a else (s, false)

/-- The branch of `handle_tcp_fwd` on an active connection. -/
def forwardActive (s : Splice) (pkt : TcpPacket) (a : TcpAnswers) : Splice × Bool :=
  let s := s.updateConnStatus
  if !isKeepAlive s.conn pkt && !inSequence s.conn pkt then (s, true)
  else if s.conn.socks5InProgress then s.socks5Refuse a
  else if pkt.flags.rst then (s.zdtunConnClose .closed a, true)
  else if pkt.flags.fin && pkt.flags.ack then s.clientFin pkt a
  else if pkt.flags.ack && s.conn.sockOpen then
    if isKeepAlive s.conn pkt then s.keepAlive pkt a
    else (s.updateWindow pkt).tcpPayload pkt a
  else s.tcpPayload pkt a

/-- `handle_tcp_fwd`. -/
def handleTcpFwd (cfg : SpliceConfig) (s : Splice) (pkt : TcpPacket) (a : TcpAnswers) :
    Splice × Bool :=
  if pkt.flags.urg then (s.zdtunConnClose .error a, false)
  else if s.conn.status = .connecting then (s, true)
  else if s.conn.status = .new then openTcp cfg s pkt a
  else s.forwardActive pkt a

/-- `zdtun_forward`, and the close of `run_vpn` where it fails. -/
def forward (cfg : SpliceConfig) (s : Splice) (pkt : TcpPacket) (a : TcpAnswers) : Splice :=
  if s.conn.status.isClosed then s
  else
    let (s, ok) := handleTcpFwd cfg s pkt a
    if ok then s else s.zdtunConnClose .error a

/-! ## From the socket -/

/-- `tcp_socket_fin_ack`, unless the FIN was sent before. -/
def tcpSocketFinAck (s : Splice) (a : TcpAnswers) : Splice :=
  if s.conn.finAckSent then s
  else
    let (s, ok) := s.reply thFinAck a
    let s := if ok then s.countSeq else s
    s.withConn { s.conn with finAckSent := true }

/-- The server has closed its side. -/
def serverClosed (s : Splice) (a : TcpAnswers) : Splice :=
  let s := (s.tcpSocketFinAck a).closeSocket
  if s.conn.clientClosed then s.zdtunConnClose .closed a else s

/-- `recv`. -/
def recv (s : Splice) (n : Nat) : Splice :=
  { s with server := { s.server with inbox := s.server.inbox.drop n } }

/-- The client got data. Where its window is used up, the socket is left alone. -/
def dataSent (s : Splice) (bytes : List UInt8) : Splice :=
  let window := s.conn.windowSize - UInt32.ofNat bytes.length
  { s with
    conn := { s.conn with
      zdtunSeq := s.conn.zdtunSeq + UInt32.ofNat bytes.length
      windowSize := window
      selected := s.conn.selected && window != 0 }
    log := { s.log with forwarded := s.log.forwarded ++ bytes } }

/-- The end of `handle_tcp_reply`: data for the client, with PSH where nothing more is there. -/
def forwardData (s : Splice) (bytes : List UInt8) (a : TcpAnswers) : Splice :=
  let (s, ok) := s.sendToClient
    (s.conn.buildReply a { thAck with push := s.server.inbox.isEmpty } [] bytes) a.reply
  if ok then s.dataSent bytes else s

/-- What the proxy said. -/
def hear (s : Splice) (bytes : List UInt8) : Splice :=
  { s with log := { s.log with told := s.log.told ++ bytes } }

/-- The SOCKS5 branch of `handle_tcp_reply`. -/
def socks5Reply (cfg : SpliceConfig) (s : Splice) (bytes : List UInt8) (a : TcpAnswers) :
    Splice :=
  let (s, ok) := handleSocks5Reply cfg (s.hear bytes) bytes a
  if ok && s.conn.socks5Status == .established then (sendSynAck cfg s a).1 else s

/-- `handle_tcp_reply` on what `recv` gives. -/
def received (cfg : SpliceConfig) (s : Splice) (bytes : List UInt8) (a : TcpAnswers) : Splice :=
  if bytes = [] then s.serverClosed a
  else if s.conn.socks5InProgress then socks5Reply cfg s bytes a
  else if s.conn.windowSize.toNat < bytes.length then s.zdtunConnClose .error a
  else s.forwardData bytes a

/-- `handle_tcp_reply`. -/
def handleTcpReply (cfg : SpliceConfig) (s : Splice) (err : Option SocketErrno)
    (a : TcpAnswers) : Splice :=
  match err with
  | some errno => (s.closeWithSocketError errno a).1
  | none => received cfg (s.recv s.conn.toRecv) (s.server.inbox.take s.conn.toRecv) a

/-- The loop of `handle_queued_tcp_data`: what is left, what was sent, and an error if any. -/
def sendQueuedData : List TcpData → List QueuedSend →
    List TcpData × List UInt8 × Option SocketErrno
  | item :: queue, .sent n :: answers =>
    if item.rest.length ≤ n then
      let (left, sent, errno) := sendQueuedData queue answers
      (left, item.rest ++ sent, errno)
    else ({ item with sofar := item.sofar + n } :: queue, item.rest.take n, none)
  | queue, .error errno :: _ => (queue, [], some errno)
  | queue, _ => (queue, [], none)

/-- The socket took `sent`, and `left` is still queued. -/
def written (s : Splice) (left : List TcpData) (sent : List UInt8) : Splice :=
  { s with
    conn := { s.conn with txQueue := left }
    server := { s.server with outbox := s.server.outbox ++ sent } }

/-- What was written is acknowledged. -/
def acknowledge (s : Splice) (sent : List UInt8) : Splice :=
  s.withConn { s.conn with
    clientSeq := s.conn.clientSeq + UInt32.ofNat sent.length
    txQueueSize := s.conn.txQueueSize - UInt32.ofNat sent.length }

/-- Without anything queued, the socket is no longer asked whether it can be written. -/
def stopWaiting (s : Splice) : Splice :=
  s.withConn { s.conn with awaited := s.conn.awaited && !s.conn.txQueue.isEmpty }

/-- `handle_queued_tcp_data`. -/
def handleQueuedTcpData (s : Splice) (a : TcpAnswers) : Splice :=
  let (left, sent, errno) := sendQueuedData s.conn.txQueue a.queued
  let s := s.written left sent
  match errno with
  | some errno => (s.closeWithSocketError errno a).1
  | none =>
    let s := s.stopWaiting
    if sent = [] then s else ((s.acknowledge sent).reply thAck a).1

/-- `handle_tcp_connect_async`. -/
def handleTcpConnectAsync (cfg : SpliceConfig) (s : Splice) (r : AsyncConnect) (a : TcpAnswers) :
    Splice :=
  match r with
  | .failed => s.zdtunConnClose .socketError a
  | .connected => (tcpSocketSyn cfg s a).1
  | .error errno => (s.closeWithSocketError errno a).1

/-- `select` finds something to read: data, the end of the stream or an error. -/
def canRead (s : Splice) (err : Option SocketErrno) : Bool :=
  s.conn.sockOpen && s.conn.selected && (s.server.inbox ≠ [] || s.server.eof || err.isSome)

/-- `zdtun_handle_fd` on the socket when it can be read. -/
def readable (cfg : SpliceConfig) (s : Splice) (err : Option SocketErrno) (a : TcpAnswers) :
    Splice :=
  if s.canRead err then handleTcpReply cfg s err a else s

/-- `zdtun_handle_fd` on the socket when it can be written. -/
def writable (cfg : SpliceConfig) (s : Splice) (r : AsyncConnect) (a : TcpAnswers) : Splice :=
  if s.conn.sockOpen && s.conn.awaited then
    if s.conn.txQueue ≠ [] then s.handleQueuedTcpData a else handleTcpConnectAsync cfg s r a
  else s

/-- `destroy_conn`. -/
def destroyConn (s : Splice) (a : TcpAnswers) : Splice :=
  let s := s.zdtunConnClose .closed a
  s.withConn { s.conn with destroyed := true }

/-! ## The machine -/

/-- What happens next: to the connection from the tun, from its socket or when it is purged, or
at the other end of the socket. -/
inductive Event
  | tunPacket (pkt : TcpPacket) (a : TcpAnswers)
  | serverSends (bytes : List UInt8)
  | serverCloses
  | readable (err : Option SocketErrno) (a : TcpAnswers)
  | writable (r : AsyncConnect) (a : TcpAnswers)
  | destroy (a : TcpAnswers)
  | stopPacketLoop
deriving DecidableEq, Repr

/-- A connection as `zdtun_lookup` allocates it; `proxy` says whether `run_vpn` sends it through
the SOCKS5 proxy, which it does before the first packet is forwarded. -/
def init (proxy : Bool) : Splice where
  running := true
  conn := ⟨.new, false, false, false, proxy, .hello, 0, [], 0, 0, 0, 0, 0, 0, false, false, false,
    false, 0⟩
  server := ⟨[], false, [], false⟩
  client := []
  log := ⟨0, [], [], 0, 0, [], [], [], 0⟩

def arrived (s : Splice) (bytes : List UInt8) : Splice :=
  { s with
    server := { s.server with inbox := s.server.inbox ++ bytes }
    log := { s.log with sent := s.log.sent ++ bytes } }

def ended (s : Splice) : Splice := { s with server := { s.server with eof := true } }

/-- A step of the connection; once destroyed, it is not there any more. -/
def step (cfg : SpliceConfig) (s : Splice) : Event → Splice
  | .tunPacket pkt a => if s.conn.destroyed then s else forward cfg s pkt a
  | .serverSends bytes =>
    if s.server.eof then s else s.arrived bytes
  | .serverCloses => s.ended
  | .readable err a => if s.conn.destroyed then s else readable cfg s err a
  | .writable r a => if s.conn.destroyed then s else writable cfg s r a
  | .destroy a => if s.conn.destroyed then s else s.destroyConn a
  | .stopPacketLoop => { s with running := false }

end Splice

end SecureGuard.Native
