import Mathlib.Data.List.Count
import Mathlib.Data.List.Perm.Basic
import SecureGuard.Lib.Machine
import SecureGuard.Native.Zdtun

/-! # The sockets of zdtun

What all connections of zdtun share: the table they are in, the sockets and the sets `select` gets,
the counters, the local ports of UDP clients, and the purge. A connection counts here for its
address, its age and its socket. What the handlers of an open connection do to those is a list of
`Effect`s, given with the event. -/

namespace SecureGuard.Native

/-! ## State -/

/-- `MAX_NUM_SOCKETS`. -/
def maxNumSockets : UInt32 := 128

/-- `NUM_SOCKETS_AFTER_PURGE`. -/
def numSocketsAfterPurge : UInt32 := 96

/-- `FD_SETSIZE`. -/
def fdSetSize : Nat := 1024

/-- `udp_mapping_t`. -/
structure UdpMapping where
  key : UInt32
  port : UInt16
  numUses : UInt16
deriving DecidableEq, Repr

/-- `zdtun_conn_t`. `hashed` is the address it was added to the table with, which its `hashv` is of.
Noted besides: the local port of a connection that `bind_and_connect_udp` set up. -/
structure PoolConn where
  tuple : Tuple
  hashed : Tuple
  tstamp : Nat
  sock : Option Nat
  status : ConnStatus
  localPort : Option UInt16
deriving DecidableEq, Repr

/-- A connection as `zdtun_lookup` adds it. -/
def newConn (tuple : Tuple) (now : Nat) : PoolConn := ⟨tuple, tuple, now, none, .new, none⟩

/-- `zdtun_t` without the table of its connections. -/
structure SocketPool where
  allFds : List Nat
  writeFds : List Nat
  allMaxFd : Nat
  numOpenSockets : UInt32
  numIcmpConn : UInt16
  numTcpConn : UInt16
  numUdpConn : UInt16
  udpMappings : List UdpMapping
deriving DecidableEq, Repr

/-- `zdtun_t`, the connections in the order in which `HASH_ITER` gives them. -/
structure ConnTable where
  pool : SocketPool
  conns : List PoolConn
deriving DecidableEq, Repr

/-- `udp_mapping_key`. -/
def udpMappingKey (tuple : Tuple) : UInt32 :=
  let ipver : UInt32 := if tuple.ipver = .v4 then 4 else 6
  ipver <<< 16 ||| tuple.srcPort.toUInt32

/-- What a handler does to the socket of an open connection: `FD_SET` and `FD_CLR` on the set of
sockets to read and on that of sockets to write, the status `CONNECTED`, the time stamp, the close
of the socket of a TCP connection after the server's, the close of the connection. -/
inductive Effect
  | selects (on : Bool)
  | awaits (on : Bool)
  | connects
  | touches (now : Nat)
  | serverCloses
  | closes (status : ConnStatus)
deriving DecidableEq, Repr

/-- What `run_vpn` does with a packet of a connection: forward it, leave it, or spoof a reply and
close the connection. -/
inductive Handling
  | forward
  | leave
  | spoof
deriving DecidableEq, Repr

/-- A packet from the tun. `create` is the argument of `zdtun_lookup`, `accepted` the answer of
`on_connection_open`; `echoId` is what stands where an echo has its identifier; `socket`, `setup`,
`port` and `connect` are what `socket`, the setup of an UDP socket, `getsockname` and `connect`
give; `effects` is what comes after the socket is opened, and `ok` whether `zdtun_forward` returns
0. -/
structure PoolPacket where
  tuple : Tuple
  echoId : UInt16
  create : Bool
  accepted : Bool
  now : Nat
  handling : Handling
  socket : Option Nat
  setup : UdpSetup
  port : UInt16
  connect : Connect
  effects : List Effect
  ok : Bool
deriving DecidableEq, Repr

namespace SocketPool

/-! ## Sockets -/

def count (p : SocketPool) (proto : IpProto) (f : UInt16 → UInt16) : SocketPool :=
  match proto with
  | .icmp => { p with numIcmpConn := f p.numIcmpConn }
  | .tcp => { p with numTcpConn := f p.numTcpConn }
  | .udp => { p with numUdpConn := f p.numUdpConn }

/-- `open_socket`, where `sock` is what `socket` gives. -/
def openSocket (p : SocketPool) (sock : Option Nat) : SocketPool × Option Nat :=
  if maxNumSockets ≤ p.numOpenSockets then (p, none)
  else
    match sock with
    | none => (p, none)
    | some sock =>
      if fdSetSize ≤ sock then (p, none)
      else
        ({ p with
          allFds := p.allFds.insert sock
          numOpenSockets := p.numOpenSockets + 1
          allMaxFd := max p.allMaxFd sock }, some sock)

/-- `close_socket`. -/
def closeSocket (p : SocketPool) (sock : Option Nat) : SocketPool :=
  match sock with
  | none => p
  | some sock =>
    { p with
      allFds := p.allFds.filter (· != sock)
      writeFds := p.writeFds.filter (· != sock)
      numOpenSockets := max (p.numOpenSockets - 1) 0 }

/-! ## Local ports of UDP clients -/

/-- `HASH_FIND` in `udp_mappings`. -/
def mapping (p : SocketPool) (key : UInt32) : Option UdpMapping :=
  p.udpMappings.find? (·.key == key)

/-- A connection less for a mapping. -/
def release (p : SocketPool) (key : UInt32) : SocketPool :=
  match p.mapping key with
  | none => p
  | some m =>
    { p with
      udpMappings :=
        if m.numUses - 1 = 0 then p.udpMappings.filter (·.key != key)
        else p.udpMappings.map fun n =>
          if n.key = key then { n with numUses := n.numUses - 1 } else n }

/-- The end of `bind_and_connect_udp`: the mapping is new, with the port that `bind` picked, or used
once more. -/
def use (p : SocketPool) (key : UInt32) (port : UInt16) : SocketPool :=
  match p.mapping key with
  | none => { p with udpMappings := p.udpMappings ++ [⟨key, port, 1⟩] }
  | some _ =>
    { p with
      udpMappings := p.udpMappings.map fun n =>
        if n.key = key && n.numUses < 0xFFFF then { n with numUses := n.numUses + 1 } else n }

/-- The port the socket is bound to. -/
def boundPort (p : SocketPool) (key : UInt32) (port : UInt16) : UInt16 :=
  (p.mapping key).elim port (·.port)

/-! ## Connections -/

/-- `zdtun_conn_close`. -/
def zdtunConnClose (p : SocketPool) (c : PoolConn) (status : ConnStatus) :
    SocketPool × PoolConn :=
  if c.status.isClosed then (p, c)
  else
    let p := if c.tuple.ipproto = .udp then p.release (udpMappingKey c.tuple) else p
    (p.closeSocket c.sock,
      { c with
        sock := none, localPort := none
        status := if status.isClosed then status else .closed })

/-- `destroy_conn`; what is left of the table is up to the caller. -/
def destroyConn (p : SocketPool) (c : PoolConn) : SocketPool :=
  (p.zdtunConnClose c .closed).1.count c.tuple.ipproto (· - 1)

/-- `bind_and_connect_udp`. -/
def bindAndConnectUdp (p : SocketPool) (c : PoolConn) (setup : UdpSetup) (port : UInt16) :
    SocketPool × PoolConn × Bool :=
  let key := udpMappingKey c.tuple
  match setup with
  | .noBindAddr => let (p, c) := p.zdtunConnClose c .error; (p, c, false)
  | .error errno => let (p, c) := p.zdtunConnClose c errno.status; (p, c, false)
  | .done => (p.use key port, { c with localPort := some (p.boundPort key port) }, true)

/-- The sets `select` gets, of the socket of one connection. -/
def setFd (fds : List Nat) (sock : Option Nat) (on : Bool) : List Nat :=
  match sock with
  | none => fds
  | some sock => if on then fds.insert sock else fds.filter (· != sock)

def apply (p : SocketPool) (c : PoolConn) : Effect → SocketPool × PoolConn
  | .selects on => ({ p with allFds := setFd p.allFds c.sock on }, c)
  | .awaits on => ({ p with writeFds := setFd p.writeFds c.sock on }, c)
  | .connects => (p, if c.status.isClosed then c else { c with status := .connected })
  | .touches now => (p, { c with tstamp := now })
  | .serverCloses =>
    if c.tuple.ipproto = .tcp then (p.closeSocket c.sock, { c with sock := none }) else (p, c)
  | .closes status => p.zdtunConnClose c status

def applyAll (p : SocketPool) (c : PoolConn) : List Effect → SocketPool × PoolConn
  | [] => (p, c)
  | e :: es => (p.apply c e).1.applyAll (p.apply c e).2 es

/-- The part of `handle_udp_fwd` that is for a new connection. -/
def openUdp (p : SocketPool) (c : PoolConn) (pkt : PoolPacket) : SocketPool × PoolConn × Bool :=
  match p.openSocket pkt.socket with
  | (p, none) => (p, c, false)
  | (p, some sock) =>
    let (p, c, ok) := p.bindAndConnectUdp { c with sock := some sock } pkt.setup pkt.port
    (p, if ok then { c with status := .connected } else c, ok)

/-- The part of `handle_tcp_fwd` that is for a new connection. -/
def openTcp (p : SocketPool) (c : PoolConn) (pkt : PoolPacket) : SocketPool × PoolConn × Bool :=
  match p.openSocket pkt.socket with
  | (p, none) => (p, { c with status := .socketError }, false)
  | (p, some sock) =>
    let c := { c with sock := some sock }
    match pkt.connect with
    | .error errno => let (p, c) := p.zdtunConnClose c errno.status; (p, c, true)
    | .done =>
      ({ p with writeFds := setFd p.writeFds c.sock false }, { c with status := .connected }, true)
    | .inProgress =>
      ({ p with writeFds := setFd p.writeFds c.sock true }, { c with status := .connecting }, true)

/-- The part of `handle_icmp_fwd` that is for a new connection. The source port of an echo reply was
0; it is overwritten in the table, where the hash stays that of the address before. -/
def openIcmp (p : SocketPool) (c : PoolConn) (pkt : PoolPacket) : SocketPool × PoolConn × Bool :=
  match p.openSocket pkt.socket with
  | (p, none) => (p, { c with status := .socketError }, false)
  | (p, some sock) =>
    (p, { c with
      sock := some sock, status := .connected
      tuple := { c.tuple with srcPort := pkt.echoId } }, true)

def openConn (p : SocketPool) (c : PoolConn) (pkt : PoolPacket) : SocketPool × PoolConn × Bool :=
  match c.tuple.ipproto with
  | .udp => p.openUdp c pkt
  | .tcp => p.openTcp c pkt
  | .icmp => p.openIcmp c pkt

/-- What comes after the socket of a new connection is open, and the close of `run_vpn` where
`zdtun_forward` fails. -/
def afterOpen (opened : SocketPool × PoolConn × Bool) (pkt : PoolPacket) : SocketPool × PoolConn :=
  let (p, c, ok) := opened
  if !ok then p.zdtunConnClose c .error
  else
    let (p, c) := p.applyAll c pkt.effects
    if pkt.ok then (p, { c with tstamp := pkt.now }) else p.zdtunConnClose c .error

/-- `zdtun_forward`, and the close of `run_vpn` where it fails. -/
def forward (p : SocketPool) (c : PoolConn) (pkt : PoolPacket) : SocketPool × PoolConn :=
  if c.status.isClosed then (p, c)
  else if c.status = .new then afterOpen (p.openConn c pkt) pkt
  else afterOpen (p, c, true) pkt

/-- `run_vpn` on a packet of the connection. -/
def handle (p : SocketPool) (c : PoolConn) (pkt : PoolPacket) : SocketPool × PoolConn :=
  match pkt.handling with
  | .forward => p.forward c pkt
  | .leave => (p, c)
  | .spoof => p.zdtunConnClose c .closed

/-! ## The purge -/

/-- `TCP_TIMEOUT_SEC`, `UDP_TIMEOUT_SEC` and `ICMP_TIMEOUT_SEC`. -/
def timeoutSec : IpProto → Nat
  | .tcp => 60
  | .udp => 30
  | .icmp => 5

/-- Closed, or without traffic for too long. -/
def expired (now : Nat) (c : PoolConn) : Bool :=
  c.status.isClosed || timeoutSec c.tuple.ipproto + c.tstamp ≤ now

/-- The first loop of `zdtun_purge_expired`. -/
def purgeIdle (now : Nat) (p : SocketPool) : List PoolConn → SocketPool × List PoolConn
  | [] => (p, [])
  | c :: conns =>
    if expired now c then purgeIdle now (p.destroyConn c) conns
    else
      let (p, conns) := purgeIdle now p conns
      (p, c :: conns)

end SocketPool

namespace ConnTable

open SocketPool

/-- The second loop of `zdtun_purge_expired`: the oldest connections go. -/
def forcePurge (t : ConnTable) : ConnTable :=
  let toPurge := (t.pool.numOpenSockets - numSocketsAfterPurge).toNat
  let sorted := t.conns.mergeSort fun a b => a.tstamp ≤ b.tstamp
  ⟨(sorted.take toPurge).foldl SocketPool.destroyConn t.pool, sorted.drop toPurge⟩

/-- `zdtun_purge_expired`. -/
def zdtunPurgeExpired (t : ConnTable) (now : Nat) : ConnTable :=
  let (pool, conns) := purgeIdle now t.pool t.conns
  if maxNumSockets ≤ pool.numOpenSockets then forcePurge ⟨pool, conns⟩ else ⟨pool, conns⟩

/-- Work on the connection `i`. -/
def onConn (t : ConnTable) (i : Nat) (work : SocketPool → PoolConn → SocketPool × PoolConn) :
    ConnTable :=
  match t.conns[i]? with
  | none => t
  | some c => ⟨(work t.pool c).1, t.conns.set i (work t.pool c).2⟩

/-- `HASH_FIND`: what has the hash of the address, `HASH_VALUE`, and is the address. -/
def find (hashv : Tuple → UInt32) (t : ConnTable) (tuple : Tuple) : Option Nat :=
  t.conns.findIdx? fun c => hashv c.hashed == hashv tuple && c.tuple == tuple

/-- `destroy_conn` of the connection `i`. -/
def destroy (t : ConnTable) (i : Nat) : ConnTable :=
  match t.conns[i]? with
  | none => t
  | some c => ⟨t.pool.destroyConn c, t.conns.eraseIdx i⟩

/-- A new connection in the table. -/
def add (t : ConnTable) (pkt : PoolPacket) : ConnTable :=
  ⟨t.pool.count pkt.tuple.ipproto (· + 1), t.conns ++ [newConn pkt.tuple pkt.now]⟩

/-- The part of `zdtun_lookup` that creates a connection. -/
def create (t : ConnTable) (pkt : PoolPacket) : ConnTable × Option Nat :=
  if !pkt.create then (t, none)
  else
    let t := if maxNumSockets ≤ t.pool.numOpenSockets then t.zdtunPurgeExpired pkt.now else t
    if !pkt.accepted then (t, none) else (t.add pkt, some t.conns.length)

/-- `zdtun_lookup`. -/
def zdtunLookup (hashv : Tuple → UInt32) (t : ConnTable) (pkt : PoolPacket) :
    ConnTable × Option Nat :=
  match t.find hashv pkt.tuple with
  | none => t.create pkt
  | some i =>
    if t.conns[i]?.any fun c => c.status.isClosed then (t.destroy i).create pkt else (t, some i)

/-- `run_vpn` on a packet from the tun. -/
def runVpn (hashv : Tuple → UInt32) (t : ConnTable) (pkt : PoolPacket) : ConnTable :=
  match t.zdtunLookup hashv pkt with
  | (t, none) => t
  | (t, some i) => t.onConn i fun p c => p.handle c pkt

/-- `zdtun_handle_fd` on one connection. -/
def handleFd (p : SocketPool) (c : PoolConn) (effects : List Effect) : SocketPool × PoolConn :=
  if c.sock.isNone then (p, c) else p.applyAll c effects

/-- The loop of `zdtun_handle_fd` comes as one event a connection. -/
inductive Event
  | tunPacket (pkt : PoolPacket)
  | ready (i : Nat) (effects : List Effect)
  | purge (now : Nat)
deriving DecidableEq, Repr

def init : ConnTable := ⟨⟨[], [], 0, 0, 0, 0, 0, []⟩, []⟩

/-- `zdtun_finalize`. -/
def zdtunFinalize (t : ConnTable) : ConnTable := ⟨t.conns.foldl SocketPool.destroyConn t.pool, []⟩

def step (hashv : Tuple → UInt32) (t : ConnTable) : Event → ConnTable
  | .tunPacket pkt => t.runVpn hashv pkt
  | .ready i effects => t.onConn i fun p c => handleFd p c effects
  | .purge now => t.zdtunPurgeExpired now

end ConnTable

end SecureGuard.Native
