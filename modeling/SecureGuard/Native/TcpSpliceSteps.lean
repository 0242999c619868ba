import SecureGuard.Native.TcpSplice

/-! # What one step of a spliced connection can do

A step is one update of the bytes and numbers (`Core`), followed by at most one ACK and at most
one close (`Tail`), or a close in the middle of something. Flags that are only kept for the
engine are left open. Every invariant of the connection is derived from this. -/

namespace SecureGuard.Native

namespace Splice

/-! ## Closing -/

/-- The flags that only the engine looks at. -/
def mark (s : Splice) (running toPurge destroyed : Bool) : Splice :=
  { s with running, conn := { s.conn with toPurge, destroyed } }

/-- The client got a packet. -/
def sent (s : Splice) (seg : ClientSegment) : Splice := { s with client := s.client ++ [seg] }

def isClosed (s : Splice) : Bool := s.conn.status.isClosed

/-- The connection is closed, with a RST to the client or without. -/
structure Closes (s s' : Splice) : Prop where
  closed : s'.isClosed = true
  sock : s'.conn.sockOpen = false
  shaken : s'.conn.socks5Status = .established → s.conn.socks5Status = .established
  server : s'.server = s.server
  log : s'.log = s.log
  client : s'.client = s.client ∨
    ∃ seg, seg.flags = thRstAck ∧ seg.l7 = [] ∧ s'.client = s.client ++ [seg]
  plain : ∀ seg ∈ s'.client, seg ∈ s.client ∨ seg.opts = [] ∧ seg.l7 = []

variable {s s' t : Splice}

theorem isClosed_connectionClosed (status : ConnStatus) :
    (s.connectionClosed status).isClosed = true := by
  cases status <;> rfl

theorem closes_closeSilently (hs : s.isClosed = false) (status : ConnStatus) :
    Closes s (s.closeSilently status) ∧ (s.closeSilently status).client = s.client := by
  have hopen : ¬ s.conn.status.isClosed = true := fun h => Bool.noConfusion (hs.symm.trans h)
  unfold closeSilently
  rw [if_neg hopen]
  exact ⟨⟨isClosed_connectionClosed _, rfl, id, rfl, rfl, .inl rfl, fun _ h => .inl h⟩, rfl⟩

theorem sendToClient_cases (hs : s.isClosed = false) (seg : ClientSegment) (snd : Send) :
    (∃ r p, s.sendToClient seg snd = ((s.sent seg).mark r p s.conn.destroyed, true)) ∨
      ∃ s', s.sendToClient seg snd = (s', false) ∧ Closes s s' ∧ s'.client = s.client := by
  unfold sendToClient
  generalize sendClient s.running snd = sent
  obtain ⟨running, ok⟩ := sent
  cases ok with
  | true => exact .inl ⟨running, s.conn.toPurge || s.conn.status.isClosed, rfl⟩
  | false =>
    obtain ⟨hc, hclient⟩ := closes_closeSilently
      (s := { s with running, conn := { s.conn with finAckSent := true } }) hs .clientError
    exact .inr ⟨_, rfl, ⟨hc.closed, hc.sock, hc.shaken, hc.server, hc.log, hc.client, hc.plain⟩,
      hclient⟩

theorem zdtunConnClose_of_closed (hs : s.isClosed = true) (status : ConnStatus)
    (a : TcpAnswers) : s.zdtunConnClose status a = s := if_pos hs

theorem closes_zdtunConnClose (hs : s.isClosed = false) (status : ConnStatus) (a : TcpAnswers) :
    Closes s (s.zdtunConnClose status a) := by
  have hopen : ¬ s.conn.status.isClosed = true := by
    have h : s.conn.status.isClosed = false := hs
    simp [h]
  unfold zdtunConnClose
  rw [if_neg hopen]
  cases hfin : s.closeSocket.conn.finAckSent with
  | true =>
    simp only [hfin, if_true]
    exact ⟨isClosed_connectionClosed _, rfl, id, rfl, rfl, .inl rfl, fun _ h => .inl h⟩
  | false =>
    simp only [hfin, Bool.false_eq_true, if_false]
    have hs' : s.closeSocket.isClosed = false := hs
    obtain ⟨r, p, h⟩ | ⟨s', h, hc, hclient⟩ := sendToClient_cases hs'
      (s.closeSocket.conn.buildReply a thRstAck [] []) a.rst
    · rw [h]
      refine ⟨isClosed_connectionClosed _, rfl, id, rfl, rfl, .inr ⟨_, rfl, rfl, rfl⟩, ?_⟩
      intro seg hseg
      obtain hseg | hseg := List.mem_append.mp hseg
      · exact .inl hseg
      · exact .inr (List.mem_singleton.mp hseg ▸ ⟨rfl, rfl⟩)
    · rw [h]
      exact ⟨isClosed_connectionClosed _, hc.sock, hc.shaken, hc.server, hc.log, .inl hclient,
        hc.plain⟩

theorem connected_ne_new : ConnStatus.connected ≠ .new := by decide

theorem connecting_ne_new : ConnStatus.connecting ≠ .new := by decide

/-! ## After an update -/

/-- A packet that `build_reply_tcpip` makes of this state. -/
structure Built (t : Splice) (flags : TcpFlags) (l7 : List UInt8) (seg : ClientSegment) : Prop where
  seq : seg.seq = t.conn.zdtunSeq
  ackNum : seg.ackNum = t.conn.clientSeq
  flags : seg.flags = flags
  l7 : seg.l7 = l7
  opts : seg.opts.length = if seg.flags.syn then 8 else 0

/-- The handshakes with the server, and with the proxy, are over. -/
structure Established (s : Splice) : Prop where
  status : s.conn.status = .connected
  idle : s.conn.socks5InProgress = false

/-- What may follow an update: an ACK, a close, or both. -/
inductive Tail (t : Splice) : Splice → Prop
  | none (r p d : Bool) : Tail t (t.mark r p d)
  | ack (hc : t.Established) (seg : ClientSegment) (h : Built t thAck [] seg)
    (r p d : Bool) : Tail t ((t.sent seg).mark r p d)
  | closes (s' : Splice) (h : Closes t s') : Tail t s'
  | ackCloses (hc : t.Established) (seg : ClientSegment) (h : Built t thAck [] seg)
    (s' : Splice) (hs : Closes (t.sent seg) s') : Tail t s'

theorem Closes.mark {r p d : Bool} (h : Closes (t.mark r p d) s') : Closes t s' :=
  ⟨h.closed, h.sock, h.shaken, h.server, h.log, h.client, h.plain⟩

theorem Tail.refl (t : Splice) : Tail t t :=
  Tail.none t.running t.conn.toPurge t.conn.destroyed

/-- A close after what has followed an update. -/
theorem Tail.close (ht : t.isClosed = false) (h : Tail t s') (status : ConnStatus)
    (a : TcpAnswers) : Tail t (s'.zdtunConnClose status a) := by
  cases h with
  | none r p d => exact .closes _ (closes_zdtunConnClose (s := t.mark r p d) ht status a).mark
  | ack hc seg h r p d =>
    exact .ackCloses hc seg h _
      (closes_zdtunConnClose (s := (t.sent seg).mark r p d) ht status a).mark
  | closes s' h =>
    rw [zdtunConnClose_of_closed h.closed]
    exact .closes _ h
  | ackCloses hc seg h s' hs =>
    rw [zdtunConnClose_of_closed hs.closed]
    exact .ackCloses hc seg h _ hs

theorem Established.isClosed (h : t.Established) : t.isClosed = false := by
  unfold Splice.isClosed
  rw [h.status]
  rfl

theorem tail_reply (ht : t.Established) (a : TcpAnswers) :
    Tail t (t.reply thAck a).1 := by
  obtain ⟨r, p, h⟩ | ⟨s', h, hc, -⟩ := sendToClient_cases ht.isClosed
    (t.conn.buildReply a thAck [] []) a.reply
  · unfold reply
    rw [h]
    exact .ack ht _ ⟨rfl, rfl, rfl, rfl, rfl⟩ r p _
  · unfold reply
    rw [h]
    exact .closes _ hc

theorem Tail.of_mark {r p d : Bool} (h : Tail (t.mark r p d) s') : Tail t s' := by
  cases h with
  | none r p d => exact .none r p d
  | ack hc seg h r p d =>
    exact Tail.ack (t := t) ⟨hc.status, hc.idle⟩ seg ⟨h.seq, h.ackNum, h.flags, h.l7, h.opts⟩
      r p d
  | closes s' h => exact .closes _ h.mark
  | ackCloses hc seg h s' hs =>
    exact Tail.ackCloses (t := t) ⟨hc.status, hc.idle⟩ seg
      ⟨h.seq, h.ackNum, h.flags, h.l7, h.opts⟩ _
      ⟨hs.closed, hs.sock, hs.shaken, hs.server, hs.log, hs.client, hs.plain⟩

/-! ## Updates -/

/-- A packet that `handle_tcp_fwd` looks into. -/
structure Active (s : Splice) (pkt : TcpPacket) : Prop extends Established s where
  seq : isKeepAlive s.conn pkt = true ∨ inSequence s.conn pkt = true

/-- An ACK, with data or without, that neither ends nor resets anything. -/
def OnlyAcks (pkt : TcpPacket) : Prop :=
  pkt.flags.ack = true ∧ pkt.flags.fin = false ∧ pkt.flags.rst = false

/-- The state in which the connect turns out to be done. -/
inductive Connects (s : Splice) : Event → Splice → Prop
  | now (pkt : TcpPacket) (a : TcpAnswers) (h : s.conn.status = .new) :
    Connects s (.tunPacket pkt a) ((s.socketOpened pkt).numbered pkt)
  | later (r : AsyncConnect) (a : TcpAnswers) (hwait : s.conn.awaited = true)
    (hq : s.conn.txQueue = []) : Connects s (.writable r a) s

/-- What the answers of the proxy lead to. -/
inductive Shakes (cfg : SpliceConfig) (h : Splice) : List UInt8 → Splice → Prop
  | auth (user pass : List UInt8) (hup : cfg.userPass = some (user, pass))
    (hs : h.conn.socks5Status = .hello) :
    Shakes cfg h [5, 2] (h.requested (socks5AuthReq user pass) .auth)
  | noAuth (hs : h.conn.socks5Status = .hello) :
    Shakes cfg h [5, 0] (h.requested cfg.socks5ConnectReq .connecting)
  | welcome (rest : List UInt8) (hs : h.conn.socks5Status = .auth) :
    Shakes cfg h (1 :: 0 :: rest) (h.requested cfg.socks5ConnectReq .connecting)
  | grant (rsv addrtype : UInt8) (rest : List UInt8) (hs : h.conn.socks5Status = .connecting)
    (ht : addrtype = 1 ∨ addrtype = 4) (hlen : rest.length ≤ Turn.socks5BndLen addrtype) :
    Shakes cfg h (5 :: 0 :: rsv :: addrtype :: rest) ((h.granted addrtype).skipped rest.length)
  | skip (bytes : List UInt8) (hs : h.conn.socks5Status = .skipBnd)
    (hlen : bytes.length ≤ h.conn.socks5Skip.toNat) : Shakes cfg h bytes (h.skipped bytes.length)

/-- After the server has closed its side. -/
def finished (s : Splice) : Splice :=
  (s.withConn { s.conn with finAckSent := true }).closeSocket

/-- What is read next. -/
def incoming (s : Splice) : List UInt8 := s.server.inbox.take s.conn.toRecv

/-- The state after that. -/
def afterRecv (s : Splice) : Splice := s.recv s.conn.toRecv

/-- What an event changes of the bytes and numbers. -/
inductive Core (cfg : SpliceConfig) (s : Splice) : Event → Splice → Prop
  | stays (e : Event) : Core cfg s e s
  | arrives (bytes : List UInt8) (h : s.server.eof = false) :
    Core cfg s (.serverSends bytes) (s.arrived bytes)
  | ends : Core cfg s .serverCloses s.ended
  | connecting (pkt : TcpPacket) (a : TcpAnswers) (h : s.conn.status = .new) :
    Core cfg s (.tunPacket pkt a) ((s.socketOpened pkt).numbered pkt).connecting
  | synAck (e : Event) (u : Splice) (hu : Connects s e u) (hp : u.conn.proxySocks5 = false)
    (seg : ClientSegment) (hseg : Built u.connected thSynAck [] seg) :
    Core cfg s e (u.connected.sent seg).countSeq
  | hello (e : Event) (u : Splice) (hu : Connects s e u) (hp : u.conn.proxySocks5 = true) :
    Core cfg s e (u.connected.requested cfg.socks5Hello .hello)
  | window (pkt : TcpPacket) (a : TcpAnswers) (h : Active s pkt) (hopen : s.conn.sockOpen = true)
    (hack : OnlyAcks pkt) (hnew : isKeepAlive s.conn pkt = false) :
    Core cfg s (.tunPacket pkt a) (s.updateWindow pkt)
  | data (pkt : TcpPacket) (a : TcpAnswers) (h : Active s pkt) (hopen : s.conn.sockOpen = true)
    (hne : pkt.l7 ≠ []) : Core cfg s (.tunPacket pkt a) (s.queued pkt)
  | windowData (pkt : TcpPacket) (a : TcpAnswers) (h : Active s pkt)
    (hopen : s.conn.sockOpen = true) (hack : OnlyAcks pkt)
    (hnew : isKeepAlive s.conn pkt = false) (hne : pkt.l7 ≠ []) :
    Core cfg s (.tunPacket pkt a) ((s.updateWindow pkt).queued pkt)
  | late (pkt : TcpPacket) (a : TcpAnswers) (h : Active s pkt) (hclosed : s.conn.sockOpen = false) :
    Core cfg s (.tunPacket pkt a) (s.dropPayload pkt)
  | fin (pkt : TcpPacket) (a : TcpAnswers) (h : Active s pkt) (hfin : pkt.flags.fin = true) :
    Core cfg s (.tunPacket pkt a) (s.finReceived pkt)
  | download (a : TcpAnswers) (hcan : s.canRead none = true)
    (hidle : s.conn.socks5InProgress = false) (hne : s.incoming ≠ []) (push : Bool)
    (seg : ClientSegment) (hseg : Built s { thAck with push } s.incoming seg) :
    Core cfg s (.readable none a) ((s.afterRecv.sent seg).dataSent s.incoming)
  | serverFin (a : TcpAnswers) (hcan : s.canRead none = true) (hnone : s.incoming = [])
    (seg : ClientSegment) (hseg : Built s thFinAck [] seg) :
    Core cfg s (.readable none a) (s.afterRecv.sent seg).countSeq.finished
  | serverGone (a : TcpAnswers) (hcan : s.canRead none = true) (hnone : s.incoming = [])
    (hfin : s.conn.finAckSent = true) : Core cfg s (.readable none a) s.afterRecv.finished
  | shakes (a : TcpAnswers) (hcan : s.canRead none = true) (hp : s.conn.socks5InProgress = true)
    (hne : s.incoming ≠ []) (u : Splice)
    (hu : Shakes cfg (s.afterRecv.hear s.incoming) s.incoming u)
    (hgo : u.conn.socks5Status ≠ .established) : Core cfg s (.readable none a) u
  | shaken (a : TcpAnswers) (hcan : s.canRead none = true) (hp : s.conn.socks5InProgress = true)
    (hne : s.incoming ≠ []) (u : Splice)
    (hu : Shakes cfg (s.afterRecv.hear s.incoming) s.incoming u)
    (hest : u.conn.socks5Status = .established) (seg : ClientSegment)
    (hseg : Built u thSynAck [] seg) : Core cfg s (.readable none a) (u.sent seg).countSeq
  | flush (r : AsyncConnect) (a : TcpAnswers) (left : List TcpData) (out : List UInt8)
    (hq : s.conn.txQueue ≠ [])
    (h : sendQueuedData s.conn.txQueue a.queued = (left, out, Option.none)) :
    Core cfg s (.writable r a) ((s.written left out).stopWaiting.acknowledge out)

/-- Where a step can lead. -/
inductive Outcome (cfg : SpliceConfig) (s : Splice) : Event → Splice → Prop
  | core (e : Event) (t : Splice) (hc : Core cfg s e t) (s' : Splice) (ht : Tail t s') :
    Outcome cfg s e s'
  | refused (pkt : TcpPacket) (a : TcpAnswers) (h : s.conn.status = .new) :
    Outcome cfg s (.tunPacket pkt a) (s.withConn { s.conn with status := .socketError })
  | connectFails (pkt : TcpPacket) (a : TcpAnswers) (h : s.conn.status = .new) (s' : Splice)
    (hc : Closes (s.socketOpened pkt) s') : Outcome cfg s (.tunPacket pkt a) s'
  | greetFails (e : Event) (u : Splice) (hu : Connects s e u) (s' : Splice)
    (hc : Closes u.connected s') : Outcome cfg s e s'
  | synAckFails (a : TcpAnswers) (hcan : s.canRead none = true)
    (hp : s.conn.socks5InProgress = true) (u : Splice)
    (hu : Shakes cfg (s.afterRecv.hear s.incoming) s.incoming u) (s' : Splice)
    (hc : Closes u s') : Outcome cfg s (.readable none a) s'
  | recvFails (a : TcpAnswers) (s' : Splice) (hc : Closes s.afterRecv s') :
    Outcome cfg s (.readable none a) s'
  | shakeFails (a : TcpAnswers) (hcan : s.canRead none = true)
    (hp : s.conn.socks5InProgress = true) (s' : Splice)
    (hc : Closes (s.afterRecv.hear s.incoming) s') : Outcome cfg s (.readable none a) s'
  | writeFails (r : AsyncConnect) (a : TcpAnswers) (left : List TcpData) (out : List UInt8)
    (errno : SocketErrno) (h : sendQueuedData s.conn.txQueue a.queued = (left, out, some errno))
    (s' : Splice) (hc : Closes (s.written left out) s') : Outcome cfg s (.writable r a) s'

variable {cfg : SpliceConfig} {e : Event}

theorem canRead_open {err : Option SocketErrno} (h : s.canRead err = true) :
    s.conn.sockOpen = true ∧ s.conn.selected = true := by
  simp only [canRead, Bool.and_eq_true] at h
  exact h.1

theorem Outcome.stays (h : Tail s s') : Outcome cfg s e s' := .core e s (.stays e) s' h

theorem Connects.isClosed {u : Splice} (hs : s.isClosed = false) (h : Connects s e u) :
    u.isClosed = false := by
  cases h <;> exact hs

theorem Shakes.isClosed {h u : Splice} {bytes : List UInt8} (hs : h.isClosed = false)
    (hu : Shakes cfg h bytes u) : u.isClosed = false := by
  cases hu <;> exact hs

theorem Core.isClosed (hs : s.isClosed = false) (h : Core cfg s e t) : t.isClosed = false := by
  cases h with
  | connecting pkt a h => rfl
  | synAck e u hu hp seg hseg => rfl
  | hello e u hu hp => rfl
  | shakes a hcan hp hne u hu hgo => exact hu.isClosed (h := s.afterRecv.hear s.incoming) hs
  | shaken a hcan hp hne u hu hest seg hseg =>
    exact Shakes.isClosed (h := s.afterRecv.hear s.incoming) (u := u) hs hu
  | _ => exact hs

/-- `run_vpn` closes what `zdtun_forward` could not forward. -/
theorem Outcome.close (hs : s.isClosed = false) (h : Outcome cfg s e s') (status : ConnStatus)
    (a : TcpAnswers) :
    Outcome cfg s e (s'.zdtunConnClose status a) := by
  cases h with
  | core e t hc s' ht => exact .core e t hc _ (ht.close (hc.isClosed hs) status a)
  | refused pkt a' h =>
    rw [zdtunConnClose_of_closed rfl]
    exact .refused pkt a' h
  | connectFails pkt a' h s' hc =>
    rw [zdtunConnClose_of_closed hc.closed]
    exact .connectFails pkt a' h s' hc
  | greetFails e u hu s' hc =>
    rw [zdtunConnClose_of_closed hc.closed]
    exact .greetFails e u hu s' hc
  | synAckFails a' hcan hp u hu s' hc =>
    rw [zdtunConnClose_of_closed hc.closed]
    exact .synAckFails a' hcan hp u hu s' hc
  | recvFails a' s' hc =>
    rw [zdtunConnClose_of_closed hc.closed]
    exact .recvFails a' s' hc
  | shakeFails a' hcan hp s' hc =>
    rw [zdtunConnClose_of_closed hc.closed]
    exact .shakeFails a' hcan hp s' hc
  | writeFails r a' left out errno h s' hc =>
    rw [zdtunConnClose_of_closed hc.closed]
    exact .writeFails r a' left out errno h s' hc

/-! ## The paths -/

theorem outcome_sendSynAck {u : Splice} (hu : u.isClosed = false) (a : TcpAnswers)
    (hsent : ∀ seg, Built u thSynAck [] seg → ∀ r p d,
      Outcome cfg s e ((u.sent seg).countSeq.mark r p d))
    (hfailed : ∀ s', Closes u s' → Outcome cfg s e s') :
    Outcome cfg s e (sendSynAck cfg u a).1 := by
  unfold sendSynAck
  obtain ⟨r, p, h⟩ | ⟨s', h, hc, -⟩ := sendToClient_cases hu
    (u.conn.buildReply a thSynAck (cfg.synAckOpts u.conn.windowScale) []) a.reply
  · rw [h]
    exact hsent _ ⟨rfl, rfl, rfl, rfl, rfl⟩ r p _
  · rw [h]
    exact hfailed s' hc

theorem outcome_socks5Send {u : Splice} (hu : u.isClosed = false) (request : List UInt8)
    (next : Socks5Status) (a : TcpAnswers)
    (hsent : Outcome cfg s e (u.requested request next))
    (hfailed : ∀ s', Closes u s' → Outcome cfg s e s') :
    Outcome cfg s e (u.socks5Send request next a).1 := by
  unfold socks5Send
  cases a.send with
  | some errno => exact hfailed _ (closes_zdtunConnClose hu errno.status a)
  | none => exact hsent

theorem outcome_tcpSocketSyn {u : Splice} (hu : Connects s e u) (r p d : Bool)
    (a : TcpAnswers) : Outcome cfg s e (tcpSocketSyn cfg (u.mark r p d) a).1 := by
  have hfailed (s' : Splice) (hc : Closes (u.mark r p d).connected s') : Outcome cfg s e s' :=
    .greetFails e u hu s' (Closes.mark (t := u.connected) hc)
  unfold tcpSocketSyn
  cases hp : u.conn.proxySocks5 with
  | true =>
    have hp' : (u.mark r p d).connected.conn.proxySocks5 = true := hp
    simp only [hp', if_true]
    refine outcome_socks5Send (u := (u.mark r p d).connected) rfl _ _ a ?_ hfailed
    exact .core e _ (.hello e u hu hp) _ (.none r p d)
  | false =>
    have hp' : (u.mark r p d).connected.conn.proxySocks5 = false := hp
    simp only [hp', Bool.false_eq_true, if_false]
    refine outcome_sendSynAck (u := (u.mark r p d).connected) rfl a ?_ hfailed
    intro seg hseg r' p' d'
    exact .core e _
      (.synAck e u hu hp seg ⟨hseg.seq, hseg.ackNum, hseg.flags, hseg.l7, hseg.opts⟩) _
      (.none r' p' d')

theorem outcome_openTcp (hs : s.isClosed = false) (hnew : s.conn.status = .new) (pkt : TcpPacket)
    (a : TcpAnswers) : Outcome cfg s (.tunPacket pkt a) (openTcp cfg s pkt a).1 := by
  unfold openTcp
  cases a.opened with
  | false => exact .refused pkt a hnew
  | true =>
    simp only [Bool.not_true, Bool.false_eq_true, if_false]
    cases a.connect with
    | error errno =>
      refine .connectFails pkt a hnew _ ?_
      exact Closes.mark (closes_zdtunConnClose
        (s := (s.updateConnStatus.socketOpened pkt)) hs errno.status a)
    | done => exact outcome_tcpSocketSyn (.now pkt a hnew) _ _ _ a
    | inProgress => exact .core _ _ (.connecting pkt a hnew) _ (.none _ _ _)

theorem outcome_tcpPayload {u : Splice} (hu : u.Established) (pkt : TcpPacket)
    (a : TcpAnswers) (hnone : Outcome cfg s e u) (hclose : ∀ s', Closes u s' → Outcome cfg s e s')
    (hdata : u.conn.sockOpen = true → pkt.l7 ≠ [] → Outcome cfg s e (u.queued pkt))
    (hlate : u.conn.sockOpen = false → ∀ s', Tail (u.dropPayload pkt) s' → Outcome cfg s e s') :
    Outcome cfg s e (u.tcpPayload pkt a).1 := by
  unfold tcpPayload enqueueTcpData
  by_cases hl : pkt.l7 = []
  · rw [if_pos hl]
    exact hnone
  · rw [if_neg hl]
    cases ho : u.conn.sockOpen with
    | false => exact hlate ho _ (tail_reply (t := u.dropPayload pkt) ⟨hu.status, hu.idle⟩ a)
    | true =>
      cases a.alloc with
      | false => exact hclose _ (closes_zdtunConnClose hu.isClosed .error a)
      | true => exact hdata ho hl

theorem tail_clientFin (hs : s.Established) (pkt : TcpPacket) (a : TcpAnswers) :
    Tail (s.finReceived pkt) (s.clientFin pkt a).1 := by
  have hreply := tail_reply (t := s.finReceived pkt) ⟨hs.status, hs.idle⟩ a
  unfold clientFin
  generalize (s.finReceived pkt).reply thAck a = sent at hreply
  obtain ⟨s', ok⟩ := sent
  by_cases ho : s'.conn.sockOpen = true
  · simp only [ho, if_true]
    exact hreply
  · simp only [ho, Bool.false_eq_true, if_false]
    exact Tail.close (t := s.finReceived pkt) hs.isClosed hreply .closed a

/-- A keep-alive is acknowledged, then its payload is taken. -/
theorem outcome_keepAlive {pkt : TcpPacket} {a : TcpAnswers} (h : Active s pkt)
     (hopen : s.conn.sockOpen = true) (r p d : Bool) :
    Outcome cfg s (.tunPacket pkt a) ((s.mark r p d).keepAlive pkt a).1 := by
  unfold keepAlive
  obtain ⟨r', p', h'⟩ | ⟨s', h', hc, -⟩ := sendToClient_cases (s := s.mark r p d)
    h.isClosed
    ((s.mark r p d).conn.buildReply a thAck [] []) a.reply
  · unfold reply
    rw [h']
    have hack : Built s thAck [] ((s.mark r p d).conn.buildReply a thAck [] []) :=
      ⟨rfl, rfl, rfl, rfl, rfl⟩
    refine outcome_tcpPayload (u := ((s.mark r p d).sent _).mark r' p' d) ⟨h.status, h.idle⟩ pkt a
      ?_ ?_ ?_ ?_
    · exact .stays (Tail.ack (t := s) h.toEstablished _ hack r' p' d)
    · intro s' hc
      exact .stays (Tail.ackCloses (t := s) h.toEstablished _ hack s'
        ⟨hc.closed, hc.sock, hc.shaken, hc.server, hc.log, hc.client, hc.plain⟩)
    · intro _ hne
      exact .core _ _ (.data pkt a h hopen hne) _
        (Tail.ack (t := s.queued pkt) ⟨h.status, h.idle⟩ _
          ⟨hack.seq, hack.ackNum, hack.flags, hack.l7, hack.opts⟩ r' p' d)
    · intro hclosed
      exact absurd (hopen.symm.trans hclosed) (by decide)
  · unfold reply
    rw [h']
    exact .stays (.closes s' (Closes.mark (t := s) hc))

theorem outcome_forwardActive (hs : s.conn.status = .connected) (pkt : TcpPacket)
    (a : TcpAnswers) :
    Outcome cfg s (.tunPacket pkt a) (s.forwardActive pkt a).1 := by
  have hclose (st : ConnStatus) :
      Outcome cfg s (.tunPacket pkt a) (s.updateConnStatus.zdtunConnClose st a) :=
    .stays (.closes _ (Closes.mark (t := s) (closes_zdtunConnClose (s := s.updateConnStatus)
      (congrArg ConnStatus.isClosed hs) st a)))
  unfold forwardActive
  by_cases hseq : (!isKeepAlive s.updateConnStatus.conn pkt &&
      !inSequence s.updateConnStatus.conn pkt) = true
  · rw [if_pos hseq]
    exact .stays (.none _ _ _)
  · rw [if_neg hseq]
    cases hidle : s.updateConnStatus.conn.socks5InProgress with
    | true => exact hclose .socks5Error
    | false =>
      have hact : Active s pkt := ⟨⟨hs, hidle⟩, by
        have hcases : isKeepAlive s.conn pkt = true ∨ inSequence s.conn pkt = true := by
          simpa [updateConnStatus, withConn, isKeepAlive, inSequence, Decidable.or_iff_not_imp_left]
            using hseq
        exact hcases⟩
      simp only [Bool.false_eq_true, if_false]
      cases hrst : pkt.flags.rst with
      | true => exact hclose .closed
      | false =>
        cases hfin : pkt.flags.fin && pkt.flags.ack with
        | true =>
          have htail := tail_clientFin (s := s.updateConnStatus) ⟨hs, hidle⟩ pkt a
          exact .core _ _ (.fin pkt a hact (Bool.and_eq_true_iff.mp hfin).1) _
            (Tail.of_mark (t := s.finReceived pkt) htail)
        | false =>
          cases hack : pkt.flags.ack && s.updateConnStatus.conn.sockOpen with
          | true =>
            obtain ⟨hack, hopen⟩ : pkt.flags.ack = true ∧ s.conn.sockOpen = true :=
              Bool.and_eq_true_iff.mp hack
            have honly : OnlyAcks pkt := ⟨hack, by simpa [hack] using hfin, hrst⟩
            cases hkeep : isKeepAlive s.updateConnStatus.conn pkt with
            | true => exact outcome_keepAlive hact hopen _ _ _
            | false =>
              have hwindow : Core cfg s (.tunPacket pkt a) (s.updateWindow pkt) :=
                .window pkt a hact hopen honly hkeep
              refine outcome_tcpPayload (u := s.updateConnStatus.updateWindow pkt) ⟨hs, hidle⟩ pkt a
                ?_ ?_ ?_ ?_
              · exact .core _ _ hwindow _ (.none _ _ _)
              · intro s' hc
                exact .core _ _ hwindow _ (.closes _ (Closes.mark (t := s.updateWindow pkt) hc))
              · intro _ hne
                exact .core _ _ (.windowData pkt a hact hopen honly hkeep hne) _ (.none _ _ _)
              · intro hclosed
                exact absurd (hopen.symm.trans hclosed) (by decide)
          | false =>
            refine outcome_tcpPayload (u := s.updateConnStatus) ⟨hs, hidle⟩ pkt a ?_ ?_ ?_ ?_
            · exact .stays (.none _ _ _)
            · intro s' hc
              exact .stays (.closes _ (Closes.mark (t := s) hc))
            · intro hopen hne
              exact .core _ _ (.data pkt a hact hopen hne) _ (.none _ _ _)
            · intro hclosed s' htail
              exact .core _ _ (.late pkt a hact hclosed) _
                (Tail.of_mark (t := s.dropPayload pkt) htail)

theorem outcome_forward (hs : s.isClosed = false) (pkt : TcpPacket) (a : TcpAnswers) :
    Outcome cfg s (.tunPacket pkt a) (forward cfg s pkt a) := by
  have hfwd : Outcome cfg s (.tunPacket pkt a) (handleTcpFwd cfg s pkt a).1 := by
    unfold handleTcpFwd
    cases pkt.flags.urg with
    | true => exact .stays (.closes _ (closes_zdtunConnClose hs .error a))
    | false =>
      simp only [Bool.false_eq_true, if_false]
      cases hstatus : s.conn.status with
      | new => exact outcome_openTcp hs hstatus pkt a
      | connecting => exact .stays (Tail.refl s)
      | connected => exact outcome_forwardActive hstatus pkt a
      | _ =>
        unfold isClosed at hs
        rw [hstatus] at hs
        cases hs
  have hopen : s.conn.status.isClosed = false := hs
  unfold forward
  rw [hopen]
  generalize handleTcpFwd cfg s pkt a = done at hfwd
  obtain ⟨s', ok⟩ := done
  cases ok with
  | true => exact hfwd
  | false => exact hfwd.close hs .error a

/-! ## From the socket -/

theorem outcome_finAck (hs : s.isClosed = false) (a : TcpAnswers) (hcan : s.canRead none = true)
    (hnone : s.incoming = []) :
    Outcome cfg s (.readable none a) (s.afterRecv.tcpSocketFinAck a).closeSocket := by
  unfold tcpSocketFinAck
  cases hfin : s.conn.finAckSent with
  | true =>
    have hgone : s.afterRecv.closeSocket = s.afterRecv.finished := by
      simp only [finished, afterRecv, recv, closeSocket, withConn, hfin]
    have hfin' : s.afterRecv.conn.finAckSent = true := hfin
    rw [hfin', if_pos rfl, hgone]
    exact .core _ _ (.serverGone a hcan hnone hfin) _ (Tail.refl _)
  | false =>
    have hfin' : s.afterRecv.conn.finAckSent = false := hfin
    simp only [hfin', Bool.false_eq_true, if_false]
    obtain ⟨r, p, h⟩ | ⟨s', h, hc, -⟩ := sendToClient_cases (s := s.afterRecv) hs
      (s.afterRecv.conn.buildReply a thFinAck [] []) a.reply
    · unfold reply
      rw [h]
      exact .core _ _ (.serverFin a hcan hnone _ ⟨rfl, rfl, rfl, rfl, rfl⟩) _ (.none r p _)
    · unfold reply
      rw [h]
      exact .recvFails a _ ⟨hc.closed, rfl, hc.shaken, hc.server, hc.log, hc.client, hc.plain⟩

theorem outcome_serverClosed (hs : s.isClosed = false) (a : TcpAnswers)
    (hcan : s.canRead none = true) (hnone : s.incoming = []) :
    Outcome cfg s (.readable none a) (s.afterRecv.serverClosed a) := by
  have hfin : Outcome cfg s (.readable none a) (s.afterRecv.tcpSocketFinAck a).closeSocket :=
    outcome_finAck hs a hcan hnone
  unfold serverClosed
  cases hcl : (s.afterRecv.tcpSocketFinAck a).closeSocket.conn.clientClosed with
  | true =>
    simp only [hcl, if_true]
    exact hfin.close hs .closed a
  | false =>
    simp only [hcl, Bool.false_eq_true, if_false]
    exact hfin

theorem outcome_forwardData (hs : s.isClosed = false) (a : TcpAnswers)
    (hcan : s.canRead none = true) (hidle : s.conn.socks5InProgress = false)
    (hne : s.incoming ≠ []) :
    Outcome cfg s (.readable none a) (s.afterRecv.forwardData s.incoming a) := by
  unfold forwardData
  obtain ⟨r, p, h⟩ | ⟨s', h, hc, -⟩ := sendToClient_cases (s := s.afterRecv) hs
    (s.afterRecv.conn.buildReply a { thAck with push := s.afterRecv.server.inbox.isEmpty } []
      s.incoming) a.reply
  · rw [h]
    exact .core _ _ (.download a hcan hidle hne _ _ ⟨rfl, rfl, rfl, rfl, rfl⟩) _ (.none r p _)
  · rw [h]
    exact .recvFails a s' hc

/-! ## The proxy's answers -/

/-- The answer leads on, or the connection is closed. -/
def Answered (cfg : SpliceConfig) (h : Splice) (bytes : List UInt8) (p : Splice × Bool) : Prop :=
  (Shakes cfg h bytes p.1 ∧ p.2 = true) ∨ Closes h p.1

theorem answered_refuse {h : Splice} (hh : h.isClosed = false) (bytes : List UInt8)
    (a : TcpAnswers) : Answered cfg h bytes (h.socks5Refuse a) :=
  .inr (closes_zdtunConnClose hh .socks5Error a)

theorem answered_send {h : Splice} (hh : h.isClosed = false) {bytes request : List UInt8}
    {next : Socks5Status} (a : TcpAnswers) (hsent : Shakes cfg h bytes (h.requested request next)) :
    Answered cfg h bytes (h.socks5Send request next a) := by
  unfold socks5Send
  cases a.send with
  | some errno => exact .inr (closes_zdtunConnClose hh errno.status a)
  | none => exact .inl ⟨hsent, rfl⟩

theorem bndLen_pos (addrtype : UInt8) :
    0 < (UInt8.ofNat (Turn.socks5BndLen addrtype)).toNat ∧
      (UInt8.ofNat (Turn.socks5BndLen addrtype)).toNat = Turn.socks5BndLen addrtype := by
  unfold Turn.socks5BndLen
  split <;> decide

theorem skipped_granted (h : Splice) (addrtype : UInt8) :
    (h.granted addrtype).skipped 0 = h.granted addrtype := by
  have hpos := (bndLen_pos addrtype).1
  have hne : (UInt8.ofNat (Turn.socks5BndLen addrtype)).toNat ≠ 0 := by omega
  simp only [granted, skipped, withConn, Nat.sub_zero, hne, if_false, UInt8.ofNat_toNat]

theorem answered_hello {h : Splice} (hh : h.isClosed = false) (bytes : List UInt8)
    (a : TcpAnswers) (hst : h.conn.socks5Status = .hello) :
    Answered cfg h bytes (handleSocks5Reply cfg h bytes a) := by
  have hrefuse : Answered cfg h bytes (h.socks5Refuse a) := answered_refuse hh bytes a
  unfold handleSocks5Reply
  simp only [hst]
  by_cases hbad : (bytes.length != 2 || Turn.byteAt bytes 0 != 5) = true
  · rw [if_pos hbad]
    exact hrefuse
  · rw [if_neg hbad]
    simp only [Bool.or_eq_true, bne_iff_ne, not_or, not_not] at hbad
    obtain ⟨ver, cauth, rfl⟩ := List.length_eq_two.mp hbad.1
    obtain rfl : ver = 5 := hbad.2
    have hcauth : Turn.byteAt [5, cauth] 1 = cauth := rfl
    rw [hcauth]
    by_cases hnone : cauth = 0
    · subst hnone
      exact answered_send hh a (.noAuth hst)
    · simp only [bne_iff_ne, ne_eq, hnone, not_false_eq_true, if_true]
      cases hup : cfg.userPass with
      | none => exact hrefuse
      | some up =>
        by_cases hauth : cauth = 2
        · subst hauth
          exact answered_send hh a (.auth up.1 up.2 hup hst)
        · simp only [beq_iff_eq, hauth, if_false]
          exact hrefuse

theorem answered_auth {h : Splice} (hh : h.isClosed = false) (bytes : List UInt8)
    (a : TcpAnswers) (hst : h.conn.socks5Status = .auth) :
    Answered cfg h bytes (handleSocks5Reply cfg h bytes a) := by
  unfold handleSocks5Reply
  simp only [hst]
  by_cases hbad : (decide (bytes.length < 2) || Turn.byteAt bytes 0 != 1 ||
      Turn.byteAt bytes 1 != 0) = true
  · rw [if_pos hbad]
    exact answered_refuse hh bytes a
  · rw [if_neg hbad]
    simp only [Bool.or_eq_true, bne_iff_ne, not_or, not_not, decide_eq_true_eq] at hbad
    obtain ⟨⟨hlen, hver⟩, hstatus⟩ := hbad
    match bytes, hlen with
    | ver :: status :: rest, _ =>
      obtain rfl : ver = 1 := hver
      obtain rfl : status = 0 := hstatus
      exact answered_send hh a (.welcome rest hst)
    | [], h | [_], h => simp at h

theorem answered_skip {h g : Splice} (hg : g.isClosed = false) {bytes : List UInt8} (len : Nat)
    (a : TcpAnswers) (hst : g.conn.socks5Status ≠ .established)
    (hsame : g.server = h.server ∧ g.log = h.log ∧ g.client = h.client)
    (hskip : len ≤ g.conn.socks5Skip.toNat → Shakes cfg h bytes (g.skipped len)) :
    Answered cfg h bytes (g.socks5SkipBnd len a) := by
  unfold socks5SkipBnd
  by_cases hlen : len ≤ g.conn.socks5Skip.toNat
  · rw [if_pos hlen]
    exact .inl ⟨hskip hlen, rfl⟩
  · rw [if_neg hlen]
    have hc := closes_zdtunConnClose hg .socks5Error a
    obtain ⟨hserver, hlog, hclient⟩ := hsame
    exact .inr ⟨hc.closed, hc.sock, fun he => absurd (hc.shaken he) hst, hserver ▸ hc.server,
      hlog ▸ hc.log, hclient ▸ hc.client, hclient ▸ hc.plain⟩

theorem answered_connecting {h : Splice} (hh : h.isClosed = false) (bytes : List UInt8)
    (a : TcpAnswers) (hst : h.conn.socks5Status = .connecting) :
    Answered cfg h bytes (handleSocks5Reply cfg h bytes a) := by
  have hrefuse : Answered cfg h bytes (h.socks5Refuse a) := answered_refuse hh bytes a
  unfold handleSocks5Reply
  simp only [hst]
  by_cases hbad : (decide (bytes.length < 4) || Turn.byteAt bytes 0 != 5) = true
  · rw [if_pos hbad]
    exact hrefuse
  · rw [if_neg hbad]
    simp only [Bool.or_eq_true, bne_iff_ne, not_or, not_not, decide_eq_true_eq] at hbad
    obtain ⟨hlen, hver⟩ := hbad
    match bytes, hlen with
    | ver :: status :: rsv :: addrtype :: rest, _ =>
      obtain rfl : ver = 5 := hver
      have hstatus : Turn.byteAt (5 :: status :: rsv :: addrtype :: rest) 1 = status := rfl
      have htype : Turn.byteAt (5 :: status :: rsv :: addrtype :: rest) 3 = addrtype := rfl
      rw [hstatus, htype]
      by_cases hok : status = 0
      · subst hok
        by_cases ht : addrtype = 1 ∨ addrtype = 4
        · have htype : (addrtype != 1 && addrtype != 4) = false := by
            rcases ht with rfl | rfl <;> rfl
          simp only [bne_self_eq_false, Bool.false_eq_true, if_false, htype, List.length_cons]
          have hgrant (hl : rest.length ≤ (h.granted addrtype).conn.socks5Skip.toNat) :
              Shakes cfg h (5 :: 0 :: rsv :: addrtype :: rest)
                ((h.granted addrtype).skipped rest.length) :=
            .grant rsv addrtype rest hst ht (hl.trans_eq (bndLen_pos addrtype).2)
          by_cases hrest : 4 < rest.length + 1 + 1 + 1 + 1
          · rw [if_pos hrest]
            exact answered_skip (h := h) (g := h.granted addrtype) hh rest.length a
              (fun h => nomatch h) ⟨rfl, rfl, rfl⟩ hgrant
          · have hnil : rest.length = 0 := by omega
            have hgrant := hgrant (by rw [hnil]; exact Nat.zero_le _)
            rw [hnil, skipped_granted] at hgrant
            rw [if_neg hrest]
            exact .inl ⟨hgrant, rfl⟩
        · have htype : (addrtype != 1 && addrtype != 4) = true := by
            simpa [not_or] using ht
          simp only [bne_self_eq_false, Bool.false_eq_true, if_false, htype, if_true]
          exact hrefuse
      · simp only [bne_iff_ne, ne_eq, hok, not_false_eq_true, if_true]
        exact .inr (closes_zdtunConnClose hh _ a)
    | [], h | [_], h | [_, _], h | [_, _, _], h => simp at h

/-- The proxy's answer leads on, or the connection is closed. -/
theorem answered_handleSocks5Reply {h : Splice} (hh : h.isClosed = false) (bytes : List UInt8)
    (a : TcpAnswers) : Answered cfg h bytes (handleSocks5Reply cfg h bytes a) := by
  cases hst : h.conn.socks5Status with
  | hello => exact answered_hello hh bytes a hst
  | auth => exact answered_auth hh bytes a hst
  | connecting => exact answered_connecting hh bytes a hst
  | skipBnd =>
    unfold handleSocks5Reply
    simp only [hst]
    exact answered_skip hh bytes.length a (by simp [hst]) ⟨rfl, rfl, rfl⟩
      fun hlen => .skip bytes hst hlen
  | established =>
    unfold handleSocks5Reply
    simp only [hst]
    exact answered_refuse hh bytes a

theorem outcome_socks5Reply (hs : s.isClosed = false) (a : TcpAnswers)
    (hcan : s.canRead none = true) (hp : s.conn.socks5InProgress = true) (hne : s.incoming ≠ []) :
    Outcome cfg s (.readable none a) (socks5Reply cfg s.afterRecv s.incoming a) := by
  have hanswer : Answered cfg (s.afterRecv.hear s.incoming) s.incoming
      (handleSocks5Reply cfg (s.afterRecv.hear s.incoming) s.incoming a) :=
    answered_handleSocks5Reply (h := s.afterRecv.hear s.incoming) hs s.incoming a
  unfold socks5Reply
  generalize handleSocks5Reply cfg (s.afterRecv.hear s.incoming) s.incoming a = done at hanswer
  obtain ⟨u, ok⟩ := done
  have hfresh : s.conn.socks5Status ≠ .established := by
    intro h
    simp [TcpConn.socks5InProgress, h] at hp
  obtain ⟨hu, hok⟩ | hc := hanswer
  · have hopen : u.isClosed = false := hu.isClosed (h := s.afterRecv.hear s.incoming) hs
    obtain rfl : ok = true := hok
    by_cases hest : u.conn.socks5Status = .established
    · simp only [hest, beq_self_eq_true, Bool.and_self, if_true]
      refine outcome_sendSynAck hopen a ?_ ?_
      · intro seg hseg r p d
        exact .core _ _ (.shaken a hcan hp hne u hu hest seg hseg) _ (.none r p d)
      · intro s' hc
        exact .synAckFails a hcan hp u hu s' hc
    · simp only [beq_iff_eq, hest, Bool.true_and, if_false]
      exact .core _ _ (.shakes a hcan hp hne u hu hest) _ (Tail.refl u)
  · have hdone : (u.conn.socks5Status == .established) = false := by
      simpa using fun h => hfresh (hc.shaken h)
    simp only [hdone, Bool.and_false, Bool.false_eq_true, if_false]
    exact .shakeFails a hcan hp u hc

theorem outcome_readable (hs : s.isClosed = false) (err : Option SocketErrno) (a : TcpAnswers) :
    Outcome cfg s (.readable err a) (readable cfg s err a) := by
  unfold readable
  cases hcan : s.canRead err with
  | false => exact .stays (Tail.refl s)
  | true =>
    rw [if_pos rfl]
    cases err with
    | some errno => exact .stays (.closes _ (closes_zdtunConnClose hs errno.status a))
    | none =>
      change Outcome cfg s _ (received cfg s.afterRecv s.incoming a)
      unfold received
      by_cases hnone : s.incoming = []
      · rw [if_pos hnone]
        exact outcome_serverClosed hs a hcan hnone
      · rw [if_neg hnone]
        cases hp : s.afterRecv.conn.socks5InProgress with
        | true => exact outcome_socks5Reply hs a hcan hp hnone
        | false =>
          have hfit : ¬ s.afterRecv.conn.windowSize.toNat < s.incoming.length :=
            Nat.not_lt.mpr ((List.length_take_le _ _).trans s.conn.toRecv_le)
          simp only [Bool.false_eq_true, if_false]
          rw [if_neg hfit]
          exact outcome_forwardData hs a hcan hp hnone

theorem acknowledge_nil (s : Splice) : s.acknowledge [] = s := by
  simp [acknowledge, withConn]

theorem outcome_writable (hs : s.isClosed = false)
    (hqueue : s.conn.txQueue ≠ [] → s.Established) (r : AsyncConnect)
    (a : TcpAnswers) :
    Outcome cfg s (.writable r a) (writable cfg s r a) := by
  unfold writable
  cases hcan : s.conn.sockOpen && s.conn.awaited with
  | false => exact .stays (Tail.refl s)
  | true =>
    rw [if_pos rfl]
    by_cases hq : s.conn.txQueue = []
    · rw [if_neg (fun h => h hq)]
      have hu : Connects s (.writable r a) s := .later r a (Bool.and_eq_true_iff.mp hcan).2 hq
      cases r with
      | failed => exact .stays (.closes _ (closes_zdtunConnClose hs .socketError a))
      | connected => exact outcome_tcpSocketSyn hu s.running s.conn.toPurge s.conn.destroyed a
      | error errno => exact .stays (.closes _ (closes_zdtunConnClose hs errno.status a))
    · rw [if_pos hq]
      unfold handleQueuedTcpData
      generalize hloop : sendQueuedData s.conn.txQueue a.queued = loop
      obtain ⟨left, out, errno⟩ := loop
      cases errno with
      | some errno =>
        exact .writeFails r a left out errno hloop _
          (closes_zdtunConnClose (s := s.written left out) hs errno.status a)
      | none =>
        have hflush : Core cfg s (.writable r a)
            ((s.written left out).stopWaiting.acknowledge out) := .flush r a left out hq hloop
        by_cases hout : out = []
        · subst hout
          rw [acknowledge_nil] at hflush
          exact .core _ _ hflush _ (Tail.refl _)
        · simp only [hout, if_false]
          exact .core _ _ hflush _
            (tail_reply (t := (s.written left out).stopWaiting.acknowledge out)
              ⟨(hqueue hq).status, (hqueue hq).idle⟩ a)

/-- What a step of an open connection can do. -/
theorem outcome_step (hs : s.isClosed = false)
    (hqueue : s.conn.txQueue ≠ [] → s.Established) (e : Event) :
    Outcome cfg s e (step cfg s e) := by
  have hstay : Outcome cfg s e s := .stays (Tail.refl s)
  cases e with
  | tunPacket pkt a =>
    simp only [step]
    split
    · exact hstay
    · exact outcome_forward hs pkt a
  | serverSends bytes =>
    simp only [step]
    cases heof : s.server.eof with
    | true => exact hstay
    | false => exact .core _ _ (.arrives bytes heof) _ (Tail.refl _)
  | serverCloses => exact .core _ _ .ends _ (Tail.refl _)
  | readable err a =>
    simp only [step]
    split
    · exact hstay
    · exact outcome_readable hs err a
  | writable r a =>
    simp only [step]
    split
    · exact hstay
    · exact outcome_writable hs hqueue r a
  | destroy a =>
    simp only [step]
    split
    · exact hstay
    · have hc := closes_zdtunConnClose hs .closed a
      exact .stays (.closes _
        ⟨hc.closed, hc.sock, hc.shaken, hc.server, hc.log, hc.client, hc.plain⟩)
  | stopPacketLoop => exact .stays (Tail.none (t := s) false _ _)

/-- A closed connection only sees what the server does. -/
theorem step_of_closed (cfg : SpliceConfig) (hs : s.isClosed = true)
    (hsock : s.conn.sockOpen = false) (e : Event) :
    ∃ u r p d, (u = s ∨ (∃ bytes, s.server.eof = false ∧ u = s.arrived bytes) ∨ u = s.ended) ∧
      step cfg s e = u.mark r p d := by
  have hstay (d : Bool) (u : Splice) (h : u = s.mark s.running s.conn.toPurge d) :
      ∃ v r p d, (v = s ∨ (∃ bytes, s.server.eof = false ∧ v = s.arrived bytes) ∨ v = s.ended) ∧
        u = v.mark r p d :=
    ⟨s, _, _, d, .inl rfl, h⟩
  cases e with
  | tunPacket pkt a =>
    refine hstay s.conn.destroyed _ ?_
    have hc : s.conn.status.isClosed = true := hs
    simp only [step, forward, hc, if_true, ite_self]
    rfl
  | serverSends bytes =>
    simp only [step]
    split
    · exact hstay s.conn.destroyed _ rfl
    · rename_i heof
      exact ⟨s.arrived bytes, s.running, s.conn.toPurge, s.conn.destroyed,
        .inr (.inl ⟨bytes, Bool.eq_false_iff.mpr heof, rfl⟩), rfl⟩
  | serverCloses =>
    exact ⟨s.ended, s.running, s.conn.toPurge, s.conn.destroyed, .inr (.inr rfl), rfl⟩
  | readable err a =>
    refine hstay s.conn.destroyed _ ?_
    simp only [step, readable, canRead, hsock, Bool.false_and, Bool.false_eq_true, if_false,
      ite_self]
    rfl
  | writable r a =>
    refine hstay s.conn.destroyed _ ?_
    simp only [step, writable, hsock, Bool.false_and, Bool.false_eq_true, if_false, ite_self]
    rfl
  | destroy a =>
    simp only [step]
    split
    · exact hstay s.conn.destroyed _ rfl
    · refine hstay true _ ?_
      unfold destroyConn
      rw [zdtunConnClose_of_closed hs]
      rfl
  | stopPacketLoop => exact ⟨s, false, s.conn.toPurge, s.conn.destroyed, .inl rfl, rfl⟩

end Splice

end SecureGuard.Native
