import SecureGuard.Native.TcpSplice

/-! # The spliced connection as one of the connections of zdtun

A connection with its bytes left out is a connection of `Zdtun`: every step of the one is at
most one step of the other, on the packet with its sequence numbers compared and the lengths of
what is queued. -/

namespace SecureGuard.Native

/-! ## Abstraction -/

def TcpData.left (item : TcpData) : Nat := item.rest.length

/-- The connection without its bytes. -/
def TcpConn.abs (cfg : SpliceConfig) (c : TcpConn) : ZdtunConn where
  tuple := cfg.tuple
  status := c.status
  sockOpen := c.sockOpen
  proxySocks5 := c.proxySocks5
  socks5Status := c.socks5Status
  socks5Skip := c.socks5Skip.toNat
  txQueue := c.txQueue.map TcpData.left
  finAckSent := c.finAckSent
  clientClosed := c.clientClosed
  pendingQueries := 0
  toPurge := c.toPurge
  destroyed := c.destroyed
  closedCalls := c.closedCalls

namespace Splice

def abs (cfg : SpliceConfig) (s : Splice) : Turn := ⟨s.running, s.conn.abs cfg⟩

/-- A packet with its sequence number compared. -/
def absSegment (cfg : SpliceConfig) (c : TcpConn) (pkt : TcpPacket) : Segment where
  tuple := cfg.tuple
  syn := pkt.flags.syn
  ack := pkt.flags.ack
  fin := pkt.flags.fin
  rst := pkt.flags.rst
  urg := pkt.flags.urg
  keepAlive := isKeepAlive c pkt
  inSequence := inSequence c pkt
  l7Len := pkt.l7.length
  dnsRequest := false
  accepted := true
  proxify := false
  blocked := false
  spoofed := false

/-- A send takes at most what it is given. -/
def absQueued : List TcpData → List QueuedSend → List QueuedSend
  | item :: queue, .sent n :: answers => .sent (min n item.left) :: absQueued queue answers
  | _, answers => answers

def absAnswers (cfg : SpliceConfig) (s : Splice) (a : TcpAnswers) : Answers where
  opened := a.opened
  connect := a.connect
  udpSetup := .done
  send := a.send
  queued := absQueued s.conn.txQueue a.queued
  alloc := a.alloc
  socks5User := cfg.userPass.isSome
  reply := a.reply
  rst := a.rst

/-- What `recv` gives. -/
def absRecv (s : Splice) : Option SocketErrno → Recv
  | some errno => .error errno
  | none => .data (s.server.inbox.take s.conn.toRecv) false false false false

/-- The event of `Zdtun` on its connection 0, if there is one. -/
def absEvent (cfg : SpliceConfig) (s : Splice) : Event → List ZdtunEvent
  | .tunPacket pkt a =>
    if s.conn.destroyed || s.conn.status.isClosed then []
    else [.tunPacket (absSegment cfg s.conn pkt) (absAnswers cfg s a)]
  | .serverSends _ | .serverCloses => []
  | .readable err a =>
    if !s.conn.destroyed && s.canRead err then
      [.readable 0 (s.absRecv err) (absAnswers cfg s a)]
    else []
  | .writable r a =>
    if !s.conn.destroyed && (s.conn.sockOpen && s.conn.awaited) then
      [.writable 0 r (absAnswers cfg s a)]
    else []
  | .destroy a => if s.conn.destroyed then [] else [.destroy 0 a.rst]
  | .stopPacketLoop => [.stopPacketLoop]

def absEvents (cfg : SpliceConfig) : Splice → List Event → List ZdtunEvent
  | _, [] => []
  | s, e :: es => absEvent cfg s e ++ absEvents cfg (step cfg s e) es

/-- A result and whether it is 0. -/
def absOut (cfg : SpliceConfig) (r : Splice × Bool) : Turn × Bool := (r.1.abs cfg, r.2)

/-! ## The paths -/

variable (cfg : SpliceConfig) (s : Splice)

theorem abs_isTcp : (s.abs cfg).conn.isTcp = true := by
  simp [abs, TcpConn.abs, ZdtunConn.isTcp, cfg.isTcp]

@[simp] theorem abs_isClosed : (s.abs cfg).conn.status.isClosed = s.conn.status.isClosed := rfl

theorem abs_updateConnStatus : s.updateConnStatus.abs cfg = (s.abs cfg).updateConnStatus := rfl

theorem abs_closeSocket : s.closeSocket.abs cfg = (s.abs cfg).closeSocket := rfl

theorem abs_connectionClosed (status : ConnStatus) :
    (s.connectionClosed status).abs cfg = (s.abs cfg).connectionClosed status := rfl

theorem abs_closeSilently (status : ConnStatus) :
    (s.closeSilently status).abs cfg = (s.abs cfg).closeSilently status := by
  unfold closeSilently Turn.closeSilently
  rw [abs_isClosed]
  by_cases h : s.conn.status.isClosed = true
  · rw [if_pos h, if_pos h]
  · rw [if_neg h, if_neg h]
    rfl

theorem abs_sendToClient (seg : ClientSegment) (snd : Send) :
    absOut cfg (s.sendToClient seg snd) = (s.abs cfg).sendToClient snd := by
  unfold sendToClient Turn.sendToClient absOut
  have hrun : (s.abs cfg).running = s.running := rfl
  rw [hrun]
  cases h : (sendClient s.running snd).2 with
  | true => simp only [h, if_true]; rfl
  | false =>
    simp only [h, Bool.false_eq_true, if_false]
    refine Prod.ext ((abs_closeSilently cfg _ _).trans ?_) rfl
    simp [Turn.sendFailed, Turn.withConn, withConn, abs, TcpConn.abs, ZdtunConn.isTcp, cfg.isTcp]

theorem abs_zdtunConnClose (status : ConnStatus) (a : TcpAnswers) :
    (s.zdtunConnClose status a).abs cfg = (s.abs cfg).zdtunConnClose status a.rst := by
  unfold zdtunConnClose Turn.zdtunConnClose
  rw [abs_isClosed]
  by_cases h : s.conn.status.isClosed = true
  · rw [if_pos h, if_pos h]
  · have htcp : (s.abs cfg).closeSocket.conn.isTcp = true := abs_isTcp cfg s
    have hfin : (s.abs cfg).closeSocket.conn.finAckSent = s.closeSocket.conn.finAckSent := rfl
    have hsend := congrArg Prod.fst (abs_sendToClient cfg s.closeSocket
      (s.closeSocket.conn.buildReply a thRstAck [] []) a.rst)
    rw [if_neg h, if_neg h]
    simp only [abs_connectionClosed, htcp, hfin, Bool.true_and]
    cases s.closeSocket.conn.finAckSent with
    | true => rfl
    | false =>
      simp only [Bool.false_eq_true, if_false, Bool.not_false, if_true]
      rw [← abs_closeSocket, ← hsend]
      rfl

theorem abs_closeWithSocketError (errno : SocketErrno) (a : TcpAnswers) :
    absOut cfg (s.closeWithSocketError errno a) =
      (s.abs cfg).closeWithSocketError errno a.rst :=
  Prod.ext (abs_zdtunConnClose cfg s errno.status a) rfl

theorem abs_reply (flags : TcpFlags) (a : TcpAnswers) :
    absOut cfg (s.reply flags a) = (s.abs cfg).sendToClient a.reply :=
  abs_sendToClient cfg s _ a.reply

theorem abs_sendSynAck (a : TcpAnswers) :
    absOut cfg (sendSynAck cfg s a) = (s.abs cfg).sendToClient a.reply := by
  rw [← abs_sendToClient cfg s
    (s.conn.buildReply a thSynAck (cfg.synAckOpts s.conn.windowScale) []) a.reply]
  unfold sendSynAck
  generalize s.sendToClient _ a.reply = sent
  obtain ⟨s', ok⟩ := sent
  cases ok <;> rfl

/-! ## SOCKS5 -/

theorem abs_socks5Send (request : List UInt8) (next : Socks5Status) (a : TcpAnswers) :
    absOut cfg (s.socks5Send request next a) =
      (s.abs cfg).socks5Send next (absAnswers cfg s a) := by
  unfold socks5Send Turn.socks5Send
  cases h : a.send with
  | none => simp only [absAnswers, h]; rfl
  | some errno => simp only [absAnswers, h]; exact abs_closeWithSocketError cfg s errno a

theorem abs_socks5Refuse (a : TcpAnswers) :
    absOut cfg (s.socks5Refuse a) = (s.abs cfg).socks5Refuse (absAnswers cfg s a) :=
  Prod.ext (abs_zdtunConnClose cfg s .socks5Error a) rfl

theorem abs_socks5SkipBnd (len : Nat) (a : TcpAnswers) :
    absOut cfg (s.socks5SkipBnd len a) = (s.abs cfg).socks5SkipBnd len (absAnswers cfg s a) := by
  unfold socks5SkipBnd Turn.socks5SkipBnd
  have hskip : (s.abs cfg).conn.socks5Skip = s.conn.socks5Skip.toNat := rfl
  have hlt := s.conn.socks5Skip.toNat_lt
  rw [hskip]
  by_cases h : len ≤ s.conn.socks5Skip.toNat
  · have hmod : (s.conn.socks5Skip.toNat - len) % 256 = s.conn.socks5Skip.toNat - len :=
      Nat.mod_eq_of_lt (by omega)
    simp [h, skipped, absOut, abs, withConn, Turn.withConn, TcpConn.abs, hmod]
  · rw [if_neg h, if_neg h]
    exact abs_socks5Refuse cfg s a

theorem abs_socks5Req (a : TcpAnswers) :
    absOut cfg (socks5Req cfg s a) = (s.abs cfg).socks5Req (absAnswers cfg s a) :=
  abs_socks5Send cfg s cfg.socks5ConnectReq .connecting a

theorem abs_handleSocks5Reply (data : List UInt8) (a : TcpAnswers) :
    absOut cfg (handleSocks5Reply cfg s data a) =
      (s.abs cfg).handleSocks5Reply data (absAnswers cfg s a) := by
  unfold handleSocks5Reply Turn.handleSocks5Reply
  have hstatus : (s.abs cfg).conn.socks5Status = s.conn.socks5Status := rfl
  rw [hstatus]
  cases s.conn.socks5Status with
  | hello =>
    have huser : (absAnswers cfg s a).socks5User = cfg.userPass.isSome := rfl
    rw [huser]
    cases cfg.userPass with
    | none =>
      simp only [apply_ite (absOut cfg), abs_socks5Refuse, abs_socks5Req, Option.isSome_none,
        Bool.and_false, Bool.false_eq_true, if_false]
    | some up =>
      have hauth : absOut cfg (s.socks5Send (socks5AuthReq up.1 up.2) .auth a) =
          (s.abs cfg).socks5Auth (absAnswers cfg s a) := abs_socks5Send cfg s _ .auth a
      simp only [apply_ite (absOut cfg), abs_socks5Refuse, abs_socks5Req, hauth,
        Option.isSome_some, Bool.and_true]
  | auth => simp only [apply_ite (absOut cfg), abs_socks5Refuse, abs_socks5Req]
  | connecting =>
    have hskip (t : UInt8) :
        (UInt8.ofNat (Turn.socks5BndLen t)).toNat = Turn.socks5BndLen t := by
      unfold Turn.socks5BndLen
      split <;> rfl
    simp only [apply_ite (absOut cfg), abs_socks5Refuse]
    refine if_congr Iff.rfl rfl
      (if_congr Iff.rfl ?_ (if_congr Iff.rfl rfl (if_congr Iff.rfl ?_ ?_)))
    · exact Prod.ext (abs_zdtunConnClose cfg s _ a) rfl
    · refine (abs_socks5SkipBnd cfg _ _ a).trans ?_
      simp only [granted, abs, withConn, TcpConn.abs, Turn.withConn, hskip, absAnswers]
    · simp only [granted, absOut, abs, withConn, TcpConn.abs, Turn.withConn, hskip]
  | skipBnd => exact abs_socks5SkipBnd cfg s data.length a
  | established => exact abs_socks5Refuse cfg s a

/-! ## From the tun -/

theorem abs_socks5Connect (a : TcpAnswers) :
    absOut cfg (socks5Connect cfg s a) = (s.abs cfg).socks5Connect (absAnswers cfg s a) :=
  abs_socks5Send cfg s cfg.socks5Hello .hello a

theorem abs_tcpSocketSyn (a : TcpAnswers) :
    absOut cfg (tcpSocketSyn cfg s a) = (s.abs cfg).tcpSocketSyn (absAnswers cfg s a) := by
  unfold tcpSocketSyn Turn.tcpSocketSyn
  rw [apply_ite (absOut cfg)]
  refine if_congr Iff.rfl ?_ ?_
  · exact abs_socks5Connect cfg _ a
  · exact abs_sendSynAck cfg _ a

theorem abs_openTcp (pkt : TcpPacket) (a : TcpAnswers) :
    absOut cfg (openTcp cfg s pkt a) = (s.abs cfg).openTcp (absAnswers cfg s a) := by
  unfold openTcp Turn.openTcp
  rw [apply_ite (absOut cfg)]
  refine if_congr Iff.rfl rfl ?_
  have hconnect : (absAnswers cfg s a).connect = a.connect := rfl
  rw [hconnect]
  cases a.connect with
  | done => exact abs_tcpSocketSyn cfg _ a
  | inProgress => rfl
  | error errno => exact Prod.ext (abs_zdtunConnClose cfg _ _ a) rfl

theorem abs_enqueueTcpData (pkt : TcpPacket) (a : TcpAnswers) :
    absOut cfg (s.enqueueTcpData pkt a) =
      (s.abs cfg).enqueueTcpData pkt.l7.length (absAnswers cfg s a) := by
  unfold enqueueTcpData Turn.enqueueTcpData
  rw [apply_ite (absOut cfg)]
  refine if_congr Iff.rfl (Prod.ext (abs_zdtunConnClose cfg s .error a) rfl) ?_
  simp [queued, absOut, abs, TcpConn.abs, Turn.withConn, TcpData.left, TcpData.rest]

theorem abs_tcpPayload (pkt : TcpPacket) (a : TcpAnswers) :
    absOut cfg (s.tcpPayload pkt a) =
      (s.abs cfg).tcpPayload (absSegment cfg s.conn pkt) (absAnswers cfg s a) := by
  unfold tcpPayload Turn.tcpPayload
  simp only [apply_ite (absOut cfg)]
  refine if_congr List.length_eq_zero_iff.symm rfl (if_congr Iff.rfl ?_ ?_)
  · exact abs_enqueueTcpData cfg s pkt a
  · exact abs_reply cfg _ thAck a

theorem abs_clientFin (pkt : TcpPacket) (a : TcpAnswers) :
    absOut cfg (s.clientFin pkt a) =
      (let t := s.abs cfg
      let (t, ok) := (t.withConn { t.conn with clientClosed := true }).sendToClient a.reply
      (if t.conn.sockOpen then t else t.zdtunConnClose .closed a.rst, ok)) := by
  have hfin : (s.abs cfg).withConn { (s.abs cfg).conn with clientClosed := true } =
      (s.finReceived pkt).abs cfg := rfl
  unfold clientFin
  simp only [hfin]
  rw [← abs_reply cfg _ thAck a]
  generalize (s.finReceived pkt).reply thAck a = sent
  obtain ⟨s', ok⟩ := sent
  refine Prod.ext ?_ rfl
  refine (apply_ite (abs cfg) _ _ _).trans (if_congr Iff.rfl rfl ?_)
  exact abs_zdtunConnClose cfg s' .closed a

theorem abs_keepAlive (pkt : TcpPacket) (a : TcpAnswers) :
    absOut cfg (s.keepAlive pkt a) =
      (let (t, ok) := (s.abs cfg).sendToClient a.reply
      if ok then t.tcpPayload (absSegment cfg s.conn pkt) (absAnswers cfg s a)
      else (t, false)) := by
  rw [← abs_reply cfg s thAck a]
  unfold keepAlive
  generalize s.reply thAck a = sent
  obtain ⟨s', ok⟩ := sent
  cases ok with
  | false => rfl
  | true => exact abs_tcpPayload cfg s' pkt a

theorem abs_forwardActive (pkt : TcpPacket) (a : TcpAnswers) :
    absOut cfg (s.forwardActive pkt a) =
      (s.abs cfg).forwardActive (absSegment cfg s.conn pkt) (absAnswers cfg s a) := by
  unfold forwardActive Turn.forwardActive
  simp only [apply_ite (absOut cfg)]
  refine if_congr Iff.rfl rfl (if_congr Iff.rfl ?_ (if_congr Iff.rfl ?_ (if_congr Iff.rfl ?_ ?_)))
  · exact abs_socks5Refuse cfg _ a
  · exact Prod.ext (abs_zdtunConnClose cfg _ _ a) rfl
  · exact abs_clientFin cfg _ pkt a
  · have hsock : (s.abs cfg).updateConnStatus.conn.sockOpen =
      s.updateConnStatus.conn.sockOpen := rfl
    have hack : (absSegment cfg s.conn pkt).ack = pkt.flags.ack := rfl
    have hkeep : (absSegment cfg s.conn pkt).keepAlive =
      isKeepAlive s.updateConnStatus.conn pkt := rfl
    rw [hsock, hack, hkeep]
    cases pkt.flags.ack && s.updateConnStatus.conn.sockOpen with
    | false => exact abs_tcpPayload cfg _ pkt a
    | true =>
      cases isKeepAlive s.updateConnStatus.conn pkt with
      | true => exact abs_keepAlive cfg s.updateConnStatus pkt a
      | false => exact abs_tcpPayload cfg _ pkt a

theorem abs_handleTcpFwd (pkt : TcpPacket) (a : TcpAnswers) :
    absOut cfg (handleTcpFwd cfg s pkt a) =
      (s.abs cfg).handleTcpFwd (absSegment cfg s.conn pkt) (absAnswers cfg s a) := by
  unfold handleTcpFwd Turn.handleTcpFwd
  simp only [apply_ite (absOut cfg)]
  refine if_congr Iff.rfl ?_ (if_congr Iff.rfl rfl (if_congr Iff.rfl ?_ ?_))
  · exact Prod.ext (abs_zdtunConnClose cfg s .error a) rfl
  · exact abs_openTcp cfg s pkt a
  · exact abs_forwardActive cfg s pkt a

theorem zdtunForward_abs (pkt : TcpPacket) (a : TcpAnswers) :
    (s.abs cfg).zdtunForward (absSegment cfg s.conn pkt) (absAnswers cfg s a) =
      if s.conn.status.isClosed then (s.abs cfg, true)
      else absOut cfg (handleTcpFwd cfg s pkt a) := by
  have htcp : (s.abs cfg).conn.tuple.ipproto = .tcp := cfg.isTcp
  unfold Turn.zdtunForward
  rw [htcp, abs_isClosed, abs_handleTcpFwd]

theorem abs_forward (pkt : TcpPacket) (a : TcpAnswers) :
    (forward cfg s pkt a).abs cfg =
      (s.abs cfg).forward (absSegment cfg s.conn pkt) (absAnswers cfg s a) := by
  have hproxy : (s.abs cfg).zdtunConnProxy (absSegment cfg s.conn pkt) = s.abs cfg := by
    simp [Turn.zdtunConnProxy, Turn.withConn, absSegment]
  have hblocked : (absSegment cfg s.conn pkt).blocked = false := rfl
  unfold forward Turn.forward
  simp only [hproxy, hblocked, Bool.false_eq_true, if_false, zdtunForward_abs]
  cases s.conn.status.isClosed with
  | true => rfl
  | false =>
    simp only [Bool.false_eq_true, if_false]
    generalize handleTcpFwd cfg s pkt a = done
    obtain ⟨s', ok⟩ := done
    cases ok with
    | true => rfl
    | false => exact abs_zdtunConnClose cfg s' .error a

/-! ## From the socket -/

theorem abs_tcpSocketFinAck (a : TcpAnswers) :
    (s.tcpSocketFinAck a).abs cfg =
      (if s.conn.finAckSent then s.abs cfg
      else
        let t := ((s.abs cfg).sendToClient a.reply).1
        t.withConn { t.conn with finAckSent := true }) := by
  rw [← abs_reply cfg s thFinAck a]
  unfold tcpSocketFinAck
  refine (apply_ite (abs cfg) _ _ _).trans (if_congr Iff.rfl rfl ?_)
  generalize s.reply thFinAck a = sent
  obtain ⟨s', ok⟩ := sent
  cases ok <;> rfl

theorem abs_serverClosed (a : TcpAnswers) :
    (s.serverClosed a).abs cfg = (s.abs cfg).serverClosed (absAnswers cfg s a) := by
  have hfin := abs_tcpSocketFinAck cfg s a
  have hturn : (s.abs cfg).serverClosed (absAnswers cfg s a) =
      (let t := ((s.tcpSocketFinAck a).abs cfg).closeSocket
      if t.conn.clientClosed then t.zdtunConnClose .closed a.rst else t) := by
    rw [hfin]
    rfl
  rw [hturn]
  unfold serverClosed
  refine (apply_ite (abs cfg) _ _ _).trans (if_congr Iff.rfl ?_ rfl)
  exact abs_zdtunConnClose cfg _ .closed a

theorem abs_forwardData (bytes : List UInt8) (a : TcpAnswers) :
    (s.forwardData bytes a).abs cfg = ((s.abs cfg).sendToClient a.reply).1 := by
  rw [← abs_sendToClient cfg s
    (s.conn.buildReply a { thAck with push := s.server.inbox.isEmpty } [] bytes) a.reply]
  unfold forwardData
  generalize s.sendToClient _ a.reply = sent
  obtain ⟨s', ok⟩ := sent
  cases ok <;> rfl

theorem abs_socks5Reply (bytes : List UInt8) (a : TcpAnswers) :
    (socks5Reply cfg s bytes a).abs cfg =
      (let (t, ok) := (s.abs cfg).handleSocks5Reply bytes (absAnswers cfg s a)
      if ok && t.conn.socks5Status == .established then (t.sendToClient a.reply).1 else t) := by
  have hsocks := abs_handleSocks5Reply cfg (s.hear bytes) bytes a
  have hhear : absAnswers cfg (s.hear bytes) a = absAnswers cfg s a := rfl
  have habs : (s.hear bytes).abs cfg = s.abs cfg := rfl
  rw [hhear, habs] at hsocks
  rw [← hsocks]
  unfold socks5Reply
  generalize handleSocks5Reply cfg (s.hear bytes) bytes a = done
  obtain ⟨s', ok⟩ := done
  refine (apply_ite (abs cfg) _ _ _).trans (if_congr Iff.rfl ?_ rfl)
  exact congrArg Prod.fst (abs_sendSynAck cfg s' a)

theorem abs_handleTcpReply (err : Option SocketErrno) (a : TcpAnswers) :
    (handleTcpReply cfg s err a).abs cfg =
      (s.abs cfg).handleTcpReply (s.absRecv err) (absAnswers cfg s a) := by
  cases err with
  | some errno => exact abs_zdtunConnClose cfg s errno.status a
  | none =>
    have hwindow : ¬ (s.recv s.conn.toRecv).conn.windowSize.toNat <
        (s.server.inbox.take s.conn.toRecv).length :=
      Nat.not_lt.mpr ((List.length_take_le _ _).trans s.conn.toRecv_le)
    unfold handleTcpReply received Turn.handleTcpReply absRecv
    simp only [apply_ite (abs cfg), hwindow, if_false, Bool.false_eq_true]
    refine if_congr Iff.rfl (abs_serverClosed cfg _ a) (if_congr Iff.rfl ?_ ?_)
    · exact abs_socks5Reply cfg (s.recv s.conn.toRecv) _ a
    · exact abs_forwardData cfg (s.recv s.conn.toRecv) _ a

/-! ## Queued data -/

theorem sendQueued_abs (queue : List TcpData) (answers : List QueuedSend) :
    Turn.sendQueued (queue.map TcpData.left) (absQueued queue answers) =
      ((sendQueuedData queue answers).1.map TcpData.left,
        (sendQueuedData queue answers).2.1.length, (sendQueuedData queue answers).2.2) := by
  induction queue, answers using sendQueuedData.induct with
  | case1 item queue n answers hle left sent errno heq ih =>
    have hmin : min n item.left = item.left := Nat.min_eq_right hle
    simp only [List.map_cons, absQueued, Turn.sendQueued, hmin, if_true, ih, sendQueuedData, hle]
    simp [TcpData.left, Nat.add_comm]
  | case2 item queue n answers hlt =>
    have hmin : min n item.left = n := Nat.min_eq_left (Nat.le_of_not_le hlt)
    have hne : n ≠ item.left := fun h => hlt (Nat.le_of_eq h.symm)
    simp only [List.map_cons, absQueued, Turn.sendQueued, hmin, hne, if_false, sendQueuedData, hlt]
    simp only [TcpData.left, TcpData.rest] at hlt ⊢
    simp only [List.length_drop, List.length_take] at hlt ⊢
    refine Prod.ext ?_ (Prod.ext ?_ rfl)
    · simp only [List.cons.injEq, and_true]
      omega
    · simp only
      omega
  | case3 queue errno answers =>
    cases queue <;> simp [absQueued, Turn.sendQueued, sendQueuedData]
  | case4 queue answers hsent herror =>
    rcases answers with _ | ⟨answer, answers⟩
    · cases queue <;> rfl
    · rcases queue with _ | ⟨item, queue⟩ <;> cases answer with
      | sent n => first | rfl | exact absurd rfl (hsent _ _ _ _ rfl)
      | wouldBlock => rfl
      | error errno => exact absurd rfl (herror _ _)

theorem abs_handleQueuedTcpData (a : TcpAnswers) :
    (s.handleQueuedTcpData a).abs cfg = (s.abs cfg).handleQueuedTcpData (absAnswers cfg s a) := by
  have hqueue : (s.abs cfg).conn.txQueue = s.conn.txQueue.map TcpData.left := rfl
  have hanswers : (absAnswers cfg s a).queued = absQueued s.conn.txQueue a.queued := rfl
  unfold handleQueuedTcpData Turn.handleQueuedTcpData
  rw [hqueue, hanswers, sendQueued_abs]
  generalize sendQueuedData s.conn.txQueue a.queued = loop
  obtain ⟨left, sent, errno⟩ := loop
  cases errno with
  | some errno => exact abs_zdtunConnClose cfg (s.written left sent) errno.status a
  | none =>
    refine (apply_ite (abs cfg) _ _ _).trans ?_
    by_cases h : sent = []
    · simp only [h, if_true, List.length_nil, Nat.lt_irrefl, if_false]
      rfl
    · have hpos : 0 < sent.length := List.length_pos_iff.mpr h
      simp only [h, if_false, hpos, if_true]
      exact congrArg Prod.fst
        (abs_reply cfg ((s.written left sent).stopWaiting.acknowledge sent) thAck a)

theorem abs_handleTcpConnectAsync (r : AsyncConnect) (a : TcpAnswers) :
    (handleTcpConnectAsync cfg s r a).abs cfg =
      (s.abs cfg).handleTcpConnectAsync r (absAnswers cfg s a) := by
  cases r with
  | failed => exact abs_zdtunConnClose cfg s .socketError a
  | connected => exact congrArg Prod.fst (abs_tcpSocketSyn cfg s a)
  | error errno => exact abs_zdtunConnClose cfg s errno.status a

theorem abs_readable (err : Option SocketErrno) (a : TcpAnswers) (h : s.canRead err = true) :
    (readable cfg s err a).abs cfg =
      (s.abs cfg).readable (s.absRecv err) (absAnswers cfg s a) := by
  have hopen : (s.abs cfg).conn.sockOpen = true := by
    simp only [canRead, Bool.and_eq_true] at h
    exact h.1.1
  have htcp : (s.abs cfg).conn.tuple.ipproto = .tcp := cfg.isTcp
  unfold readable Turn.readable
  rw [if_pos h, hopen, htcp, abs_handleTcpReply]
  rfl

theorem abs_writable (r : AsyncConnect) (a : TcpAnswers)
    (h : (s.conn.sockOpen && s.conn.awaited) = true) :
    (writable cfg s r a).abs cfg = (s.abs cfg).writable r (absAnswers cfg s a) := by
  have hopen : (s.abs cfg).conn.sockOpen = true := by
    simp only [Bool.and_eq_true] at h
    exact h.1
  have htcp : (s.abs cfg).conn.isTcp = true := abs_isTcp cfg s
  have hqueue : (s.abs cfg).conn.txQueue ≠ [] ↔ s.conn.txQueue ≠ [] :=
    not_congr List.map_eq_nil_iff
  unfold writable Turn.writable
  rw [if_pos h, hopen, htcp, if_congr hqueue rfl rfl]
  simp only [Bool.not_true, Bool.or_self, Bool.false_eq_true, if_false]
  refine (apply_ite (abs cfg) _ _ _).trans (if_congr Iff.rfl ?_ ?_)
  · exact abs_handleQueuedTcpData cfg s a
  · exact abs_handleTcpConnectAsync cfg s r a

theorem abs_destroyConn (a : TcpAnswers) :
    (s.destroyConn a).abs cfg = (s.abs cfg).destroyConn a.rst := by
  unfold destroyConn Turn.destroyConn
  rw [← abs_zdtunConnClose]
  rfl

/-! ## Runs -/

/-- The machine of all connections with this one in it. -/
def table (cfg : SpliceConfig) (s : Splice) : Zdtun := ⟨s.running, [s.conn.abs cfg]⟩

theorem onConn_table (work : Turn → Turn) (s' : Splice) (hd : s.conn.destroyed = false)
    (h : work (s.abs cfg) = s'.abs cfg) :
    (s.table cfg).onConn 0 work = s'.table cfg := by
  have hconn : (s.table cfg).conns[0]? = some (s.conn.abs cfg) := rfl
  have hturn : (⟨(s.table cfg).running, s.conn.abs cfg⟩ : Turn) = s.abs cfg := rfl
  have hgone : (s.conn.abs cfg).destroyed = false := hd
  unfold Zdtun.onConn
  simp only [hconn, hgone, hturn, h, Bool.false_eq_true, if_false]
  rfl

theorem lookup_table (pkt : TcpPacket) (a : TcpAnswers) (hd : s.conn.destroyed = false)
    (hc : s.conn.status.isClosed = false) :
    (s.table cfg).zdtunLookup (absSegment cfg s.conn pkt) (absAnswers cfg s a) =
      (s.table cfg, some 0) := by
  have hfind : (s.table cfg).find (absSegment cfg s.conn pkt).tuple = some 0 := by
    simp [Zdtun.find, table, absSegment, TcpConn.abs, hd]
  have hopen : ((s.table cfg).conns[0]?.any fun c => c.status.isClosed) = false := hc
  unfold Zdtun.zdtunLookup
  rw [hfind]
  simp only [hopen, Bool.false_eq_true, if_false]

/-- Where no event of `Zdtun` is due, nothing that it sees changes. -/
theorem run_if (p : Bool) (e : ZdtunEvent) (s' : Splice)
    (hstep : p = true → (s.table cfg).step e = s'.table cfg)
    (hstay : p = false → s.table cfg = s'.table cfg) :
    Machine.run Zdtun.step (s.table cfg) (if p then [e] else []) = s'.table cfg := by
  cases p with
  | true => exact hstep rfl
  | false => exact hstay rfl

theorem run_absEvent (e : Event) :
    Machine.run Zdtun.step (s.table cfg) (absEvent cfg s e) = (step cfg s e).table cfg := by
  cases e with
  | tunPacket pkt a =>
    cases hd : s.conn.destroyed with
    | true => simp only [absEvent, step, hd, if_true, Bool.true_or, Machine.run]
    | false =>
      cases hc : s.conn.status.isClosed with
      | true =>
        simp only [absEvent, step, forward, hd, hc, Bool.or_true, if_true, Bool.false_eq_true,
          if_false, Machine.run]
      | false =>
        have hlookup := lookup_table cfg s pkt a hd hc
        simp only [absEvent, step, hd, hc, Bool.or_self, Bool.false_eq_true, if_false, Machine.run,
          Zdtun.step, Zdtun.runVpn, hlookup]
        exact onConn_table cfg s _ _ hd (abs_forward cfg s pkt a).symm
  | serverSends bytes =>
    simp only [absEvent, step, Machine.run]
    split <;> rfl
  | serverCloses => rfl
  | readable err a =>
    cases hd : s.conn.destroyed with
    | true => simp [absEvent, step, hd, Machine.run]
    | false =>
      simp only [absEvent, step, hd, Bool.not_false, Bool.true_and, Bool.false_eq_true, if_false]
      refine run_if cfg s _ _ _ (fun h => ?_) (fun h => ?_)
      · exact onConn_table cfg s (·.readable (s.absRecv err) (absAnswers cfg s a)) _ hd
          (abs_readable cfg s err a h).symm
      · simp [readable, h]
  | writable r a =>
    cases hd : s.conn.destroyed with
    | true => simp [absEvent, step, hd, Machine.run]
    | false =>
      simp only [absEvent, step, hd, Bool.not_false, Bool.true_and, Bool.false_eq_true, if_false]
      refine run_if cfg s _ _ _ (fun h => ?_) (fun h => ?_)
      · exact onConn_table cfg s (·.writable r (absAnswers cfg s a)) _ hd
          (abs_writable cfg s r a h).symm
      · simp [writable, h]
  | destroy a =>
    cases hd : s.conn.destroyed with
    | true => simp [absEvent, step, hd, Machine.run]
    | false =>
      simp only [absEvent, step, hd, Bool.false_eq_true, if_false, Machine.run]
      exact onConn_table cfg s (·.destroyConn a.rst) _ hd (abs_destroyConn cfg s a).symm
  | stopPacketLoop => rfl

/-- Every run of a connection with its bytes is, without them, a run of the connections of
zdtun. -/
theorem run_absEvents (es : List Event) :
    Machine.run Zdtun.step (s.table cfg) (absEvents cfg s es) =
      (Machine.run (step cfg) s es).table cfg := by
  induction es generalizing s with
  | nil => rfl
  | cons e es ih =>
    rw [absEvents, Machine.run_append, run_absEvent]
    exact ih (step cfg s e)

end Splice

end SecureGuard.Native
