import SecureGuard.Lib.Machine
import SecureGuard.Native.AllowList
import SecureGuard.Native.Zdtun

/-! # Every connection is reported once

`connection_closed` should be called once for each connection, before its entry is destroyed. Two
paths break this: a socket that cannot be opened puts the status of a TCP or ICMP connection past
the close, which then returns early; and where the RST of a close is refused, `send_to_client`
closes the connection itself and the outer close reports it again. Every other path reports once. -/

namespace SecureGuard.Native
open Machine

/-! ## What is to hold of a connection -/

/-- Open connections are neither reported nor marked, closed ones are marked and reported once, and
none is destroyed before. -/
structure ZdtunConn.Reported (c : ZdtunConn) : Prop where
  calls : c.closedCalls = c.status.isClosed.toNat
  marked : c.toPurge = c.status.isClosed
  gone : c.destroyed = true → c.closedCalls = 1

instance (c : ZdtunConn) : Decidable c.Reported :=
  decidable_of_iff (c.closedCalls = c.status.isClosed.toNat ∧ c.toPurge = c.status.isClosed ∧
    (c.destroyed = true → c.closedCalls = 1))
    ⟨fun h => ⟨h.1, h.2.1, h.2.2⟩, fun h => ⟨h.calls, h.marked, h.gone⟩⟩

/-- Besides, a closed connection has no socket. -/
structure ZdtunConn.Sound (c : ZdtunConn) : Prop extends c.Reported where
  socket : c.sockOpen = true → c.status.isClosed = false

/-- The connection is sound, or closed and, for good, not reported once. -/
def ZdtunConn.Settles (ok : Bool) (c : ZdtunConn) : Prop :=
  if ok then c.Sound else c.status.isClosed = true ∧ c.closedCalls ≠ 1

theorem ZdtunConn.Settles.reported_iff {ok : Bool} {c : ZdtunConn} (h : c.Settles ok) :
    c.Reported ↔ ok = true := by
  cases ok with
  | true => exact ⟨fun _ => rfl, fun _ => ZdtunConn.Sound.toReported h⟩
  | false =>
    obtain ⟨hclosed, hcalls⟩ : c.status.isClosed = true ∧ c.closedCalls ≠ 1 := h
    refine ⟨fun hr => absurd ?_ hcalls, fun hno => by cases hno⟩
    rw [hr.calls, hclosed]
    rfl

theorem ZdtunConn.Sound.settles {ok : Bool} {c : ZdtunConn} (h : c.Sound) (hok : ok = true) :
    c.Settles ok := by
  subst hok
  exact h

theorem sound_calloc (tuple : Tuple) : (ZdtunConn.calloc tuple).Sound :=
  ⟨⟨rfl, rfl, fun h => by cases h⟩, fun _ => rfl⟩

/-! ## Closing -/

/-- `remote2vpn` refuses the packet. -/
def Send.refused (s : Send) : Bool := s.blocked || s.write != .ok

theorem sendClient_ok (running : Bool) (s : Send) :
    (sendClient running s).2 = !(running && s.refused) := by
  cases running with
  | false => rfl
  | true =>
    obtain ⟨blocked, write⟩ := s
    cases blocked <;> cases write <;> rfl

/-- A packet that is not refused leaves the loop running. -/
theorem sendClient_running {running : Bool} {s : Send} (h : (running && s.refused) = false) :
    (sendClient running s).1 = running := by
  obtain ⟨blocked, write⟩ := s
  cases running with
  | false => rfl
  | true => cases blocked <;> cases write <;> first | rfl | cases h

namespace Turn

variable {t : Turn} {ok : Bool}

/-- The RST of a close is sent, and refused. -/
def rstLost (t : Turn) (rst : Send) : Bool :=
  t.conn.isTcp && t.running && !t.conn.finAckSent && rst.refused

theorem connectionClosed_isClosed (t : Turn) (status : ConnStatus) :
    (t.connectionClosed status).conn.status.isClosed = true := by
  simp only [connectionClosed, withConn]
  split
  · next hs => exact hs
  · rfl

theorem sound_closeSocket (h : t.conn.Sound) : t.closeSocket.conn.Sound :=
  ⟨⟨h.calls, h.marked, h.gone⟩, fun hs => by cases hs⟩

/-- The close of an open connection reports it. -/
theorem sound_connectionClosed (h : t.conn.Sound) (hopen : t.conn.status.isClosed = false)
    (hsock : t.conn.sockOpen = false) (status : ConnStatus) :
    (t.connectionClosed status).conn.Sound := by
  have hclosed := connectionClosed_isClosed t status
  have hcalls : t.conn.closedCalls = 0 := by
    rw [h.calls, hopen]
    rfl
  have honce : (t.connectionClosed status).conn.closedCalls = 1 := by
    rw [connectionClosed, withConn, hcalls]
  refine ⟨⟨?_, hclosed.symm, fun _ => honce⟩, fun hs => ?_⟩
  · rw [honce, hclosed]
    rfl
  · exact absurd (hsock.symm.trans hs) (by decide)

theorem sound_closeSilently (h : t.conn.Sound) (status : ConnStatus) :
    (t.closeSilently status).conn.Sound := by
  unfold closeSilently
  split
  · exact h
  · next hopen =>
    have hopen' : t.conn.status.isClosed = false := by simpa using hopen
    exact sound_connectionClosed (sound_closeSocket h) hopen' rfl status

theorem sound_updateConnStatus (h : t.conn.Sound) : t.updateConnStatus.conn.Sound := by
  refine ⟨⟨h.calls, ?_, h.gone⟩, h.socket⟩
  simp only [updateConnStatus, withConn, h.marked, Bool.or_self]

theorem sound_sendFailed (h : t.conn.Sound) : t.sendFailed.conn.Sound := by
  unfold sendFailed
  refine sound_closeSilently ?_ _
  exact ⟨⟨h.calls, h.marked, h.gone⟩, h.socket⟩

theorem sendFailed_isClosed (t : Turn) : t.sendFailed.conn.status.isClosed = true := by
  unfold sendFailed closeSilently
  split
  · assumption
  · exact connectionClosed_isClosed _ _

theorem sendFailed_calls (h : t.conn.status.isClosed = true) :
    t.sendFailed.conn.closedCalls = t.conn.closedCalls := by
  have hclosed : (t.withConn { t.conn with
      finAckSent := t.conn.finAckSent || t.conn.isTcp }).conn.status.isClosed = true := h
  rw [sendFailed, closeSilently, if_pos hclosed]
  rfl

/-- A packet for the client is passed, or the connection is closed without an RST. -/
theorem sendToClient_cases (t : Turn) (s : Send) :
    ((t.running && s.refused) = false ∧ t.sendToClient s = (t.updateConnStatus, true)) ∨
    ((t.running && s.refused) = true ∧
      t.sendToClient s = (sendFailed ⟨(sendClient t.running s).1, t.conn⟩, false)) := by
  have hok := sendClient_ok t.running s
  cases hlost : t.running && s.refused with
  | false =>
    rw [hlost] at hok
    have hrunning := sendClient_running hlost
    exact Or.inl ⟨rfl, by simp [sendToClient, hok, hrunning]⟩
  | true =>
    rw [hlost] at hok
    exact Or.inr ⟨rfl, by simp [sendToClient, hok]⟩

theorem sound_sendToClient (h : t.conn.Sound) (s : Send) : (t.sendToClient s).1.conn.Sound := by
  rcases sendToClient_cases t s with ⟨-, he⟩ | ⟨-, he⟩
  · rw [he]
    exact sound_updateConnStatus h
  · rw [he]
    exact sound_sendFailed (t := ⟨_, t.conn⟩) h

/-- **A close reports an open connection once, unless its RST is refused.** -/
theorem settles_zdtunConnClose (h : t.conn.Sound) (status : ConnStatus) (rst : Send) :
    (t.zdtunConnClose status rst).conn.Settles (t.conn.status.isClosed || !t.rstLost rst) := by
  unfold zdtunConnClose
  split
  · next hclosed => exact h.settles (by rw [hclosed, Bool.true_or])
  · next hopen =>
    have hopen' : t.conn.status.isClosed = false := by simpa using hopen
    have hsock := sound_closeSocket h
    rw [hopen', Bool.false_or]
    dsimp only
    split
    · next hsends =>
      have hlost : t.rstLost rst = (t.running && rst.refused) := by
        obtain ⟨htcp, hfin⟩ : t.conn.isTcp = true ∧ t.conn.finAckSent = false := by
          simpa [closeSocket, withConn, ZdtunConn.isTcp] using hsends
        simp only [rstLost, htcp, hfin, Bool.true_and, Bool.not_false, Bool.and_true]
      rcases sendToClient_cases t.closeSocket rst with ⟨hkept, he⟩ | ⟨hrefused, he⟩
      · rw [he]
        refine ZdtunConn.Sound.settles ?_ (by rw [hlost]; exact congrArg not hkept)
        exact sound_connectionClosed (sound_updateConnStatus hsock) hopen' rfl status
      · -- the connection is closed and reported before the close goes on
        have hno : (!t.rstLost rst) = false := by
          rw [hlost]
          exact congrArg not hrefused
        rw [hno, he]
        refine ⟨connectionClosed_isClosed _ status, ?_⟩
        have hcalls : t.conn.closedCalls = 0 := by
          rw [h.calls, hopen']
          rfl
        have hinner : (sendFailed ⟨(sendClient t.closeSocket.running rst).1,
            t.closeSocket.conn⟩).conn.closedCalls = 1 := by
          rw [sendFailed, closeSilently, if_neg (by simpa [closeSocket, withConn] using hopen)]
          simp only [connectionClosed, closeSocket, withConn, hcalls]
        dsimp only [connectionClosed, withConn]
        rw [hinner]
        decide
    · next hsilent =>
      refine (sound_connectionClosed hsock hopen' rfl status).settles ?_
      have hno : (t.conn.isTcp && !t.conn.finAckSent) = false := by
        simpa [closeSocket, withConn, ZdtunConn.isTcp] using hsilent
      simp only [rstLost]
      cases htcp : t.conn.isTcp <;> simp_all

/-- What is closed and not reported once stays so. -/
theorem settles_sendToClient (h : t.conn.Settles ok) (s : Send) :
    (t.sendToClient s).1.conn.Settles ok := by
  cases ok with
  | true => exact sound_sendToClient (ZdtunConn.Sound.mk h.1 h.2) s
  | false =>
    obtain ⟨hclosed, hcalls⟩ : t.conn.status.isClosed = true ∧ t.conn.closedCalls ≠ 1 := h
    rcases sendToClient_cases t s with ⟨-, he⟩ | ⟨-, he⟩
    · rw [he]
      exact ⟨hclosed, hcalls⟩
    · rw [he]
      refine ⟨sendFailed_isClosed _, ?_⟩
      have hsame := sendFailed_calls (t := ⟨(sendClient t.running s).1, t.conn⟩) hclosed
      exact fun hone => hcalls (hsame.symm.trans hone)

/-! ## The paths that close -/

/-- What a handler leaves, and that the connection is closed where it reports an error. -/
def Outcome (ok : Bool) (r : Turn × Bool) : Prop :=
  r.1.conn.Settles ok ∧ (r.2 = false → r.1.conn.status.isClosed = true)

theorem zdtunConnClose_isClosed (t : Turn) (status : ConnStatus) (rst : Send) :
    (t.zdtunConnClose status rst).conn.status.isClosed = true := by
  unfold zdtunConnClose
  split
  · assumption
  · exact connectionClosed_isClosed _ status

theorem outcome_stay (h : t.conn.Sound) : Outcome true (t, true) :=
  ⟨h, fun hno => by cases hno⟩

theorem outcome_close (h : t.conn.Sound) (hopen : t.conn.status.isClosed = false)
    (status : ConnStatus) (rst : Send) (b : Bool) :
    Outcome (!t.rstLost rst) (t.zdtunConnClose status rst, b) := by
  have hs := settles_zdtunConnClose h status rst
  rw [hopen, Bool.false_or] at hs
  exact ⟨hs, fun _ => zdtunConnClose_isClosed t status rst⟩

theorem sendToClient_error {s : Send} (h : (t.sendToClient s).2 = false) :
    (t.sendToClient s).1.conn.status.isClosed = true := by
  rcases sendToClient_cases t s with ⟨-, he⟩ | ⟨-, he⟩
  · rw [he] at h
    cases h
  · rw [he]
    exact sendFailed_isClosed _

theorem outcome_send (h : t.conn.Sound) (s : Send) : Outcome true (t.sendToClient s) :=
  ⟨sound_sendToClient h s, sendToClient_error⟩

variable {r : Turn × Bool} {closes lost : Bool}

theorem Outcome.closing (hc : closes = true) (h : Outcome (!lost) r) :
    Outcome (!(closes && lost)) r := by
  rw [hc]
  exact h

theorem Outcome.congr {closes' : Bool} (h : Outcome (!(closes && lost)) r)
    (hc : closes' = closes) : Outcome (!(closes' && lost)) r := by
  rw [hc]
  exact h

theorem Outcome.keeping (hc : closes = false) (h : Outcome true r) :
    Outcome (!(closes && lost)) r := by
  rw [hc]
  exact h

variable {a : Answers} {pkt : Segment}

theorem outcome_socketError (h : t.conn.Sound) (hopen : t.conn.status.isClosed = false)
    (errno : SocketErrno) (rst : Send) (b : Bool) :
    Outcome (!t.rstLost rst) ((t.closeWithSocketError errno rst).1, b) :=
  outcome_close h hopen errno.status rst b

/-! ## SOCKS5 -/

theorem outcome_socks5Send (h : t.conn.Sound) (hopen : t.conn.status.isClosed = false)
    (next : Socks5Status) :
    Outcome (!(a.send.isSome && t.rstLost a.rst)) (t.socks5Send next a) := by
  unfold socks5Send
  split
  · next errno hsend =>
    exact Outcome.closing (by rw [hsend]; rfl) (outcome_socketError h hopen errno a.rst _)
  · next hsend =>
    refine Outcome.keeping (by rw [hsend]; rfl) (outcome_stay ?_)
    exact ⟨⟨h.calls, h.marked, h.gone⟩, h.socket⟩

/-- The bound address does not fit in what is to be skipped. -/
def socks5SkipCloses (t : Turn) (len : Nat) : Bool := t.conn.socks5Skip < len

theorem outcome_socks5SkipBnd (h : t.conn.Sound) (hopen : t.conn.status.isClosed = false)
    (len : Nat) :
    Outcome (!(t.socks5SkipCloses len && t.rstLost a.rst)) (t.socks5SkipBnd len a) := by
  unfold socks5SkipBnd
  split
  · next hle =>
    refine Outcome.keeping (by simpa [socks5SkipCloses] using hle) (outcome_stay ?_)
    exact ⟨⟨h.calls, h.marked, h.gone⟩, h.socket⟩
  · next hlt =>
    exact Outcome.closing (by simpa [socks5SkipCloses] using hlt)
      (outcome_close h hopen .socks5Error a.rst false)

/-- `handle_socks5_reply` closes the connection. -/
def socks5ReplyCloses (t : Turn) (data : List UInt8) (a : Answers) : Bool :=
  match t.conn.socks5Status with
  | .hello =>
    data.length != 2 || byteAt data 0 != 5 ||
      (byteAt data 1 != 0 && !(byteAt data 1 == 2 && a.socks5User)) || a.send.isSome
  | .auth => data.length < 2 || byteAt data 0 != 1 || byteAt data 1 != 0 || a.send.isSome
  | .connecting =>
    data.length < 4 || byteAt data 0 != 5 || byteAt data 1 != 0 ||
      (byteAt data 3 != 1 && byteAt data 3 != 4) ||
      (4 < data.length && socks5BndLen (byteAt data 3) < data.length - 4)
  | .skipBnd => t.socks5SkipCloses data.length
  | .established => true

theorem outcome_socks5Refuse (h : t.conn.Sound) (hopen : t.conn.status.isClosed = false)
    {closes : Bool} (hc : closes = true) :
    Outcome (!(closes && t.rstLost a.rst)) (t.socks5Refuse a) :=
  Outcome.closing hc (outcome_close h hopen .socks5Error a.rst false)

theorem outcome_handleSocks5Reply (h : t.conn.Sound) (hopen : t.conn.status.isClosed = false)
    (data : List UInt8) :
    Outcome (!(t.socks5ReplyCloses data a && t.rstLost a.rst)) (t.handleSocks5Reply data a) := by
  have hnot : ∀ {b : Bool}, ¬ b = true → b = false := fun hb => (Bool.not_eq_true _).mp hb
  unfold handleSocks5Reply socks5ReplyCloses
  cases t.conn.socks5Status with
  | hello =>
    dsimp only
    split
    · next hbad => exact outcome_socks5Refuse h hopen (by rw [hbad]; rfl)
    · next hgood =>
      split
      · next hauth =>
        split
        · next huser =>
          exact (outcome_socks5Send h hopen .auth).congr (by rw [hnot hgood, hauth, huser]; rfl)
        · next hnone =>
          exact outcome_socks5Refuse h hopen (by rw [hnot hgood, hauth, hnot hnone]; rfl)
      · next hfree =>
        exact (outcome_socks5Send h hopen .connecting).congr
          (by rw [hnot hgood, hnot hfree]; rfl)
  | auth =>
    dsimp only
    split
    · next hbad => exact outcome_socks5Refuse h hopen (by rw [hbad]; rfl)
    · next hgood =>
      exact (outcome_socks5Send h hopen .connecting).congr (by rw [hnot hgood]; rfl)
  | connecting =>
    dsimp only
    split
    · next hbad => exact outcome_socks5Refuse h hopen (by rw [hbad]; rfl)
    · next hgood =>
      split
      · next hfailed =>
        exact Outcome.closing (by rw [hnot hgood, hfailed]; rfl) (outcome_close h hopen _ a.rst _)
      · next hgranted =>
        split
        · next haddr =>
          exact outcome_socks5Refuse h hopen
            (by rw [hnot hgood, hnot hgranted, haddr]; rfl)
        · next haddr =>
          have hskip : (t.withConn { t.conn with
              socks5Skip := socks5BndLen (byteAt data 3), socks5Status := .skipBnd }).conn.Sound :=
            ⟨⟨h.calls, h.marked, h.gone⟩, h.socket⟩
          rw [hnot hgood, hnot hgranted, hnot haddr]
          split
          · next hmore =>
            refine (outcome_socks5SkipBnd hskip hopen (data.length - 4)).congr ?_
            rw [decide_eq_true hmore]
            rfl
          · next hend =>
            exact Outcome.keeping (by rw [decide_eq_false hend]; rfl) (outcome_stay hskip)
  | skipBnd => exact outcome_socks5SkipBnd h hopen data.length
  | established => exact outcome_socks5Refuse h hopen rfl

/-! ## From the tun -/

/-- The status of an open connection may be set to another open one. -/
theorem sound_withStatus (h : t.conn.Sound) (hopen : t.conn.status.isClosed = false)
    (status : ConnStatus) (hnext : status.isClosed = false) :
    (t.withConn { t.conn with status := status }).conn.Sound := by
  refine ⟨⟨?_, ?_, h.gone⟩, fun _ => hnext⟩
  · rw [withConn, hnext, ← hopen]
    exact h.calls
  · rw [withConn, hnext, ← hopen]
    exact h.marked

def tcpSynCloses (t : Turn) (a : Answers) : Bool := t.conn.proxySocks5 && a.send.isSome

theorem outcome_tcpSocketSyn (h : t.conn.Sound) (hopen : t.conn.status.isClosed = false) :
    Outcome (!(t.tcpSynCloses a && t.rstLost a.rst)) (t.tcpSocketSyn a) := by
  have hconnected := sound_withStatus h hopen .connected rfl
  unfold tcpSocketSyn
  dsimp only
  split
  · next hproxy =>
    have hproxy' : t.conn.proxySocks5 = true := hproxy
    exact (outcome_socks5Send hconnected rfl .hello).congr (by rw [tcpSynCloses, hproxy']; rfl)
  · next hdirect =>
    have hdirect' : t.conn.proxySocks5 = false := by simpa [withConn] using hdirect
    exact Outcome.keeping (by rw [tcpSynCloses, hdirect']; rfl) (outcome_send hconnected a.reply)

def openTcpCloses (t : Turn) (a : Answers) : Bool :=
  match a.connect with
  | .error _ => true
  | .done => t.tcpSynCloses a
  | .inProgress => false

theorem outcome_openTcp (h : t.conn.Sound) (hopen : t.conn.status.isClosed = false)
    (hsocket : a.opened = true) :
    Outcome (!(t.openTcpCloses a && t.rstLost a.rst)) (t.openTcp a) := by
  have hsock : (t.withConn { t.conn with sockOpen := true }).updateConnStatus.conn.Sound :=
    sound_updateConnStatus ⟨⟨h.calls, h.marked, h.gone⟩, fun _ => hopen⟩
  unfold openTcp openTcpCloses
  rw [hsocket]
  cases a.connect with
  | error errno => exact Outcome.closing rfl (outcome_socketError hsock hopen errno a.rst true)
  | done => exact outcome_tcpSocketSyn hsock hopen
  | inProgress =>
    exact Outcome.keeping rfl (outcome_stay (sound_withStatus hsock hopen .connecting rfl))

def payloadCloses (t : Turn) (pkt : Segment) (a : Answers) : Bool :=
  pkt.l7Len ≠ 0 && t.conn.sockOpen && !a.alloc

theorem outcome_tcpPayload (h : t.conn.Sound) (hopen : t.conn.status.isClosed = false) :
    Outcome (!(t.payloadCloses pkt a && t.rstLost a.rst)) (t.tcpPayload pkt a) := by
  unfold tcpPayload enqueueTcpData
  split
  · next hempty => exact Outcome.keeping (by simp [payloadCloses, hempty]) (outcome_stay h)
  · next hlen =>
    split
    · next hsock =>
      split
      · next halloc =>
        exact Outcome.closing (by simp_all [payloadCloses]) (outcome_close h hopen .error a.rst _)
      · next halloc =>
        refine Outcome.keeping (by simp_all [payloadCloses]) (outcome_stay ?_)
        exact ⟨⟨h.calls, h.marked, h.gone⟩, h.socket⟩
    · next hsock =>
      exact Outcome.keeping (by simp [payloadCloses, hsock]) (outcome_send h a.reply)

/-- The client gets the reply, if one is sent. -/
def replies (t : Turn) (a : Answers) : Bool := !(t.running && a.reply.refused)

def segmentCloses (t : Turn) (pkt : Segment) (a : Answers) : Bool :=
  if pkt.fin && pkt.ack then !t.conn.sockOpen && t.replies a
  else t.payloadCloses pkt a && (!(pkt.ack && pkt.keepAlive) || t.replies a)

def activeCloses (t : Turn) (pkt : Segment) (a : Answers) : Bool :=
  (pkt.keepAlive || pkt.inSequence) &&
    (t.conn.socks5InProgress || pkt.rst || t.segmentCloses pkt a)

/-- The client has closed its side. -/
theorem outcome_finAck (h : t.conn.Sound) (hopen : t.conn.status.isClosed = false) :
    Outcome (!((!t.conn.sockOpen && t.replies a) && t.rstLost a.rst))
      (let (t, ok) := (t.withConn { t.conn with clientClosed := true }).sendToClient a.reply
      (if t.conn.sockOpen then t else t.zdtunConnClose .closed a.rst, ok)) := by
  have hclient : (t.withConn { t.conn with clientClosed := true }).conn.Sound :=
    ⟨⟨h.calls, h.marked, h.gone⟩, h.socket⟩
  rcases sendToClient_cases (t.withConn { t.conn with clientClosed := true }) a.reply with
    ⟨hkept, he⟩ | ⟨hrefused, he⟩
  · have hreply : t.replies a = true := congrArg not hkept
    have hsound := sound_updateConnStatus hclient
    rw [he, hreply, Bool.and_true]
    dsimp only
    split
    · next hsock =>
      have hsock' : t.conn.sockOpen = true := hsock
      exact Outcome.keeping (by rw [hsock']; rfl) (outcome_stay hsound)
    · next hsock =>
      have hsock' : t.conn.sockOpen = false := by simpa [updateConnStatus, withConn] using hsock
      exact Outcome.closing (by rw [hsock']; rfl) (outcome_close hsound hopen .closed a.rst true)
  · have hreply : t.replies a = false := congrArg not hrefused
    have hsent := outcome_send hclient a.reply
    rw [he] at hsent
    have hclosed := hsent.2 rfl
    refine Outcome.keeping (by rw [hreply, Bool.and_false]) ?_
    rw [he]
    dsimp only at hclosed ⊢
    rw [zdtunConnClose, if_pos hclosed, ite_self]
    exact hsent

theorem outcome_forwardActive (h : t.conn.Sound) (hopen : t.conn.status.isClosed = false) :
    Outcome (!(t.activeCloses pkt a && t.rstLost a.rst)) (t.forwardActive pkt a) := by
  have hsound := sound_updateConnStatus h
  unfold forwardActive activeCloses
  dsimp only
  split
  · next hignored => exact Outcome.keeping (by simp_all) (outcome_stay hsound)
  · next hseq =>
    have hin : (pkt.keepAlive || pkt.inSequence) = true := by
      cases hk : pkt.keepAlive <;> simp_all
    rw [hin, Bool.true_and]
    split
    · next hsocks =>
      have hsocks' : t.conn.socks5InProgress = true := hsocks
      exact outcome_socks5Refuse hsound hopen (by rw [hsocks']; rfl)
    · next hsocks =>
      have hsocks' : t.conn.socks5InProgress = false := (Bool.not_eq_true _).mp hsocks
      rw [hsocks', Bool.false_or]
      split
      · next hrst => exact Outcome.closing (by rw [hrst]; rfl) (outcome_close hsound hopen _ _ _)
      · next hrst =>
        rw [(Bool.not_eq_true _).mp hrst, Bool.false_or]
        split
        · next hfin =>
          rw [segmentCloses, if_pos hfin]
          exact outcome_finAck hsound hopen
        · next hfin =>
          rw [segmentCloses, if_neg hfin]
          split
          · next hkeep =>
            obtain ⟨⟨hack, hsock⟩, halive⟩ : (pkt.ack = true ∧ t.conn.sockOpen = true) ∧
                pkt.keepAlive = true := by
              simpa [updateConnStatus, withConn] using hkeep
            rw [hack, halive]
            rcases sendToClient_cases t.updateConnStatus a.reply with ⟨hkept, he⟩ | ⟨hrefused, he⟩
            · have hreply : t.replies a = true := congrArg not hkept
              rw [he, hreply, Bool.or_true, Bool.and_true]
              exact outcome_tcpPayload (t := t.updateConnStatus.updateConnStatus)
                (sound_updateConnStatus hsound) hopen
            · have hreply : t.replies a = false := congrArg not hrefused
              have hsent := outcome_send hsound a.reply
              rw [he] at hsent
              refine Outcome.keeping (by rw [hreply]; simp) ?_
              rw [he]
              exact hsent
          · next hplain =>
            refine (outcome_tcpPayload hsound hopen).congr ?_
            have hsame : t.updateConnStatus.payloadCloses pkt a = t.payloadCloses pkt a := rfl
            rw [hsame]
            cases hsock : t.conn.sockOpen with
            | false => simp [payloadCloses, hsock]
            | true =>
              have hno : (pkt.ack && pkt.keepAlive) = false := by
                have hsock' : t.updateConnStatus.conn.sockOpen = true := hsock
                cases hack : pkt.ack <;> simp_all
              rw [hno, Bool.not_false, Bool.true_or, Bool.and_true]

/-- `handle_tcp_fwd` closes the connection itself. -/
def tcpFwdCloses (t : Turn) (pkt : Segment) (a : Answers) : Bool :=
  pkt.urg ||
    (t.conn.status != .connecting &&
      if t.conn.status = .new then a.opened && t.openTcpCloses a else t.activeCloses pkt a)

/-- A socket is needed and cannot be opened. -/
def tcpSocketFails (t : Turn) (pkt : Segment) (a : Answers) : Bool :=
  !pkt.urg && t.conn.status == .new && !a.opened

/-- The status alone is set: the connection is closed, and never reported. -/
theorem outcome_socketFails (h : t.conn.Sound) (hopen : t.conn.status.isClosed = false) :
    Outcome false (t.withConn { t.conn with status := .socketError }, false) := by
  have hcalls : t.conn.closedCalls = 0 := by
    rw [h.calls, hopen]
    rfl
  have hnone : (t.withConn { t.conn with status := .socketError }).conn.closedCalls = 0 := hcalls
  exact ⟨⟨rfl, fun hone => absurd (hnone.symm.trans hone) (by decide)⟩, fun _ => rfl⟩

theorem outcome_handleTcpFwd (h : t.conn.Sound) (hopen : t.conn.status.isClosed = false) :
    Outcome (!(t.tcpSocketFails pkt a || (t.tcpFwdCloses pkt a && t.rstLost a.rst)))
      (t.handleTcpFwd pkt a) := by
  unfold handleTcpFwd
  cases hfail : t.tcpSocketFails pkt a with
  | true =>
    obtain ⟨⟨hurg, hnew⟩, hsocket⟩ : (pkt.urg = false ∧ t.conn.status = .new) ∧
        a.opened = false := by simpa [tcpSocketFails] using hfail
    rw [hurg, hnew, openTcp, hsocket]
    exact outcome_socketFails h hopen
  | false =>
    rw [Bool.false_or]
    split
    · next hurg =>
      exact Outcome.closing (by rw [tcpFwdCloses, hurg]; rfl) (outcome_close h hopen .error a.rst _)
    · next hurg =>
      have hurg' : pkt.urg = false := (Bool.not_eq_true _).mp hurg
      split
      · next hwait =>
        exact Outcome.keeping (by rw [tcpFwdCloses, hurg', hwait]; rfl) (outcome_stay h)
      · next hwait =>
        split
        · next hnew =>
          have hsocket : a.opened = true := by simpa [tcpSocketFails, hurg', hnew] using hfail
          refine (outcome_openTcp h hopen hsocket).congr ?_
          rw [tcpFwdCloses, hurg', hnew, hsocket]
          rfl
        · next hactive =>
          refine (outcome_forwardActive h hopen).congr ?_
          simp [tcpFwdCloses, hurg', hwait, hactive]

/-! ## Connections that are not TCP -/

/-- The connection is sound, and no close of it sends an RST. -/
structure Plain (t : Turn) : Prop where
  sound : t.conn.Sound
  notTcp : t.conn.isTcp = false

theorem plain_zdtunConnClose (h : t.Plain) (status : ConnStatus) (rst : Send) :
    (t.zdtunConnClose status rst).Plain := by
  have hs := settles_zdtunConnClose h.sound status rst
  have hlost : t.rstLost rst = false := by rw [rstLost, h.notTcp]; rfl
  rw [hlost, Bool.not_false, Bool.or_true] at hs
  refine ⟨hs, ?_⟩
  unfold zdtunConnClose
  split
  · exact h.notTcp
  · have hno : (t.closeSocket.conn.isTcp && !t.closeSocket.conn.finAckSent) = false := by
      have hsame : t.closeSocket.conn.isTcp = false := h.notTcp
      rw [hsame, Bool.false_and]
    dsimp only
    rw [hno]
    exact h.notTcp

theorem plain_sendToClient (h : t.Plain) (s : Send) : (t.sendToClient s).1.Plain := by
  refine ⟨sound_sendToClient h.sound s, ?_⟩
  rcases sendToClient_cases t s with ⟨-, he⟩ | ⟨-, he⟩
  · rw [he]
    exact h.notTcp
  · rw [he]
    unfold sendFailed closeSilently
    split
    · exact h.notTcp
    · exact h.notTcp

theorem plain_socks5Connect (h : t.Plain) (a : Answers) : (t.socks5Connect a).1.Plain := by
  unfold socks5Connect socks5Send
  split
  · exact plain_zdtunConnClose h _ a.rst
  · exact ⟨⟨⟨h.sound.calls, h.sound.marked, h.sound.gone⟩, h.sound.socket⟩, h.notTcp⟩

theorem plain_sendUdp (h : t.Plain) (pkt : Segment) (a : Answers) : (t.sendUdp pkt a).1.Plain := by
  have hup : t.updateConnStatus.Plain := ⟨sound_updateConnStatus h.sound, h.notTcp⟩
  unfold sendUdp
  dsimp only
  split
  · exact plain_socks5Connect hup a
  · split
    · exact plain_zdtunConnClose hup _ a.rst
    · exact ⟨⟨⟨hup.sound.calls, hup.sound.marked, hup.sound.gone⟩, hup.sound.socket⟩, h.notTcp⟩

theorem plain_handleUdpFwd (h : t.Plain) (hopen : t.conn.status.isClosed = false) (pkt : Segment)
    (a : Answers) : (t.handleUdpFwd pkt a).1.Plain := by
  have hsock : (t.withConn { t.conn with sockOpen := true }).Plain :=
    ⟨⟨⟨h.sound.calls, h.sound.marked, h.sound.gone⟩, fun _ => hopen⟩, h.notTcp⟩
  unfold handleUdpFwd
  split
  · split
    · exact h
    · dsimp only
      split
      · exact plain_zdtunConnClose hsock _ a.rst
      · exact plain_zdtunConnClose hsock _ a.rst
      · exact plain_sendUdp ⟨sound_withStatus hsock.sound hopen .connected rfl, h.notTcp⟩ pkt a
  · exact plain_sendUdp h pkt a

theorem plain_sendIcmp (h : t.Plain) (a : Answers) : (t.sendIcmp a).1.Plain := by
  have hup : t.updateConnStatus.Plain := ⟨sound_updateConnStatus h.sound, h.notTcp⟩
  unfold sendIcmp
  dsimp only
  split
  · exact plain_zdtunConnClose hup _ a.rst
  · exact hup

/-- A socket is needed and cannot be opened. -/
def icmpSocketFails (t : Turn) (a : Answers) : Bool := t.conn.status == .new && !a.opened

theorem plain_handleIcmpFwd (h : t.Plain) (hopen : t.conn.status.isClosed = false)
    (hsocket : t.icmpSocketFails a = false) : (t.handleIcmpFwd a).1.Plain := by
  unfold handleIcmpFwd
  split
  · next hnew =>
    have hopened : a.opened = true := by simpa [icmpSocketFails, hnew] using hsocket
    rw [if_neg (by rw [hopened]; decide)]
    apply plain_sendIcmp
    refine ⟨?_, h.notTcp⟩
    refine sound_withStatus (t := t.withConn { t.conn with sockOpen := true }) ?_ hopen _ rfl
    exact ⟨⟨h.sound.calls, h.sound.marked, h.sound.gone⟩, fun _ => hopen⟩
  · exact plain_sendIcmp h a

/-! ## The whole of a packet -/

/-- A new connection needs a socket for the packet, and cannot get one. UDP is spared: there the
status stays as it is. -/
def socketFails (t : Turn) (pkt : Segment) (a : Answers) : Bool :=
  match t.conn.tuple.ipproto with
  | .tcp => t.tcpSocketFails pkt a
  | .icmp => t.icmpSocketFails a
  | .udp => false

theorem settles_zdtunForward (h : t.conn.Sound) (hopen : t.conn.status.isClosed = false)
    (pkt : Segment) (a : Answers) :
    (t.zdtunForward pkt a).1.conn.Settles
        (!(t.socketFails pkt a || (t.tcpFwdCloses pkt a && t.rstLost a.rst))) ∧
      ((t.zdtunForward pkt a).2 = false → (t.zdtunForward pkt a).1.conn.status.isClosed = true ∨
        (t.zdtunForward pkt a).1.conn.isTcp = false) := by
  unfold zdtunForward
  rw [if_neg (by rw [hopen]; decide)]
  cases hproto : t.conn.tuple.ipproto with
  | tcp =>
    have houtcome : Outcome _ (t.handleTcpFwd pkt a) := outcome_handleTcpFwd h hopen
    obtain ⟨hsettles, herror⟩ := houtcome
    rw [socketFails, hproto]
    exact ⟨hsettles, fun hr => Or.inl (herror hr)⟩
  | udp =>
    have hno : t.conn.isTcp = false := by rw [ZdtunConn.isTcp, hproto]; rfl
    have hplain := plain_handleUdpFwd ⟨h, hno⟩ hopen pkt a
    refine ⟨hplain.sound.settles ?_, fun _ => Or.inr hplain.notTcp⟩
    simp [socketFails, hproto, rstLost, hno]
  | icmp =>
    have hno : t.conn.isTcp = false := by rw [ZdtunConn.isTcp, hproto]; rfl
    rw [socketFails, hproto]
    dsimp only
    cases hfail : t.icmpSocketFails a with
    | true =>
      obtain ⟨hnew, hsocket⟩ : t.conn.status = .new ∧ a.opened = false := by
        simpa [icmpSocketFails] using hfail
      obtain ⟨hsettles, herror⟩ := outcome_socketFails h hopen
      rw [Bool.true_or, handleIcmpFwd, if_pos hnew, hsocket]
      exact ⟨hsettles, fun hr => Or.inl (herror hr)⟩
    | false =>
      have hplain := plain_handleIcmpFwd ⟨h, hno⟩ hopen hfail
      refine ⟨hplain.sound.settles ?_, fun _ => Or.inr hplain.notTcp⟩
      simp [rstLost, hno]

/-- The packet is forwarded and a socket it needs cannot be opened, or a close on its way loses
the RST. -/
def forwardFails (t : Turn) (pkt : Segment) (a : Answers) : Bool :=
  !pkt.blocked && !t.conn.status.isClosed &&
    (t.socketFails pkt a || ((t.zdtunConnProxy pkt).tcpFwdCloses pkt a && t.rstLost a.rst))

theorem settles_afterError (h : t.conn.Settles ok)
    (hquiet : t.conn.status.isClosed = true ∨ t.conn.isTcp = false) (rst : Send) :
    (t.zdtunConnClose .error rst).conn.Settles ok := by
  cases ok with
  | true =>
    have hsound : t.conn.Sound := h
    rcases hquiet with hclosed | hplain
    · rw [zdtunConnClose, if_pos hclosed]
      exact h
    · exact (plain_zdtunConnClose ⟨hsound, hplain⟩ .error rst).sound
  | false =>
    rw [zdtunConnClose, if_pos h.1]
    exact h

theorem settles_forward (h : t.conn.Sound) (pkt : Segment) (a : Answers) :
    (t.forward pkt a).conn.Settles (!t.forwardFails pkt a) := by
  have hp : (t.zdtunConnProxy pkt).conn.Sound := ⟨⟨h.calls, h.marked, h.gone⟩, h.socket⟩
  unfold forward forwardFails
  dsimp only
  split
  · next hblocked =>
    refine ZdtunConn.Sound.settles ?_ (by rw [hblocked]; rfl)
    split
    · next hspoofed =>
      have hudp : (t.zdtunConnProxy pkt).conn.isTcp = false := by
        simp only [Bool.and_eq_true, beq_iff_eq] at hspoofed
        rw [ZdtunConn.isTcp, hspoofed.2]
        rfl
      exact (plain_zdtunConnClose ⟨hp, hudp⟩ .closed a.rst).sound
    · exact hp
  · next hpassed =>
    rw [(Bool.not_eq_true _).mp hpassed, Bool.not_false, Bool.true_and]
    cases hclosed : t.conn.status.isClosed with
    | true =>
      have hclosed' : (t.zdtunConnProxy pkt).conn.status.isClosed = true := hclosed
      rw [zdtunForward, if_pos hclosed']
      exact hp
    | false =>
      obtain ⟨hsettles, herror⟩ := settles_zdtunForward hp hclosed pkt a
      rw [Bool.not_false, Bool.true_and]
      split
      · exact hsettles
      · next hr => exact settles_afterError hsettles (herror ((Bool.not_eq_true _).mp hr)) a.rst

/-! ## From the sockets -/

/-- The close that follows the server's sends no RST: `fin_ack_sent` is set. -/
theorem sound_serverClosed (h : t.conn.Sound) (a : Answers) : (t.serverClosed a).conn.Sound := by
  have hfin : ∀ t' : Turn, t'.conn.Sound → t'.conn.finAckSent = true →
      (if t'.conn.clientClosed then t'.closeSocket.zdtunConnClose .closed a.rst
        else t'.closeSocket).conn.Sound := by
    intro t' hs hfin
    split
    · have hsettles := settles_zdtunConnClose (sound_closeSocket hs) .closed a.rst
      have hlost : t'.closeSocket.rstLost a.rst = false := by
        have hfin' : t'.closeSocket.conn.finAckSent = true := hfin
        simp [rstLost, hfin']
      rw [hlost, Bool.not_false, Bool.or_true] at hsettles
      exact hsettles
    · exact sound_closeSocket hs
  unfold serverClosed
  dsimp only
  split
  · next hsent => exact hfin t h hsent
  · have hs := sound_sendToClient h a.reply
    exact hfin ((t.sendToClient a.reply).1.withConn
      { (t.sendToClient a.reply).1.conn with finAckSent := true })
      ⟨⟨hs.calls, hs.marked, hs.gone⟩, hs.socket⟩ rfl

/-- `handle_tcp_reply` closes the connection itself. -/
def tcpReplyCloses (t : Turn) (r : Recv) (a : Answers) : Bool :=
  match r with
  | .error _ => true
  | .data bytes windowFull _ _ _ =>
    bytes ≠ [] &&
      (if t.conn.socks5InProgress then t.socks5ReplyCloses bytes a else windowFull)

theorem settles_handleTcpReply (h : t.conn.Sound) (hopen : t.conn.status.isClosed = false)
    (r : Recv) (a : Answers) :
    (t.handleTcpReply r a).conn.Settles (!(t.tcpReplyCloses r a && t.rstLost a.rst)) := by
  cases r with
  | error errno => exact (outcome_socketError h hopen errno a.rst true).1
  | data bytes windowFull dnsResponse tooSmall unsupported =>
    unfold handleTcpReply
    dsimp only
    split
    · next hend =>
      exact (sound_serverClosed h a).settles (by simp [tcpReplyCloses, hend])
    · next hbytes =>
      split
      · next hsocks =>
        have hsame : t.tcpReplyCloses (.data bytes windowFull dnsResponse tooSmall unsupported) a =
            t.socks5ReplyCloses bytes a := by simp [tcpReplyCloses, hbytes, hsocks]
        have hreply := outcome_handleSocks5Reply (a := a) h hopen bytes
        rw [hsame]
        split
        · exact settles_sendToClient hreply.1 a.reply
        · exact hreply.1
      · next hdirect =>
        split
        · next hfull =>
          exact (Outcome.closing (by simp [tcpReplyCloses, hbytes, hdirect, hfull])
            (outcome_close h hopen .error a.rst true)).1
        · next hroom =>
          exact (sound_sendToClient h a.reply).settles
            (by simp [tcpReplyCloses, hbytes, hdirect, hroom])

theorem plain_handleUdpReply (h : t.Plain) (r : Recv) (a : Answers) :
    (t.handleUdpReply r a).Plain := by
  unfold handleUdpReply
  split
  · exact plain_zdtunConnClose h _ a.rst
  · have hsent := plain_sendToClient h a.reply
    dsimp only
    split
    · unfold checkDnsPurge
      have hless : ((t.sendToClient a.reply).1.withConn { (t.sendToClient a.reply).1.conn with
          pendingQueries := (t.sendToClient a.reply).1.conn.pendingQueries - 1 }).Plain :=
        ⟨⟨⟨hsent.sound.calls, hsent.sound.marked, hsent.sound.gone⟩, hsent.sound.socket⟩,
          hsent.notTcp⟩
      split
      · dsimp only
        split
        · exact plain_zdtunConnClose hless .closed a.rst
        · exact hless
      · exact hsent
    · exact hsent

theorem plain_handleIcmpReply (h : t.Plain) (r : Recv) (a : Answers) :
    (t.handleIcmpReply r a).Plain := by
  unfold handleIcmpReply
  split
  · exact plain_zdtunConnClose h _ a.rst
  · split
    · exact plain_zdtunConnClose h .error a.rst
    · exact plain_sendToClient h a.reply

theorem settles_readable (h : t.conn.Sound) (r : Recv) (a : Answers) :
    (t.readable r a).conn.Settles
      (!(t.conn.sockOpen && t.tcpReplyCloses r a && t.rstLost a.rst)) := by
  unfold readable
  cases hsock : t.conn.sockOpen with
  | false => exact h
  | true =>
    rw [if_neg (by decide), Bool.true_and]
    cases hproto : t.conn.tuple.ipproto with
    | tcp => exact settles_handleTcpReply h (h.socket hsock) r a
    | udp =>
      have hno : t.conn.isTcp = false := by rw [ZdtunConn.isTcp, hproto]; rfl
      exact (plain_handleUdpReply ⟨h, hno⟩ r a).sound.settles (by simp [rstLost, hno])
    | icmp =>
      have hno : t.conn.isTcp = false := by rw [ZdtunConn.isTcp, hproto]; rfl
      exact (plain_handleIcmpReply ⟨h, hno⟩ r a).sound.settles (by simp [rstLost, hno])

def queuedCloses (t : Turn) (a : Answers) : Bool :=
  (sendQueued t.conn.txQueue a.queued).2.2.isSome

theorem settles_handleQueuedTcpData (h : t.conn.Sound) (hopen : t.conn.status.isClosed = false)
    (a : Answers) :
    (t.handleQueuedTcpData a).conn.Settles (!(t.queuedCloses a && t.rstLost a.rst)) := by
  have hleft : (t.withConn { t.conn with
      txQueue := (sendQueued t.conn.txQueue a.queued).1 }).conn.Sound :=
    ⟨⟨h.calls, h.marked, h.gone⟩, h.socket⟩
  unfold handleQueuedTcpData queuedCloses
  dsimp only
  cases (sendQueued t.conn.txQueue a.queued).2.2 with
  | some errno => exact (outcome_socketError hleft hopen errno a.rst true).1
  | none =>
    dsimp only
    split
    · exact sound_sendToClient hleft a.reply
    · exact hleft

def connectAsyncCloses (t : Turn) (r : AsyncConnect) (a : Answers) : Bool :=
  match r with
  | .failed | .error _ => true
  | .connected => t.tcpSynCloses a

theorem settles_handleTcpConnectAsync (h : t.conn.Sound) (hopen : t.conn.status.isClosed = false)
    (r : AsyncConnect) (a : Answers) :
    (t.handleTcpConnectAsync r a).conn.Settles
      (!(t.connectAsyncCloses r a && t.rstLost a.rst)) := by
  cases r with
  | failed => exact (outcome_close h hopen .socketError a.rst true).1
  | connected => exact (outcome_tcpSocketSyn h hopen).1
  | error errno => exact (outcome_socketError h hopen errno a.rst true).1

def writableCloses (t : Turn) (r : AsyncConnect) (a : Answers) : Bool :=
  if t.conn.txQueue ≠ [] then t.queuedCloses a else t.connectAsyncCloses r a

theorem settles_writable (h : t.conn.Sound) (r : AsyncConnect) (a : Answers) :
    (t.writable r a).conn.Settles
      (!(t.conn.sockOpen && t.writableCloses r a && t.rstLost a.rst)) := by
  unfold writable writableCloses
  cases hsock : t.conn.sockOpen with
  | false => exact h
  | true =>
    have hopen := h.socket hsock
    cases htcp : t.conn.isTcp with
    | false => exact ZdtunConn.Sound.settles h (by simp [rstLost, htcp])
    | true =>
      simp only [Bool.not_true, Bool.or_self, Bool.true_and, Bool.false_eq_true, if_false]
      by_cases hqueue : t.conn.txQueue ≠ []
      · rw [if_pos hqueue, if_pos hqueue]
        exact settles_handleQueuedTcpData h hopen a
      · rw [if_neg hqueue, if_neg hqueue]
        exact settles_handleTcpConnectAsync h hopen r a

theorem settles_destroyConn (h : t.conn.Sound) (rst : Send) :
    (t.destroyConn rst).conn.Settles (t.conn.status.isClosed || !t.rstLost rst) := by
  have hs := settles_zdtunConnClose h .closed rst
  have hclosed := zdtunConnClose_isClosed t .closed rst
  unfold destroyConn
  cases hok : t.conn.status.isClosed || !t.rstLost rst with
  | true =>
    rw [hok] at hs
    have hsound : (t.zdtunConnClose .closed rst).conn.Sound := hs
    refine ⟨⟨hsound.calls, hsound.marked, fun _ => ?_⟩, hsound.socket⟩
    exact hsound.calls.trans (by rw [hclosed]; rfl)
  | false =>
    rw [hok] at hs
    exact hs

end Turn

/-! ## Steps and runs -/

namespace Zdtun

variable {zdt : Zdtun}

/-- What is asked of the connection `i` when work on it begins. -/
def atConn (zdt : Zdtun) (i : Nat) (ok : Turn → Bool) : Bool :=
  zdt.conns[i]?.all fun c => c.destroyed || ok ⟨zdt.running, c⟩

/-- What a step closes it reports once: no socket that a TCP or ICMP connection needs fails to
open, and no close loses its RST. -/
def reports (zdt : Zdtun) : ZdtunEvent → Bool
  | .tunPacket pkt a =>
    (zdt.zdtunLookup pkt a).2.all fun i =>
      (zdt.zdtunLookup pkt a).1.atConn i fun t => !t.forwardFails pkt a
  | .readable i r a =>
    zdt.atConn i fun t => !(t.conn.sockOpen && t.tcpReplyCloses r a && t.rstLost a.rst)
  | .writable i r a =>
    zdt.atConn i fun t => !(t.conn.sockOpen && t.writableCloses r a && t.rstLost a.rst)
  | .destroy i rst => zdt.atConn i fun t => t.conn.status.isClosed || !t.rstLost rst
  | .stopPacketLoop => true

def AllReported (zdt : Zdtun) : Prop := ∀ c ∈ zdt.conns, c.Reported

instance (zdt : Zdtun) : Decidable zdt.AllReported :=
  inferInstanceAs (Decidable (∀ c ∈ zdt.conns, c.Reported))

def AllSound (zdt : Zdtun) : Prop := ∀ c ∈ zdt.conns, c.Sound

theorem AllSound.allReported (h : zdt.AllSound) : zdt.AllReported := fun c hc => (h c hc).toReported

/-- Work on one connection is good exactly if it is on that connection. -/
theorem allReported_onConn (h : zdt.AllSound) (i : Nat) {work : Turn → Turn} {ok : Turn → Bool}
    (hwork : ∀ t : Turn, t.conn.Sound → (work t).conn.Settles (ok t)) :
    ((zdt.onConn i work).AllReported ↔ zdt.atConn i ok = true) ∧
      (zdt.atConn i ok = true → (zdt.onConn i work).AllSound) := by
  unfold onConn atConn
  cases hi : zdt.conns[i]? with
  | none => exact ⟨⟨fun _ => rfl, fun _ => h.allReported⟩, fun _ => h⟩
  | some c =>
    rw [Option.all_some]
    dsimp only
    cases hgone : c.destroyed with
    | true => exact ⟨⟨fun _ => rfl, fun _ => h.allReported⟩, fun _ => h⟩
    | false =>
      rw [if_neg (by decide), Bool.false_or]
      have hsettles := hwork ⟨zdt.running, c⟩ (h c (List.mem_of_getElem? hi))
      have hset : ∀ d ∈ zdt.conns.set i (work ⟨zdt.running, c⟩).conn,
          d ∈ zdt.conns ∨ d = (work ⟨zdt.running, c⟩).conn := fun d hd =>
        List.mem_or_eq_of_mem_set hd
      have hat : (work ⟨zdt.running, c⟩).conn ∈ zdt.conns.set i (work ⟨zdt.running, c⟩).conn :=
        List.mem_set (List.getElem?_eq_some_iff.mp hi).1 _
      refine ⟨⟨fun hall => hsettles.reported_iff.mp (hall _ hat), fun hok d hd => ?_⟩,
        fun hok d hd => ?_⟩
      · rcases hset d hd with hd | rfl
        · exact h.allReported d hd
        · exact hsettles.reported_iff.mpr hok
      · rcases hset d hd with hd | rfl
        · exact h d hd
        · rw [hok] at hsettles
          exact hsettles

theorem allSound_create (h : zdt.AllSound) (pkt : Segment) : (zdt.create pkt).1.AllSound := by
  unfold create
  split
  · exact h
  · intro c hc
    rcases List.mem_append.mp hc with hc | hc
    · exact h c hc
    · rw [List.mem_singleton.mp hc]
      exact sound_calloc pkt.tuple

/-- Looking a connection up destroys only closed ones. -/
theorem allSound_zdtunLookup (h : zdt.AllSound) (pkt : Segment) (a : Answers) :
    (zdt.zdtunLookup pkt a).1.AllSound := by
  unfold zdtunLookup
  split
  · exact allSound_create h pkt
  · next i hfind =>
    split
    · next hclosed =>
      refine allSound_create ?_ pkt
      refine (allReported_onConn h i fun t ht => Turn.settles_destroyConn ht a.rst).2 ?_
      cases hi : zdt.conns[i]? with
      | none => rw [atConn, hi]; rfl
      | some c =>
        rw [hi, Option.any_some] at hclosed
        rw [atConn, hi, Option.all_some, hclosed, Bool.true_or, Bool.or_true]
    · exact h

theorem allReported_step (h : zdt.AllSound) (e : ZdtunEvent) :
    ((step zdt e).AllReported ↔ zdt.reports e = true) ∧
      (zdt.reports e = true → (step zdt e).AllSound) := by
  cases e with
  | tunPacket pkt a =>
    have hlookup := allSound_zdtunLookup h pkt a
    simp only [step, runVpn, reports]
    cases hfound : zdt.zdtunLookup pkt a with
    | mk zdt' found =>
      rw [hfound] at hlookup
      cases found with
      | none => exact ⟨⟨fun _ => rfl, fun _ => hlookup.allReported⟩, fun _ => hlookup⟩
      | some i => exact allReported_onConn hlookup i fun t ht => Turn.settles_forward ht pkt a
  | readable i r a => exact allReported_onConn h i fun t ht => Turn.settles_readable ht r a
  | writable i r a => exact allReported_onConn h i fun t ht => Turn.settles_writable ht r a
  | destroy i rst => exact allReported_onConn h i fun t ht => Turn.settles_destroyConn ht rst
  | stopPacketLoop => exact ⟨⟨fun _ => rfl, fun _ => h.allReported⟩, fun _ => h⟩

end Zdtun

/-- A packet to a client port 40000 that opens a TCP connection, and that `run_vpn` blocks or
forwards. -/
def opening (blocked : Bool) : Segment where
  tuple := Leak.tcpTuple (ip4 6 6 6 6) 40000
  syn := true
  ack := false
  fin := false
  rst := false
  urg := false
  keepAlive := false
  inSequence := true
  l7Len := 0
  dnsRequest := false
  accepted := true
  proxify := false
  blocked := blocked
  spoofed := false

/-- No socket can be opened; whatever is written to the tun arrives. -/
def noSocket : Answers :=
  ⟨false, .done, .done, none, [], true, false, ⟨false, .ok⟩, ⟨false, .ok⟩⟩

/-- A blocked connection is destroyed when it has been idle, and reported twice; one whose socket
could not be opened is destroyed and never reported. -/
theorem connectionClosed_miscounted :
    (run Zdtun.step Zdtun.init
      [.tunPacket (opening true) noSocket, .destroy 0 ⟨true, .ok⟩]).conns.map
        (fun c => (c.destroyed, c.closedCalls)) = [(true, 2)] ∧
    (run Zdtun.step Zdtun.init
      [.tunPacket (opening false) noSocket, .destroy 0 ⟨false, .ok⟩]).conns.map
        (fun c => (c.destroyed, c.closedCalls)) = [(true, 0)] ∧
    ¬ EveryState Zdtun.step Zdtun.AllReported Zdtun.init
      [.tunPacket (opening true) noSocket, .destroy 0 ⟨true, .ok⟩] := by
  decide

/-- **Every connection is reported exactly once along a run exactly if no step fails to open a
socket for TCP or ICMP and no close loses its RST.** -/
theorem connectionClosed_once_iff (es : List ZdtunEvent) :
    EveryState Zdtun.step Zdtun.AllReported Zdtun.init es ↔
      EveryStep Zdtun.step (fun zdt e => zdt.reports e = true) Zdtun.init es := by
  refine everyState_iff_everyStep (fun zdt h => Zdtun.AllSound.allReported h)
    (fun zdt e h => (Zdtun.allReported_step h e).1) (fun zdt e h => (Zdtun.allReported_step h e).2)
    ?_ es
  intro c hc
  cases hc

end SecureGuard.Native
