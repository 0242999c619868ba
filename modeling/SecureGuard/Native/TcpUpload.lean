import SecureGuard.Lib.SequenceSpace
import SecureGuard.Native.TcpSpliceSteps

/-! # What a spliced connection carries to the server

The payloads the client sends are queued, written to the socket when it takes them, and only then
acknowledged. The invariant keeps the three accounts of this in step: the bytes, the sequence
number to come, and the numbers of the ACKs the client got. -/

namespace SecureGuard.Native

open SequenceSpace

namespace Splice

/-! ## Accounts -/

/-- The bytes queued. -/
def waiting (s : Splice) : List UInt8 := s.conn.txQueue.flatMap TcpData.rest

/-- The bytes of the client that were written to the socket. -/
def uploaded (s : Splice) : List UInt8 := s.server.outbox.drop s.log.asked.length

/-- The place in the client's stream up to which everything is acknowledged; a FIN takes a place
too. -/
def settled (s : Splice) : Nat := s.uploaded.length + s.log.dropped + s.log.fins

/-- The place up to which everything was taken. -/
def reached (s : Splice) : Nat := s.settled + s.waiting.length

/-- The packet acknowledges what was uploaded or thrown away by now, or less. -/
def Acknowledges (s : Splice) (seg : ClientSegment) : Prop :=
  ∃ n d f, n ≤ s.uploaded.length ∧ d ≤ s.log.dropped ∧ f ≤ s.log.fins ∧
    seg.ackNum = seqAt (s.log.isn + 1) (n + d + f)

/-- What holds of the upload also after the connection is closed. -/
structure Settled (s : Splice) : Prop where
  asked : s.log.asked ++ s.uploaded = s.server.outbox
  taken : s.uploaded <+: s.log.accepted
  acks : ∀ seg ∈ s.client, seg.flags.rst = false → s.Acknowledges seg

/-- Before the handshake with the server, and with a proxy, is over, nothing of the client was
taken. -/
def Untouched (s : Splice) : Prop :=
  s.conn.txQueue = [] ∧ s.log.accepted = [] ∧ s.log.dropped = 0 ∧ s.log.fins = 0

/-- The invariant of an open connection. -/
structure Uploading (s : Splice) : Prop where
  asked : s.log.asked ++ s.uploaded = s.server.outbox
  flow : s.uploaded ++ s.waiting = s.log.accepted
  size : s.conn.txQueueSize = UInt32.ofNat s.waiting.length
  number : s.conn.status ≠ .new → s.conn.clientSeq = seqAt (s.log.isn + 1) s.settled
  early : s.conn.status ≠ .connected → s.Untouched
  shaking : s.conn.socks5InProgress = true → s.Untouched
  awaits : s.conn.awaited = true → s.conn.txQueue = [] → s.conn.status = .connecting
  sock : s.conn.sockOpen = true → s.conn.status ≠ .new
  fresh : s.conn.status = .new → s.client = []
  acks : ∀ seg ∈ s.client, seg.flags.rst = false → s.Acknowledges seg

variable {cfg : SpliceConfig} {s t s' : Splice} {e : Event}

/-! ## The loop over the queue -/

theorem sendQueuedData_bytes (queue : List TcpData) (answers : List QueuedSend) :
    (sendQueuedData queue answers).2.1 ++
      (sendQueuedData queue answers).1.flatMap TcpData.rest = queue.flatMap TcpData.rest := by
  induction queue, answers using sendQueuedData.induct with
  | case1 item queue n answers hle left sent errno heq ih =>
    rw [heq] at ih
    simp only [sendQueuedData, hle, if_true, heq, List.flatMap_cons, List.append_assoc, ih]
  | case2 item queue n answers hlt =>
    have hsplit : item.rest.take n ++ TcpData.rest { item with sofar := item.sofar + n } =
        item.rest := by
      simp only [TcpData.rest, ← List.drop_drop, List.take_append_drop]
    simp only [sendQueuedData, hlt, if_false, List.flatMap_cons, ← List.append_assoc, hsplit]
  | case3 queue errno answers => cases queue <;> simp [sendQueuedData]
  | case4 queue answers hsent herror =>
    rcases answers with _ | ⟨answer, answers⟩
    · cases queue <;> rfl
    · rcases queue with _ | ⟨item, queue⟩ <;> cases answer with
      | sent n => first | rfl | exact absurd rfl (hsent _ _ _ _ rfl)
      | wouldBlock => rfl
      | error errno => exact absurd rfl (herror _ _)

theorem waiting_of_loop {a : TcpAnswers} {left : List TcpData} {out : List UInt8}
    {errno : Option SocketErrno}
    (h : sendQueuedData s.conn.txQueue a.queued = (left, out, errno)) :
    s.waiting = out ++ left.flatMap TcpData.rest := by
  have hbytes := sendQueuedData_bytes s.conn.txQueue a.queued
  rw [h] at hbytes
  exact hbytes.symm

/-! ## The invariant -/

theorem Acknowledges.mono {seg : ClientSegment} (h : s.Acknowledges seg)
    (hn : s.uploaded.length ≤ t.uploaded.length) (hd : s.log.dropped ≤ t.log.dropped)
    (hf : s.log.fins ≤ t.log.fins) (hi : t.log.isn = s.log.isn) : t.Acknowledges seg := by
  obtain ⟨n, d, f, hn', hd', hf', hack⟩ := h
  exact ⟨n, d, f, hn'.trans hn, hd'.trans hd, hf'.trans hf, hi ▸ hack⟩

/-- A packet built of this state acknowledges what it should. -/
theorem Uploading.acknowledges (h : s.Uploading) (hnew : s.conn.status ≠ .new)
    {seg : ClientSegment} (hseg : seg.ackNum = s.conn.clientSeq) : s.Acknowledges seg :=
  ⟨s.uploaded.length, s.log.dropped, s.log.fins, Nat.le_refl _, Nat.le_refl _, Nat.le_refl _,
    hseg.trans (h.number hnew)⟩

theorem Uploading.settled (h : s.Uploading) : s.Settled :=
  ⟨h.asked, h.flow ▸ List.prefix_append _ _, h.acks⟩

theorem Uploading.queue_established (h : s.Uploading) (hq : s.conn.txQueue ≠ []) :
    s.Established where
  status := Decidable.byContradiction fun hc => hq (h.early hc).1
  idle := Bool.eq_false_iff.mpr fun hp => hq (h.shaking hp).1

theorem uploading_init (proxy : Bool) : (init proxy).Uploading where
  asked := rfl
  flow := rfl
  size := rfl
  number h := absurd rfl h
  early _ := ⟨rfl, rfl, rfl, rfl⟩
  shaking _ := ⟨rfl, rfl, rfl, rfl⟩
  awaits h := nomatch h
  sock h := nomatch h
  fresh _ := rfl
  acks _ h := nomatch h

/-- An update that leaves the upload alone; the packets the client gets meanwhile acknowledge
what was uploaded before. -/
theorem Uploading.frame (h : s.Uploading) (hserver : t.server.outbox = s.server.outbox)
    (hlog : t.log.asked = s.log.asked ∧ t.log.accepted = s.log.accepted ∧
      t.log.dropped = s.log.dropped ∧ t.log.fins = s.log.fins ∧ t.log.isn = s.log.isn)
    (hconn : t.conn.txQueue = s.conn.txQueue ∧ t.conn.txQueueSize = s.conn.txQueueSize ∧
      t.conn.clientSeq = s.conn.clientSeq ∧ t.conn.status = s.conn.status)
    (hshaking : t.conn.socks5InProgress = true → s.conn.socks5InProgress = true)
    (hawaits : t.conn.awaited = true → s.conn.awaited = true)
    (hsock : t.conn.sockOpen = true → s.conn.sockOpen = true)
    (hclient : t.client = s.client ∨ ∃ seg, t.client = s.client ++ [seg] ∧
      s.conn.status ≠ .new ∧ seg.ackNum = s.conn.clientSeq) : t.Uploading := by
  obtain ⟨hasked, hacc, hdrop, hfins, hisn⟩ := hlog
  obtain ⟨hqueue, hsize, hseq, hstatus⟩ := hconn
  have hup : t.uploaded = s.uploaded := by unfold uploaded; rw [hserver, hasked]
  have hwait : t.waiting = s.waiting := by unfold waiting; rw [hqueue]
  have hsettled : t.settled = s.settled := by unfold Splice.settled; rw [hup, hdrop, hfins]
  have huntouched : t.Untouched ↔ s.Untouched := by
    unfold Untouched
    rw [hqueue, hacc, hdrop, hfins]
  have hmono (seg : ClientSegment) (ha : s.Acknowledges seg) : t.Acknowledges seg :=
    ha.mono (by rw [hup]) (by rw [hdrop]) (by rw [hfins]) hisn
  refine ⟨by rw [hasked, hup, hserver, h.asked], by rw [hup, hwait, hacc, h.flow],
    by rw [hsize, hwait, h.size], ?_, ?_, ?_, ?_, ?_, ?_, ?_⟩
  · rw [hstatus, hseq, hisn, hsettled]
    exact h.number
  · rw [hstatus, huntouched]
    exact h.early
  · rw [huntouched]
    exact fun hp => h.shaking (hshaking hp)
  · rw [hqueue, hstatus]
    exact fun ha => h.awaits (hawaits ha)
  · rw [hstatus]
    exact fun ho => h.sock (hsock ho)
  · rw [hstatus]
    intro hnew
    rcases hclient with hsame | ⟨seg, -, hne, -⟩
    · rw [hsame]
      exact h.fresh hnew
    · exact absurd hnew hne
  · intro seg hmem hrst
    rcases hclient with hsame | ⟨seg', hmore, hne, hack⟩
    · rw [hsame] at hmem
      exact hmono seg (h.acks seg hmem hrst)
    · rw [hmore, List.mem_append, List.mem_singleton] at hmem
      rcases hmem with hmem | rfl
      · exact hmono seg (h.acks seg hmem hrst)
      · exact hmono seg (h.acknowledges hne hack)

/-- Where nothing of the client has been taken yet, everything written was for the proxy. -/
theorem uploading_of_untouched (huntouched : t.Untouched)
    (hasked : t.log.asked = t.server.outbox) (hsize : t.conn.txQueueSize = 0)
    (hnumber : t.conn.clientSeq = t.log.isn + 1) (hnew : t.conn.status ≠ .new)
    (hawaits : t.conn.awaited = true → t.conn.status = .connecting)
    (hacks : ∀ seg ∈ t.client, seg.flags.rst = false → seg.ackNum = t.log.isn + 1) :
    t.Uploading := by
  obtain ⟨hqueue, hacc, hdrop, hfins⟩ := huntouched
  have hup : t.uploaded = [] := by
    unfold uploaded
    rw [hasked, List.drop_length]
  have hwait : t.waiting = [] := by unfold waiting; rw [hqueue]; rfl
  have hsettled : t.settled = 0 := by
    unfold Splice.settled
    rw [hup, hdrop, hfins]
    rfl
  refine ⟨by rw [hup, List.append_nil, hasked], by rw [hup, hwait, hacc]; rfl,
    by rw [hwait, hsize]; rfl, fun _ => by rw [hsettled, seqAt_zero, hnumber],
    fun _ => ⟨hqueue, hacc, hdrop, hfins⟩, fun _ => ⟨hqueue, hacc, hdrop, hfins⟩,
    fun ha _ => hawaits ha, fun _ => hnew, fun h => absurd h hnew, ?_⟩
  intro seg hmem hrst
  exact ⟨0, 0, 0, Nat.zero_le _, Nat.zero_le _, Nat.zero_le _,
    (hacks seg hmem hrst).trans (seqAt_zero _).symm⟩

/-- The accounts where nothing of the client has been taken. -/
theorem Uploading.untouched (h : s.Uploading) (hu : s.Untouched) :
    s.log.asked = s.server.outbox ∧ s.conn.txQueueSize = 0 ∧
      (s.conn.status ≠ .new → s.conn.clientSeq = s.log.isn + 1) ∧
      ∀ seg ∈ s.client, seg.flags.rst = false → seg.ackNum = s.log.isn + 1 := by
  obtain ⟨hqueue, hacc, hdrop, hfins⟩ := hu
  have hwait : s.waiting = [] := by unfold waiting; rw [hqueue]; rfl
  have hup : s.uploaded = [] := (List.append_eq_nil_iff.mp (h.flow.trans hacc)).1
  have hsize := h.size
  have hasked := h.asked
  have hnumber := h.number
  unfold Splice.settled at hnumber
  rw [hwait] at hsize
  rw [hup, List.append_nil] at hasked
  rw [hup, hdrop, hfins] at hnumber
  refine ⟨hasked, hsize, fun hne => (hnumber hne).trans (seqAt_zero _), fun seg hmem hrst => ?_⟩
  obtain ⟨n, d, f, hn, hd, hf, hack⟩ := h.acks seg hmem hrst
  rw [hup] at hn
  have hsum : n + d + f = 0 := by
    simp only [List.length_nil] at hn
    omega
  rw [hack, hsum, seqAt_zero]

/-- What is known when the connect turns out to be done. -/
theorem Uploading.connects (h : s.Uploading) {u : Splice} (hu : Connects s e u) :
    u.Untouched ∧ u.log.asked = u.server.outbox ∧ u.conn.txQueueSize = 0 ∧
      u.conn.clientSeq = u.log.isn + 1 ∧
      ∀ seg ∈ u.client, seg.flags.rst = false → seg.ackNum = u.log.isn + 1 := by
  cases hu with
  | now pkt a hnew =>
    have hu := h.early (by rw [hnew]; decide)
    obtain ⟨hasked, hsize, -, -⟩ := h.untouched hu
    refine ⟨hu, hasked, hsize, rfl, fun seg hmem => ?_⟩
    rw [show ((s.socketOpened pkt).numbered pkt).client = [] from h.fresh hnew] at hmem
    cases hmem
  | later r a hwait hq =>
    have hstatus := h.awaits hwait hq
    have hu := h.early (by rw [hstatus]; decide)
    obtain ⟨hasked, hsize, hnumber, hacks⟩ := h.untouched hu
    exact ⟨hu, hasked, hsize, hnumber (by rw [hstatus]; decide), hacks⟩

theorem Uploading.updateWindow (h : s.Uploading) (pkt : TcpPacket) :
    (s.updateWindow pkt).Uploading :=
  h.frame rfl ⟨rfl, rfl, rfl, rfl, rfl⟩ ⟨rfl, rfl, rfl, rfl⟩ id id id (.inl rfl)

theorem waiting_queued (pkt : TcpPacket) : (s.queued pkt).waiting = s.waiting ++ pkt.l7 := by
  simp [waiting, queued, TcpData.rest]

theorem Uploading.queued (h : s.Uploading) (hst : s.conn.status = .connected)
    (hidle : s.conn.socks5InProgress = false) (pkt : TcpPacket) : (s.queued pkt).Uploading where
  asked := h.asked
  flow := by
    rw [waiting_queued, ← List.append_assoc]
    exact congrArg (· ++ pkt.l7) h.flow
  size := by
    rw [waiting_queued, List.length_append, UInt32.ofNat_add, ← h.size]
    rfl
  number := h.number
  early hc := absurd hst hc
  shaking hp := absurd (hidle.symm.trans hp) (by decide)
  awaits _ hq := absurd hq (by simp [Splice.queued])
  sock := h.sock
  fresh := h.fresh
  acks := h.acks

theorem settled_dropPayload (pkt : TcpPacket) :
    (s.dropPayload pkt).settled = s.settled + pkt.l7.length := by
  simp only [Splice.settled, dropPayload, uploaded]
  omega

theorem settled_finReceived (pkt : TcpPacket) :
    (s.finReceived pkt).settled = s.settled + (pkt.l7.length + 1) := by
  simp only [Splice.settled, finReceived, uploaded]
  omega

theorem Uploading.dropPayload (h : s.Uploading) (hst : s.conn.status = .connected)
    (hidle : s.conn.socks5InProgress = false) (pkt : TcpPacket) :
    (s.dropPayload pkt).Uploading where
  asked := h.asked
  flow := h.flow
  size := h.size
  number hne := by
    rw [settled_dropPayload, seqAt_add]
    exact congrArg (· + UInt32.ofNat pkt.l7.length) (h.number hne)
  early hc := absurd hst hc
  shaking hp := absurd (hidle.symm.trans hp) (by decide)
  awaits := h.awaits
  sock := h.sock
  fresh := h.fresh
  acks seg hmem hrst :=
    (h.acks seg hmem hrst).mono (Nat.le_refl _) (Nat.le_add_right _ _) (Nat.le_refl _) rfl

theorem Uploading.finReceived (h : s.Uploading) (hst : s.conn.status = .connected)
    (hidle : s.conn.socks5InProgress = false) (pkt : TcpPacket) :
    (s.finReceived pkt).Uploading where
  asked := h.asked
  flow := h.flow
  size := h.size
  number hne := by
    rw [settled_finReceived, seqAt_add, UInt32.ofNat_add]
    exact congrArg (· + (UInt32.ofNat pkt.l7.length + 1)) (h.number hne)
  early hc := absurd hst hc
  shaking hp := absurd (hidle.symm.trans hp) (by decide)
  awaits := h.awaits
  sock := h.sock
  fresh := h.fresh
  acks seg hmem hrst :=
    (h.acks seg hmem hrst).mono (Nat.le_refl _) (Nat.le_add_right _ _) (Nat.le_add_right _ _) rfl

/-- The proxy is asked for something while nothing of the client was taken. -/
theorem Uploading.requested (h : s.Uploading) (hnew : s.conn.status ≠ .new)
    (hu : s.Untouched) (request : List UInt8) (next : Socks5Status) :
    (s.requested request next).Uploading := by
  obtain ⟨hasked, hsize, hnumber, hacks⟩ := h.untouched hu
  exact uploading_of_untouched hu (congrArg (· ++ request) hasked) hsize (hnumber hnew) hnew
    (fun ha => h.awaits ha hu.1) hacks

theorem Uploading.shakes (h : s.Uploading) (hnew : s.conn.status ≠ .new)
    (hp : s.conn.socks5InProgress = true) {bytes : List UInt8} {u : Splice}
    (hu : Shakes cfg s bytes u) : u.Uploading ∧ u.conn.status = s.conn.status := by
  have hmove (c : TcpConn) (hc : c.txQueue = s.conn.txQueue ∧ c.txQueueSize = s.conn.txQueueSize ∧
      c.clientSeq = s.conn.clientSeq ∧ c.status = s.conn.status)
      (ha : c.awaited = s.conn.awaited) (ho : c.sockOpen = s.conn.sockOpen) :
      (s.withConn c).Uploading :=
    h.frame rfl ⟨rfl, rfl, rfl, rfl, rfl⟩ hc (fun _ => hp) (fun h => ha ▸ h) (fun h => ho ▸ h)
      (.inl rfl)
  cases hu with
  | auth user pass hup hs => exact ⟨h.requested hnew (h.shaking hp) _ _, rfl⟩
  | noAuth hs => exact ⟨h.requested hnew (h.shaking hp) _ _, rfl⟩
  | welcome rest hs => exact ⟨h.requested hnew (h.shaking hp) _ _, rfl⟩
  | grant rsv addrtype rest hs ht hlen => exact ⟨hmove _ ⟨rfl, rfl, rfl, rfl⟩ rfl rfl, rfl⟩
  | skip bytes hs hlen => exact ⟨hmove _ ⟨rfl, rfl, rfl, rfl⟩ rfl rfl, rfl⟩

theorem uploaded_written (h : s.Uploading) (left : List TcpData) (out : List UInt8) :
    (s.written left out).uploaded = s.uploaded ++ out := by
  have hlen : s.log.asked.length ≤ s.server.outbox.length := by
    rw [← h.asked, List.length_append]
    exact Nat.le_add_right _ _
  exact List.drop_append_of_le_length hlen

theorem settled_flush (h : s.Uploading) (left : List TcpData) (out : List UInt8) :
    ((s.written left out).stopWaiting.acknowledge out).settled = s.settled + out.length := by
  have hup : ((s.written left out).stopWaiting.acknowledge out).uploaded = s.uploaded ++ out :=
    uploaded_written h left out
  unfold Splice.settled
  rw [hup, List.length_append]
  change s.uploaded.length + out.length + s.log.dropped + s.log.fins = _
  omega

theorem Uploading.flush (h : s.Uploading) {a : TcpAnswers} {left : List TcpData}
    {out : List UInt8} (hq : s.conn.txQueue ≠ [])
    (hloop : sendQueuedData s.conn.txQueue a.queued = (left, out, none)) :
    ((s.written left out).stopWaiting.acknowledge out).Uploading := by
  have hst := (h.queue_established hq).status
  have hup : ((s.written left out).stopWaiting.acknowledge out).uploaded = s.uploaded ++ out :=
    uploaded_written h left out
  have hwait : s.waiting = out ++ ((s.written left out).stopWaiting.acknowledge out).waiting :=
    waiting_of_loop hloop
  have hsize := h.size
  rw [hwait, List.length_append, UInt32.ofNat_add, UInt32.add_comm] at hsize
  refine ⟨?_, ?_, ?_, fun hne => ?_, fun hc => absurd hst hc, fun hp => absurd (h.shaking hp).1 hq,
    ?_, h.sock, h.fresh, fun seg hmem hrst => ?_⟩
  · rw [hup, ← List.append_assoc]
    exact congrArg (· ++ out) h.asked
  · rw [hup, List.append_assoc, ← hwait]
    exact h.flow
  · exact (congrArg (· - UInt32.ofNat out.length) hsize).trans (UInt32.add_sub_cancel _ _)
  · rw [settled_flush h, seqAt_add]
    exact congrArg (· + UInt32.ofNat out.length) (h.number hne)
  · intro ha hleft
    have hempty : left = [] := hleft
    simp [acknowledge, stopWaiting, written, withConn, hempty] at ha
  · refine (h.acks seg hmem hrst).mono ?_ (Nat.le_refl _) (Nat.le_refl _) rfl
    rw [hup, List.length_append]
    exact Nat.le_add_right _ _

/-- The connect is done, and nobody was told yet. -/
theorem Uploading.connected (h : s.Uploading) {u : Splice} (hu : Connects s e u) :
    u.connected.Uploading := by
  obtain ⟨huntouched, hasked, hsize, hnumber, hacks⟩ := h.connects hu
  exact uploading_of_untouched huntouched hasked hsize hnumber (nomatch ·) (nomatch ·) hacks

theorem Uploading.not_new (h : s.Uploading) (hcan : s.canRead none = true) :
    s.conn.status ≠ .new := h.sock (canRead_open hcan).1

theorem Uploading.answered (h : s.Uploading) (hcan : s.canRead none = true)
    (hp : s.conn.socks5InProgress = true) {u : Splice}
    (hu : Shakes cfg (s.afterRecv.hear s.incoming) s.incoming u) :
    u.Uploading ∧ u.conn.status = s.conn.status := by
  have hear : (s.afterRecv.hear s.incoming).Uploading :=
    h.frame rfl ⟨rfl, rfl, rfl, rfl, rfl⟩ ⟨rfl, rfl, rfl, rfl⟩ id id id (.inl rfl)
  exact hear.shakes (h.not_new hcan) hp hu

theorem Uploading.core (h : s.Uploading) (hc : Core cfg s e t) : t.Uploading := by
  cases hc with
  | stays => exact h
  | arrives bytes heof =>
    exact h.frame rfl ⟨rfl, rfl, rfl, rfl, rfl⟩ ⟨rfl, rfl, rfl, rfl⟩ id id id (.inl rfl)
  | ends =>
    exact h.frame rfl ⟨rfl, rfl, rfl, rfl, rfl⟩ ⟨rfl, rfl, rfl, rfl⟩ id id id (.inl rfl)
  | connecting pkt a hnew =>
    obtain ⟨huntouched, hasked, hsize, hnumber, hacks⟩ := h.connects (.now pkt a hnew)
    exact uploading_of_untouched huntouched hasked hsize hnumber (nomatch ·) (fun _ => rfl) hacks
  | synAck _ u hu hp seg hseg =>
    obtain ⟨huntouched, hasked, hsize, hnumber, hacks⟩ := h.connects hu
    refine uploading_of_untouched huntouched hasked hsize hnumber (nomatch ·) (nomatch ·)
      fun seg' hmem hrst => ?_
    obtain hmem | hmem := List.mem_append.mp hmem
    · exact hacks seg' hmem hrst
    · obtain rfl := List.mem_singleton.mp hmem
      exact hseg.ackNum.trans hnumber
  | hello _ u hu hp =>
    obtain ⟨huntouched, hasked, hsize, hnumber, hacks⟩ := h.connects hu
    refine uploading_of_untouched huntouched ?_ hsize hnumber (nomatch ·) (nomatch ·) hacks
    exact congrArg (· ++ cfg.socks5Hello) hasked
  | window pkt a hact hopen hack hnew => exact h.updateWindow pkt
  | data pkt a hact hopen hne => exact h.queued hact.status hact.idle pkt
  | windowData pkt a hact hopen hack hnew hne =>
    exact (h.updateWindow pkt).queued hact.status hact.idle pkt
  | late pkt a hact hclosed => exact h.dropPayload hact.status hact.idle pkt
  | fin pkt a hact hfin => exact h.finReceived hact.status hact.idle pkt
  | download a hcan hidle hne push seg hseg =>
    exact h.frame rfl ⟨rfl, rfl, rfl, rfl, rfl⟩ ⟨rfl, rfl, rfl, rfl⟩ id id id
      (.inr ⟨seg, rfl, h.not_new hcan, hseg.ackNum⟩)
  | serverFin a hcan hnone seg hseg =>
    exact h.frame rfl ⟨rfl, rfl, rfl, rfl, rfl⟩ ⟨rfl, rfl, rfl, rfl⟩ id (nomatch ·) (nomatch ·)
      (.inr ⟨seg, rfl, h.not_new hcan, hseg.ackNum⟩)
  | serverGone a hcan hnone hfin =>
    exact h.frame rfl ⟨rfl, rfl, rfl, rfl, rfl⟩ ⟨rfl, rfl, rfl, rfl⟩ id (nomatch ·) (nomatch ·)
      (.inl rfl)
  | shakes a hcan hp hne u hu hgo => exact (h.answered hcan hp hu).1
  | shaken a hcan hp hne u hu hest seg hseg =>
    obtain ⟨hup, hstatus⟩ := h.answered hcan hp hu
    exact hup.frame rfl ⟨rfl, rfl, rfl, rfl, rfl⟩ ⟨rfl, rfl, rfl, rfl⟩ id id id
      (.inr ⟨seg, rfl, hstatus ▸ h.not_new hcan, hseg.ackNum⟩)
  | flush r a left out hq hloop => exact h.flush hq hloop

/-! ## Steps and runs -/

/-- An update that leaves the upload alone, with a RST for the client at most. -/
theorem Settled.frame (h : s.Settled) (hserver : t.server.outbox = s.server.outbox)
    (hlog : t.log.asked = s.log.asked ∧ t.log.accepted = s.log.accepted ∧
      t.log.dropped = s.log.dropped ∧ t.log.fins = s.log.fins ∧ t.log.isn = s.log.isn)
    (hclient : t.client = s.client ∨
      ∃ seg, seg.flags = thRstAck ∧ seg.l7 = [] ∧ t.client = s.client ++ [seg]) : t.Settled := by
  obtain ⟨hasked, hacc, hdrop, hfins, hisn⟩ := hlog
  have hup : t.uploaded = s.uploaded := by unfold uploaded; rw [hserver, hasked]
  refine ⟨by rw [hasked, hup, hserver, h.asked], by rw [hup, hacc]; exact h.taken, ?_⟩
  intro seg hmem hrst
  have hold (hm : seg ∈ s.client) : t.Acknowledges seg :=
    (h.acks seg hm hrst).mono (by rw [hup]) (by rw [hdrop]) (by rw [hfins]) hisn
  rcases hclient with hsame | ⟨seg', hflags, -, hmore⟩
  · exact hold (hsame ▸ hmem)
  · rw [hmore, List.mem_append, List.mem_singleton] at hmem
    obtain hmem | rfl := hmem
    · exact hold hmem
    · rw [hflags] at hrst
      cases hrst

theorem Settled.closes (h : s.Settled) (hc : Closes s s') : s'.Settled :=
  h.frame (by rw [hc.server]) (by rw [hc.log]; exact ⟨rfl, rfl, rfl, rfl, rfl⟩) hc.client

/-- The invariant of every connection, open or closed. -/
structure Uploads (s : Splice) : Prop where
  settled : s.Settled
  opened : s.isClosed = false → s.Uploading
  closed : s.isClosed = true → s.conn.sockOpen = false

theorem uploads_of_closes (h : t.Settled) (hc : Closes t s') : s'.Uploads :=
  ⟨h.closes hc, fun ho => absurd (hc.closed.symm.trans ho) (by decide), fun _ => hc.sock⟩

theorem Uploading.uploads (h : s.Uploading) (hs : s.isClosed = false) : s.Uploads :=
  ⟨h.settled, fun _ => h, fun hc => absurd (hs.symm.trans hc) (by decide)⟩

theorem Uploading.acked (h : t.Uploading) (hst : t.Established) {seg : ClientSegment}
    (hseg : Built t thAck [] seg) : (t.sent seg).Uploading :=
  h.frame rfl ⟨rfl, rfl, rfl, rfl, rfl⟩ ⟨rfl, rfl, rfl, rfl⟩ id id id
    (.inr ⟨seg, rfl, by rw [hst.status]; decide, hseg.ackNum⟩)

theorem Uploading.tail (h : t.Uploading) (ht : t.isClosed = false) (htail : Tail t s') :
    s'.Uploads := by
  cases htail with
  | none r p d =>
    refine Uploading.uploads (s := t.mark r p d) ?_ ht
    exact h.frame rfl ⟨rfl, rfl, rfl, rfl, rfl⟩ ⟨rfl, rfl, rfl, rfl⟩ id id id (.inl rfl)
  | ack hst seg hseg r p d =>
    refine Uploading.uploads (s := (t.sent seg).mark r p d) ?_ ht
    exact (h.acked hst hseg).frame rfl ⟨rfl, rfl, rfl, rfl, rfl⟩ ⟨rfl, rfl, rfl, rfl⟩ id id id
      (.inl rfl)
  | closes s' hc => exact uploads_of_closes h.settled hc
  | ackCloses hst seg hseg s' hc => exact uploads_of_closes (h.acked hst hseg).settled hc

/-- Where the socket fails in the middle of the queue, what it took before stays taken. -/
theorem Uploading.written (h : s.Uploading) {a : TcpAnswers} {left : List TcpData}
    {out : List UInt8} {errno : Option SocketErrno}
    (hloop : sendQueuedData s.conn.txQueue a.queued = (left, out, errno)) :
    (s.written left out).Settled := by
  have hup := uploaded_written h left out
  refine ⟨?_, ?_, fun seg hmem hrst => ?_⟩
  · rw [hup, ← List.append_assoc]
    exact congrArg (· ++ out) h.asked
  · refine ⟨left.flatMap TcpData.rest, ?_⟩
    rw [hup, List.append_assoc, ← waiting_of_loop hloop]
    exact h.flow
  · refine (h.acks seg hmem hrst).mono ?_ (Nat.le_refl _) (Nat.le_refl _) rfl
    rw [hup, List.length_append]
    exact Nat.le_add_right _ _

theorem Uploads.outcome (h : s.Uploads) (hs : s.isClosed = false) (ho : Outcome cfg s e s') :
    s'.Uploads := by
  have hup := h.opened hs
  cases ho with
  | core _ t hc s' ht => exact (hup.core hc).tail (hc.isClosed hs) ht
  | refused pkt a hnew =>
    refine ⟨hup.settled.frame rfl ⟨rfl, rfl, rfl, rfl, rfl⟩ (.inl rfl), (nomatch ·), fun _ => ?_⟩
    exact Bool.eq_false_iff.mpr fun hopen => hup.sock hopen hnew
  | connectFails pkt a hnew s' hc =>
    exact uploads_of_closes (t := s.socketOpened pkt)
      (hup.settled.frame rfl ⟨rfl, rfl, rfl, rfl, rfl⟩ (.inl rfl)) hc
  | greetFails _ u hu s' hc => exact uploads_of_closes (hup.connected hu).settled hc
  | synAckFails a hcan hp u hu s' hc =>
    exact uploads_of_closes (hup.answered hcan hp hu).1.settled hc
  | recvFails a s' hc =>
    exact uploads_of_closes (t := s.afterRecv)
      (hup.settled.frame rfl ⟨rfl, rfl, rfl, rfl, rfl⟩ (.inl rfl)) hc
  | shakeFails a hcan hp s' hc =>
    exact uploads_of_closes (t := s.afterRecv.hear s.incoming)
      (hup.settled.frame rfl ⟨rfl, rfl, rfl, rfl, rfl⟩ (.inl rfl)) hc
  | writeFails r a left out errno hloop s' hc => exact uploads_of_closes (hup.written hloop) hc

theorem Uploads.step (h : s.Uploads) (e : Event) : (step cfg s e).Uploads := by
  cases hs : s.isClosed with
  | false => exact h.outcome hs (outcome_step hs (h.opened hs).queue_established e)
  | true =>
    obtain ⟨u, r, p, d, hu, hstep⟩ := step_of_closed cfg hs (h.closed hs) e
    rw [hstep]
    rcases hu with rfl | ⟨bytes, -, rfl⟩ | rfl
    all_goals exact ⟨h.settled.frame rfl ⟨rfl, rfl, rfl, rfl, rfl⟩ (.inl rfl),
      fun ho => absurd (hs.symm.trans ho) (by decide), fun _ => h.closed hs⟩

theorem uploads_init (proxy : Bool) : (init proxy).Uploads :=
  (uploading_init proxy).uploads rfl

/-! ## The client's stream -/

/-- The client sends the stream `stream`: what a packet carries is what stands at its place, a FIN
stands at the end, and a packet is within `2 ^ 31` of what is acknowledged. No payload passes for a
keep-alive. -/
def SendsStream (stream : List UInt8) (s : Splice) : Event → Prop
  | .tunPacket pkt _ =>
    s.conn.status = .connected → pkt.l7 ≠ [] ∨ pkt.flags.fin = true →
      (pkt.l7 ≠ [] → isKeepAlive s.conn pkt = false) ∧
      ∃ k, pkt.seq = seqAt (s.log.isn + 1) k ∧ pkt.l7 <+: stream.drop k ∧
        (pkt.flags.fin = true → k + pkt.l7.length = stream.length) ∧
        s.settled < k + 2147483648 ∧ k + pkt.l7.length ≤ s.settled + 2147483648
  | _ => True

/-- A payload that starts one byte before what is acknowledged passes for a keep-alive, and is
queued whatever of it was taken before. -/
theorem waiting_of_keepAlive (hest : s.Established) (hopen : s.conn.sockOpen = true)
    (hkept : s.conn.destroyed = false) {pkt : TcpPacket} {a : TcpAnswers} (honly : OnlyAcks pkt)
    (hurg : pkt.flags.urg = false) (hkeep : isKeepAlive s.conn pkt = true) (hne : pkt.l7 ≠ [])
    (halloc : a.alloc = true) (hsent : (sendClient s.running a.reply).2 = true) :
    (Splice.step cfg s (.tunPacket pkt a)).waiting = s.waiting ++ pkt.l7 := by
  obtain ⟨hack, hfin, hrst⟩ := honly
  have hmarked : isKeepAlive s.updateConnStatus.conn pkt = true := hkeep
  have hidle : s.updateConnStatus.conn.socks5InProgress = false := hest.idle
  have hactive : s.forwardActive pkt a = s.updateConnStatus.keepAlive pkt a := by
    simp only [forwardActive, hmarked, hidle, hrst, hfin, hack, Bool.not_true, Bool.false_and,
      Bool.false_eq_true, if_false, if_true, Bool.true_and]
    exact if_pos hopen
  obtain ⟨u, hkeepAlive, hwaiting⟩ : ∃ u, s.updateConnStatus.keepAlive pkt a = (u, true) ∧
      u.waiting = s.waiting ++ pkt.l7 := by
    have hsent : (sendClient s.updateConnStatus.running a.reply).2 = true := hsent
    unfold keepAlive reply sendToClient
    simp only [hsent, if_true, tcpPayload, hne, if_false, enqueueTcpData, halloc, Bool.not_true,
      Bool.false_eq_true]
    exact ⟨_, if_pos hopen, waiting_queued pkt⟩
  simp only [Splice.step, hkept, forward, handleTcpFwd, hurg, hest.status, hactive,
    hkeepAlive, Bool.false_eq_true, reduceCtorEq, if_false, if_true]
  exact hwaiting

/-- What was taken is a prefix of the stream, and all of it once a FIN was taken and nothing
thrown away. While data can still come, everything that was counted was taken, or the stream is
at its end. -/
structure Carries (stream : List UInt8) (s : Splice) : Prop where
  taken : s.log.accepted <+: stream
  whole : 0 < s.log.fins → s.log.dropped = 0 → s.log.accepted = stream
  room : s.isClosed = false → s.waiting.length ≤ 2147483648
  place : s.isClosed = false → s.conn.sockOpen = true →
    s.log.dropped = 0 ∧ s.log.fins = 0 ∨ stream.length < s.reached

variable {stream : List UInt8}

theorem carries_init (proxy : Bool) : Carries stream (init proxy) :=
  ⟨List.nil_prefix, nofun, fun _ => Nat.zero_le _, fun _ => nofun⟩

theorem carries_of_untouched (hu : t.Untouched) : Carries stream t := by
  obtain ⟨hqueue, hacc, hdrop, hfins⟩ := hu
  refine ⟨hacc ▸ List.nil_prefix, fun hf => absurd hf (hfins ▸ Nat.lt_irrefl 0), fun _ => ?_,
    fun _ _ => .inl ⟨hdrop, hfins⟩⟩
  unfold waiting
  rw [hqueue]
  exact Nat.zero_le _

theorem Shakes.untouched {h u : Splice} {bytes : List UInt8} (hh : h.Untouched)
    (hu : Shakes cfg h bytes u) : u.Untouched := by
  cases hu <;> exact hh

theorem Carries.frame (h : Carries stream s) (hs : s.isClosed = false)
    (hlog : t.log.accepted = s.log.accepted ∧ t.log.dropped = s.log.dropped ∧
      t.log.fins = s.log.fins)
    (hwait : t.waiting.length ≤ s.waiting.length) (hreach : t.reached = s.reached)
    (hsock : t.conn.sockOpen = true → s.conn.sockOpen = true) : Carries stream t := by
  obtain ⟨hacc, hdrop, hfins⟩ := hlog
  refine ⟨hacc ▸ h.taken, ?_, fun _ => hwait.trans (h.room hs), fun _ ho => ?_⟩
  · rw [hfins, hdrop, hacc]
    exact h.whole
  · rw [hdrop, hfins, hreach]
    exact h.place hs (hsock ho)

/-- A packet in sequence stands where the stream goes on. -/
theorem Uploading.place_eq (h : s.Uploading) (hroom : s.waiting.length ≤ 2147483648)
    {pkt : TcpPacket} (hact : Active s pkt) (hin : inSequence s.conn pkt = true) {k : Nat}
    (hk : pkt.seq = seqAt (s.log.isn + 1) k) (hlo : s.settled < k + 2147483648)
    (hhi : k + pkt.l7.length ≤ s.settled + 2147483648) : k = s.reached := by
  have hnumber := h.number (by rw [hact.status]; decide)
  have hseq : pkt.seq = s.conn.clientSeq + s.conn.txQueueSize := beq_iff_eq.mp hin
  rw [hk, hnumber, h.size, ← seqAt_add] at hseq
  exact seqAt_inj hseq (by unfold reached; omega) (by unfold reached; omega)

theorem Uploading.accepted_length (h : s.Uploading) :
    s.log.accepted.length = s.uploaded.length + s.waiting.length := by
  rw [← h.flow, List.length_append]

theorem Carries.queued (h : Carries stream s) (hup : s.Uploading) (hs : s.isClosed = false)
    {pkt : TcpPacket} {a : TcpAnswers} (hact : Active s pkt) (hopen : s.conn.sockOpen = true)
    (hne : pkt.l7 ≠ []) (hsends : SendsStream stream s (.tunPacket pkt a)) :
    Carries stream (s.queued pkt) := by
  obtain ⟨hnot, k, hk, hpre, -, hlo, hhi⟩ := hsends hact.status (.inl hne)
  have hin : inSequence s.conn pkt = true :=
    hact.seq.resolve_left (Bool.eq_false_iff.mp (hnot hne))
  have hplace := hup.place_eq (h.room hs) hact hin hk hlo hhi
  have hlen := hup.accepted_length
  have hreach : (s.queued pkt).reached = s.reached + pkt.l7.length := by
    unfold reached
    rw [waiting_queued, List.length_append, ← Nat.add_assoc]
    rfl
  have hpos : 0 < pkt.l7.length := List.length_pos_iff.mpr hne
  have hfit : k < stream.length := by
    have hle := hpre.length_le
    rw [List.length_drop] at hle
    omega
  -- behind the end of the stream there is nothing to send
  have hzero : s.log.dropped = 0 ∧ s.log.fins = 0 :=
    (h.place hs hopen).resolve_right fun hend => by omega
  have hacc : k = s.log.accepted.length := by
    unfold reached Splice.settled at hplace
    omega
  refine ⟨prefix_append h.taken (hacc ▸ hpre), fun hf => absurd hf (hzero.2 ▸ Nat.lt_irrefl 0),
    fun _ => ?_, fun _ _ => .inl hzero⟩
  rw [waiting_queued, List.length_append]
  unfold reached at hplace
  omega

theorem Carries.finReceived (h : Carries stream s) (hup : s.Uploading) (hs : s.isClosed = false)
    {pkt : TcpPacket} {a : TcpAnswers} (hact : Active s pkt) (hfin : pkt.flags.fin = true)
    (hsends : SendsStream stream s (.tunPacket pkt a)) : Carries stream (s.finReceived pkt) := by
  obtain ⟨hnot, k, hk, -, hend, hlo, hhi⟩ := hsends hact.status (.inr hfin)
  have hend := hend hfin
  have hlen := hup.accepted_length
  have htaken := h.taken.length_le
  have hreach : (s.finReceived pkt).reached = s.reached + (pkt.l7.length + 1) := by
    unfold reached
    rw [settled_finReceived]
    exact Nat.add_right_comm _ _ _
  -- a FIN that looks like a keep-alive was counted before
  have hplace : k = s.reached ∨ s.settled = stream.length + 1 := by
    obtain hkeep | hin := hact.seq
    · have hseq : pkt.seq + 1 = s.conn.clientSeq :=
        beq_iff_eq.mp (Bool.and_eq_true_iff.mp hkeep).2
      have hnil : pkt.l7 = [] := Decidable.byContradiction fun hne =>
        Bool.eq_false_iff.mp (hnot hne) hkeep
      have hnumber := hup.number (by rw [hact.status]; decide)
      rw [hk, ← seqAt_succ, hnumber] at hseq
      have hset := seqAt_inj hseq (by omega) (by omega)
      rw [hnil] at hend
      exact .inr (hset ▸ congrArg (· + 1) hend)
    · exact .inl (hup.place_eq (h.room hs) hact hin hk hlo hhi)
  refine ⟨h.taken, fun _ hdrop => ?_, h.room, fun _ _ => .inr ?_⟩
  · have hdrop : s.log.dropped + pkt.l7.length = 0 := hdrop
    by_cases hfins : s.log.fins = 0
    · refine h.taken.eq_of_length ?_
      unfold reached Splice.settled at hplace
      omega
    · exact h.whole (Nat.pos_of_ne_zero hfins) (by omega)
  · rw [hreach]
    unfold reached at hplace ⊢
    omega

theorem Carries.flush (h : Carries stream s) (hup : s.Uploading) (hs : s.isClosed = false)
    {a : TcpAnswers} {left : List TcpData} {out : List UInt8}
    (hloop : sendQueuedData s.conn.txQueue a.queued = (left, out, none)) :
    Carries stream ((s.written left out).stopWaiting.acknowledge out) := by
  have hwait : s.waiting = out ++ ((s.written left out).stopWaiting.acknowledge out).waiting :=
    waiting_of_loop hloop
  have hlen := congrArg List.length hwait
  rw [List.length_append] at hlen
  have hreach : ((s.written left out).stopWaiting.acknowledge out).reached = s.reached := by
    unfold reached
    rw [settled_flush hup, hlen]
    omega
  exact h.frame hs ⟨rfl, rfl, rfl⟩ (by omega) hreach id

theorem Carries.core (h : Carries stream s) (hup : s.Uploading) (hs : s.isClosed = false)
    (hsends : SendsStream stream s e) (hc : Core cfg s e t) : Carries stream t := by
  have hsame {u : Splice} (hlog : u.log.accepted = s.log.accepted ∧
      u.log.dropped = s.log.dropped ∧ u.log.fins = s.log.fins)
      (hwait : u.waiting = s.waiting) (hset : u.settled = s.settled)
      (hsock : u.conn.sockOpen = true → s.conn.sockOpen = true) : Carries stream u :=
    h.frame hs hlog (by rw [hwait]) (by unfold reached; rw [hset, hwait]) hsock
  cases hc with
  | stays => exact h
  | arrives bytes heof => exact hsame ⟨rfl, rfl, rfl⟩ rfl rfl id
  | ends => exact hsame ⟨rfl, rfl, rfl⟩ rfl rfl id
  | connecting pkt a hnew => exact carries_of_untouched (hup.connects (.now pkt a hnew)).1
  | synAck _ u hu hp seg hseg =>
    exact carries_of_untouched (t := (u.connected.sent seg).countSeq) (hup.connects hu).1
  | hello _ u hu hp =>
    exact carries_of_untouched (t := u.connected.requested cfg.socks5Hello .hello)
      (hup.connects hu).1
  | window pkt a hact hopen hack hnew => exact hsame ⟨rfl, rfl, rfl⟩ rfl rfl id
  | data pkt a hact hopen hne => exact h.queued hup hs hact hopen hne hsends
  | windowData pkt a hact hopen hack hnew hne =>
    have hq := h.queued hup hs hact hopen hne hsends
    exact hq.frame hs ⟨rfl, rfl, rfl⟩ (Nat.le_refl _) rfl id
  | late pkt a hact hclosed =>
    refine ⟨h.taken, fun hf hd => h.whole hf (Nat.eq_zero_of_add_eq_zero_right hd), h.room, ?_⟩
    exact fun _ ho => absurd (hclosed.symm.trans ho) (by decide)
  | fin pkt a hact hfin => exact h.finReceived hup hs hact hfin hsends
  | download a hcan hidle hne push seg hseg => exact hsame ⟨rfl, rfl, rfl⟩ rfl rfl id
  | serverFin a hcan hnone seg hseg => exact hsame ⟨rfl, rfl, rfl⟩ rfl rfl (nomatch ·)
  | serverGone a hcan hnone hfin => exact hsame ⟨rfl, rfl, rfl⟩ rfl rfl (nomatch ·)
  | shakes a hcan hp hne u hu hgo =>
    exact carries_of_untouched (hu.untouched (h := s.afterRecv.hear s.incoming) (hup.shaking hp))
  | shaken a hcan hp hne u hu hest seg hseg =>
    exact carries_of_untouched (t := (u.sent seg).countSeq)
      (Shakes.untouched (h := s.afterRecv.hear s.incoming) (u := u) (hup.shaking hp) hu)
  | flush r a left out hq hloop => exact h.flush hup hs hloop

/-- A closed connection takes nothing more. -/
theorem Carries.closed (h : Carries stream s) (hlog : t.log.accepted = s.log.accepted ∧
      t.log.dropped = s.log.dropped ∧ t.log.fins = s.log.fins) (ht : t.isClosed = true) :
    Carries stream t := by
  obtain ⟨hacc, hdrop, hfins⟩ := hlog
  refine ⟨hacc ▸ h.taken, ?_, fun ho => absurd (ht.symm.trans ho) (by decide),
    fun ho => absurd (ht.symm.trans ho) (by decide)⟩
  rw [hfins, hdrop, hacc]
  exact h.whole

theorem Carries.closes (h : Carries stream s) (hc : Closes s s') : Carries stream s' :=
  h.closed (by rw [hc.log]; exact ⟨rfl, rfl, rfl⟩) hc.closed

theorem Carries.tail (h : Carries stream t) (ht : t.isClosed = false) (htail : Tail t s') :
    Carries stream s' := by
  cases htail with
  | none r p d => exact h.frame ht ⟨rfl, rfl, rfl⟩ (Nat.le_refl _) rfl id
  | ack hst seg hseg r p d => exact h.frame ht ⟨rfl, rfl, rfl⟩ (Nat.le_refl _) rfl id
  | closes s' hc => exact h.closes hc
  | ackCloses hst seg hseg s' hc =>
    exact h.closed (by rw [hc.log]; exact ⟨rfl, rfl, rfl⟩) hc.closed

theorem Carries.outcome (h : Carries stream s) (hup : s.Uploading) (hs : s.isClosed = false)
    (hsends : SendsStream stream s e) (ho : Outcome cfg s e s') : Carries stream s' := by
  have hfails {u : Splice} (hlog : u.log.accepted = s.log.accepted ∧
      u.log.dropped = s.log.dropped ∧ u.log.fins = s.log.fins) (hc : Closes u s') :
      Carries stream s' := by
    refine h.closed ?_ hc.closed
    rw [hc.log]
    exact hlog
  cases ho with
  | core _ t hc s' ht => exact (h.core hup hs hsends hc).tail (hc.isClosed hs) ht
  | refused pkt a hnew => exact h.closed ⟨rfl, rfl, rfl⟩ rfl
  | connectFails pkt a hnew s' hc => exact hfails (u := s.socketOpened pkt) ⟨rfl, rfl, rfl⟩ hc
  | greetFails _ u hu s' hc =>
    exact (carries_of_untouched (t := u.connected) (hup.connects hu).1).closes hc
  | synAckFails a hcan hp u hu s' hc =>
    exact (carries_of_untouched
      (hu.untouched (h := s.afterRecv.hear s.incoming) (hup.shaking hp))).closes hc
  | recvFails a s' hc => exact hfails (u := s.afterRecv) ⟨rfl, rfl, rfl⟩ hc
  | shakeFails a hcan hp s' hc => exact hfails (u := s.afterRecv.hear s.incoming) ⟨rfl, rfl, rfl⟩ hc
  | writeFails r a left out errno hloop s' hc =>
    exact hfails (u := s.written left out) ⟨rfl, rfl, rfl⟩ hc

theorem Carries.step (h : Carries stream s) (hup : s.Uploads) (hsends : SendsStream stream s e) :
    Carries stream (step cfg s e) := by
  cases hs : s.isClosed with
  | false =>
    have hopen := hup.opened hs
    exact h.outcome hopen hs hsends (outcome_step hs hopen.queue_established e)
  | true =>
    obtain ⟨u, r, p, d, hu, hstep⟩ := step_of_closed cfg hs (hup.closed hs) e
    rw [hstep]
    rcases hu with rfl | ⟨bytes, -, rfl⟩ | rfl
    all_goals exact h.closed ⟨rfl, rfl, rfl⟩ hs

/-- In every run, what the socket took is, behind the requests to the proxy, the payloads taken
from the client, in order; what it has not taken is queued, and `tx_queue_size` counts it. Every
packet to the client but a RST acknowledges only bytes that the socket took, and bytes and FINs
that were thrown away. -/
theorem everyState_upload (cfg : SpliceConfig) (proxy : Bool) (es : List Event) :
    Machine.EveryState (Splice.step cfg)
      (fun s => s.Settled ∧ (s.isClosed = false → s.uploaded ++ s.waiting = s.log.accepted ∧
        s.conn.txQueueSize = UInt32.ofNat s.waiting.length ∧
        (s.conn.status ≠ .new → s.conn.clientSeq = seqAt (s.log.isn + 1) s.settled)))
      (init proxy) es := by
  have hkeeps (s : Splice) (e : Event) (h : s.Uploads) (_ : True) :
      (Splice.step cfg s e).Uploads := h.step e
  refine Machine.everyState_of_invariant hkeeps (fun s h => ⟨h.settled, fun ho => ?_⟩)
    (uploads_init proxy) (Machine.everyStep_of_forall_mem _ fun _ _ => trivial)
  have hup := h.opened ho
  exact ⟨hup.flow, hup.size, hup.number⟩

/-- The server gets the client's stream: in every run of a client that sends it, what the socket
took is a prefix of the stream, and once a FIN was taken and nothing thrown away, all of the
stream is written or queued. -/
theorem everyState_uploaded (cfg : SpliceConfig) (proxy : Bool) (stream : List UInt8)
    (es : List Event)
    (h : Machine.EveryStep (Splice.step cfg) (SendsStream stream) (init proxy) es) :
    Machine.EveryState (Splice.step cfg)
      (fun s => s.uploaded <+: stream ∧ (s.isClosed = false → 0 < s.log.fins →
        s.log.dropped = 0 → s.uploaded ++ s.waiting = stream))
      (init proxy) es := by
  have hkeeps (s : Splice) (e : Event) (hs : s.Uploads ∧ Carries stream s)
      (hsends : SendsStream stream s e) :
      (Splice.step cfg s e).Uploads ∧ Carries stream (Splice.step cfg s e) :=
    ⟨hs.1.step e, hs.2.step hs.1 hsends⟩
  refine Machine.everyState_of_invariant hkeeps (fun s hs => ⟨?_, ?_⟩)
    ⟨uploads_init proxy, carries_init proxy⟩ h
  · exact hs.1.settled.taken.trans hs.2.taken
  · intro ho hf hd
    rw [(hs.1.opened ho).flow]
    exact hs.2.whole hf hd

/-! A browser that asks a web server for nine bytes, whose socket takes four of them first. -/

def webConfig : SpliceConfig :=
  ⟨⟨ip4 10 215 173 1, ip4 9 9 9 1, 40001, 80, .v4, .tcp⟩, rfl, 1460, none⟩

def ready (queued : List QueuedSend) : TcpAnswers :=
  ⟨true, .done, none, queued, true, ⟨false, .ok⟩, ⟨false, .ok⟩, 0, 0⟩

def getRequest : List UInt8 := [71, 69, 84, 32, 47, 13, 10, 13, 10]

def browse : List Event :=
  [.tunPacket ⟨4294967290, 0, 512, ⟨false, true, false, false, false, false⟩, 1460, 6, []⟩
      (ready []),
    .tunPacket ⟨4294967291, firstSeq + 1, 512, { thAck with push := true }, 0, 0, getRequest⟩
      (ready []),
    .writable .connected (ready [.sent 4, .wouldBlock]),
    .writable .connected (ready [.sent 5]),
    .tunPacket ⟨4, firstSeq + 1, 512, thFinAck, 0, 0, []⟩ (ready [])]

theorem everyState_uploaded_browse : Machine.EveryState (step webConfig)
    (fun s => s.uploaded <+: getRequest ∧ (s.isClosed = false → 0 < s.log.fins →
      s.log.dropped = 0 → s.uploaded ++ s.waiting = getRequest)) (init false) browse :=
  everyState_uploaded webConfig false getRequest browse
    ⟨(nomatch ·), fun _ _ => ⟨by decide, 0, by decide⟩, trivial, trivial,
      fun _ _ => ⟨by decide, 9, by decide⟩, trivial⟩

end Splice

end SecureGuard.Native
