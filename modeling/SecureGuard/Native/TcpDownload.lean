import SecureGuard.Lib.SequenceSpace
import SecureGuard.Native.TcpUpload

/-! # What a spliced connection carries to the client

What the server sends is read, in part by the handshake with the proxy, and goes to the client in
packets numbered one behind the other. The client's window is another account of the same
bytes. -/

namespace SecureGuard.Native

open SequenceSpace

/-- How many sequence numbers a packet takes. -/
def ClientSegment.size (seg : ClientSegment) : Nat :=
  seg.flags.syn.toNat + seg.l7.length + seg.flags.fin.toNat

namespace Splice

/-! ## Accounts -/

/-- The packets whose numbers count; those of a RST do not. -/
def counted (s : Splice) : List ClientSegment := s.client.filter (!·.flags.rst)

/-- The bytes the client got. -/
def downloaded (s : Splice) : List UInt8 := s.client.flatMap ClientSegment.l7

/-- How many sequence numbers the client got. -/
def numbers (s : Splice) : Nat := total ClientSegment.size s.counted

/-- What holds of the download also after the connection is closed. -/
structure Delivered (s : Splice) : Prop where
  order : Consecutive ClientSegment.seq ClientSegment.size firstSeq s.counted
  bytes : s.downloaded = s.log.forwarded
  prefix_sent : s.log.told ++ s.log.forwarded <+: s.log.sent

/-- The invariant of an open connection. -/
structure Downloading (s : Splice) : Prop where
  order : Consecutive ClientSegment.seq ClientSegment.size firstSeq s.counted
  bytes : s.downloaded = s.log.forwarded
  flow : s.log.told ++ s.log.forwarded ++ s.server.inbox = s.log.sent
  number : s.conn.status ≠ .new → s.conn.zdtunSeq = seqAt firstSeq s.numbers
  fresh : s.conn.status = .new → s.client = []
  sock : s.conn.sockOpen = true → s.conn.status ≠ .new
  granted : s.conn.proxySocks5 = true → s.conn.socks5Status = .established →
    s.conn.status = .connected
  shaking : s.conn.socks5InProgress = true → s.log.forwarded = []

variable {cfg : SpliceConfig} {s t s' : Splice} {e : Event}

theorem counted_concat {seg : ClientSegment} (hclient : t.client = s.client ++ [seg])
    (hrst : seg.flags.rst = false) : t.counted = s.counted ++ [seg] := by
  unfold counted
  rw [hclient, List.filter_append, List.filter_singleton, hrst]
  rfl

theorem downloaded_concat {seg : ClientSegment} (hclient : t.client = s.client ++ [seg]) :
    t.downloaded = s.downloaded ++ seg.l7 := by
  unfold downloaded
  rw [hclient, List.flatMap_append, List.flatMap_singleton]

theorem counted_of_rst {t : Splice} (hclient : t.client = s.client ∨
    ∃ seg, seg.flags = thRstAck ∧ seg.l7 = [] ∧ t.client = s.client ++ [seg]) :
    t.counted = s.counted ∧ t.downloaded = s.downloaded := by
  obtain hsame | ⟨seg, hflags, hl7, hmore⟩ := hclient
  · unfold counted downloaded
    rw [hsame]
    exact ⟨rfl, rfl⟩
  · refine ⟨?_, by rw [downloaded_concat hmore, hl7, List.append_nil]⟩
    unfold counted
    rw [hmore, List.filter_append, List.filter_singleton, hflags]
    exact List.append_nil _

/-! ## The invariant -/

theorem Downloading.delivered (h : s.Downloading) : s.Delivered :=
  ⟨h.order, h.bytes, h.flow ▸ List.prefix_append _ _⟩

theorem Downloading.not_new (h : s.Downloading) (hcan : s.canRead none = true) :
    s.conn.status ≠ .new := h.sock (canRead_open hcan).1

theorem downloading_init (proxy : Bool) : (init proxy).Downloading where
  order := trivial
  bytes := rfl
  flow := rfl
  number h := absurd rfl h
  fresh _ := rfl
  sock h := nomatch h
  granted _ h := nomatch h
  shaking _ := rfl

/-- An update that sends nothing to the client. -/
theorem Downloading.frame (h : s.Downloading) (hclient : t.client = s.client)
    (hforwarded : t.log.forwarded = s.log.forwarded)
    (hflow : t.log.told ++ t.log.forwarded ++ t.server.inbox = t.log.sent)
    (hconn : t.conn.zdtunSeq = s.conn.zdtunSeq ∧ t.conn.status = s.conn.status)
    (hsocks : t.conn.proxySocks5 = s.conn.proxySocks5 ∧ t.conn.socks5Status = s.conn.socks5Status)
    (hsock : t.conn.sockOpen = true → s.conn.sockOpen = true) : t.Downloading := by
  obtain ⟨hseq, hstatus⟩ := hconn
  obtain ⟨hproxy, hsocks⟩ := hsocks
  have hcounted : t.counted = s.counted := by unfold counted; rw [hclient]
  refine ⟨hcounted ▸ h.order, ?_, hflow, ?_, ?_, ?_, ?_, ?_⟩
  · unfold downloaded
    rw [hclient, hforwarded]
    exact h.bytes
  · unfold numbers
    rw [hseq, hstatus, hcounted]
    exact h.number
  · rw [hstatus, hclient]
    exact h.fresh
  · rw [hstatus]
    exact fun ho => h.sock (hsock ho)
  · rw [hproxy, hsocks, hstatus]
    exact h.granted
  · unfold TcpConn.socks5InProgress
    rw [hproxy, hsocks, hforwarded]
    exact h.shaking

/-- The next packet for the client. -/
theorem Downloading.sends (h : s.Downloading) (hnew : s.conn.status ≠ .new) {seg : ClientSegment}
    (hclient : t.client = s.client ++ [seg]) (hrst : seg.flags.rst = false)
    (hseq : seg.seq = s.conn.zdtunSeq)
    (hnext : t.conn.zdtunSeq = s.conn.zdtunSeq + UInt32.ofNat seg.size)
    (hforwarded : t.log.forwarded = s.log.forwarded ++ seg.l7)
    (hflow : t.log.told ++ t.log.forwarded ++ t.server.inbox = t.log.sent)
    (hstatus : t.conn.status ≠ .new)
    (hgranted : t.conn.proxySocks5 = true → t.conn.socks5Status = .established →
      t.conn.status = .connected)
    (hshaking : t.conn.socks5InProgress = true → t.log.forwarded = []) : t.Downloading := by
  have hcounted := counted_concat hclient hrst
  have hnumber := h.number hnew
  refine ⟨?_, ?_, hflow, fun _ => ?_, fun hnew => absurd hnew hstatus, fun _ => hstatus, hgranted,
    hshaking⟩
  · rw [hcounted, consecutive_concat]
    exact ⟨h.order, hseq.trans hnumber⟩
  · rw [downloaded_concat hclient, hforwarded, h.bytes]
  · unfold numbers
    rw [hcounted, total_concat, seqAt_add, hnext, hnumber]
    rfl

/-- When the connect turns out to be done, the proxy has not said anything yet. -/
theorem Downloading.connects (h : s.Downloading) (hup : s.Uploading) {u : Splice}
    (hu : Connects s e u) : u.connected.Downloading ∧
      (u.conn.proxySocks5 = true → u.log.forwarded = []) := by
  have hquiet (hs : s.conn.status ≠ .connected) (hp : s.conn.proxySocks5 = true) :
      s.log.forwarded = [] := by
    refine h.shaking ?_
    have hne : s.conn.socks5Status ≠ .established := fun he => hs (h.granted hp he)
    simp [TcpConn.socks5InProgress, hp, hne]
  have hshaking {u : Splice} (hp : u.connected.conn.socks5InProgress = true) :
      u.conn.proxySocks5 = true := (Bool.and_eq_true_iff.mp hp).1
  cases hu with
  | now pkt a hnew =>
    have hnone := h.fresh hnew
    have hquiet := hquiet (by rw [hnew]; decide)
    have hcounted : ((s.socketOpened pkt).numbered pkt).connected.counted = [] := by
      unfold counted
      rw [show ((s.socketOpened pkt).numbered pkt).connected.client = [] from hnone]
      rfl
    refine ⟨⟨hcounted ▸ trivial, h.bytes, h.flow, fun _ => ?_,
      fun h => absurd h connected_ne_new, fun _ => connected_ne_new, fun _ _ => rfl,
      fun hp => hquiet (hshaking hp)⟩, hquiet⟩
    unfold numbers
    rw [hcounted]
    exact (seqAt_zero firstSeq).symm
  | later r a hwait hq =>
    have hstatus := hup.awaits hwait hq
    have hquiet := hquiet (by rw [hstatus]; decide)
    exact ⟨⟨h.order, h.bytes, h.flow, fun _ => h.number (by rw [hstatus]; decide),
      fun h => absurd h connected_ne_new, fun _ => connected_ne_new, fun _ _ => rfl,
      fun hp => hquiet (hshaking hp)⟩, hquiet⟩

/-- What was read is off the socket. -/
theorem incoming_append : s.incoming ++ s.afterRecv.server.inbox = s.server.inbox :=
  List.take_append_drop _ _

/-- A proxy says nothing before it is asked: nothing is read of it while the connect is under
way. -/
def ProxyWaits (s : Splice) : Event → Prop
  | .readable _ _ => s.conn.proxySocks5 = true → s.conn.status ≠ .connecting
  | _ => True

/-- The proxy is read only once the connect is done. -/
theorem Downloading.status_shaking (h : s.Downloading) (hs : s.isClosed = false) {a : TcpAnswers}
    (hcan : s.canRead none = true) (hwaits : ProxyWaits s (.readable none a))
    (hp : s.conn.socks5InProgress = true) : s.conn.status = .connected := by
  have hnew := h.not_new hcan
  have hconnecting := hwaits (Bool.and_eq_true_iff.mp hp).1
  unfold isClosed at hs
  cases hstatus : s.conn.status <;> simp_all [ConnStatus.isClosed]

/-- What the proxy says is read off the socket. -/
theorem Downloading.hear (h : s.Downloading) (hp : s.conn.socks5InProgress = true) :
    (s.afterRecv.hear s.incoming).Downloading := by
  have hquiet := h.shaking hp
  refine h.frame rfl rfl ?_ ⟨rfl, rfl⟩ ⟨rfl, rfl⟩ id
  have hflow := h.flow
  rw [hquiet, List.append_nil, ← incoming_append, ← List.append_assoc] at hflow
  change s.log.told ++ s.incoming ++ s.log.forwarded ++ s.afterRecv.server.inbox = s.log.sent
  rw [hquiet, List.append_nil]
  exact hflow

/-- An answer of the proxy leaves the download alone. -/
theorem Downloading.shakes (h : s.Downloading) (hstatus : s.conn.status = .connected)
    (hp : s.conn.socks5InProgress = true) {bytes : List UInt8} {u : Splice}
    (hu : Shakes cfg s bytes u) : u.Downloading ∧ u.conn.status = .connected := by
  have hquiet := h.shaking hp
  cases hu with
  | _ => exact ⟨⟨h.order, h.bytes, h.flow, h.number, h.fresh, h.sock, fun _ _ => hstatus,
      fun _ => hquiet⟩, hstatus⟩

theorem Downloading.core (h : s.Downloading) (hup : s.Uploading) (hs : s.isClosed = false)
    (hwaits : ProxyWaits s e) (hc : Core cfg s e t) : t.Downloading := by
  cases hc with
  | stays => exact h
  | arrives bytes heof =>
    refine h.frame rfl rfl ?_ ⟨rfl, rfl⟩ ⟨rfl, rfl⟩ id
    exact (List.append_assoc _ _ _).symm.trans (congrArg (· ++ bytes) h.flow)
  | ends => exact h.frame rfl rfl h.flow ⟨rfl, rfl⟩ ⟨rfl, rfl⟩ id
  | connecting pkt a hnew =>
    obtain ⟨hd, hquiet⟩ := h.connects hup (.now pkt a hnew)
    refine ⟨hd.order, hd.bytes, hd.flow, fun _ => hd.number connected_ne_new,
      fun h => absurd h connecting_ne_new, fun _ => connecting_ne_new, fun hp he => ?_, hd.shaking⟩
    exact absurd (hnew.symm.trans (h.granted hp he)).symm connected_ne_new
  | synAck _ u hu hp seg hseg =>
    obtain ⟨hd, -⟩ := h.connects hup hu
    have hnone : seg.l7 = [] := hseg.l7
    refine hd.sends connected_ne_new rfl (by rw [hseg.flags]; rfl) hseg.seq ?_ ?_ hd.flow
      connected_ne_new (fun _ _ => rfl) hd.shaking
    · unfold ClientSegment.size
      rw [hseg.flags, hnone]
      rfl
    · rw [hnone, List.append_nil]
      rfl
  | hello _ u hu hp =>
    obtain ⟨hd, hquiet⟩ := h.connects hup hu
    exact ⟨hd.order, hd.bytes, hd.flow, hd.number, fun h => absurd h connected_ne_new,
      fun _ => connected_ne_new,
      fun _ _ => rfl, fun _ => hquiet hp⟩
  | window pkt a hact hopen hack hnew => exact h.frame rfl rfl h.flow ⟨rfl, rfl⟩ ⟨rfl, rfl⟩ id
  | data pkt a hact hopen hne => exact h.frame rfl rfl h.flow ⟨rfl, rfl⟩ ⟨rfl, rfl⟩ id
  | windowData pkt a hact hopen hack hnew hne =>
    exact h.frame rfl rfl h.flow ⟨rfl, rfl⟩ ⟨rfl, rfl⟩ id
  | late pkt a hact hclosed => exact h.frame rfl rfl h.flow ⟨rfl, rfl⟩ ⟨rfl, rfl⟩ id
  | fin pkt a hact hfin => exact h.frame rfl rfl h.flow ⟨rfl, rfl⟩ ⟨rfl, rfl⟩ id
  | download a hcan hidle hne push seg hseg =>
    refine h.sends (h.not_new hcan) rfl (by rw [hseg.flags]; rfl) hseg.seq ?_ ?_ ?_
      (h.not_new hcan) h.granted fun hp => absurd (hidle.symm.trans hp) (by decide)
    · unfold ClientSegment.size
      rw [hseg.flags, hseg.l7]
      simp [afterRecv, recv, Splice.sent, dataSent, thAck]
    · rw [hseg.l7]
      rfl
    · have hflow := h.flow
      rw [← incoming_append, ← List.append_assoc] at hflow
      change s.log.told ++ (s.log.forwarded ++ s.incoming) ++ s.afterRecv.server.inbox = s.log.sent
      rw [← List.append_assoc]
      exact hflow
  | serverFin a hcan hnone seg hseg =>
    have hflow : s.log.told ++ s.log.forwarded ++ s.afterRecv.server.inbox = s.log.sent := by
      have hsame := incoming_append (s := s)
      rw [hnone, List.nil_append] at hsame
      rw [hsame]
      exact h.flow
    have hnil : seg.l7 = [] := hseg.l7
    refine h.sends (h.not_new hcan) rfl (by rw [hseg.flags]; rfl) hseg.seq ?_ ?_ hflow
      (h.not_new hcan) h.granted h.shaking
    · unfold ClientSegment.size
      rw [hseg.flags, hnil]
      rfl
    · rw [hnil, List.append_nil]
      rfl
  | serverGone a hcan hnone hfin =>
    refine h.frame rfl rfl ?_ ⟨rfl, rfl⟩ ⟨rfl, rfl⟩ fun ho => absurd ho Bool.false_ne_true
    have hsame := incoming_append (s := s)
    rw [hnone, List.nil_append] at hsame
    change s.log.told ++ s.log.forwarded ++ s.afterRecv.server.inbox = s.log.sent
    rw [hsame]
    exact h.flow
  | shakes a hcan hp hne u hu hgo =>
    exact ((h.hear hp).shakes (h.status_shaking hs hcan hwaits hp) hp hu).1
  | shaken a hcan hp hne u hu hest seg hseg =>
    obtain ⟨hd, hstatus⟩ := (h.hear hp).shakes (h.status_shaking hs hcan hwaits hp) hp hu
    have hnone : seg.l7 = [] := hseg.l7
    have hnew : u.conn.status ≠ .new := by rw [hstatus]; decide
    refine hd.sends hnew rfl (by rw [hseg.flags]; rfl) hseg.seq ?_ ?_ hd.flow hnew hd.granted
      hd.shaking
    · unfold ClientSegment.size
      rw [hseg.flags, hnone]
      rfl
    · rw [hnone, List.append_nil]
      rfl
  | flush r a left out hq hloop => exact h.frame rfl rfl h.flow ⟨rfl, rfl⟩ ⟨rfl, rfl⟩ id

/-! ## Steps and runs -/

/-- An update that leaves the download alone, with a RST for the client at most. -/
theorem Delivered.frame (h : s.Delivered) (hclient : t.client = s.client ∨
      ∃ seg, seg.flags = thRstAck ∧ seg.l7 = [] ∧ t.client = s.client ++ [seg])
    (hlog : t.log.forwarded = s.log.forwarded ∧ t.log.told = s.log.told)
    (hsent : s.log.sent <+: t.log.sent) : t.Delivered := by
  obtain ⟨hcounted, hdownloaded⟩ := counted_of_rst hclient
  obtain ⟨hforwarded, htold⟩ := hlog
  refine ⟨hcounted ▸ h.order, by rw [hdownloaded, hforwarded, h.bytes], ?_⟩
  rw [htold, hforwarded]
  exact h.prefix_sent.trans hsent

theorem Delivered.closes (h : s.Delivered) (hc : Closes s s') : s'.Delivered :=
  h.frame hc.client (by rw [hc.log]; exact ⟨rfl, rfl⟩)
    (hc.log ▸ List.prefix_refl _)

/-- The invariant of every connection, open or closed. -/
structure Downloads (s : Splice) : Prop where
  uploads : s.Uploads
  delivered : s.Delivered
  opened : s.isClosed = false → s.Downloading

theorem downloads_of_closes (hup : s'.Uploads) (h : t.Delivered) (hc : Closes t s') :
    s'.Downloads :=
  ⟨hup, h.closes hc, fun ho => absurd (hc.closed.symm.trans ho) (by decide)⟩

theorem Downloading.downloads (hup : s.Uploads) (h : s.Downloading) : s.Downloads :=
  ⟨hup, h.delivered, fun _ => h⟩

/-- An ACK takes no numbers. -/
theorem Downloading.acked (h : t.Downloading) (ht : t.Established) {seg : ClientSegment}
    (hseg : Built t thAck [] seg) : (t.sent seg).Downloading := by
  have hnone : seg.l7 = [] := hseg.l7
  have hnew : t.conn.status ≠ .new := by rw [ht.status]; decide
  refine h.sends hnew rfl (by rw [hseg.flags]; rfl) hseg.seq ?_ ?_ h.flow hnew h.granted h.shaking
  · unfold ClientSegment.size
    rw [hseg.flags, hnone]
    exact (UInt32.add_zero _).symm
  · rw [hnone, List.append_nil]
    rfl

theorem Downloading.tail (h : t.Downloading) (hup : s'.Uploads) (htail : Tail t s') :
    s'.Downloads := by
  have hmark {u : Splice} (hu : u.Downloading) (r p d : Bool) : (u.mark r p d).Downloading :=
    hu.frame rfl rfl hu.flow ⟨rfl, rfl⟩ ⟨rfl, rfl⟩ id
  cases htail with
  | none r p d => exact (hmark h r p d).downloads hup
  | ack hst seg hseg r p d => exact (hmark (h.acked hst hseg) r p d).downloads hup
  | closes s' hc => exact downloads_of_closes hup h.delivered hc
  | ackCloses hst seg hseg s' hc => exact downloads_of_closes hup (h.acked hst hseg).delivered hc

theorem Downloads.outcome (h : s.Downloads) (hup : s'.Uploads) (hs : s.isClosed = false)
    (hwaits : ProxyWaits s e) (ho : Outcome cfg s e s') : s'.Downloads := by
  have hd := h.opened hs
  have hsame {u : Splice} (hclient : u.client = s.client) (hlog : u.log.forwarded =
      s.log.forwarded ∧ u.log.told = s.log.told ∧ u.log.sent = s.log.sent) : u.Delivered :=
    h.delivered.frame (.inl hclient) ⟨hlog.1, hlog.2.1⟩ (hlog.2.2 ▸ List.prefix_refl _)
  cases ho with
  | core _ t hc s' ht => exact (hd.core (h.uploads.opened hs) hs hwaits hc).tail hup ht
  | refused pkt a hnew =>
    exact ⟨hup, hsame rfl ⟨rfl, rfl, rfl⟩, (nomatch ·)⟩
  | connectFails pkt a hnew s' hc =>
    exact downloads_of_closes (t := s.socketOpened pkt) hup (hsame rfl ⟨rfl, rfl, rfl⟩) hc
  | greetFails _ u hu s' hc =>
    exact downloads_of_closes hup (hd.connects (h.uploads.opened hs) hu).1.delivered hc
  | synAckFails a hcan hp u hu s' hc =>
    have hstatus := hd.status_shaking hs hcan hwaits hp
    exact downloads_of_closes hup ((hd.hear hp).shakes hstatus hp hu).1.delivered hc
  | recvFails a s' hc =>
    exact downloads_of_closes (t := s.afterRecv) hup (hsame rfl ⟨rfl, rfl, rfl⟩) hc
  | shakeFails a hcan hp s' hc => exact downloads_of_closes hup (hd.hear hp).delivered hc
  | writeFails r a left out errno hloop s' hc =>
    exact downloads_of_closes (t := s.written left out) hup (hsame rfl ⟨rfl, rfl, rfl⟩) hc

theorem Downloads.step (h : s.Downloads) (hwaits : ProxyWaits s e) : (step cfg s e).Downloads := by
  have hup : (Splice.step cfg s e).Uploads := h.uploads.step e
  cases hs : s.isClosed with
  | false =>
    exact h.outcome hup hs hwaits (outcome_step hs (h.uploads.opened hs).queue_established e)
  | true =>
    refine ⟨hup, ?_, ?_⟩
    all_goals obtain ⟨u, r, p, d, hu, hstep⟩ := step_of_closed cfg hs (h.uploads.closed hs) e
    all_goals rw [hstep]
    · rcases hu with rfl | ⟨bytes, -, rfl⟩ | rfl
      · exact h.delivered.frame (.inl rfl) ⟨rfl, rfl⟩ (List.prefix_refl _)
      · exact h.delivered.frame (.inl rfl) ⟨rfl, rfl⟩ (List.prefix_append _ _)
      · exact h.delivered.frame (.inl rfl) ⟨rfl, rfl⟩ (List.prefix_refl _)
    · intro ho
      refine absurd (hs.symm.trans ?_) (by decide : ¬ true = false)
      rcases hu with rfl | ⟨bytes, -, rfl⟩ | rfl
      all_goals exact ho

theorem downloads_init (proxy : Bool) : (init proxy).Downloads :=
  (downloading_init proxy).downloads (uploads_init proxy)

/-- In every run, the packets to the client but the RSTs are numbered one behind the other from
`firstSeq`, and what they carry is, behind the answers of the proxy, what the server sent, in order.
While the connection is open, what is missing is still to be read. -/
theorem everyState_download (cfg : SpliceConfig) (proxy : Bool) (es : List Event)
    (h : Machine.EveryStep (Splice.step cfg) ProxyWaits (init proxy) es) :
    Machine.EveryState (Splice.step cfg)
      (fun s => Consecutive ClientSegment.seq ClientSegment.size firstSeq s.counted ∧
        s.log.told ++ s.downloaded <+: s.log.sent ∧
        (s.isClosed = false → s.log.told ++ s.downloaded ++ s.server.inbox = s.log.sent))
      (init proxy) es := by
  have hkeeps (s : Splice) (e : Event) (hs : s.Downloads) (hw : ProxyWaits s e) :
      (Splice.step cfg s e).Downloads := hs.step hw
  refine Machine.everyState_of_invariant hkeeps
    (fun s hs => ⟨hs.delivered.order, ?_, fun ho => ?_⟩) (downloads_init proxy) h
  · rw [hs.delivered.bytes]
    exact hs.delivered.prefix_sent
  · rw [hs.delivered.bytes]
    exact (hs.opened ho).flow

/-- The web server answers with five bytes and closes. -/
def fetch : List Event :=
  browse.take 4 ++
  [.serverSends [72, 101, 108], .readable none (ready []), .serverSends [108, 111], .serverCloses,
    .readable none (ready []),
    .tunPacket ⟨4, firstSeq + 6, 512, thAck, 0, 0, []⟩ (ready []), .readable none (ready [])]

theorem everyState_download_fetch : Machine.EveryState (step webConfig)
    (fun s => Consecutive ClientSegment.seq ClientSegment.size firstSeq s.counted ∧
      s.log.told ++ s.downloaded <+: s.log.sent ∧
      (s.isClosed = false → s.log.told ++ s.downloaded ++ s.server.inbox = s.log.sent))
    (init false) fetch :=
  everyState_download webConfig false fetch
    ⟨trivial, trivial, trivial, trivial, trivial, (nomatch ·), trivial, trivial, (nomatch ·),
      trivial, (nomatch ·), trivial⟩

/-! ## The client's window -/

/-- The client leaves room: it offers a window to begin with, and an ACK that updates the window
never takes back what was offered. -/
def KeepsWindow (s : Splice) : Event → Prop
  | .tunPacket pkt _ =>
    (s.conn.status = .new → pkt.mss ≠ 0 ∧ pkt.win.toUInt32 <<< pkt.scale.toUInt32 ≠ 0) ∧
    (s.conn.sockOpen = true → inSequence s.conn pkt = true → OnlyAcks pkt →
      s.log.edge + (inFlight s.conn pkt.ackNum).toNat ≤
        1 + s.log.forwarded.length + (TcpPacket.window s.conn pkt).toNat)
  | _ => True

/-- What holds of the window and of the end of the stream. -/
structure Windowed (s : Splice) : Prop where
  edge : s.conn.sockOpen = true →
    1 + s.log.forwarded.length + s.conn.windowSize.toNat = s.log.edge
  room : s.conn.sockOpen = true → s.conn.selected = true → s.conn.windowSize ≠ 0
  mss : s.conn.sockOpen = true → s.conn.mss ≠ 0
  fits : s.log.forwarded ≠ [] → s.log.forwarded.length < s.log.edge
  fin : ∀ seg ∈ s.client, seg.flags.fin = true →
    s.conn.sockOpen = false ∧ s.server.eof = true ∧ s.log.told ++ s.log.forwarded = s.log.sent

theorem windowed_init (proxy : Bool) : (init proxy).Windowed :=
  ⟨nofun, nofun, nofun, fun h => absurd rfl h, nofun⟩

/-- An update that leaves the window alone, with a packet for the client at most that is no FIN.
Once the socket is closed and nothing more comes, nothing is read. -/
theorem Windowed.frame (h : s.Windowed)
    (hconn : t.conn.sockOpen = true → s.conn.sockOpen = true ∧ t.conn.windowSize =
      s.conn.windowSize ∧ t.conn.selected = s.conn.selected ∧ t.conn.mss = s.conn.mss)
    (hlog : t.log.forwarded = s.log.forwarded ∧ t.log.edge = s.log.edge)
    (hended : s.conn.sockOpen = false → s.server.eof = true →
      t.server.eof = true ∧ t.log.told = s.log.told ∧ t.log.sent = s.log.sent)
    (hclient : ∀ seg ∈ t.client, seg.flags.fin = true → seg ∈ s.client) : t.Windowed := by
  obtain ⟨hforwarded, hedge⟩ := hlog
  refine ⟨fun ho => ?_, fun ho => ?_, fun ho => ?_, ?_, fun seg hmem hfin => ?_⟩
  · obtain ⟨hopen, hwindow, -, -⟩ := hconn ho
    rw [hforwarded, hwindow, hedge]
    exact h.edge hopen
  · obtain ⟨hopen, hwindow, hselected, -⟩ := hconn ho
    rw [hwindow, hselected]
    exact h.room hopen
  · obtain ⟨hopen, -, -, hmss⟩ := hconn ho
    rw [hmss]
    exact h.mss hopen
  · rw [hforwarded, hedge]
    exact h.fits
  · obtain ⟨hclosed, heof, hall⟩ := h.fin seg (hclient seg hmem hfin) hfin
    obtain ⟨heof', htold, hsent⟩ := hended hclosed heof
    refine ⟨Bool.eq_false_iff.mpr fun ho => ?_, heof', by rw [htold, hforwarded, hsent, hall]⟩
    exact absurd (hclosed.symm.trans (hconn ho).1) (by decide)

/-- An update of the connection and of what the run notes of the upload. -/
theorem Windowed.same (h : s.Windowed)
    (hconn : t.conn.sockOpen = s.conn.sockOpen ∧ t.conn.windowSize = s.conn.windowSize ∧
      t.conn.selected = s.conn.selected ∧ t.conn.mss = s.conn.mss)
    (hlog : t.log.forwarded = s.log.forwarded ∧ t.log.edge = s.log.edge ∧
      t.log.told = s.log.told ∧ t.log.sent = s.log.sent)
    (heof : t.server.eof = s.server.eof)
    (hclient : ∀ seg ∈ t.client, seg.flags.fin = true → seg ∈ s.client) : t.Windowed :=
  h.frame (fun ho => ⟨hconn.1 ▸ ho, hconn.2⟩) ⟨hlog.1, hlog.2.1⟩
    (fun _ he => ⟨heof ▸ he, hlog.2.2⟩) hclient

theorem mem_of_concat {seg : ClientSegment} {xs : List ClientSegment}
    (hfin : seg.flags.fin = false) : ∀ x ∈ xs ++ [seg], x.flags.fin = true → x ∈ xs := by
  intro x hmem hx
  obtain hmem | hmem := List.mem_append.mp hmem
  · exact hmem
  · obtain rfl := List.mem_singleton.mp hmem
    exact absurd (hfin.symm.trans hx) (by decide)

theorem Windowed.closes (h : t.Windowed) (hc : Closes t s') : s'.Windowed := by
  refine h.frame (fun ho => absurd (hc.sock.symm.trans ho) (by decide))
    (by rw [hc.log]; exact ⟨rfl, rfl⟩) (fun _ he => ?_) ?_
  · rw [hc.server, hc.log]
    exact ⟨he, rfl, rfl⟩
  · obtain hsame | ⟨seg, hflags, -, hmore⟩ := hc.client
    · rw [hsame]
      exact fun seg hmem _ => hmem
    · rw [hmore]
      exact mem_of_concat (by rw [hflags]; rfl)

theorem Windowed.socketOpened (hd : s.Downloading) (hnew : s.conn.status = .new)
    {pkt : TcpPacket} {a : TcpAnswers} (hkeeps : KeepsWindow s (.tunPacket pkt a)) :
    (s.socketOpened pkt).Windowed := by
  obtain ⟨hmss, hwindow⟩ := hkeeps.1 hnew
  have hnone := hd.fresh hnew
  have hquiet : s.log.forwarded = [] := by
    rw [← hd.bytes]
    unfold downloaded
    rw [hnone]
    rfl
  refine ⟨fun _ => ?_, fun _ _ => hwindow, fun _ => hmss, fun h => absurd hquiet h, ?_⟩
  · change 1 + s.log.forwarded.length + _ = _
    rw [hquiet]
    rfl
  · intro seg hmem
    rw [show (s.socketOpened pkt).client = [] from hnone] at hmem
    cases hmem

theorem Windowed.connects (h : s.Windowed) (hd : s.Downloading) (hkeeps : KeepsWindow s e)
    {u : Splice} (hu : Connects s e u) : u.connected.Windowed := by
  cases hu with
  | now pkt a hnew =>
    have ho := Windowed.socketOpened hd hnew hkeeps
    exact ho.same ⟨rfl, rfl, rfl, rfl⟩ ⟨rfl, rfl, rfl, rfl⟩ rfl fun _ hm _ => hm
  | later r a hwait hq =>
    exact h.same ⟨rfl, rfl, rfl, rfl⟩ ⟨rfl, rfl, rfl, rfl⟩ rfl fun _ hm _ => hm

/-- The window moves on, or stays. -/
theorem Windowed.updateWindow (h : s.Windowed) {pkt : TcpPacket} {a : TcpAnswers}
    (hkeeps : KeepsWindow s (.tunPacket pkt a)) (hact : Active s pkt)
    (hopen : s.conn.sockOpen = true) (hack : OnlyAcks pkt) (hnew : isKeepAlive s.conn pkt = false) :
    (s.updateWindow pkt).Windowed := by
  have hin : inSequence s.conn pkt = true :=
    hact.seq.resolve_left fun hkeep => by rw [hnew] at hkeep; cases hkeep
  have hkept := hkeeps.2 hopen hin hack
  have hedge := h.edge hopen
  have hle : inFlight s.conn pkt.ackNum ≤ TcpPacket.window s.conn pkt := by
    rw [UInt32.le_iff_toNat_le]
    omega
  have hwindow : (s.updateWindow pkt).conn.windowSize.toNat =
      (TcpPacket.window s.conn pkt).toNat - (inFlight s.conn pkt.ackNum).toNat :=
    UInt32.toNat_sub_of_le _ _ hle
  refine ⟨fun _ => ?_, fun _ hsel => ?_, h.mss, fun hne => ?_, fun seg hmem hfin => ?_⟩
  · rw [hwindow]
    change 1 + s.log.forwarded.length + _ = 1 + s.log.forwarded.length + _ - _
    omega
  · change (s.conn.selected || decide (0 < (s.updateWindow pkt).conn.windowSize)) = true at hsel
    intro hzero
    rw [hzero] at hsel hwindow
    have hroom := h.room hopen (by simpa using hsel)
    refine hroom (UInt32.toNat_inj.mp ?_)
    change 0 = _ at hwindow
    change _ = 0
    omega
  · have hfits := h.fits hne
    change s.log.forwarded.length < 1 + s.log.forwarded.length + _ - _
    omega
  · exact absurd (hopen.symm.trans (h.fin seg hmem hfin).1) (by decide)

/-- What is read fits into the window. -/
theorem Windowed.dataSent (h : s.Windowed) (hcan : s.canRead none = true)
    {seg : ClientSegment} (hfin : seg.flags.fin = false) :
    ((s.afterRecv.sent seg).dataSent s.incoming).Windowed := by
  obtain ⟨hopen, -⟩ := canRead_open hcan
  have hlen : s.incoming.length ≤ s.conn.windowSize.toNat :=
    (List.length_take_le _ _).trans s.conn.toRecv_le
  have hsmall := s.conn.windowSize.toNat_lt
  have hnat : (UInt32.ofNat s.incoming.length).toNat = s.incoming.length := by
    rw [UInt32.toNat_ofNat']
    omega
  have hwindow : ((s.afterRecv.sent seg).dataSent s.incoming).conn.windowSize.toNat =
      s.conn.windowSize.toNat - s.incoming.length := by
    refine (UInt32.toNat_sub_of_le _ _ ?_).trans (by rw [hnat]; rfl)
    rw [UInt32.le_iff_toNat_le, hnat]
    exact hlen
  have hedge := h.edge hopen
  have hforwarded : ((s.afterRecv.sent seg).dataSent s.incoming).log.forwarded.length =
      s.log.forwarded.length + s.incoming.length := List.length_append
  refine ⟨fun _ => ?_, fun _ hsel => ?_, h.mss, fun _ => ?_, fun x hmem hx => ?_⟩
  · rw [hwindow, hforwarded]
    change _ = s.log.edge
    omega
  · exact bne_iff_ne.mp (Bool.and_eq_true_iff.mp hsel).2
  · rw [hforwarded]
    change _ < s.log.edge
    omega
  · have hold := mem_of_concat hfin x hmem hx
    exact absurd (hopen.symm.trans (h.fin x hold hx).1) (by decide)

/-- `recv` gives nothing only at the end of the stream. -/
theorem Windowed.eof (h : s.Windowed) (hcan : s.canRead none = true) (hnone : s.incoming = []) :
    s.server.eof = true ∧ s.server.inbox = [] := by
  obtain ⟨⟨hopen, hselected⟩, hready⟩ : (s.conn.sockOpen = true ∧ s.conn.selected = true) ∧
      (s.server.inbox ≠ [] ∨ s.server.eof = true) := by
    simpa [canRead] using hcan
  have hpos : s.conn.toRecv ≠ 0 := by
    unfold TcpConn.toRecv
    intro hzero
    have hw := h.room hopen hselected
    have hm := h.mss hopen
    split at hzero
    · exact hw (UInt32.toNat_inj.mp hzero)
    · exact hm (UInt16.toNat_inj.mp hzero)
  have hempty : s.server.inbox = [] := by
    obtain hzero | hempty := List.take_eq_nil_iff.mp hnone
    · exact absurd hzero hpos
    · exact hempty
  exact ⟨hready.resolve_left fun h => h hempty, hempty⟩

theorem Windowed.serverFin (h : s.Windowed) (hd : s.Downloading) (hcan : s.canRead none = true)
    (hnone : s.incoming = []) {seg : ClientSegment} :
    (s.afterRecv.sent seg).countSeq.finished.Windowed := by
  obtain ⟨heof, hempty⟩ := h.eof hcan hnone
  have hall := hd.flow
  rw [hempty, List.append_nil] at hall
  exact ⟨nofun, nofun, nofun, h.fits, fun _ _ _ => ⟨rfl, heof, hall⟩⟩

/-- What the proxy says leaves the window alone. -/
theorem Windowed.hear (h : s.Windowed) (hcan : s.canRead none = true) (bytes : List UInt8) :
    (s.afterRecv.hear bytes).Windowed := by
  have hopen := (canRead_open hcan).1
  exact h.frame (fun ho => ⟨ho, rfl, rfl, rfl⟩) ⟨rfl, rfl⟩
    (fun hclosed _ => absurd (hopen.symm.trans hclosed) (by decide)) fun _ hm _ => hm

theorem Windowed.shakes (h : s.Windowed) {bytes : List UInt8} {u : Splice}
    (hu : Shakes cfg s bytes u) : u.Windowed := by
  cases hu with
  | _ => exact h.same ⟨rfl, rfl, rfl, rfl⟩ ⟨rfl, rfl, rfl, rfl⟩ rfl fun _ hm _ => hm

theorem Windowed.core (h : s.Windowed) (hd : s.Downloading) (hkeeps : KeepsWindow s e)
    (hc : Core cfg s e t) : t.Windowed := by
  have hsame {u : Splice} (hconn : u.conn.sockOpen = s.conn.sockOpen ∧ u.conn.windowSize =
      s.conn.windowSize ∧ u.conn.selected = s.conn.selected ∧ u.conn.mss = s.conn.mss)
      (hlog : u.log.forwarded = s.log.forwarded ∧ u.log.edge = s.log.edge ∧
        u.log.told = s.log.told ∧ u.log.sent = s.log.sent)
      (heof : u.server.eof = s.server.eof) (hclient : u.client = s.client) : u.Windowed :=
    h.same hconn hlog heof fun seg hm _ => hclient ▸ hm
  cases hc with
  | stays => exact h
  | arrives bytes heof =>
    exact h.frame (fun ho => ⟨ho, rfl, rfl, rfl⟩) ⟨rfl, rfl⟩
      (fun _ he => absurd (heof.symm.trans he) (by decide)) fun _ hm _ => hm
  | ends =>
    exact h.frame (fun ho => ⟨ho, rfl, rfl, rfl⟩) ⟨rfl, rfl⟩ (fun _ _ => ⟨rfl, rfl, rfl⟩)
      fun _ hm _ => hm
  | connecting pkt a hnew =>
    exact (Windowed.socketOpened hd hnew hkeeps).same ⟨rfl, rfl, rfl, rfl⟩ ⟨rfl, rfl, rfl, rfl⟩
      rfl fun _ hm _ => hm
  | synAck _ u hu hp seg hseg =>
    exact (h.connects hd hkeeps hu).same ⟨rfl, rfl, rfl, rfl⟩ ⟨rfl, rfl, rfl, rfl⟩ rfl
      (mem_of_concat (by rw [hseg.flags]; rfl))
  | hello _ u hu hp =>
    exact (h.connects hd hkeeps hu).same ⟨rfl, rfl, rfl, rfl⟩ ⟨rfl, rfl, rfl, rfl⟩ rfl
      fun _ hm _ => hm
  | window pkt a hact hopen hack hnew => exact h.updateWindow hkeeps hact hopen hack hnew
  | data pkt a hact hopen hne => exact hsame ⟨rfl, rfl, rfl, rfl⟩ ⟨rfl, rfl, rfl, rfl⟩ rfl rfl
  | windowData pkt a hact hopen hack hnew hne =>
    exact (h.updateWindow hkeeps hact hopen hack hnew).same ⟨rfl, rfl, rfl, rfl⟩
      ⟨rfl, rfl, rfl, rfl⟩ rfl fun _ hm _ => hm
  | late pkt a hact hclosed => exact hsame ⟨rfl, rfl, rfl, rfl⟩ ⟨rfl, rfl, rfl, rfl⟩ rfl rfl
  | fin pkt a hact hfin => exact hsame ⟨rfl, rfl, rfl, rfl⟩ ⟨rfl, rfl, rfl, rfl⟩ rfl rfl
  | download a hcan hidle hne push seg hseg =>
    exact h.dataSent hcan (by rw [hseg.flags]; rfl)
  | serverFin a hcan hnone seg hseg => exact h.serverFin hd hcan hnone
  | serverGone a hcan hnone hfin =>
    exact h.frame (nomatch ·) ⟨rfl, rfl⟩ (fun _ he => ⟨he, rfl, rfl⟩) fun _ hm _ => hm
  | shakes a hcan hp hne u hu hgo => exact (h.hear hcan _).shakes hu
  | shaken a hcan hp hne u hu hest seg hseg =>
    exact ((h.hear hcan _).shakes hu).same ⟨rfl, rfl, rfl, rfl⟩ ⟨rfl, rfl, rfl, rfl⟩ rfl
      (mem_of_concat (by rw [hseg.flags]; rfl))
  | flush r a left out hq hloop => exact hsame ⟨rfl, rfl, rfl, rfl⟩ ⟨rfl, rfl, rfl, rfl⟩ rfl rfl

theorem Windowed.tail (h : t.Windowed) (htail : Tail t s') : s'.Windowed := by
  have hack {seg : ClientSegment} (hseg : Built t thAck [] seg) : (t.sent seg).Windowed :=
    h.same ⟨rfl, rfl, rfl, rfl⟩ ⟨rfl, rfl, rfl, rfl⟩ rfl (mem_of_concat (by rw [hseg.flags]; rfl))
  cases htail with
  | none r p d =>
    exact h.same ⟨rfl, rfl, rfl, rfl⟩ ⟨rfl, rfl, rfl, rfl⟩ rfl fun _ hm _ => hm
  | ack hst seg hseg r p d =>
    exact (hack hseg).same ⟨rfl, rfl, rfl, rfl⟩ ⟨rfl, rfl, rfl, rfl⟩ rfl fun _ hm _ => hm
  | closes s' hc => exact h.closes hc
  | ackCloses hst seg hseg s' hc => exact (hack hseg).closes hc

theorem Windowed.outcome (h : s.Windowed) (hd : s.Downloading) (hkeeps : KeepsWindow s e)
    (ho : Outcome cfg s e s') : s'.Windowed := by
  cases ho with
  | core _ t hc s' ht => exact (h.core hd hkeeps hc).tail ht
  | refused pkt a hnew =>
    exact h.same ⟨rfl, rfl, rfl, rfl⟩ ⟨rfl, rfl, rfl, rfl⟩ rfl fun _ hm _ => hm
  | connectFails pkt a hnew s' hc => exact (Windowed.socketOpened hd hnew hkeeps).closes hc
  | greetFails _ u hu s' hc => exact (h.connects hd hkeeps hu).closes hc
  | synAckFails a hcan hp u hu s' hc => exact ((h.hear hcan _).shakes hu).closes hc
  | recvFails a s' hc =>
    have hread : s.afterRecv.Windowed :=
      h.same ⟨rfl, rfl, rfl, rfl⟩ ⟨rfl, rfl, rfl, rfl⟩ rfl fun _ hm _ => hm
    exact hread.closes hc
  | shakeFails a hcan hp s' hc => exact (h.hear hcan _).closes hc
  | writeFails r a left out errno hloop s' hc =>
    have hwritten : (s.written left out).Windowed :=
      h.same ⟨rfl, rfl, rfl, rfl⟩ ⟨rfl, rfl, rfl, rfl⟩ rfl fun _ hm _ => hm
    exact hwritten.closes hc

theorem Windowed.step (h : s.Windowed) (hd : s.Downloads) (hkeeps : KeepsWindow s e) :
    (step cfg s e).Windowed := by
  cases hs : s.isClosed with
  | false =>
    exact h.outcome (hd.opened hs) hkeeps
      (outcome_step hs (hd.uploads.opened hs).queue_established e)
  | true =>
    obtain ⟨u, r, p, d, hu, hstep⟩ := step_of_closed cfg hs (hd.uploads.closed hs) e
    rw [hstep]
    rcases hu with rfl | ⟨bytes, heof, rfl⟩ | rfl
    · exact h.same ⟨rfl, rfl, rfl, rfl⟩ ⟨rfl, rfl, rfl, rfl⟩ rfl fun _ hm _ => hm
    · exact h.frame (fun ho => ⟨ho, rfl, rfl, rfl⟩) ⟨rfl, rfl⟩
        (fun _ he => absurd (heof.symm.trans he) (by decide)) fun _ hm _ => hm
    · exact h.frame (fun ho => ⟨ho, rfl, rfl, rfl⟩) ⟨rfl, rfl⟩ (fun _ _ => ⟨rfl, rfl, rfl⟩)
        fun _ hm _ => hm

/-- In every run of a client that keeps its window, and with a proxy that waits to be asked, the
bytes the client got never go beyond the window; a FIN goes to the client only once the server is
done and everything that it sent has been read by the handshake or sent to the client. -/
theorem everyState_window (cfg : SpliceConfig) (proxy : Bool) (es : List Event)
    (h : Machine.EveryStep (Splice.step cfg) (fun s e => ProxyWaits s e ∧ KeepsWindow s e)
      (init proxy) es) :
    Machine.EveryState (Splice.step cfg)
      (fun s => (s.downloaded ≠ [] → s.downloaded.length < s.log.edge) ∧
        ∀ seg ∈ s.client, seg.flags.fin = true →
          s.server.eof = true ∧ s.log.told ++ s.downloaded = s.log.sent)
      (init proxy) es := by
  have hkeeps (s : Splice) (e : Event) (hs : s.Downloads ∧ s.Windowed)
      (hw : ProxyWaits s e ∧ KeepsWindow s e) :
      (Splice.step cfg s e).Downloads ∧ (Splice.step cfg s e).Windowed :=
    ⟨hs.1.step hw.1, hs.2.step hs.1 hw.2⟩
  refine Machine.everyState_of_invariant hkeeps (fun s hs => ?_)
    ⟨downloads_init proxy, windowed_init proxy⟩ h
  rw [hs.1.delivered.bytes]
  exact ⟨hs.2.fits, fun seg hmem hfin => (hs.2.fin seg hmem hfin).2⟩

theorem everyState_window_fetch : Machine.EveryState (step webConfig)
    (fun s => (s.downloaded ≠ [] → s.downloaded.length < s.log.edge) ∧
      ∀ seg ∈ s.client, seg.flags.fin = true →
        s.server.eof = true ∧ s.log.told ++ s.downloaded = s.log.sent)
    (init false) fetch :=
  everyState_window webConfig false fetch
    ⟨⟨trivial, fun _ => by decide, (nomatch ·)⟩, ⟨trivial, (nomatch ·), fun _ _ _ => by decide⟩,
      ⟨trivial, trivial⟩, ⟨trivial, trivial⟩, ⟨trivial, trivial⟩, ⟨(nomatch ·), trivial⟩,
      ⟨trivial, trivial⟩, ⟨trivial, trivial⟩, ⟨(nomatch ·), trivial⟩,
      ⟨trivial, (nomatch ·), fun _ _ _ => by decide⟩, ⟨(nomatch ·), trivial⟩, trivial⟩

end Splice

end SecureGuard.Native
