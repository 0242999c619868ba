import SecureGuard.Native.ClientPackets
import SecureGuard.Native.TcpDownload

/-! # What a spliced connection writes

`send_to_client` parses every packet once more before it goes to the tun, and drops it where that
fails, which "should never happen". In a run in which no SYN asks for longer segments than fit
behind the headers, what is parsed is what was to be sent, but for one case: the headers have the IP
version of the socket, which a proxy or a redirect may have changed. -/

namespace SecureGuard.Native

/-- `REPLY_BUF_SIZE`. -/
def replyBufSize : Nat := 65535

def IpProto.number : IpProto → UInt8
  | .icmp => ipprotoIcmp
  | .tcp => ipprotoTcp
  | .udp => ipprotoUdp

/-- `zdtun_5tuple_t`, with the protocol as the number it is. -/
def Tuple.onWire (t : Tuple) : Zdtun5Tuple :=
  ⟨t.srcIp, t.dstIp, t.srcPort.toNat, t.dstPort.toNat, t.ipver, t.ipproto.number⟩

/-- The connection as the writing of packets sees it. -/
def SpliceConfig.replyConn (cfg : SpliceConfig) (mode : ProxyMode) : SpoofConn :=
  ⟨cfg.tuple.onWire, mode⟩

namespace Splice

/-- A segment of at most `room` bytes of data, or the options of a SYN+ACK. -/
structure Fits (room : Nat) (seg : ClientSegment) : Prop where
  opts : seg.opts = [] ∨ seg.opts.length = 8 ∧ seg.l7 = []
  l7 : seg.l7.length ≤ room

/-- The segments for the client fit, and so will the next one. -/
structure Writing (room : Nat) (s : Splice) : Prop where
  mss : s.conn.mss.toNat ≤ room
  client : ∀ seg ∈ s.client, Fits room seg

/-- Nothing but a RST is written in closing, and nothing later. -/
structure Written (room : Nat) (s : Splice) : Prop where
  client : ∀ seg ∈ s.client, Fits room seg
  opened : s.isClosed = false → s.Writing room

/-- No SYN that opens the connection asks for longer segments. -/
def AsksFor (room : Nat) (s : Splice) : Event → Prop
  | .tunPacket pkt _ => s.conn.status = .new → pkt.mss.toNat ≤ room
  | _ => True

variable {s s' t : Splice} {cfg : SpliceConfig} {e : Event} {room : Nat} {seg : ClientSegment}

theorem Writing.written (h : s.Writing room) : s.Written room := ⟨h.client, fun _ => h⟩

theorem written_init (room : Nat) (proxy : Bool) : (init proxy).Written room :=
  Writing.written ⟨Nat.zero_le _, nofun⟩

theorem Writing.same (h : s.Writing room) (hmss : t.conn.mss = s.conn.mss)
    (hclient : t.client = s.client) : t.Writing room :=
  ⟨hmss ▸ h.mss, hclient ▸ h.client⟩

theorem Writing.sent (h : s.Writing room) (hseg : Fits room seg) : (s.sent seg).Writing room := by
  refine ⟨h.mss, fun seg' hmem => ?_⟩
  obtain hmem | hmem := List.mem_append.mp hmem
  · exact h.client seg' hmem
  · exact List.mem_singleton.mp hmem ▸ hseg

theorem Built.fits {flags : TcpFlags} {l7 : List UInt8} (h : Built t flags l7 seg)
    (hlen : l7.length ≤ room) (hempty : flags.syn = true → l7 = []) : Fits room seg := by
  have hopts := h.opts
  rw [h.flags] at hopts
  refine ⟨?_, h.l7 ▸ hlen⟩
  cases hsyn : flags.syn with
  | false => exact .inl (List.eq_nil_of_length_eq_zero (by simpa [hsyn] using hopts))
  | true => exact .inr ⟨by simpa [hsyn] using hopts, h.l7.trans (hempty hsyn)⟩

theorem Built.fits_empty {flags : TcpFlags} (h : Built t flags [] seg) : Fits room seg :=
  h.fits (Nat.zero_le _) fun _ => rfl

theorem Writing.closes (h : t.Writing room) (hc : Closes t s') : s'.Written room := by
  refine ⟨fun seg hmem => ?_, fun hopen => absurd (hc.closed.symm.trans hopen) (by decide)⟩
  obtain hmem | ⟨hopts, hl7⟩ := hc.plain seg hmem
  · exact h.client seg hmem
  · exact ⟨.inl hopts, hl7 ▸ Nat.zero_le _⟩

theorem Writing.tail (h : t.Writing room) (htail : Tail t s') : s'.Written room := by
  cases htail with
  | none r p d => exact Writing.written (h.same rfl rfl)
  | ack hst seg hseg r p d => exact Writing.written ((h.sent hseg.fits_empty).same rfl rfl)
  | closes s' hc => exact h.closes hc
  | ackCloses hst seg hseg s' hc => exact (h.sent hseg.fits_empty).closes hc

theorem Writing.connects (h : s.Writing room) (hasks : AsksFor room s e) {u : Splice}
    (hu : Connects s e u) : u.Writing room := by
  cases hu with
  | now pkt a hnew => exact ⟨hasks hnew, h.client⟩
  | later r a hwait hq => exact h

theorem Writing.shakes (h : s.Writing room) {bytes : List UInt8} {u : Splice}
    (hu : Shakes cfg s bytes u) : u.Writing room := by
  cases hu with
  | _ => exact h.same rfl rfl

/-- Data is read up to the maximum segment size. -/
theorem Writing.incoming (h : s.Writing room) : s.incoming.length ≤ room := by
  have hrecv : s.conn.toRecv ≤ s.conn.mss.toNat := by
    unfold TcpConn.toRecv
    split
    · rename_i hlt
      exact Nat.le_of_lt (UInt32.lt_iff_toNat_lt.mp hlt)
    · exact Nat.le_refl _
  have htake : s.incoming.length ≤ s.conn.toRecv := List.length_take_le _ _
  exact Nat.le_trans htake (Nat.le_trans hrecv h.mss)

theorem Writing.core (h : s.Writing room) (hasks : AsksFor room s e) (hc : Core cfg s e t) :
    t.Writing room := by
  cases hc with
  | connecting pkt a hnew =>
    exact Writing.same (s := (s.socketOpened pkt).numbered pkt) ⟨hasks hnew, h.client⟩ rfl rfl
  | synAck e u hu hp seg hseg =>
    exact ((h.connects hasks hu).sent hseg.fits_empty).same rfl rfl
  | hello e u hu hp => exact (h.connects hasks hu).same rfl rfl
  | download a hcan hidle hne push seg hseg =>
    exact (h.sent (hseg.fits h.incoming (nomatch ·))).same rfl rfl
  | serverFin a hcan hnone seg hseg => exact (h.sent hseg.fits_empty).same rfl rfl
  | shakes a hcan hp hne u hu hgo =>
    exact Writing.shakes (s := s.afterRecv.hear s.incoming) (h.same rfl rfl) hu
  | shaken a hcan hp hne u hu hest seg hseg =>
    have hshaken := Writing.shakes (s := s.afterRecv.hear s.incoming) (h.same rfl rfl) hu
    exact (hshaken.sent hseg.fits_empty).same rfl rfl
  | _ => exact h.same rfl rfl

theorem Writing.outcome (h : s.Writing room) (hasks : AsksFor room s e)
    (ho : Outcome cfg s e s') : s'.Written room := by
  cases ho with
  | core _ t hc s' ht => exact (h.core hasks hc).tail ht
  | refused pkt a hnew => exact Writing.written (h.same rfl rfl)
  | connectFails pkt a hnew s' hc =>
    exact Writing.closes (t := s.socketOpened pkt) ⟨hasks hnew, h.client⟩ hc
  | greetFails _ u hu s' hc =>
    exact Writing.closes (t := u.connected) ((h.connects hasks hu).same rfl rfl) hc
  | synAckFails a hcan hp u hu s' hc =>
    exact (Writing.shakes (s := s.afterRecv.hear s.incoming) (h.same rfl rfl) hu).closes hc
  | recvFails a s' hc => exact Writing.closes (t := s.afterRecv) (h.same rfl rfl) hc
  | shakeFails a hcan hp s' hc =>
    exact Writing.closes (t := s.afterRecv.hear s.incoming) (h.same rfl rfl) hc
  | writeFails r a left out errno hloop s' hc =>
    exact Writing.closes (t := s.written left out) (h.same rfl rfl) hc

theorem Written.step (h : s.Written room) (hup : s.Uploads) (hasks : AsksFor room s e) :
    (Splice.step cfg s e).Written room := by
  cases hs : s.isClosed with
  | false =>
    exact (h.opened hs).outcome hasks (outcome_step hs (hup.opened hs).queue_established e)
  | true =>
    obtain ⟨u, r, p, d, hu, hstep⟩ := step_of_closed cfg hs (hup.closed hs) e
    rw [hstep]
    refine ⟨?_, fun hopen => ?_⟩
    · obtain rfl | ⟨bytes, -, rfl⟩ | rfl := hu
      all_goals exact h.client
    · have hopen' : s.isClosed = false := by
        obtain rfl | ⟨bytes, -, rfl⟩ | rfl := hu
        all_goals exact hopen
      exact absurd (hs.symm.trans hopen') (by decide)

theorem Fits.wellFormed (h : Fits room seg) : seg.WellFormed := by
  obtain hnone | ⟨hopts, -⟩ := h.opts
  · rw [List.eq_nil_iff_length_eq_zero] at hnone
    exact ⟨by rw [hnone], by omega⟩
  · exact ⟨by rw [hopts], by omega⟩

theorem Fits.size (h : Fits room seg) : seg.opts.length + seg.l7.length ≤ max 8 room := by
  have hl7 := h.l7
  obtain hnone | ⟨hopts, hempty⟩ := h.opts
  · rw [hnone, List.length_nil]
    omega
  · rw [hopts, hempty, List.length_nil]
    omega

/-- In every run in which no SYN asks for longer segments than have room behind the headers, every
packet for the client is within the reply buffer, and arrives exactly where the socket has the IP
version of the connection. -/
theorem everyState_replies (cfg : SpliceConfig) (mode : ProxyMode) (proxy : Bool)
    (es : List Event) (ht : cfg.tuple.onWire.Parsed)
    (h : Machine.EveryStep (Splice.step cfg)
      (AsksFor (replyBufSize - ipHeaderLen (cfg.replyConn mode).sockIpver - tcpHeaderLen))
      (init proxy) es) :
    Machine.EveryState (Splice.step cfg)
      (fun s => ∀ seg ∈ s.client,
        (buildReplyTcpip (cfg.replyConn mode) seg).length ≤ replyBufSize ∧
          (Arrives (cfg.replyConn mode) seg ↔
            (cfg.replyConn mode).sockIpver = cfg.tuple.ipver))
      (init proxy) es := by
  generalize hroom : replyBufSize - ipHeaderLen (cfg.replyConn mode).sockIpver - tcpHeaderLen =
    room at h
  have hkeeps (s : Splice) (e : Event) (hs : s.Uploads ∧ s.Written room)
      (hasks : AsksFor room s e) :
      (Splice.step cfg s e).Uploads ∧ (Splice.step cfg s e).Written room :=
    ⟨hs.1.step e, hs.2.step hs.1 hasks⟩
  refine Machine.everyState_of_invariant hkeeps (fun s hs seg hmem => ?_)
    ⟨uploads_init proxy, written_init _ proxy⟩ h
  have hfits := hs.2.client seg hmem
  have hsize := hfits.size
  have hlen : (buildReplyTcpip (cfg.replyConn mode) seg).length ≤ replyBufSize := by
    have hbuf : replyBufSize = 65535 := rfl
    have h20 : tcpHeaderLen = 20 := rfl
    have hhdr : ipHeaderLen (cfg.replyConn mode).sockIpver ≤ 40 := by
      cases (cfg.replyConn mode).sockIpver <;> decide
    rw [buildReplyTcpip_length, sentSegment_length]
    omega
  have hproto : (cfg.replyConn mode).tuple.ipproto = ipprotoTcp := by
    change cfg.tuple.ipproto.number = _
    rw [cfg.isTcp]
    rfl
  exact ⟨hlen, arrives_buildReplyTcpip_iff ht hproto hfits.wellFormed (Nat.lt_succ_of_le hlen)⟩

theorem everyState_replies_fetch : Machine.EveryState (step webConfig)
    (fun s => ∀ seg ∈ s.client,
      (buildReplyTcpip (webConfig.replyConn .none) seg).length ≤ replyBufSize ∧
        (Arrives (webConfig.replyConn .none) seg ↔
          (webConfig.replyConn .none).sockIpver = webConfig.tuple.ipver))
    (init false) fetch :=
  everyState_replies webConfig .none false fetch
    ⟨fun _ => show _ % _ = 0 by decide, fun _ => show _ % _ = 0 by decide, by decide, by decide⟩
    ⟨fun _ => by decide, fun _ => by decide, trivial, trivial, trivial, trivial, trivial, trivial,
      trivial, fun _ => by decide, trivial, trivial⟩

end Splice

end SecureGuard.Native
