import SecureGuard.Native.TcpUpload

/-! # How a spliced connection begins

The client gets its SYN+ACK once the server is connected and, where there is a proxy, once the
proxy has granted the request. The invariant follows the dialogue with the proxy word by word. -/

namespace SecureGuard.Native

namespace Splice

/-! ## The dialogue with the proxy -/

/-- The requests and answers up to where the proxy lets us in. -/
inductive Admitted (cfg : SpliceConfig) : List UInt8 → List UInt8 → Prop
  | noAuth : Admitted cfg cfg.socks5Hello [5, 0]
  | auth (user pass rest : List UInt8) (h : cfg.userPass = some (user, pass)) :
    Admitted cfg (cfg.socks5Hello ++ socks5AuthReq user pass) ([5, 2] ++ 1 :: 0 :: rest)

/-- The request is granted, with `left` bytes of the bound address to come. -/
inductive Granted (cfg : SpliceConfig) (left : Nat) : List UInt8 → List UInt8 → Prop
  | intro (asked told : List UInt8) (h : Admitted cfg asked told) (rsv addrtype : UInt8)
    (ht : addrtype = 1 ∨ addrtype = 4) (bnd : List UInt8)
    (hlen : bnd.length + left = Turn.socks5BndLen addrtype) :
    Granted cfg left (asked ++ cfg.socks5ConnectReq) (told ++ 5 :: 0 :: rsv :: addrtype :: bnd)

/-- What was asked and what the proxy said, by the status of the handshake. -/
def Dialogue (cfg : SpliceConfig) (left : Nat) (asked told : List UInt8) : Socks5Status → Prop
  | .hello => asked = cfg.socks5Hello ∧ told = []
  | .auth => told = [5, 2] ∧ ∃ user pass, cfg.userPass = some (user, pass) ∧
      asked = cfg.socks5Hello ++ socks5AuthReq user pass
  | .connecting => ∃ first, Admitted cfg first told ∧ asked = first ++ cfg.socks5ConnectReq
  | .skipBnd => Granted cfg left asked told
  | .established => Granted cfg 0 asked told

/-! ## The invariant -/

/-- The client got neither a SYN+ACK nor data. -/
def Silent (s : Splice) : Prop := ∀ seg ∈ s.client, seg.flags.syn = false ∧ seg.l7 = []

/-- The client got its SYN+ACK first, and no other one. -/
def Greeted (s : Splice) : Prop :=
  ∃ seg rest, s.client = seg :: rest ∧ seg.flags = thSynAck ∧ seg.l7 = [] ∧
    ∀ x ∈ rest, x.flags.syn = false

/-- What holds of the beginning also after the connection is closed. -/
structure Opening (cfg : SpliceConfig) (proxy : Bool) (s : Splice) : Prop where
  asked : s.log.asked = [] ∨ proxy = true ∧ ∃ status left told, told <+: s.log.told ∧
    Dialogue cfg left s.log.asked told status
  begun : s.Silent ∧ s.log.accepted = [] ∨ s.Greeted ∧
    if proxy then Granted cfg 0 s.log.asked s.log.told else s.log.asked = [] ∧ s.log.told = []

/-- The invariant of an open connection. -/
structure Greeting (cfg : SpliceConfig) (proxy : Bool) (s : Splice) : Prop where
  proxied : s.conn.proxySocks5 = proxy
  fresh : s.conn.status ≠ .connected → s.client = [] ∧ s.log.asked = [] ∧ s.log.told = []
  direct : proxy = false → s.log.asked = [] ∧ s.log.told = []
  dialogue : proxy = true → s.conn.status = .connected →
    Dialogue cfg s.conn.socks5Skip.toNat s.log.asked s.log.told s.conn.socks5Status
  shaking : s.conn.socks5InProgress = true → s.conn.sockOpen = true → s.client = []
  silent : s.conn.socks5InProgress = true → s.Silent
  greeted : s.Established → s.Greeted

/-- Nothing is read while the connect is under way. -/
def ReadsConnected (s : Splice) : Event → Prop
  | .readable _ _ => s.conn.status ≠ .connecting
  | _ => True

variable {cfg : SpliceConfig} {proxy : Bool} {s t s' : Splice} {e : Event}

theorem Greeted.concat (h : s.Greeted) {seg : ClientSegment} (hsyn : seg.flags.syn = false)
    (hclient : t.client = s.client ++ [seg]) : t.Greeted := by
  obtain ⟨first, rest, hfirst, hflags, hnone, hrest⟩ := h
  refine ⟨first, rest ++ [seg], by rw [hclient, hfirst, List.cons_append], hflags, hnone, ?_⟩
  intro x hmem
  obtain hmem | hmem := List.mem_append.mp hmem
  · exact hrest x hmem
  · obtain rfl := List.mem_singleton.mp hmem
    exact hsyn

theorem Silent.concat (h : s.Silent) {seg : ClientSegment}
    (hseg : seg.flags.syn = false ∧ seg.l7 = []) (hclient : t.client = s.client ++ [seg]) :
    t.Silent := by
  intro x hmem
  rw [hclient] at hmem
  obtain hmem | hmem := List.mem_append.mp hmem
  · exact h x hmem
  · obtain rfl := List.mem_singleton.mp hmem
    exact hseg

theorem silent_of_none (h : s.client = []) : s.Silent := by
  unfold Silent
  rw [h]
  exact nofun

theorem greeting_init (cfg : SpliceConfig) (proxy : Bool) : Greeting cfg proxy (init proxy) where
  proxied := rfl
  fresh _ := ⟨rfl, rfl, rfl⟩
  direct _ := ⟨rfl, rfl⟩
  dialogue _ h := nomatch h
  shaking _ _ := rfl
  silent _ := silent_of_none rfl
  greeted h := nomatch h.status

/-- Without a proxy, or once it has granted the request, nothing is in progress any more. -/
theorem inProgress_iff (h : s.conn.proxySocks5 = proxy) :
    s.conn.socks5InProgress = true ↔ proxy = true ∧ s.conn.socks5Status ≠ .established := by
  simp [TcpConn.socks5InProgress, h]

/-- An open connection that is not greeted has taken nothing. -/
theorem Greeting.opening (h : Greeting cfg proxy s) (hup : s.Uploading) : Opening cfg proxy s := by
  have hearly := hup.early
  have hshaking := hup.shaking
  by_cases hst : s.conn.status = .connected
  · refine ⟨?_, ?_⟩
    · cases hproxy : proxy with
      | false => exact .inl (h.direct hproxy).1
      | true => exact .inr ⟨rfl, _, _, _, List.prefix_refl _, h.dialogue hproxy hst⟩
    · cases hp : s.conn.socks5InProgress with
      | true => exact .inl ⟨h.silent hp, (hshaking hp).2.1⟩
      | false =>
        refine .inr ⟨h.greeted ⟨hst, hp⟩, ?_⟩
        cases hproxy : proxy with
        | false => exact h.direct hproxy
        | true =>
          have hest : s.conn.socks5Status = .established := by
            have hiff := inProgress_iff h.proxied
            rw [hp, hproxy] at hiff
            simpa using hiff
          have hd := h.dialogue hproxy hst
          rw [hest] at hd
          exact hd
  · obtain ⟨hnone, hasked, -⟩ := h.fresh hst
    exact ⟨.inl hasked, .inl ⟨silent_of_none hnone, (hearly hst).2.1⟩⟩

/-- An update that sends nothing to the client, and nothing to the proxy. -/
theorem Greeting.frame (h : Greeting cfg proxy s) (hclient : t.client = s.client)
    (hlog : t.log.asked = s.log.asked ∧ t.log.told = s.log.told)
    (hconn : t.conn.proxySocks5 = s.conn.proxySocks5 ∧ t.conn.socks5Status = s.conn.socks5Status ∧
      t.conn.socks5Skip = s.conn.socks5Skip ∧ t.conn.status = s.conn.status)
    (hsock : t.conn.sockOpen = true → s.conn.sockOpen = true) : Greeting cfg proxy t := by
  obtain ⟨hasked, htold⟩ := hlog
  obtain ⟨hproxied, hsocks, hskip, hstatus⟩ := hconn
  have hp : t.conn.socks5InProgress = s.conn.socks5InProgress := by
    unfold TcpConn.socks5InProgress
    rw [hproxied, hsocks]
  refine ⟨hproxied.trans h.proxied, ?_, ?_, ?_, fun hp' ho => ?_, fun hp' => ?_, fun he => ?_⟩
  · rw [hstatus, hclient, hasked, htold]
    exact h.fresh
  · rw [hasked, htold]
    exact h.direct
  · rw [hstatus, hskip, hasked, htold, hsocks]
    exact h.dialogue
  · rw [hclient]
    exact h.shaking (hp ▸ hp') (hsock ho)
  · unfold Silent
    rw [hclient]
    exact h.silent (hp ▸ hp')
  · unfold Greeted
    rw [hclient]
    exact h.greeted ⟨hstatus ▸ he.status, hp ▸ he.idle⟩

/-- A packet for a client that was greeted. -/
theorem Greeting.sends (h : Greeting cfg proxy s) (he : s.Established) {seg : ClientSegment}
    (hsyn : seg.flags.syn = false) : Greeting cfg proxy (s.sent seg) := by
  have hnot {P : Prop} (hp : s.conn.socks5InProgress = true) : P :=
    absurd (he.idle.symm.trans hp) (by decide)
  exact ⟨h.proxied, fun hst => absurd he.status hst, h.direct, h.dialogue, fun hp => hnot hp,
    fun hp => hnot hp, fun _ => (h.greeted he).concat hsyn rfl⟩

/-- When the connect turns out to be done, nothing was said yet. -/
theorem Greeting.connects (h : Greeting cfg proxy s) (hup : s.Uploading) {u : Splice}
    (hu : Connects s e u) : u.conn.proxySocks5 = proxy ∧ u.client = [] ∧ u.log.asked = [] ∧
      u.log.told = [] := by
  cases hu with
  | now pkt a hnew => exact ⟨h.proxied, h.fresh (by rw [hnew]; decide)⟩
  | later r a hwait hq => exact ⟨h.proxied, h.fresh (by rw [hup.awaits hwait hq]; decide)⟩

/-! ## The answers of the proxy -/

theorem Granted.more {left : Nat} {asked told bytes : List UInt8}
    (h : Granted cfg (bytes.length + left) asked told) :
    Granted cfg left asked (told ++ bytes) := by
  obtain ⟨first, said, hadmitted, rsv, addrtype, ht, bnd, hlen⟩ := h
  rw [List.append_assoc]
  refine Granted.intro first said hadmitted rsv addrtype ht (bnd ++ bytes) ?_
  rw [List.length_append]
  omega

/-- Bytes of the bound address lead on in the dialogue. -/
theorem dialogue_skipped {g : Splice} {asked told bytes : List UInt8}
    (h : Granted cfg g.conn.socks5Skip.toNat asked told) (hst : g.conn.socks5Status = .skipBnd)
    (hlen : bytes.length ≤ g.conn.socks5Skip.toNat) :
    Dialogue cfg (g.skipped bytes.length).conn.socks5Skip.toNat asked (told ++ bytes)
      (g.skipped bytes.length).conn.socks5Status := by
  have hlt := g.conn.socks5Skip.toNat_lt
  have hskip : (g.skipped bytes.length).conn.socks5Skip.toNat =
      g.conn.socks5Skip.toNat - bytes.length := by
    refine (UInt8.toNat_ofNat').trans (Nat.mod_eq_of_lt ?_)
    omega
  rw [hskip]
  by_cases hall : g.conn.socks5Skip.toNat = bytes.length
  · have hest : (g.skipped bytes.length).conn.socks5Status = .established := if_pos hall
    rw [hest]
    have hgranted : Granted cfg (bytes.length + 0) asked told := hall ▸ h
    exact hgranted.more
  · have hmore : (g.skipped bytes.length).conn.socks5Status = .skipBnd := (if_neg hall).trans hst
    rw [hmore]
    have hgranted : Granted cfg (bytes.length + (g.conn.socks5Skip.toNat - bytes.length)) asked
        told := by
      rw [Nat.add_sub_cancel' hlen]
      exact h
    exact hgranted.more

theorem dialogue_shakes {u : Splice} {bytes : List UInt8}
    (hd : Dialogue cfg s.conn.socks5Skip.toNat s.log.asked s.log.told s.conn.socks5Status)
    (hu : Shakes cfg (s.afterRecv.hear bytes) bytes u) :
    Dialogue cfg u.conn.socks5Skip.toNat u.log.asked u.log.told u.conn.socks5Status := by
  cases hu with
  | auth user pass hup hs =>
    have hst : s.conn.socks5Status = .hello := hs
    rw [hst] at hd
    obtain ⟨hasked, htold⟩ := hd
    exact ⟨congrArg (· ++ [5, 2]) htold, user, pass, hup,
      congrArg (· ++ socks5AuthReq user pass) hasked⟩
  | noAuth hs =>
    have hst : s.conn.socks5Status = .hello := hs
    rw [hst] at hd
    obtain ⟨hasked, htold⟩ := hd
    have hsaid : s.log.told ++ [5, 0] = [5, 0] := congrArg (· ++ [5, 0]) htold
    refine ⟨cfg.socks5Hello, ?_, congrArg (· ++ cfg.socks5ConnectReq) hasked⟩
    change Admitted cfg cfg.socks5Hello (s.log.told ++ [5, 0])
    rw [hsaid]
    exact .noAuth
  | welcome rest hs =>
    have hst : s.conn.socks5Status = .auth := hs
    rw [hst] at hd
    obtain ⟨htold, user, pass, hup, hasked⟩ := hd
    have hsaid : s.log.told ++ 1 :: 0 :: rest = [5, 2] ++ 1 :: 0 :: rest :=
      congrArg (· ++ 1 :: 0 :: rest) htold
    refine ⟨_, ?_, congrArg (· ++ cfg.socks5ConnectReq) hasked⟩
    change Admitted cfg _ (s.log.told ++ 1 :: 0 :: rest)
    rw [hsaid]
    exact .auth user pass rest hup
  | grant rsv addrtype rest hs ht hlen =>
    have hst : s.conn.socks5Status = .connecting := hs
    rw [hst] at hd
    obtain ⟨first, hadmitted, hasked⟩ := hd
    have hbnd := (bndLen_pos addrtype).2
    have hgranted : Granted cfg (s.granted addrtype).conn.socks5Skip.toNat s.log.asked
        (s.log.told ++ [5, 0, rsv, addrtype]) := by
      rw [hasked]
      refine Granted.intro first s.log.told hadmitted rsv addrtype ht [] ?_
      exact (Nat.zero_add _).trans hbnd
    have hfits : rest.length ≤ (s.granted addrtype).conn.socks5Skip.toNat :=
      hlen.trans_eq hbnd.symm
    have hnext := dialogue_skipped hgranted rfl hfits
    rw [List.append_assoc] at hnext
    exact hnext
  | skip bytes hs hlen =>
    have hst : s.conn.socks5Status = .skipBnd := hs
    rw [hst] at hd
    exact dialogue_skipped (g := s) hd hst hlen

/-- The proxy is heard, and answered. -/
theorem Greeting.shakes (h : Greeting cfg proxy s) (hst : s.conn.status = .connected)
    (hp : s.conn.socks5InProgress = true) {bytes : List UInt8} {u : Splice}
    (hu : Shakes cfg (s.afterRecv.hear bytes) bytes u) :
    u.conn.status = .connected ∧ u.conn.proxySocks5 = proxy ∧ proxy = true ∧
      u.client = s.client ∧ u.conn.sockOpen = s.conn.sockOpen ∧
      Dialogue cfg u.conn.socks5Skip.toNat u.log.asked u.log.told u.conn.socks5Status := by
  obtain ⟨hproxy, -⟩ := (inProgress_iff h.proxied).mp hp
  have hd := dialogue_shakes (h.dialogue hproxy hst) hu
  refine ⟨?_, ?_, hproxy, ?_, ?_, hd⟩
  · cases hu <;> exact hst
  · cases hu <;> exact h.proxied
  · cases hu <;> rfl
  · cases hu <;> rfl

theorem status_of_read (hup : s.Uploading) (hs : s.isClosed = false) {a : TcpAnswers}
    (hcan : s.canRead none = true) (hreads : ReadsConnected s (.readable none a)) :
    s.conn.status = .connected := by
  have hnew := hup.not_new hcan
  have hconnecting : s.conn.status ≠ .connecting := hreads
  unfold isClosed at hs
  cases hstatus : s.conn.status <;> simp_all [ConnStatus.isClosed]

theorem Greeting.core (h : Greeting cfg proxy s) (hup : s.Uploading) (hs : s.isClosed = false)
    (hreads : ReadsConnected s e) (hc : Core cfg s e t) : Greeting cfg proxy t := by
  have hsame {u : Splice} (hclient : u.client = s.client) (hlog : u.log.asked = s.log.asked ∧
      u.log.told = s.log.told) (hconn : u.conn.proxySocks5 = s.conn.proxySocks5 ∧
        u.conn.socks5Status = s.conn.socks5Status ∧ u.conn.socks5Skip = s.conn.socks5Skip ∧
        u.conn.status = s.conn.status)
      (hsock : u.conn.sockOpen = true → s.conn.sockOpen = true) : Greeting cfg proxy u :=
    h.frame hclient hlog hconn hsock
  cases hc with
  | stays => exact h
  | arrives bytes heof => exact hsame rfl ⟨rfl, rfl⟩ ⟨rfl, rfl, rfl, rfl⟩ id
  | ends => exact hsame rfl ⟨rfl, rfl⟩ ⟨rfl, rfl, rfl, rfl⟩ id
  | connecting pkt a hnew =>
    obtain ⟨hproxied, hnone, hasked, htold⟩ := h.connects hup (.now pkt a hnew)
    exact ⟨hproxied, fun _ => ⟨hnone, hasked, htold⟩, fun _ => ⟨hasked, htold⟩, nofun,
      fun _ _ => hnone, fun _ => silent_of_none hnone, fun he => nomatch he.status⟩
  | synAck _ u hu hp seg hseg =>
    obtain ⟨hproxied, hnone, hasked, htold⟩ := h.connects hup hu
    have hdirect : proxy = false := hproxied.symm.trans hp
    have hidle : (u.connected.sent seg).countSeq.conn.socks5InProgress = false := by
      change (u.conn.proxySocks5 && _) = false
      rw [hp]
      rfl
    have hnot {P : Prop} (hp' : (u.connected.sent seg).countSeq.conn.socks5InProgress = true) : P :=
      absurd (hidle.symm.trans hp') (by decide)
    refine ⟨hproxied, fun hst => absurd rfl hst, fun _ => ⟨hasked, htold⟩, ?_,
      fun hp' => hnot hp', fun hp' => hnot hp', fun _ => ⟨seg, [], ?_, hseg.flags, hseg.l7, nofun⟩⟩
    · intro hproxy
      exact absurd (hdirect.symm.trans hproxy) (by decide)
    · exact congrArg (· ++ [seg]) hnone
  | hello _ u hu hp =>
    obtain ⟨hproxied, hnone, hasked, htold⟩ := h.connects hup hu
    have hproxy : proxy = true := hproxied.symm.trans hp
    have hshaking :
        (u.connected.requested cfg.socks5Hello .hello).conn.socks5InProgress = true := by
      change (u.conn.proxySocks5 && _) = true
      rw [hp]
      rfl
    refine ⟨hproxied, fun hst => absurd rfl hst, ?_, fun _ _ => ⟨?_, htold⟩, fun _ _ => hnone,
      fun _ => silent_of_none hnone, fun he => absurd (he.idle.symm.trans hshaking) (by decide)⟩
    · intro hdirect
      exact absurd (hdirect.symm.trans hproxy) (by decide)
    · exact congrArg (· ++ cfg.socks5Hello) hasked
  | window pkt a hact hopen hack hnew => exact hsame rfl ⟨rfl, rfl⟩ ⟨rfl, rfl, rfl, rfl⟩ id
  | data pkt a hact hopen hne => exact hsame rfl ⟨rfl, rfl⟩ ⟨rfl, rfl, rfl, rfl⟩ id
  | windowData pkt a hact hopen hack hnew hne =>
    exact hsame rfl ⟨rfl, rfl⟩ ⟨rfl, rfl, rfl, rfl⟩ id
  | late pkt a hact hclosed => exact hsame rfl ⟨rfl, rfl⟩ ⟨rfl, rfl, rfl, rfl⟩ id
  | fin pkt a hact hfin => exact hsame rfl ⟨rfl, rfl⟩ ⟨rfl, rfl, rfl, rfl⟩ id
  | download a hcan hidle hne push seg hseg =>
    have hst := status_of_read hup hs hcan hreads
    have hsyn : seg.flags.syn = false := by rw [hseg.flags]; rfl
    have hnext := h.sends ⟨hst, hidle⟩ hsyn
    exact hnext.frame rfl ⟨rfl, rfl⟩ ⟨rfl, rfl, rfl, rfl⟩ id
  | serverFin a hcan hnone seg hseg =>
    have hst := status_of_read hup hs hcan hreads
    have hsyn : seg.flags.syn = false := by rw [hseg.flags]; rfl
    refine ⟨h.proxied, fun hne => absurd hst hne, h.direct, h.dialogue, nofun, fun hp => ?_,
      fun he => ?_⟩
    · exact (h.silent hp).concat ⟨hsyn, hseg.l7⟩ rfl
    · exact (h.greeted ⟨hst, he.idle⟩).concat hsyn rfl
  | serverGone a hcan hnone hfin => exact hsame rfl ⟨rfl, rfl⟩ ⟨rfl, rfl, rfl, rfl⟩ (nomatch ·)
  | shakes a hcan hp hne u hu hgo =>
    have hst := status_of_read hup hs hcan hreads
    obtain ⟨hst', hproxied, hproxy, hclient, hsock, hd⟩ := h.shakes hst hp hu
    have hnone : t.client = [] := hclient.trans (h.shaking hp (canRead_open hcan).1)
    have hshaking : t.conn.socks5InProgress = true := (inProgress_iff hproxied).mpr ⟨hproxy, hgo⟩
    refine ⟨hproxied, fun hne => absurd hst' hne, ?_, fun _ _ => hd, fun _ _ => hnone,
      fun _ => silent_of_none hnone, fun he => absurd (he.idle.symm.trans hshaking) (by decide)⟩
    intro hdirect
    exact absurd (hdirect.symm.trans hproxy) (by decide)
  | shaken a hcan hp hne u hu hest seg hseg =>
    have hst := status_of_read hup hs hcan hreads
    obtain ⟨hst', hproxied, hproxy, hclient, hsock, hd⟩ := h.shakes hst hp hu
    have hnone : u.client = [] := hclient.trans (h.shaking hp (canRead_open hcan).1)
    have hnot {P : Prop} (hp' : (u.sent seg).countSeq.conn.socks5InProgress = true) : P := by
      have hiff := inProgress_iff (s := (u.sent seg).countSeq) hproxied
      exact absurd hest (hiff.mp hp').2
    refine ⟨hproxied, fun hne => absurd hst' hne, ?_, fun _ _ => hd, fun hp' => hnot hp',
      fun hp' => hnot hp', fun _ => ⟨seg, [], ?_, hseg.flags, hseg.l7, nofun⟩⟩
    · intro hdirect
      exact absurd (hdirect.symm.trans hproxy) (by decide)
    · exact congrArg (· ++ [seg]) hnone
  | flush r a left out hq hloop => exact hsame rfl ⟨rfl, rfl⟩ ⟨rfl, rfl, rfl, rfl⟩ id

/-! ## Steps and runs -/

/-- An update that keeps what was said and taken, with a RST for the client at most. -/
theorem Opening.frame (h : Opening cfg proxy s) (hlog : t.log.asked = s.log.asked ∧
      t.log.told = s.log.told ∧ t.log.accepted = s.log.accepted)
    (hclient : t.client = s.client ∨
      ∃ seg, seg.flags = thRstAck ∧ seg.l7 = [] ∧ t.client = s.client ++ [seg]) :
    Opening cfg proxy t := by
  obtain ⟨hasked, htold, hacc⟩ := hlog
  refine ⟨by rw [hasked, htold]; exact h.asked, ?_⟩
  rw [hasked, htold, hacc]
  obtain ⟨hsilent, hnone⟩ | ⟨hgreeted, hsaid⟩ := h.begun
  · refine .inl ⟨?_, hnone⟩
    obtain hsame | ⟨seg, hflags, hl7, hmore⟩ := hclient
    · unfold Silent
      rw [hsame]
      exact hsilent
    · exact hsilent.concat ⟨by rw [hflags]; rfl, hl7⟩ hmore
  · refine .inr ⟨?_, hsaid⟩
    obtain hsame | ⟨seg, hflags, -, hmore⟩ := hclient
    · unfold Greeted
      rw [hsame]
      exact hgreeted
    · exact hgreeted.concat (by rw [hflags]; rfl) hmore

theorem Opening.closes (h : Opening cfg proxy s) (hc : Closes s s') : Opening cfg proxy s' :=
  h.frame (by rw [hc.log]; exact ⟨rfl, rfl, rfl⟩) hc.client

/-- The invariant of every connection, open or closed. -/
structure Begins (cfg : SpliceConfig) (proxy : Bool) (s : Splice) : Prop where
  uploads : s.Uploads
  opening : Opening cfg proxy s
  opened : s.isClosed = false → Greeting cfg proxy s

theorem begins_of_closes (hup : s'.Uploads) (h : Opening cfg proxy t) (hc : Closes t s') :
    Begins cfg proxy s' :=
  ⟨hup, h.closes hc, fun ho => absurd (hc.closed.symm.trans ho) (by decide)⟩

theorem Greeting.begins (hup : s.Uploads) (hs : s.isClosed = false) (h : Greeting cfg proxy s) :
    Begins cfg proxy s := ⟨hup, h.opening (hup.opened hs), fun _ => h⟩

/-- Where nothing was sent or taken yet, nothing has to hold. -/
theorem opening_of_none (hclient : t.Silent) (hacc : t.log.accepted = [])
    (hasked : t.log.asked = []) : Opening cfg proxy t := ⟨.inl hasked, .inl ⟨hclient, hacc⟩⟩

theorem Greeting.tail (h : Greeting cfg proxy t) (hupt : t.Uploading) (hup : s'.Uploads)
    (ht : t.isClosed = false) (htail : Tail t s') : Begins cfg proxy s' := by
  have hmark {u : Splice} (hu : Greeting cfg proxy u) (r p d : Bool) :
      Greeting cfg proxy (u.mark r p d) := hu.frame rfl ⟨rfl, rfl⟩ ⟨rfl, rfl, rfl, rfl⟩ id
  have hacked (hst : t.Established) {seg : ClientSegment} (hseg : Built t thAck [] seg) :
      Greeting cfg proxy (t.sent seg) := h.sends hst (by rw [hseg.flags]; rfl)
  cases htail with
  | none r p d => exact (hmark h r p d).begins hup ht
  | ack hst seg hseg r p d => exact (hmark (hacked hst hseg) r p d).begins hup ht
  | closes s' hc => exact begins_of_closes hup (h.opening hupt) hc
  | ackCloses hst seg hseg s' hc =>
    exact begins_of_closes hup ((hacked hst hseg).opening (hupt.acked hst hseg)) hc

theorem Begins.outcome (h : Begins cfg proxy s) (hup' : s'.Uploads) (hs : s.isClosed = false)
    (hreads : ReadsConnected s e) (ho : Outcome cfg s e s') : Begins cfg proxy s' := by
  have hup := h.uploads.opened hs
  have hg := h.opened hs
  cases ho with
  | core _ t hc s' ht =>
    exact (hg.core hup hs hreads hc).tail (hup.core hc) hup' (hc.isClosed hs) ht
  | refused pkt a hnew => exact ⟨hup', h.opening.frame ⟨rfl, rfl, rfl⟩ (.inl rfl), (nomatch ·)⟩
  | connectFails pkt a hnew s' hc =>
    exact begins_of_closes (t := s.socketOpened pkt) hup'
      (h.opening.frame ⟨rfl, rfl, rfl⟩ (.inl rfl)) hc
  | greetFails _ u hu s' hc =>
    obtain ⟨-, hnone, hasked, -⟩ := hg.connects hup hu
    exact begins_of_closes (t := u.connected) hup'
      (opening_of_none (silent_of_none hnone) (hup.connects hu).1.2.1 hasked) hc
  | synAckFails a hcan hp u hu s' hc =>
    have hst := status_of_read hup hs hcan hreads
    obtain ⟨-, -, hproxy, hclient, -, hd⟩ := hg.shakes hst hp hu
    have hnone : u.client = [] := hclient.trans (hg.shaking hp (canRead_open hcan).1)
    have hacc := (hu.untouched (h := s.afterRecv.hear s.incoming) (hup.shaking hp)).2.1
    exact begins_of_closes hup' ⟨.inr ⟨hproxy, _, _, _, List.prefix_refl _, hd⟩,
      .inl ⟨silent_of_none hnone, hacc⟩⟩ hc
  | recvFails a s' hc =>
    exact begins_of_closes (t := s.afterRecv) hup' (h.opening.frame ⟨rfl, rfl, rfl⟩ (.inl rfl)) hc
  | shakeFails a hcan hp s' hc =>
    have hst := status_of_read hup hs hcan hreads
    obtain ⟨hproxy, -⟩ := (inProgress_iff hg.proxied).mp hp
    have hnone := hg.shaking hp (canRead_open hcan).1
    exact begins_of_closes (t := s.afterRecv.hear s.incoming) hup'
      ⟨.inr ⟨hproxy, _, _, _, List.prefix_append _ _, hg.dialogue hproxy hst⟩,
        .inl ⟨silent_of_none hnone, (hup.shaking hp).2.1⟩⟩ hc
  | writeFails r a left out errno hloop s' hc =>
    exact begins_of_closes (t := s.written left out) hup'
      (h.opening.frame ⟨rfl, rfl, rfl⟩ (.inl rfl)) hc

theorem Begins.step (h : Begins cfg proxy s) (hreads : ReadsConnected s e) :
    Begins cfg proxy (step cfg s e) := by
  have hup : (Splice.step cfg s e).Uploads := h.uploads.step e
  cases hs : s.isClosed with
  | false =>
    exact h.outcome hup hs hreads (outcome_step hs (h.uploads.opened hs).queue_established e)
  | true =>
    obtain ⟨u, r, p, d, hu, hstep⟩ := step_of_closed cfg hs (h.uploads.closed hs) e
    rw [hstep] at hup ⊢
    have hopening : Opening cfg proxy (u.mark r p d) ∧ (u.mark r p d).isClosed = true := by
      rcases hu with rfl | ⟨bytes, -, rfl⟩ | rfl
      all_goals exact ⟨h.opening.frame ⟨rfl, rfl, rfl⟩ (.inl rfl), hs⟩
    exact ⟨hup, hopening.1, fun ho => absurd (hopening.2.symm.trans ho) (by decide)⟩

theorem begins_init (cfg : SpliceConfig) (proxy : Bool) : Begins cfg proxy (init proxy) :=
  (greeting_init cfg proxy).begins (uploads_init proxy) rfl

/-- In every run that reads nothing while the connect is under way, each request to the proxy
follows the answers before it, and user and password go out only to a proxy that asked for them.
Until the client is greeted, it gets no data, and nothing of it is taken. Its first packet then is
the SYN+ACK, the only one it gets, and where there is a proxy, that one has granted the request. -/
theorem everyState_opening (cfg : SpliceConfig) (proxy : Bool) (es : List Event)
    (h : Machine.EveryStep (Splice.step cfg) ReadsConnected (init proxy) es) :
    Machine.EveryState (Splice.step cfg) (Opening cfg proxy) (init proxy) es :=
  Machine.everyState_of_invariant (fun _ _ hs hr => hs.step hr) (fun _ hs => hs.opening)
    (begins_init cfg proxy) h

/-! A proxy that asks for user and password, and grants the request in two parts. -/

def proxyConfig : SpliceConfig := { webConfig with userPass := some ([117, 49], [112]) }

def throughProxy : List Event :=
  [.tunPacket ⟨7, 0, 512, ⟨false, true, false, false, false, false⟩, 1460, 6, []⟩ (ready []),
    .serverSends [5, 2], .readable none (ready []), .serverSends [1, 0],
    .readable none (ready []), .serverSends [5, 0, 0, 1, 9, 9], .readable none (ready []),
    .serverSends [9, 1, 0, 80], .readable none (ready [])]

theorem everyState_opening_throughProxy :
    Machine.EveryState (step proxyConfig) (Opening proxyConfig true) (init true) throughProxy :=
  everyState_opening proxyConfig true throughProxy
    ⟨trivial, trivial, (nomatch ·), trivial, (nomatch ·), trivial, (nomatch ·), trivial,
      (nomatch ·), trivial⟩

end Splice

end SecureGuard.Native
