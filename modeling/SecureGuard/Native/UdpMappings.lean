import SecureGuard.Native.SocketAccounts

/-! # The local ports of UDP clients

`num_uses` of a mapping never exceeds the number of connections that share its port: no mapping
outlives its last connection. A connection that is closed before it got a port still gives one back,
so that the count can be less; in runs where every UDP connection gets its port it is exact, and a
port of a client has one local port as long as it has connections. -/

namespace SecureGuard.Native

open SocketPool

/-- Whether a connection has this local port for this port of the client. -/
def PoolConn.uses (c : PoolConn) (key : UInt32) (port : UInt16) : Bool :=
  c.localPort == some port && udpMappingKey c.tuple == key

/-- How many connections have it. -/
def users (key : UInt32) (port : UInt16) (conns : List PoolConn) : Nat :=
  conns.countP (·.uses key port)

/-- Only an UDP connection that is open has a local port. -/
structure Clean (c : PoolConn) : Prop where
  udp : c.localPort.isSome = true → c.tuple.ipproto = .udp
  live : c.localPort.isSome = true → c.status ≠ .new ∧ c.status.isClosed = false
  sock : c.localPort.isSome = true → c.sock.isSome = true

/-- No mapping has more uses than connections that share its port, and none has no use. -/
structure Uses (p : SocketPool) (conns : List PoolConn) : Prop where
  uses : ∀ key, ∀ m ∈ p.mapping key, 0 < m.numUses.toNat ∧ m.numUses.toNat ≤ users key m.port conns
  clean : ∀ c ∈ conns, Clean c

/-- No UDP connection that is open is without a local port, that of its mapping, and the mappings
count them all. -/
structure Shared (p : SocketPool) (conns : List PoolConn) : Prop extends Uses p conns where
  exact : ∀ key, ∀ m ∈ p.mapping key, users key m.port conns ≤ m.numUses.toNat
  port : ∀ c ∈ conns, c.tuple.ipproto = .udp → c.status.isClosed = false →
    ∃ m ∈ p.mapping (udpMappingKey c.tuple), c.localPort = some m.port

variable {p : SocketPool} {c d : PoolConn} {rest xs ys : List PoolConn} {key k : UInt32}
  {port : UInt16}

/-! ## Users -/

theorem users_cons :
    users key port (c :: rest) = users key port rest + (if c.uses key port then 1 else 0) := by
  unfold users
  rw [List.countP_cons]

theorem users_perm (h : xs.Perm ys) : users key port xs = users key port ys := h.countP_eq _

theorem uses_of_none (h : c.localPort = none) : c.uses key port = false := by
  unfold PoolConn.uses
  rw [h]
  rfl

theorem clean_of_none (h : c.localPort = none) : Clean c := by
  refine ⟨?_, ?_, ?_⟩ <;> intro hs <;> rw [h] at hs <;> cases hs

/-- Every user has a socket. -/
theorem users_le_socks (h : ∀ c ∈ xs, Clean c) : users key port xs ≤ (socks xs).length := by
  induction xs with
  | nil => exact Nat.le_refl _
  | cons c xs ih =>
    have hrest := ih fun d hd => h d (List.mem_cons_of_mem _ hd)
    rw [users_cons, socks_cons, List.length_append]
    by_cases hu : c.uses key port = true
    · have hport : c.localPort.isSome = true := by
        rw [beq_iff_eq.mp (Bool.and_eq_true_iff.mp hu).1]
        rfl
      obtain ⟨fd, hfd⟩ := Option.isSome_iff_exists.mp ((h c List.mem_cons_self).sock hport)
      rw [if_pos hu, hfd, Nat.add_comm]
      exact Nat.add_le_add_left hrest 1
    · rw [if_neg hu]
      exact Nat.le_trans hrest (Nat.le_add_left _ _)

theorem Uses.perm (h : Uses p xs) (hp : xs.Perm ys) : Uses p ys :=
  ⟨fun k m hm => users_perm hp ▸ h.uses k m hm, fun c hc => h.clean c (hp.mem_iff.mpr hc)⟩

theorem Shared.perm (h : Shared p xs) (hp : xs.Perm ys) : Shared p ys :=
  ⟨h.toUses.perm hp, fun k m hm => users_perm hp ▸ h.exact k m hm,
    fun c hc => h.port c (hp.mem_iff.mpr hc)⟩

/-! ## Mappings -/

/-- An update that keeps the keys is one of the mapping found. -/
theorem find_map_uses (ms : List UdpMapping) (f : UdpMapping → UdpMapping)
    (hkey : ∀ m, (f m).key = m.key) :
    (ms.map f).find? (·.key == k) = (ms.find? (·.key == k)).map f := by
  rw [List.find?_map]
  congr 2
  funext m
  exact congrArg (· == k) (hkey m)

theorem key_ite {P : Prop} [Decidable P] (m : UdpMapping) (n : UInt16) :
    (if P then { m with numUses := n } else m : UdpMapping).key = m.key := by
  split <;> rfl

theorem mapping_key {m : UdpMapping} (h : p.mapping key = some m) : m.key = key := by
  have hfound := List.find?_some h
  exact beq_iff_eq.mp hfound

/-- A use less of the mapping found, and of no other. -/
theorem mapping_release_self : (p.release key).mapping key = (p.mapping key).bind fun m =>
    if m.numUses - 1 = 0 then none else some { m with numUses := m.numUses - 1 } := by
  unfold SocketPool.release
  cases hm : p.mapping key with
  | none => exact hm
  | some m =>
    dsimp only [Option.bind_some]
    by_cases hlast : m.numUses - 1 = 0
    · rw [if_pos hlast, if_pos hlast]
      exact List.find?_eq_none.mpr fun n hn hk =>
        bne_iff_ne.mp (List.mem_filter.mp hn).2 (beq_iff_eq.mp hk)
    · rw [if_neg hlast, if_neg hlast]
      refine (find_map_uses _ _ fun n => key_ite n _).trans ?_
      change (p.mapping key).map _ = _
      rw [hm, Option.map_some, if_pos (mapping_key hm)]

theorem toNat_sub_one {n : UInt16} (h : 0 < n.toNat) : (n - 1).toNat = n.toNat - 1 :=
  UInt16.toNat_sub_of_le _ _ (UInt16.le_iff_toNat_le.mpr h)

/-- A mapping that was used more than once stays, with a use less. -/
theorem mem_mapping_release_iff (hpos : ∀ n ∈ p.mapping key, 0 < n.numUses.toNat)
    {m : UdpMapping} : m ∈ (p.release key).mapping key ↔
      ∃ n ∈ p.mapping key, 1 < n.numUses.toNat ∧ { n with numUses := n.numUses - 1 } = m := by
  have hlast {n : UdpMapping} (hn : n ∈ p.mapping key) :
      n.numUses - 1 = 0 ↔ n.numUses.toNat ≤ 1 := by
    rw [← UInt16.toNat_inj, toNat_sub_one (hpos n hn)]
    exact Nat.sub_eq_zero_iff_le
  rw [mapping_release_self]
  constructor
  · intro hm
    obtain ⟨n, hn, hleft⟩ := Option.mem_bind_iff.mp hm
    split at hleft
    · cases hleft
    · rename_i hmore
      exact ⟨n, hn, Nat.lt_of_not_le (mt (hlast hn).mpr hmore), Option.mem_some_iff.mp hleft⟩
  · rintro ⟨n, hn, hmany, rfl⟩
    rw [Option.mem_def.mp hn, Option.bind_some,
      if_neg (mt (hlast hn).mp (Nat.not_le_of_lt hmany))]
    rfl

theorem mapping_release_other (h : k ≠ key) : (p.release key).mapping k = p.mapping k := by
  unfold SocketPool.release
  cases hm : p.mapping key with
  | none => rfl
  | some m =>
    dsimp only
    split
    · refine (List.find?_filter ..).trans ?_
      refine congrArg (List.find? · _) (funext fun n => ?_)
      by_cases hn : n.key = k
      · simp [hn, h]
      · simp [hn]
    · refine (find_map_uses _ _ fun n => key_ite n _).trans ?_
      change (p.mapping k).map _ = _
      cases hk : p.mapping k with
      | none => rfl
      | some n => rw [Option.map_some, if_neg (mapping_key hk ▸ h)]

/-- A use more, where there is room to count it. -/
theorem mapping_use_self : (p.use key port).mapping key =
    match p.mapping key with
    | none => some ⟨key, port, 1⟩
    | some m => some (if m.numUses < 0xFFFF then { m with numUses := m.numUses + 1 } else m) := by
  unfold SocketPool.use
  cases hm : p.mapping key with
  | none =>
    refine (List.find?_append ..).trans ?_
    change (p.mapping key).or _ = _
    rw [hm]
    simp
  | some m =>
    dsimp only
    refine (find_map_uses _ _ fun n => key_ite n _).trans ?_
    change (p.mapping key).map _ = _
    rw [hm, Option.map_some]
    simp [mapping_key hm]

theorem mapping_use_other (h : k ≠ key) :
    (p.use key port).mapping k = p.mapping k := by
  unfold SocketPool.use
  cases hm : p.mapping key with
  | none =>
    refine (List.find?_append ..).trans ?_
    change (p.mapping k).or _ = _
    simp [h.symm]
  | some m =>
    dsimp only
    refine (find_map_uses _ _ fun n => key_ite n _).trans ?_
    change (p.mapping k).map _ = _
    cases hk : p.mapping k with
    | none => rfl
    | some n =>
      rw [Option.map_some]
      simp [mapping_key hk, h]

/-! ## Handlers -/

theorem mapping_congr {q : SocketPool} (h : q.udpMappings = p.udpMappings) :
    q.mapping k = p.mapping k := by
  unfold SocketPool.mapping
  rw [h]

theorem closeSocket_udpMappings (sock : Option Nat) :
    (p.closeSocket sock).udpMappings = p.udpMappings := by
  cases sock <;> rfl

theorem openSocket_udpMappings (sock : Option Nat) :
    (p.openSocket sock).1.udpMappings = p.udpMappings := by
  unfold SocketPool.openSocket
  split
  · rfl
  · cases sock with
    | none => rfl
    | some fd =>
      dsimp only
      split <;> rfl

theorem count_udpMappings (proto : IpProto) (f : UInt16 → UInt16) :
    (p.count proto f).udpMappings = p.udpMappings := by
  cases proto <;> rfl

theorem Uses.head (h : Uses p (c :: rest)) : Clean c := h.clean c List.mem_cons_self

/-- A connection that is new has no local port. -/
theorem Clean.of_new (h : Clean c) (hnew : c.status = .new) : c.localPort = none := by
  by_contra hport
  exact (h.live (Option.isSome_iff_ne_none.mpr hport)).1 hnew

theorem Clean.of_closed (h : Clean c) (hc : c.status.isClosed = true) : c.localPort = none := by
  by_contra hport
  rw [(h.live (Option.isSome_iff_ne_none.mpr hport)).2] at hc
  cases hc

theorem Clean.uses_eq_false (h : Clean c)
    (hne : c.tuple.ipproto ≠ .udp ∨ k ≠ udpMappingKey c.tuple) : c.uses k port = false := by
  by_contra hu
  obtain ⟨hport, hkey⟩ := Bool.and_eq_true_iff.mp ((Bool.not_eq_false _).mp hu)
  obtain hne | hne := hne
  · exact hne (h.udp (by rw [beq_iff_eq.mp hport]; rfl))
  · exact hne (beq_iff_eq.mp hkey).symm

/-- A connection that keeps its address and its local port. -/
theorem Uses.same {q : SocketPool} (h : Uses p (c :: rest)) (hq : q.udpMappings = p.udpMappings)
    (ht : d.tuple = c.tuple) (hl : d.localPort = c.localPort) (hd : Clean d) :
    Uses q (d :: rest) := by
  have huses (k : UInt32) (port : UInt16) : d.uses k port = c.uses k port := by
    unfold PoolConn.uses
    rw [ht, hl]
  refine ⟨fun k m hm => ?_, fun x hx => ?_⟩
  · rw [users_cons, huses, ← users_cons]
    exact h.uses k m (mapping_congr hq ▸ hm)
  · obtain rfl | hx := List.mem_cons.mp hx
    · exact hd
    · exact h.clean x (List.mem_cons_of_mem _ hx)

/-- One that has no local port, before or after. -/
theorem Uses.idle {q : SocketPool} (h : Uses p (c :: rest)) (hq : q.udpMappings = p.udpMappings)
    (hc : c.localPort = none) (hd : d.localPort = none) : Uses q (d :: rest) := by
  refine ⟨fun k m hm => ?_, fun x hx => ?_⟩
  · have hbound := h.uses k m (mapping_congr hq ▸ hm)
    rw [users_cons, uses_of_none hc] at hbound
    rw [users_cons, uses_of_none hd]
    exact hbound
  · obtain rfl | hx := List.mem_cons.mp hx
    · exact clean_of_none hd
    · exact h.clean x (List.mem_cons_of_mem _ hx)

/-- One that gives its local port back. -/
theorem Uses.released (h : Uses p (c :: rest)) (hl : d.localPort = none) :
    Uses (p.release (udpMappingKey c.tuple)) (d :: rest) := by
  refine ⟨fun k m hm => ?_, fun x hx => ?_⟩
  · rw [users_cons, uses_of_none hl, if_neg Bool.false_ne_true, Nat.add_zero]
    by_cases hk : k = udpMappingKey c.tuple
    · subst hk
      obtain ⟨m', hm', hmany, rfl⟩ :=
        (mem_mapping_release_iff fun n hn => (h.uses _ n hn).1).mp hm
      have hbound := h.uses _ m' hm'
      rw [users_cons] at hbound
      change 0 < (m'.numUses - 1).toNat ∧
        (m'.numUses - 1).toNat ≤ users (udpMappingKey c.tuple) m'.port rest
      rw [toNat_sub_one hbound.1]
      split at hbound <;> omega
    · rw [mapping_release_other hk] at hm
      have hbound := h.uses k m hm
      rw [users_cons, h.head.uses_eq_false (.inr hk), if_neg Bool.false_ne_true] at hbound
      exact hbound
  · obtain rfl | hx := List.mem_cons.mp hx
    · exact clean_of_none hl
    · exact h.clean x (List.mem_cons_of_mem _ hx)

/-- A connection that has no local port has none after a close. -/
theorem zdtunConnClose_localPort (h : Clean c) (status : ConnStatus) :
    (p.zdtunConnClose c status).2.localPort = none := by
  unfold SocketPool.zdtunConnClose
  split
  · rename_i hc
    exact h.of_closed hc
  · rfl

theorem Uses.zdtunConnClose (h : Uses p (c :: rest)) (status : ConnStatus) :
    Uses (p.zdtunConnClose c status).1 ((p.zdtunConnClose c status).2 :: rest) := by
  unfold SocketPool.zdtunConnClose
  split
  · exact h
  · dsimp only
    split
    · exact (h.released (d := { c with localPort := none }) rfl).same
        (closeSocket_udpMappings _) rfl rfl (clean_of_none rfl)
    · rename_i hudp
      have hnone : c.localPort = none := by
        by_contra hport
        exact hudp (h.head.udp (Option.isSome_iff_ne_none.mpr hport))
      exact h.same (closeSocket_udpMappings _) rfl hnone.symm (clean_of_none rfl)

theorem Uses.destroyConn (h : Uses p (c :: rest)) : Uses (p.destroyConn c) rest := by
  have hclosed := h.zdtunConnClose .closed
  have hnone := zdtunConnClose_localPort (p := p) h.head .closed
  unfold SocketPool.destroyConn
  generalize p.zdtunConnClose c .closed = closed at hclosed hnone
  obtain ⟨q, d⟩ := closed
  refine ⟨fun k m hm => ?_, fun x hx => hclosed.clean x (List.mem_cons_of_mem _ hx)⟩
  have hbound := hclosed.uses k m (mapping_congr (count_udpMappings _ _) ▸ hm)
  rw [users_cons, uses_of_none hnone, if_neg Bool.false_ne_true] at hbound
  exact hbound

theorem Clean.serverCloses (h : Clean c) (ht : c.tuple.ipproto = .tcp) : c.localPort = none := by
  by_contra hport
  have hudp := h.udp (Option.isSome_iff_ne_none.mpr hport)
  rw [ht] at hudp
  cases hudp

theorem Uses.apply (h : Uses p (c :: rest)) (e : Effect) :
    Uses (p.apply c e).1 ((p.apply c e).2 :: rest) := by
  have hc := h.head
  cases e with
  | selects on => exact h.same rfl rfl rfl hc
  | awaits on => exact h.same rfl rfl rfl hc
  | connects =>
    by_cases hclosed : c.status.isClosed = true
    · simp only [SocketPool.apply, hclosed, if_true]
      exact h
    · simp only [SocketPool.apply, hclosed, Bool.false_eq_true, if_false]
      have hne : ConnStatus.connected ≠ .new := by decide
      exact h.same rfl rfl rfl ⟨hc.udp, fun _ => ⟨hne, rfl⟩, hc.sock⟩
  | touches now => exact h.same rfl rfl rfl ⟨hc.udp, hc.live, hc.sock⟩
  | serverCloses =>
    by_cases ht : c.tuple.ipproto = .tcp
    · simp only [SocketPool.apply, ht, if_true]
      exact h.same (closeSocket_udpMappings _) rfl rfl (clean_of_none (hc.serverCloses ht))
    · simp only [SocketPool.apply, ht, if_false]
      exact h
  | closes status => exact h.zdtunConnClose status

/-! ## A new connection -/

theorem use_le (n : UInt16) : (if n < 0xFFFF then n + 1 else n).toNat ≤ n.toNat + 1 := by
  split
  · rw [UInt16.toNat_add]
    exact Nat.mod_le _ _
  · exact Nat.le_succ _

theorem use_pos {n : UInt16} (h : 0 < n.toNat) : 0 < (if n < 0xFFFF then n + 1 else n).toNat := by
  split
  · rename_i hroom
    have hsmall : n.toNat < 65535 := UInt16.lt_iff_toNat_lt.mp hroom
    have hadd : (n + 1).toNat = n.toNat + 1 := by
      rw [UInt16.toNat_add]
      exact Nat.mod_eq_of_lt (Nat.succ_lt_succ hsmall)
    omega
  · exact h

/-- The mapping of a new connection is used once more than before. -/
theorem mapping_use_mem {m : UdpMapping}
    (hm : m ∈ (p.use key port).mapping key) :
    (p.mapping key = none ∧ m = ⟨key, port, 1⟩) ∨ ∃ m' ∈ p.mapping key, m.port = m'.port ∧
      m.numUses = if m'.numUses < 0xFFFF then m'.numUses + 1 else m'.numUses := by
  rw [mapping_use_self] at hm
  cases hold : p.mapping key with
  | none =>
    rw [hold] at hm
    exact .inl ⟨rfl, (Option.mem_some_iff.mp hm).symm⟩
  | some m' =>
    rw [hold] at hm
    obtain rfl := Option.mem_some_iff.mp hm
    refine .inr ⟨m', rfl, ?_⟩
    split <;> exact ⟨rfl, rfl⟩

/-- A connection that gets a local port uses its mapping. -/
theorem uses_boundPort (ht : d.tuple = c.tuple)
    (hl : d.localPort = some (p.boundPort (udpMappingKey c.tuple) port)) {m : UdpMapping}
    (hm : m ∈ (p.use (udpMappingKey c.tuple) port).mapping (udpMappingKey c.tuple)) :
    d.uses (udpMappingKey c.tuple) m.port = true := by
  have hport : p.boundPort (udpMappingKey c.tuple) port = m.port := by
    unfold SocketPool.boundPort
    obtain ⟨hnone, rfl⟩ | ⟨m', hm', hsame, -⟩ := mapping_use_mem hm
    · rw [hnone]
      rfl
    · rw [Option.mem_def.mp hm']
      exact hsame.symm
  unfold PoolConn.uses
  rw [hl, ht, hport, beq_self_eq_true, beq_self_eq_true]
  rfl

theorem Uses.used (h : Uses p (c :: rest)) (hnone : c.localPort = none) (ht : d.tuple = c.tuple)
    (hl : d.localPort = some (p.boundPort (udpMappingKey c.tuple) port)) (hd : Clean d) :
    Uses (p.use (udpMappingKey c.tuple) port) (d :: rest) := by
  refine ⟨fun k m hm => ?_, fun x hx => ?_⟩
  · have hold {m' : UdpMapping} (hm' : m' ∈ p.mapping k) :
        0 < m'.numUses.toNat ∧ m'.numUses.toNat ≤ users k m'.port rest := by
      have hbound := h.uses k m' hm'
      rw [users_cons, uses_of_none hnone, if_neg Bool.false_ne_true] at hbound
      exact hbound
    rw [users_cons]
    by_cases hk : k = udpMappingKey c.tuple
    · subst hk
      rw [if_pos (uses_boundPort ht hl hm)]
      obtain ⟨-, rfl⟩ | ⟨m', hm', hsame, hn⟩ := mapping_use_mem hm
      · exact ⟨Nat.one_pos, Nat.le_add_left _ _⟩
      · rw [hn, hsame]
        have hle := use_le m'.numUses
        have hbound := hold hm'
        exact ⟨use_pos hbound.1, Nat.le_trans hle (Nat.add_le_add_right hbound.2 1)⟩
    · rw [mapping_use_other hk] at hm
      have hbound := hold hm
      exact ⟨hbound.1, Nat.le_trans hbound.2 (Nat.le_add_right _ _)⟩
  · obtain rfl | hx := List.mem_cons.mp hx
    · exact hd
    · exact h.clean x (List.mem_cons_of_mem _ hx)

theorem Uses.openUdp (h : Uses p (c :: rest)) (hnew : c.status = .new)
    (hudp : c.tuple.ipproto = .udp) (pkt : PoolPacket) :
    Uses (p.openUdp c pkt).1 ((p.openUdp c pkt).2.1 :: rest) := by
  have hnone := h.head.of_new hnew
  have hq := openSocket_udpMappings (p := p) pkt.socket
  unfold SocketPool.openUdp
  generalize p.openSocket pkt.socket = opened at hq
  obtain ⟨q, fd⟩ := opened
  cases fd with
  | none => exact h.same hq rfl rfl h.head
  | some sock =>
    have hsocket : Uses q ({ c with sock := some sock } :: rest) :=
      h.same hq rfl rfl (clean_of_none hnone)
    unfold SocketPool.bindAndConnectUdp
    cases pkt.setup with
    | noBindAddr => exact hsocket.zdtunConnClose .error
    | error errno => exact hsocket.zdtunConnClose errno.status
    | done =>
      have hne : ConnStatus.connected ≠ .new := by decide
      exact hsocket.used hnone rfl rfl ⟨fun _ => hudp, fun _ => ⟨hne, rfl⟩, fun _ => rfl⟩

/-- The socket of a connection that is not UDP touches no mapping and no local port. -/
theorem openConn_cases (hudp : c.tuple.ipproto ≠ .udp) (pkt : PoolPacket) :
    ∃ q d ok, q.udpMappings = p.udpMappings ∧ d.tuple.ipproto = c.tuple.ipproto ∧
      d.localPort = c.localPort ∧ (p.openConn c pkt = (q, d, ok) ∨ ∃ status, p.openConn c pkt =
        ((q.zdtunConnClose d status).1, (q.zdtunConnClose d status).2, ok)) := by
  have hq := openSocket_udpMappings (p := p) pkt.socket
  unfold SocketPool.openConn
  cases hproto : c.tuple.ipproto with
  | udp => exact absurd hproto hudp
  | icmp =>
    unfold SocketPool.openIcmp
    generalize p.openSocket pkt.socket = opened at hq
    obtain ⟨q, fd⟩ := opened
    cases fd with
    | none => exact ⟨q, { c with status := .socketError }, _, hq, hproto, rfl, .inl rfl⟩
    | some sock =>
      exact ⟨q, { c with
        sock := some sock, status := .connected
        tuple := { c.tuple with srcPort := pkt.echoId } }, _, hq, hproto, rfl, .inl rfl⟩
  | tcp =>
    unfold SocketPool.openTcp
    generalize p.openSocket pkt.socket = opened at hq
    obtain ⟨q, fd⟩ := opened
    cases fd with
    | none => exact ⟨q, { c with status := .socketError }, _, hq, hproto, rfl, .inl rfl⟩
    | some sock =>
      cases pkt.connect with
      | done =>
        exact ⟨{ q with writeFds := setFd q.writeFds (some sock) false },
          { c with sock := some sock, status := .connected }, _, hq, hproto, rfl, .inl rfl⟩
      | inProgress =>
        exact ⟨{ q with writeFds := setFd q.writeFds (some sock) true },
          { c with sock := some sock, status := .connecting }, _, hq, hproto, rfl, .inl rfl⟩
      | error errno =>
        exact ⟨q, { c with sock := some sock }, _, hq, hproto, rfl, .inr ⟨errno.status, rfl⟩⟩

theorem Uses.openConn (h : Uses p (c :: rest)) (hnew : c.status = .new) (pkt : PoolPacket) :
    Uses (p.openConn c pkt).1 ((p.openConn c pkt).2.1 :: rest) := by
  by_cases hudp : c.tuple.ipproto = .udp
  · have hopen := h.openUdp hnew hudp pkt
    unfold SocketPool.openConn
    rw [hudp]
    exact hopen
  · obtain ⟨q, d, ok, hq, -, hl, hopen⟩ := openConn_cases (p := p) hudp pkt
    have hnone := h.head.of_new hnew
    have hsame : Uses q (d :: rest) := h.idle hq hnone (hl.trans hnone)
    obtain hopen | ⟨status, hopen⟩ := hopen
    · rw [hopen]
      exact hsame
    · rw [hopen]
      exact hsame.zdtunConnClose status

theorem Uses.create (h : Uses p xs) (hnone : c.localPort = none) :
    Uses (p.count c.tuple.ipproto (· + 1)) (c :: xs) := by
  refine ⟨fun k m hm => ?_, fun x hx => ?_⟩
  · rw [users_cons, uses_of_none hnone, if_neg Bool.false_ne_true]
    exact h.uses k m (mapping_congr (count_udpMappings _ _) ▸ hm)
  · obtain rfl | hx := List.mem_cons.mp hx
    · exact clean_of_none hnone
    · exact h.clean x hx

theorem uses_table : Table Uses :=
  ⟨⟨⟨Uses.perm, Uses.destroyConn⟩, fun e h => h.apply e⟩,
    fun {_ _ tuple now} h => Uses.create (c := newConn tuple now) h rfl⟩

/-! ## Where every connection gets its port -/

theorem Shared.same {q : SocketPool} (h : Shared p (c :: rest))
    (hq : q.udpMappings = p.udpMappings) (ht : d.tuple = c.tuple)
    (hl : d.localPort = c.localPort) (hs : d.status.isClosed = false → c.status.isClosed = false)
    (hd : Clean d) : Shared q (d :: rest) := by
  have huses (k : UInt32) (port : UInt16) : d.uses k port = c.uses k port := by
    unfold PoolConn.uses
    rw [ht, hl]
  refine ⟨h.toUses.same hq ht hl hd, fun k m hm => ?_, fun x hx hudp hopen => ?_⟩
  · rw [users_cons, huses, ← users_cons]
    exact h.exact k m (mapping_congr hq ▸ hm)
  · rw [mapping_congr hq]
    obtain rfl | hx := List.mem_cons.mp hx
    · rw [hl, ht]
      exact h.port c List.mem_cons_self (ht ▸ hudp) (hs hopen)
    · exact h.port x (List.mem_cons_of_mem _ hx) hudp hopen

/-- One that is not UDP, and has no local port. -/
theorem Shared.idle {q : SocketPool} (h : Shared p (c :: rest))
    (hq : q.udpMappings = p.udpMappings) (hc : c.localPort = none) (hd : d.localPort = none)
    (hudp : d.tuple.ipproto ≠ .udp) : Shared q (d :: rest) := by
  refine ⟨h.toUses.idle hq hc hd, fun k m hm => ?_, fun x hx hx_udp hopen => ?_⟩
  · have hexact := h.exact k m (mapping_congr hq ▸ hm)
    rw [users_cons, uses_of_none hc] at hexact
    rw [users_cons, uses_of_none hd]
    exact hexact
  · rw [mapping_congr hq]
    obtain rfl | hx := List.mem_cons.mp hx
    · exact absurd hx_udp hudp
    · exact h.port x (List.mem_cons_of_mem _ hx) hx_udp hopen

/-- An open UDP connection is a user of its mapping. -/
theorem Shared.uses_eq_true (h : Shared p xs) (hc : c ∈ xs) (hudp : c.tuple.ipproto = .udp)
    (hopen : c.status.isClosed = false) {m : UdpMapping}
    (hm : m ∈ p.mapping (udpMappingKey c.tuple)) :
    c.uses (udpMappingKey c.tuple) m.port = true := by
  obtain ⟨n, hn, hport⟩ := h.port c hc hudp hopen
  obtain rfl := Option.mem_unique hm hn
  unfold PoolConn.uses
  rw [hport, beq_self_eq_true, beq_self_eq_true]
  rfl

theorem users_pos (hc : c ∈ xs) (hu : c.uses key port = true) : 0 < users key port xs :=
  List.countP_pos_iff.mpr ⟨c, hc, hu⟩

/-- The mapping of a connection that is closed stays where another one shares it. -/
theorem Shared.released (h : Shared p (c :: rest)) (hudp : c.tuple.ipproto = .udp)
    (hopen : c.status.isClosed = false) (hl : d.localPort = none)
    (hd : d.status.isClosed = true) :
    Shared (p.release (udpMappingKey c.tuple)) (d :: rest) := by
  have hcount {m : UdpMapping} (hm : m ∈ p.mapping (udpMappingKey c.tuple)) :
      users (udpMappingKey c.tuple) m.port rest + 1 ≤ m.numUses.toNat := by
    have hexact := h.exact _ m hm
    rw [users_cons, if_pos (h.uses_eq_true List.mem_cons_self hudp hopen hm)] at hexact
    exact hexact
  have hpos (m : UdpMapping) (hm : m ∈ p.mapping (udpMappingKey c.tuple)) :
      0 < m.numUses.toNat := (h.uses _ m hm).1
  refine ⟨h.toUses.released hl, fun k m hm => ?_, fun x hx hx_udp hx_open => ?_⟩
  · rw [users_cons, uses_of_none hl, if_neg Bool.false_ne_true, Nat.add_zero]
    by_cases hk : k = udpMappingKey c.tuple
    · subst hk
      obtain ⟨m', hm', -, rfl⟩ := (mem_mapping_release_iff hpos).mp hm
      change _ ≤ (m'.numUses - 1).toNat
      rw [toNat_sub_one (hpos m' hm')]
      exact Nat.le_sub_of_add_le (hcount hm')
    · rw [mapping_release_other hk] at hm
      have hexact := h.exact k m hm
      rw [users_cons, h.head.uses_eq_false (.inr hk), if_neg Bool.false_ne_true] at hexact
      exact hexact
  · obtain rfl | hx := List.mem_cons.mp hx
    · rw [hd] at hx_open
      cases hx_open
    · obtain ⟨m, hm, hport⟩ := h.port x (List.mem_cons_of_mem _ hx) hx_udp hx_open
      by_cases hk : udpMappingKey x.tuple = udpMappingKey c.tuple
      · rw [hk] at hm ⊢
        have hother : 0 < users (udpMappingKey c.tuple) m.port rest := by
          have huser := h.uses_eq_true (List.mem_cons_of_mem _ hx) hx_udp hx_open (hk.symm ▸ hm)
          exact users_pos hx (hk ▸ huser)
        have hmany : 1 < m.numUses.toNat := Nat.lt_of_lt_of_le (Nat.succ_lt_succ hother) (hcount hm)
        exact ⟨_, (mem_mapping_release_iff hpos).mpr ⟨m, hm, hmany, rfl⟩, hport⟩
      · rw [mapping_release_other hk]
        exact ⟨m, hm, hport⟩

theorem Shared.zdtunConnClose (h : Shared p (c :: rest)) (status : ConnStatus) :
    Shared (p.zdtunConnClose c status).1 ((p.zdtunConnClose c status).2 :: rest) := by
  unfold SocketPool.zdtunConnClose
  split
  · exact h
  · rename_i hopen
    have hopen := Bool.eq_false_iff.mpr hopen
    have hclosed : (if status.isClosed then status else .closed : ConnStatus).isClosed = true := by
      split
      · assumption
      · rfl
    dsimp only
    split
    · rename_i hudp
      have hreleased := h.released hudp hopen
        (d := { c with
          localPort := none
          status := if status.isClosed then status else .closed }) rfl hclosed
      exact hreleased.same (closeSocket_udpMappings _) rfl rfl id (clean_of_none rfl)
    · rename_i hudp
      have hnone : c.localPort = none := by
        by_contra hport
        exact hudp (h.head.udp (Option.isSome_iff_ne_none.mpr hport))
      exact h.same (closeSocket_udpMappings _) rfl hnone.symm (fun _ => hopen) (clean_of_none rfl)

theorem Shared.destroyConn (h : Shared p (c :: rest)) : Shared (p.destroyConn c) rest := by
  have huses := h.toUses.destroyConn
  have hclosed := h.zdtunConnClose .closed
  have hnone := zdtunConnClose_localPort (p := p) h.head .closed
  unfold SocketPool.destroyConn at huses ⊢
  generalize p.zdtunConnClose c .closed = closed at huses hclosed hnone
  obtain ⟨q, d⟩ := closed
  refine ⟨huses, fun k m hm => ?_, fun x hx hudp hopen => ?_⟩
  · have hexact := hclosed.exact k m (mapping_congr (count_udpMappings _ _) ▸ hm)
    rw [users_cons, uses_of_none hnone, if_neg Bool.false_ne_true] at hexact
    exact hexact
  · rw [mapping_congr (count_udpMappings _ _)]
    exact hclosed.port x (List.mem_cons_of_mem _ hx) hudp hopen

theorem Shared.apply (h : Shared p (c :: rest)) (e : Effect) :
    Shared (p.apply c e).1 ((p.apply c e).2 :: rest) := by
  have hc := h.head
  cases e with
  | selects on => exact h.same rfl rfl rfl id hc
  | awaits on => exact h.same rfl rfl rfl id hc
  | connects =>
    by_cases hclosed : c.status.isClosed = true
    · simp only [SocketPool.apply, hclosed, if_true]
      exact h
    · simp only [SocketPool.apply, hclosed, Bool.false_eq_true, if_false]
      have hne : ConnStatus.connected ≠ .new := by decide
      exact h.same rfl rfl rfl (fun _ => Bool.eq_false_iff.mpr hclosed)
        ⟨hc.udp, fun _ => ⟨hne, rfl⟩, hc.sock⟩
  | touches now => exact h.same rfl rfl rfl id ⟨hc.udp, hc.live, hc.sock⟩
  | serverCloses =>
    by_cases ht : c.tuple.ipproto = .tcp
    · simp only [SocketPool.apply, ht, if_true]
      exact h.same (closeSocket_udpMappings _) rfl rfl id (clean_of_none (hc.serverCloses ht))
    · simp only [SocketPool.apply, ht, if_false]
      exact h
  | closes status => exact h.zdtunConnClose status

theorem shared_handled : Handled Shared :=
  ⟨⟨Shared.perm, Shared.destroyConn⟩, fun e h => h.apply e⟩

theorem isClosed_of_new (h : c.status = .new) : c.status.isClosed = false := by
  rw [h]
  rfl

/-- The socket of a new connection: none of them is UDP, since those that are open have a port. -/
theorem Shared.openConn (h : Shared p (c :: rest)) (hnew : c.status = .new) (pkt : PoolPacket) :
    Shared (p.openConn c pkt).1 ((p.openConn c pkt).2.1 :: rest) := by
  have hnone := h.head.of_new hnew
  have hudp : c.tuple.ipproto ≠ .udp := by
    intro hudp
    obtain ⟨m, -, hport⟩ := h.port c List.mem_cons_self hudp (isClosed_of_new hnew)
    rw [hnone] at hport
    cases hport
  obtain ⟨q, d, ok, hq, ht, hl, hopen⟩ := openConn_cases (p := p) hudp pkt
  have hsame : Shared q (d :: rest) := h.idle hq hnone (hl.trans hnone) (ht ▸ hudp)
  obtain hopen | ⟨status, hopen⟩ := hopen
  · rw [hopen]
    exact hsame
  · rw [hopen]
    exact hsame.zdtunConnClose status

theorem Shared.congr {q : SocketPool} (h : Shared p xs) (hq : q.udpMappings = p.udpMappings) :
    Shared q xs := by
  refine ⟨⟨fun k m hm => ?_, h.clean⟩, fun k m hm => ?_, fun x hx hudp hopen => ?_⟩
  · exact h.uses k m (mapping_congr hq ▸ hm)
  · exact h.exact k m (mapping_congr hq ▸ hm)
  · rw [mapping_congr hq]
    exact h.port x hx hudp hopen

/-- A new connection that is not UDP. -/
theorem Shared.cons (h : Shared p rest) (huses : Uses p (c :: rest)) (hnone : c.localPort = none)
    (hudp : c.tuple.ipproto ≠ .udp) : Shared p (c :: rest) := by
  refine ⟨huses, fun k m hm => ?_, fun x hx hx_udp hopen => ?_⟩
  · rw [users_cons, uses_of_none hnone, if_neg Bool.false_ne_true]
    exact h.exact k m hm
  · obtain rfl | hx := List.mem_cons.mp hx
    · exact absurd hx_udp hudp
    · exact h.port x hx hx_udp hopen

/-- Without a mapping, no other connection has the port of the client. -/
theorem Shared.users_eq_zero (h : Shared p xs) (hm : p.mapping key = none) :
    users key port xs = 0 := by
  refine List.countP_eq_zero.mpr fun c hc hu => ?_
  obtain ⟨hport, hkey⟩ := Bool.and_eq_true_iff.mp hu
  have hport : c.localPort.isSome = true := by
    rw [beq_iff_eq.mp hport]
    rfl
  have hclean := h.clean c hc
  obtain ⟨m, hmem, -⟩ := h.port c hc (hclean.udp hport) (hclean.live hport).2
  rw [beq_iff_eq.mp hkey, hm] at hmem
  cases hmem

/-- A connection that gets the local port of its mapping, where the count has room. -/
theorem Shared.used (h : Shared p rest) (huses : Uses p (c :: rest)) (hnone : c.localPort = none)
    (ht : d.tuple = c.tuple)
    (hl : d.localPort = some (p.boundPort (udpMappingKey c.tuple) port)) (hd : Clean d)
    (hroom : ∀ port, users (udpMappingKey c.tuple) port rest < 0xFFFF) :
    Shared (p.use (udpMappingKey c.tuple) port) (d :: rest) := by
  refine ⟨huses.used hnone ht hl hd, fun k m hm => ?_, fun x hx hudp hopen => ?_⟩
  · rw [users_cons]
    by_cases hk : k = udpMappingKey c.tuple
    · subst hk
      have hone : (if d.uses (udpMappingKey c.tuple) m.port = true then 1 else 0) ≤ 1 := by
        split <;> omega
      obtain ⟨hold, rfl⟩ | ⟨m', hm', hsame, hn⟩ := mapping_use_mem hm
      · rw [h.users_eq_zero hold, Nat.zero_add]
        exact hone
      · rw [hsame] at hone ⊢
        have hexact := Nat.le_antisymm (h.exact _ m' hm') (h.uses _ m' hm').2
        have hsmall : m'.numUses < 0xFFFF := UInt16.lt_iff_toNat_lt.mpr (hexact ▸ hroom _)
        have hadd : (m'.numUses + 1).toNat = m'.numUses.toNat + 1 := by
          rw [UInt16.toNat_add]
          exact Nat.mod_eq_of_lt (Nat.succ_lt_succ (UInt16.lt_iff_toNat_lt.mp hsmall))
        rw [hn, if_pos hsmall, hadd, hexact]
        exact Nat.add_le_add_left hone _
    · rw [mapping_use_other hk] at hm
      have hother : d.uses k m.port = false := hd.uses_eq_false (.inr (ht ▸ hk))
      rw [hother, if_neg Bool.false_ne_true]
      exact h.exact k m hm
  · obtain rfl | hx := List.mem_cons.mp hx
    · rw [hl, ht, mapping_use_self]
      unfold SocketPool.boundPort
      cases p.mapping (udpMappingKey c.tuple) with
      | none => exact ⟨_, rfl, rfl⟩
      | some m =>
        refine ⟨_, rfl, ?_⟩
        split <;> rfl
    · obtain ⟨m, hm, hshared⟩ := h.port x hx hudp hopen
      by_cases hk : udpMappingKey x.tuple = udpMappingKey c.tuple
      · rw [hk] at hm ⊢
        rw [mapping_use_self, Option.mem_def.mp hm]
        refine ⟨_, rfl, ?_⟩
        split <;> exact hshared
      · rw [mapping_use_other hk]
        exact ⟨m, hm, hshared⟩

/-- A new UDP connection that is set up. -/
theorem Shared.openUdp (h : Shared p rest) (huses : Uses p (c :: rest))
    (hbooks : Books p (c :: rest)) (hnew : c.status = .new) (hudp : c.tuple.ipproto = .udp)
    {pkt : PoolPacket} (hsetup : pkt.setup = .done)
    (hsock : (p.openSocket pkt.socket).2.isSome = true) :
    Shared (p.openUdp c pkt).1 ((p.openUdp c pkt).2.1 :: rest) := by
  have hnone := huses.head.of_new hnew
  have hq := openSocket_udpMappings (p := p) pkt.socket
  have hroom (port : UInt16) : users (udpMappingKey c.tuple) port rest < 0xFFFF := by
    have hlimit := hbooks.accounts.limit
    have hsocks : users (udpMappingKey c.tuple) port rest ≤ (socks rest).length :=
      users_le_socks fun x hx => huses.clean x (List.mem_cons_of_mem _ hx)
    rw [socks_cons, List.length_append] at hlimit
    have hmax : maxNumSockets.toNat = 128 := rfl
    omega
  unfold SocketPool.openUdp
  generalize p.openSocket pkt.socket = opened at hq hsock
  obtain ⟨q, fd⟩ := opened
  obtain ⟨sock, rfl⟩ := Option.isSome_iff_exists.mp hsock
  unfold SocketPool.bindAndConnectUdp
  rw [hsetup]
  have hne : ConnStatus.connected ≠ .new := by decide
  exact (h.congr hq).used (huses.same hq rfl rfl (clean_of_none hnone)) hnone rfl rfl
    ⟨fun _ => hudp, fun _ => ⟨hne, rfl⟩, fun _ => rfl⟩ hroom

namespace ConnTable

variable {t : ConnTable} {hashv : Tuple → UInt32}

theorem uses_step (h : Uses t.pool t.conns) (e : Event) :
    Uses (step hashv t e).pool (step hashv t e).conns := by
  cases e with
  | tunPacket pkt =>
    have hlook := zdtunLookup_keeps hashv uses_table h pkt
    change Uses (t.runVpn hashv pkt).pool (t.runVpn hashv pkt).conns
    rw [runVpn_eq]
    cases (t.zdtunLookup hashv pkt).2 with
    | none => exact hlook
    | some i =>
      exact onConn_keeps uses_table.toPurgeable hlook fun c rest _ hc =>
        uses_table.handle hc pkt fun hnew => hc.openConn hnew pkt
  | ready i effects => exact ready_keeps uses_table.toHandled h i effects
  | purge now => exact zdtunPurgeExpired_keeps uses_table.toPurgeable h now

theorem uses_init : Uses init.pool init.conns :=
  ⟨fun _ _ hm => absurd hm (Option.not_mem_none _), List.forall_mem_nil _⟩

/-- In every run, a mapping counts at least one use and never more than there are open connections
that have its local port, so that none outlives its connections; `zdtun_finalize` leaves none. -/
theorem everyState_uses (hashv : Tuple → UInt32) (es : List Event) :
    Machine.EveryState (step hashv)
      (fun t => (∀ key, ∀ m ∈ t.pool.mapping key,
          0 < m.numUses.toNat ∧ m.numUses.toNat ≤ users key m.port t.conns) ∧
        (∀ c ∈ t.conns, c.localPort.isSome = true →
          c.tuple.ipproto = .udp ∧ c.status.isClosed = false ∧ c.sock.isSome = true) ∧
        t.zdtunFinalize.pool.udpMappings = []) init es := by
  have hkeeps (t : ConnTable) (e : Event) (ht : Uses t.pool t.conns) (_ : True) :
      Uses (step hashv t e).pool (step hashv t e).conns := uses_step ht e
  refine Machine.everyState_of_invariant hkeeps (fun t ht => ⟨ht.uses, fun c hc hport => ?_, ?_⟩)
    uses_init (Machine.everyStep_of_forall_mem init fun _ _ => trivial)
  · have hclean := ht.clean c hc
    exact ⟨hclean.udp hport, (hclean.live hport).2, hclean.sock hport⟩
  · have hend := zdtunFinalize_keeps uses_table.toPurgeable ht
    refine List.eq_nil_iff_forall_not_mem.mpr fun m hm => ?_
    cases hfind : t.zdtunFinalize.pool.mapping m.key with
    | none => exact List.find?_eq_none.mp hfind m hm (beq_self_eq_true _)
    | some n =>
      have hbound := hend.uses m.key n hfind
      exact absurd hbound.2 (Nat.not_le_of_lt hbound.1)

/-- Every new UDP connection is forwarded, and its socket set up. -/
def SetsUp (hashv : Tuple → UInt32) (t : ConnTable) : Event → Prop
  | .tunPacket pkt => ∀ c ∈ (t.zdtunLookup hashv pkt).1.conns, c.tuple = pkt.tuple →
      c.status = .new → c.tuple.ipproto = .udp → pkt.handling = .forward ∧ pkt.setup = .done ∧
        ((t.zdtunLookup hashv pkt).1.pool.openSocket pkt.socket).2.isSome = true
  | _ => True

instance (hashv : Tuple → UInt32) (t : ConnTable) : (e : Event) → Decidable (SetsUp hashv t e)
  | .tunPacket pkt => inferInstanceAs (Decidable (∀ c ∈ (t.zdtunLookup hashv pkt).1.conns,
      c.tuple = pkt.tuple → c.status = .new → c.tuple.ipproto = .udp → pkt.handling = .forward ∧
        pkt.setup = .done ∧
          ((t.zdtunLookup hashv pkt).1.pool.openSocket pkt.socket).2.isSome = true))
  | .ready .. => .isTrue trivial
  | .purge _ => .isTrue trivial

/-- A packet of a connection that `zdtun_lookup` created. -/
theorem shared_created {u : ConnTable} {pkt : PoolPacket} (h : Shared u.pool u.conns)
    (hlook : t.zdtunLookup hashv pkt = (u.add pkt, some u.conns.length))
    (huses : Uses (u.add pkt).pool (u.add pkt).conns)
    (hbooks : Books (u.add pkt).pool (u.add pkt).conns) (hset : SetsUp hashv t (.tunPacket pkt)) :
    Shared ((u.add pkt).onConn u.conns.length fun p c => p.handle c pkt).pool
      ((u.add pkt).onConn u.conns.length fun p c => p.handle c pkt).conns := by
  have hfront := (add_perm u pkt).symm
  have huses := huses.perm hfront
  have hbooks := hbooks.perm hfront
  have hrest : Shared (u.add pkt).pool u.conns := h.congr (count_udpMappings _ _)
  rw [onConn_add]
  refine Shared.perm ?_ (List.perm_append_singleton _ _).symm
  by_cases hudp : pkt.tuple.ipproto = .udp
  · have hmem : newConn pkt.tuple pkt.now ∈ (t.zdtunLookup hashv pkt).1.conns :=
      hlook ▸ hfront.mem_iff.mpr List.mem_cons_self
    obtain ⟨hforward, hsetup, hsock⟩ := hset _ hmem rfl rfl hudp
    rw [hlook] at hsock
    change Shared ((u.add pkt).pool.handle _ pkt).1 (((u.add pkt).pool.handle _ pkt).2 :: u.conns)
    unfold SocketPool.handle SocketPool.forward SocketPool.openConn
    rw [hforward]
    simp only [newConn, ConnStatus.isClosed, hudp]
    exact shared_handled.afterOpen (hrest.openUdp huses hbooks rfl hudp hsetup hsock) pkt
  · have hnew := hrest.cons huses rfl hudp
    exact shared_handled.handle hnew pkt fun hs => hnew.openConn hs pkt

theorem shared_step {e : Event} (h : Shared t.pool t.conns) (hbooks : Books t.pool t.conns)
    (hset : SetsUp hashv t e) : Shared (step hashv t e).pool (step hashv t e).conns := by
  cases e with
  | tunPacket pkt =>
    have hlook := zdtunLookup_keeps hashv uses_table h.toUses pkt
    have hlook_books := zdtunLookup_keeps hashv books_table hbooks pkt
    change Shared (t.runVpn hashv pkt).pool (t.runVpn hashv pkt).conns
    rw [runVpn_eq]
    obtain ⟨u, hu, hnone | hadded | ⟨i, hfound⟩⟩ :=
      zdtunLookup_cases hashv shared_handled.toPurgeable h pkt
    · rw [hnone]
      exact hu
    · rw [hadded] at hlook hlook_books ⊢
      exact shared_created hu hadded hlook hlook_books hset
    · rw [hfound]
      exact onConn_keeps shared_handled.toPurgeable hu fun c rest _ hc =>
        shared_handled.handle hc pkt fun hnew => hc.openConn hnew pkt
  | ready i effects => exact ready_keeps shared_handled h i effects
  | purge now => exact zdtunPurgeExpired_keeps shared_handled.toPurgeable h now

theorem shared_init : Shared init.pool init.conns :=
  ⟨uses_init, fun _ _ hm => absurd hm (Option.not_mem_none _), List.forall_mem_nil _⟩

/-- Where every new UDP connection is set up, the mappings count the connections that share their
ports, and two open connections from one port of the client have the same local port. -/
theorem everyState_ports (hashv : Tuple → UInt32) (es : List Event)
    (h : Machine.EveryStep (step hashv) (fun t e => FreshSocket hashv t e ∧ SetsUp hashv t e)
      init es) :
    Machine.EveryState (step hashv)
      (fun t => (∀ key, ∀ m ∈ t.pool.mapping key, m.numUses.toNat = users key m.port t.conns) ∧
        ∀ c ∈ t.conns, ∀ d ∈ t.conns, c.tuple.ipproto = .udp → d.tuple.ipproto = .udp →
          c.status.isClosed = false → d.status.isClosed = false →
          c.tuple.ipver = d.tuple.ipver → c.tuple.srcPort = d.tuple.srcPort →
          c.localPort.isSome = true ∧ c.localPort = d.localPort) init es := by
  have hkeeps (t : ConnTable) (e : Event)
      (ht : Books t.pool t.conns ∧ Shared t.pool t.conns)
      (he : FreshSocket hashv t e ∧ SetsUp hashv t e) :
      Books (step hashv t e).pool (step hashv t e).conns ∧
        Shared (step hashv t e).pool (step hashv t e).conns :=
    ⟨books_step ht.1 he.1, shared_step ht.2 ht.1 he.2⟩
  refine Machine.everyState_of_invariant hkeeps (fun t ht => ⟨fun key m hm => ?_, ?_⟩)
    ⟨books_init, shared_init⟩ h
  · exact Nat.le_antisymm (ht.2.uses key m hm).2 (ht.2.exact key m hm)
  · intro c hc d hd hc_udp hd_udp hc_open hd_open hver hport
    obtain ⟨m, hm, hc_port⟩ := ht.2.port c hc hc_udp hc_open
    obtain ⟨n, hn, hd_port⟩ := ht.2.port d hd hd_udp hd_open
    have hkey : udpMappingKey c.tuple = udpMappingKey d.tuple := by
      unfold udpMappingKey
      rw [hver, hport]
    rw [hkey] at hm
    obtain rfl := Option.mem_unique hm hn
    rw [hc_port, hd_port]
    exact ⟨rfl, rfl⟩

/-! Of the two UDP connections from one port, one is closed, and another one opened. -/

theorem everyState_ports_stun : Machine.EveryState (step peerHash)
    (fun t => (∀ key, ∀ m ∈ t.pool.mapping key, m.numUses.toNat = users key m.port t.conns) ∧
      ∀ c ∈ t.conns, ∀ d ∈ t.conns, c.tuple.ipproto = .udp → d.tuple.ipproto = .udp →
        c.status.isClosed = false → d.status.isClosed = false →
        c.tuple.ipver = d.tuple.ipver → c.tuple.srcPort = d.tuple.srcPort →
        c.localPort.isSome = true ∧ c.localPort = d.localPort) init stunEvents :=
  everyState_ports peerHash stunEvents (by decide +kernel)

end ConnTable

end SecureGuard.Native
