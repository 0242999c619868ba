import SecureGuard.Native.SocketPool

/-! # The books of zdtun

What the pool says of the sockets agrees with the connections in the table: the sets `select` gets
hold only open sockets, the counters count, and no socket outlives its connection. The order of the
table does not matter for this, so each function is looked at with its connection in front. -/

namespace SecureGuard.Native

open SocketPool

/-- The open sockets. -/
def socks (conns : List PoolConn) : List Nat := conns.filterMap PoolConn.sock

/-- How many connections of a protocol there are. -/
def numConns (proto : IpProto) (conns : List PoolConn) : Nat :=
  conns.countP (·.tuple.ipproto == proto)

/-- The books: of the sockets, and of the counters. -/
structure Accounts (p : SocketPool) (conns : List PoolConn) : Prop where
  fds : (socks conns).Nodup
  small : ∀ fd ∈ socks conns, fd < fdSetSize ∧ fd ≤ p.allMaxFd
  reads : ∀ fd ∈ p.allFds, fd ∈ socks conns
  writes : ∀ fd ∈ p.writeFds, fd ∈ socks conns
  openSockets : p.numOpenSockets.toNat = (socks conns).length
  limit : (socks conns).length ≤ maxNumSockets.toNat
  icmp : p.numIcmpConn = UInt16.ofNat (numConns .icmp conns)
  tcp : p.numTcpConn = UInt16.ofNat (numConns .tcp conns)
  udp : p.numUdpConn = UInt16.ofNat (numConns .udp conns)

/-- A connection that is new or closed has no socket. -/
def Tidy (c : PoolConn) : Prop := c.status = .new ∨ c.status.isClosed = true → c.sock = none

variable {p : SocketPool} {c d : PoolConn} {rest xs ys : List PoolConn}

/-! ## The order does not matter -/

theorem Accounts.perm (h : Accounts p xs) (hp : xs.Perm ys) : Accounts p ys := by
  have hsocks : (socks xs).Perm (socks ys) := hp.filterMap _
  have hcount (proto : IpProto) : numConns proto xs = numConns proto ys := hp.countP_eq _
  refine ⟨hsocks.nodup_iff.mp h.fds, fun fd hfd => ?_, fun fd hfd => ?_, fun fd hfd => ?_, ?_, ?_,
    hcount _ ▸ h.icmp, hcount _ ▸ h.tcp, hcount _ ▸ h.udp⟩
  · exact h.small fd (hsocks.mem_iff.mpr hfd)
  · exact hsocks.mem_iff.mp (h.reads fd hfd)
  · exact hsocks.mem_iff.mp (h.writes fd hfd)
  · rw [h.openSockets, hsocks.length_eq]
  · rw [← hsocks.length_eq]
    exact h.limit

theorem socks_cons : socks (c :: rest) = c.sock.toList ++ socks rest := by
  unfold socks
  cases h : c.sock with
  | none => rw [List.filterMap_cons_none h]; rfl
  | some fd => rw [List.filterMap_cons_some h]; rfl

theorem numConns_cons (proto : IpProto) :
    numConns proto (c :: rest) =
      numConns proto rest + if c.tuple.ipproto = proto then 1 else 0 := by
  unfold numConns
  rw [List.countP_cons]
  simp

theorem socks_of_none (h : c.sock = none) : socks (c :: rest) = socks rest := by
  rw [socks_cons, h]
  rfl

theorem socks_of_some {fd : Nat} (h : c.sock = some fd) : socks (c :: rest) = fd :: socks rest := by
  rw [socks_cons, h]
  rfl

theorem numConns_congr (h : d.tuple.ipproto = c.tuple.ipproto) (rest : List PoolConn)
    (proto : IpProto) :
    numConns proto (d :: rest) = numConns proto (c :: rest) := by
  rw [numConns_cons, numConns_cons, h]

/-! ## Sockets -/

/-- The bound in `close_socket` is none: the difference of unsigned numbers is never negative. -/
theorem max_zero (x : UInt32) : max x 0 = x := by
  rw [UInt32.max_def]
  split
  · rename_i h
    exact (UInt32.le_antisymm h (UInt32.le_iff_toNat_le.mpr (Nat.zero_le _))).symm
  · rfl

/-- A connection in front that keeps its socket. -/
theorem Accounts.same (h : Accounts p (c :: rest)) (ht : d.tuple.ipproto = c.tuple.ipproto)
    (hs : d.sock = c.sock) : Accounts p (d :: rest) := by
  have hsocks : socks (d :: rest) = socks (c :: rest) := by rw [socks_cons, socks_cons, hs]
  have hcount := numConns_congr ht rest
  exact ⟨hsocks ▸ h.fds, hsocks ▸ h.small, hsocks ▸ h.reads, hsocks ▸ h.writes,
    hsocks ▸ h.openSockets, hsocks ▸ h.limit, hcount _ ▸ h.icmp, hcount _ ▸ h.tcp,
    hcount _ ▸ h.udp⟩

theorem Accounts.closeSocket (h : Accounts p (c :: rest))
    (ht : d.tuple.ipproto = c.tuple.ipproto) (hs : d.sock = none) :
    Accounts (p.closeSocket c.sock) (d :: rest) := by
  have hnone : socks (d :: rest) = socks rest := socks_of_none hs
  have hcount := numConns_congr ht rest
  cases hsock : c.sock with
  | none => exact h.same ht (hs.trans hsock.symm)
  | some fd =>
    have hsocks : socks (c :: rest) = fd :: socks rest := socks_of_some hsock
    obtain ⟨hfds, hsmall, hreads, hwrites, hopen, hlimit, hicmp, htcp, hudp⟩ := h
    rw [hsocks] at hfds hsmall hreads hwrites hopen hlimit
    rw [List.length_cons] at hopen hlimit
    have hleft {fds : List Nat} (hall : ∀ x ∈ fds, x ∈ fd :: socks rest) :
        ∀ x ∈ fds.filter (· != fd), x ∈ socks rest := by
      intro x hx
      obtain ⟨hmem, hne⟩ := List.mem_filter.mp hx
      exact (List.mem_cons.mp (hall x hmem)).resolve_left (bne_iff_ne.mp hne)
    refine ⟨hnone ▸ (List.nodup_cons.mp hfds).2, ?_, ?_, ?_, ?_, ?_, hcount _ ▸ hicmp,
      hcount _ ▸ htcp, hcount _ ▸ hudp⟩
    · rw [hnone]
      exact fun x hx => hsmall x (List.mem_cons_of_mem _ hx)
    · rw [hnone]
      exact hleft hreads
    · rw [hnone]
      exact hleft hwrites
    · have hone : (1 : UInt32) ≤ p.numOpenSockets := by
        rw [UInt32.le_iff_toNat_le, hopen]
        exact Nat.le_add_left _ _
      change (max (p.numOpenSockets - 1) 0).toNat = _
      rw [max_zero, UInt32.toNat_sub_of_le _ _ hone, hopen, hnone]
      rfl
    · rw [hnone]
      omega

/-- A connection in front that has got a socket nobody has. -/
theorem Accounts.opened (h : Accounts p (c :: rest)) (hnone : c.sock = none)
    (ht : d.tuple.ipproto = c.tuple.ipproto) {sock : Nat} (hs : d.sock = some sock)
    (hnew : sock ∉ socks (c :: rest)) (hsmall : sock < fdSetSize)
    (hroom : p.numOpenSockets < maxNumSockets) :
    Accounts { p with
      allFds := p.allFds.insert sock
      numOpenSockets := p.numOpenSockets + 1
      allMaxFd := max p.allMaxFd sock } (d :: rest) := by
  have hsocks : socks (d :: rest) = sock :: socks rest := socks_of_some hs
  have hcount := numConns_congr ht rest
  obtain ⟨hfds, hbound, hreads, hwrites, hopen, -, hicmp, htcp, hudp⟩ := h
  rw [socks_of_none hnone] at hnew hfds hbound hreads hwrites hopen
  have hroom : p.numOpenSockets.toNat < maxNumSockets.toNat := UInt32.lt_iff_toNat_lt.mp hroom
  refine ⟨hsocks ▸ List.nodup_cons.mpr ⟨hnew, hfds⟩, ?_, ?_, ?_, ?_, ?_, hcount _ ▸ hicmp,
    hcount _ ▸ htcp, hcount _ ▸ hudp⟩
  · intro x hx
    rw [hsocks] at hx
    obtain rfl | hx := List.mem_cons.mp hx
    · exact ⟨hsmall, Nat.le_max_right _ _⟩
    · exact ⟨(hbound x hx).1, Nat.le_trans (hbound x hx).2 (Nat.le_max_left _ _)⟩
  · intro x hx
    rw [hsocks]
    obtain rfl | hx := List.mem_insert_iff.mp hx
    · exact List.mem_cons_self
    · exact List.mem_cons_of_mem _ (hreads x hx)
  · intro x hx
    rw [hsocks]
    exact List.mem_cons_of_mem _ (hwrites x hx)
  · -- the count does not wrap, since it is bounded
    have hmore : p.numOpenSockets.toNat + 1 < 4294967296 := by
      have hmax : maxNumSockets.toNat = 128 := rfl
      omega
    change (p.numOpenSockets + 1).toNat = _
    rw [hsocks, UInt32.toNat_add, List.length_cons, ← hopen]
    exact Nat.mod_eq_of_lt hmore
  · rw [hsocks, List.length_cons, ← hopen]
    exact hroom

/-- A new socket, where the system gives a descriptor that is not in use. -/
theorem Accounts.openSocket (h : Accounts p (c :: rest)) (hnone : c.sock = none) {fd : Option Nat}
    (hfresh : ∀ sock, fd = some sock → sock ∉ socks (c :: rest)) :
    (p.openSocket fd = (p, none)) ∨ ∃ sock, (p.openSocket fd).2 = some sock ∧
      ∀ d : PoolConn, d.tuple.ipproto = c.tuple.ipproto → d.sock = some sock →
        Accounts (p.openSocket fd).1 (d :: rest) := by
  unfold SocketPool.openSocket
  by_cases hfull : maxNumSockets ≤ p.numOpenSockets
  · rw [if_pos hfull]
    exact .inl rfl
  · rw [if_neg hfull]
    cases fd with
    | none => exact .inl rfl
    | some sock =>
      by_cases hbig : fdSetSize ≤ sock
      · simp only [hbig, if_true]
        exact .inl trivial
      · simp only [hbig, if_false]
        refine .inr ⟨sock, rfl, fun d ht hs => ?_⟩
        exact h.opened hnone ht hs (hfresh sock rfl) (Nat.lt_of_not_le hbig)
          (UInt32.not_le.mp hfull)

/-- The sets change only by the socket of the connection. -/
theorem mem_setFd {fds : List Nat} {sock : Option Nat} {on : Bool} {fd : Nat}
    (h : fd ∈ setFd fds sock on) : fd ∈ fds ∨ sock = some fd := by
  unfold setFd at h
  cases sock with
  | none => exact .inl h
  | some sock =>
    cases on with
    | true =>
      obtain rfl | h := List.mem_insert_iff.mp h
      · exact .inr rfl
      · exact .inl h
    | false => exact .inl (List.mem_filter.mp h).1

theorem mem_socks {fd : Nat} (h : c.sock = some fd) : fd ∈ socks (c :: rest) := by
  rw [socks_of_some h]
  exact List.mem_cons_self

/-! ## Connections -/

/-- The local ports of UDP clients are other books. -/
theorem Accounts.mappings (h : Accounts p xs) (ms : List UdpMapping) :
    Accounts { p with udpMappings := ms } xs :=
  ⟨h.fds, h.small, h.reads, h.writes, h.openSockets, h.limit, h.icmp, h.tcp, h.udp⟩

theorem Accounts.release (h : Accounts p xs) (key : UInt32) : Accounts (p.release key) xs := by
  unfold SocketPool.release
  split
  · exact h
  · exact h.mappings _

theorem Accounts.use (h : Accounts p xs) (key : UInt32) (port : UInt16) :
    Accounts (p.use key port) xs := by
  unfold SocketPool.use
  split
  · exact h.mappings _
  · exact h.mappings _

theorem Accounts.zdtunConnClose (h : Accounts p (c :: rest)) (status : ConnStatus) :
    Accounts (p.zdtunConnClose c status).1 ((p.zdtunConnClose c status).2 :: rest) := by
  unfold SocketPool.zdtunConnClose
  split
  · exact h
  · dsimp only
    split
    · exact (h.release _).closeSocket rfl rfl
    · exact h.closeSocket rfl rfl

theorem zdtunConnClose_tuple (status : ConnStatus) :
    (p.zdtunConnClose c status).2.tuple = c.tuple := by
  unfold SocketPool.zdtunConnClose
  split <;> rfl

/-- A connection that has no socket when it is closed has none after a close. -/
theorem zdtunConnClose_sock (h : c.status.isClosed = true → c.sock = none) (status : ConnStatus) :
    (p.zdtunConnClose c status).2.sock = none := by
  unfold SocketPool.zdtunConnClose
  split
  · rename_i hc
    exact h hc
  · rfl

theorem Accounts.count (h : Accounts p xs) (proto : IpProto) (f : UInt16 → UInt16)
    (hsocks : socks ys = socks xs) (hsame : ∀ q, q ≠ proto → numConns q ys = numConns q xs)
    (hcount : ∀ n, n = UInt16.ofNat (numConns proto xs) →
      f n = UInt16.ofNat (numConns proto ys)) : Accounts (p.count proto f) ys := by
  have hmoved {q : IpProto} {n : UInt16} (hq : q ≠ proto) (hn : n = UInt16.ofNat (numConns q xs)) :
      n = UInt16.ofNat (numConns q ys) := by rw [hn, hsame q hq]
  cases proto with
  | icmp => exact ⟨hsocks ▸ h.fds, hsocks ▸ h.small, hsocks ▸ h.reads, hsocks ▸ h.writes,
      hsocks ▸ h.openSockets, hsocks ▸ h.limit, hcount _ h.icmp, hmoved (by decide) h.tcp,
      hmoved (by decide) h.udp⟩
  | tcp => exact ⟨hsocks ▸ h.fds, hsocks ▸ h.small, hsocks ▸ h.reads, hsocks ▸ h.writes,
      hsocks ▸ h.openSockets, hsocks ▸ h.limit, hmoved (by decide) h.icmp, hcount _ h.tcp,
      hmoved (by decide) h.udp⟩
  | udp => exact ⟨hsocks ▸ h.fds, hsocks ▸ h.small, hsocks ▸ h.reads, hsocks ▸ h.writes,
      hsocks ▸ h.openSockets, hsocks ▸ h.limit, hmoved (by decide) h.icmp,
      hmoved (by decide) h.tcp, hcount _ h.udp⟩

theorem Accounts.destroyConn (h : Accounts p (c :: rest))
    (htidy : c.status.isClosed = true → c.sock = none) : Accounts (p.destroyConn c) rest := by
  have hclosed := h.zdtunConnClose .closed
  have htuple := zdtunConnClose_tuple (p := p) (c := c) .closed
  have hsock := zdtunConnClose_sock (p := p) htidy .closed
  unfold SocketPool.destroyConn
  generalize p.zdtunConnClose c .closed = closed at hclosed htuple hsock
  obtain ⟨q, d⟩ := closed
  refine hclosed.count _ _ (socks_of_none hsock).symm (fun r hr => ?_) fun n hn => ?_
  · rw [numConns_cons, htuple, if_neg (Ne.symm hr), Nat.add_zero]
  · rw [hn, numConns_cons, htuple, if_pos rfl, UInt16.ofNat_add]
    exact UInt16.add_sub_cancel _ _

/-- `zdtun_lookup` adds a connection. -/
theorem Accounts.create (h : Accounts p xs) (hnone : c.sock = none) :
    Accounts (p.count c.tuple.ipproto (· + 1)) (c :: xs) := by
  refine h.count _ _ (socks_of_none hnone) (fun r hr => ?_) fun n hn => ?_
  · rw [numConns_cons, if_neg (Ne.symm hr), Nat.add_zero]
  · rw [hn, numConns_cons, if_pos rfl, UInt16.ofNat_add]
    rfl

/-! ## Handlers -/

/-- The books, and that no connection without need has a socket. -/
structure Books (p : SocketPool) (conns : List PoolConn) : Prop where
  accounts : Accounts p conns
  tidy : ∀ c ∈ conns, Tidy c

theorem Books.perm (h : Books p xs) (hp : xs.Perm ys) : Books p ys :=
  ⟨h.accounts.perm hp, fun c hc => h.tidy c (hp.mem_iff.mpr hc)⟩

theorem Books.head (h : Books p (c :: rest)) : Tidy c := h.tidy c List.mem_cons_self

theorem Books.cons {q : SocketPool} (h : Books p (c :: rest)) (ha : Accounts q (d :: rest))
    (hd : Tidy d) : Books q (d :: rest) := by
  refine ⟨ha, fun x hx => ?_⟩
  obtain rfl | hx := List.mem_cons.mp hx
  · exact hd
  · exact h.tidy x (List.mem_cons_of_mem _ hx)

theorem tidy_of_none (h : c.sock = none) : Tidy c := fun _ => h

theorem tidy_of_live (h : c.status = .connecting ∨ c.status = .connected) : Tidy c := by
  intro hs
  obtain h | h := h <;> rw [h] at hs <;> exact hs.elim (nomatch ·) (nomatch ·)

theorem Books.zdtunConnClose (h : Books p (c :: rest)) (status : ConnStatus) :
    Books (p.zdtunConnClose c status).1 ((p.zdtunConnClose c status).2 :: rest) :=
  h.cons (h.accounts.zdtunConnClose status)
    (tidy_of_none (zdtunConnClose_sock (fun hc => h.head (.inr hc)) status))

theorem Books.destroyConn (h : Books p (c :: rest)) : Books (p.destroyConn c) rest :=
  ⟨h.accounts.destroyConn fun hc => h.head (.inr hc),
    fun x hx => h.tidy x (List.mem_cons_of_mem _ hx)⟩

theorem Books.create (h : Books p xs) (hnone : c.sock = none) :
    Books (p.count c.tuple.ipproto (· + 1)) (c :: xs) := by
  refine ⟨h.accounts.create hnone, fun x hx => ?_⟩
  obtain rfl | hx := List.mem_cons.mp hx
  · exact tidy_of_none hnone
  · exact h.tidy x hx

theorem Books.apply (h : Books p (c :: rest)) (e : Effect) :
    Books (p.apply c e).1 ((p.apply c e).2 :: rest) := by
  have ha := h.accounts
  have hset {fds : List Nat} {on : Bool} (hfds : ∀ fd ∈ fds, fd ∈ socks (c :: rest)) :
      ∀ fd ∈ setFd fds c.sock on, fd ∈ socks (c :: rest) := by
    intro fd hfd
    obtain hold | hsock := mem_setFd hfd
    · exact hfds fd hold
    · exact mem_socks hsock
  cases e with
  | selects on =>
    exact ⟨⟨ha.fds, ha.small, hset ha.reads, ha.writes, ha.openSockets, ha.limit, ha.icmp, ha.tcp,
      ha.udp⟩, h.tidy⟩
  | awaits on =>
    exact ⟨⟨ha.fds, ha.small, ha.reads, hset ha.writes, ha.openSockets, ha.limit, ha.icmp, ha.tcp,
      ha.udp⟩, h.tidy⟩
  | connects =>
    by_cases hc : c.status.isClosed = true
    · simp only [SocketPool.apply, hc, if_true]
      exact h
    · simp only [SocketPool.apply, hc, Bool.false_eq_true, if_false]
      exact h.cons (ha.same rfl rfl) (tidy_of_live (.inr rfl))
  | touches now => exact h.cons (ha.same rfl rfl) h.head
  | serverCloses =>
    by_cases ht : c.tuple.ipproto = .tcp
    · simp only [SocketPool.apply, ht, if_true]
      exact h.cons (ha.closeSocket rfl rfl) (tidy_of_none rfl)
    · simp only [SocketPool.apply, ht, if_false]
      exact h
  | closes status => exact h.zdtunConnClose status

/-- The socket opened for a new connection, if any. -/
theorem Books.openSocket (h : Books p (c :: rest)) (hnew : c.status = .new) {fd : Option Nat}
    (hfresh : ∀ sock, fd = some sock → sock ∉ socks (c :: rest)) :
    (p.openSocket fd = (p, none)) ∨ ∃ sock, (p.openSocket fd).2 = some sock ∧
      ∀ d : PoolConn, d.tuple.ipproto = c.tuple.ipproto → d.sock = some sock →
        Accounts (p.openSocket fd).1 (d :: rest) :=
  h.accounts.openSocket (h.head (.inl hnew)) hfresh

theorem Books.openUdp (h : Books p (c :: rest)) (hnew : c.status = .new) (pkt : PoolPacket)
    (hfresh : ∀ sock, pkt.socket = some sock → sock ∉ socks (c :: rest)) :
    Books (p.openUdp c pkt).1 ((p.openUdp c pkt).2.1 :: rest) := by
  unfold SocketPool.openUdp
  obtain hnone | ⟨sock, hsock, hopened⟩ := h.openSocket hnew hfresh
  · rw [hnone]
    exact h
  · generalize p.openSocket pkt.socket = opened at hsock hopened
    obtain ⟨q, fd⟩ := opened
    obtain rfl : fd = some sock := hsock
    have hopen : ({ c with sock := some sock } : PoolConn).status.isClosed = false := by
      change c.status.isClosed = false
      rw [hnew]
      rfl
    have ha : Accounts q ({ c with sock := some sock } :: rest) := hopened _ rfl rfl
    have hfails (status : ConnStatus) :
        Books (q.zdtunConnClose { c with sock := some sock } status).1
          ((q.zdtunConnClose { c with sock := some sock } status).2 :: rest) :=
      h.cons (ha.zdtunConnClose status) (tidy_of_none (zdtunConnClose_sock
        (fun hc => absurd (hopen.symm.trans hc) (by decide)) status))
    unfold SocketPool.bindAndConnectUdp
    cases pkt.setup with
    | noBindAddr => exact hfails _
    | error errno => exact hfails _
    | done =>
      exact h.cons ((ha.use _ _).same rfl rfl) (tidy_of_live (.inr rfl))

theorem Books.openTcp (h : Books p (c :: rest)) (hnew : c.status = .new) (pkt : PoolPacket)
    (hfresh : ∀ sock, pkt.socket = some sock → sock ∉ socks (c :: rest)) :
    Books (p.openTcp c pkt).1 ((p.openTcp c pkt).2.1 :: rest) := by
  unfold SocketPool.openTcp
  obtain hnone | ⟨sock, hsock, hopened⟩ := h.openSocket hnew hfresh
  · rw [hnone]
    exact h.cons (h.accounts.same rfl rfl) (tidy_of_none (h.head (.inl hnew)))
  · generalize p.openSocket pkt.socket = opened at hsock hopened
    obtain ⟨q, fd⟩ := opened
    obtain rfl : fd = some sock := hsock
    have ha : Accounts q ({ c with sock := some sock } :: rest) := hopened _ rfl rfl
    have hset (on : Bool) (status : ConnStatus) :
        Accounts { q with writeFds := setFd q.writeFds (some sock) on }
          ({ c with sock := some sock, status } :: rest) := by
      have hb := ha.same (d := { c with sock := some sock, status }) rfl rfl
      have hwrites : ∀ fd ∈ setFd q.writeFds (some sock) on,
          fd ∈ socks ({ c with sock := some sock, status } :: rest) := by
        intro fd hfd
        obtain hold | hsame := mem_setFd hfd
        · exact hb.writes fd hold
        · exact mem_socks hsame
      exact ⟨hb.fds, hb.small, hb.reads, hwrites, hb.openSockets, hb.limit, hb.icmp, hb.tcp,
        hb.udp⟩
    cases pkt.connect with
    | done =>
      exact h.cons (hset false .connected) (tidy_of_live (.inr rfl))
    | inProgress =>
      exact h.cons (hset true .connecting) (tidy_of_live (.inl rfl))
    | error errno =>
      refine h.cons (ha.zdtunConnClose errno.status) (tidy_of_none (zdtunConnClose_sock ?_ _))
      intro hc
      have hopen : c.status.isClosed = true := hc
      rw [hnew] at hopen
      cases hopen

theorem Books.openIcmp (h : Books p (c :: rest)) (hnew : c.status = .new) (pkt : PoolPacket)
    (hfresh : ∀ sock, pkt.socket = some sock → sock ∉ socks (c :: rest)) :
    Books (p.openIcmp c pkt).1 ((p.openIcmp c pkt).2.1 :: rest) := by
  unfold SocketPool.openIcmp
  obtain hnone | ⟨sock, hsock, hopened⟩ := h.openSocket hnew hfresh
  · rw [hnone]
    exact h.cons (h.accounts.same rfl rfl) (tidy_of_none (h.head (.inl hnew)))
  · generalize p.openSocket pkt.socket = opened at hsock hopened
    obtain ⟨q, fd⟩ := opened
    obtain rfl : fd = some sock := hsock
    exact h.cons (hopened _ rfl rfl) (tidy_of_live (.inr rfl))

theorem Books.openConn (h : Books p (c :: rest)) (hnew : c.status = .new) (pkt : PoolPacket)
    (hfresh : ∀ sock, pkt.socket = some sock → sock ∉ socks (c :: rest)) :
    Books (p.openConn c pkt).1 ((p.openConn c pkt).2.1 :: rest) := by
  unfold SocketPool.openConn
  cases c.tuple.ipproto with
  | icmp => exact h.openIcmp hnew pkt hfresh
  | tcp => exact h.openTcp hnew pkt hfresh
  | udp => exact h.openUdp hnew pkt hfresh

/-! ## The table -/

/-- What a relation between the pool and its connections has to do to hold after a purge: the order
does not matter, and a connection can be destroyed. -/
structure Purgeable (R : SocketPool → List PoolConn → Prop) : Prop where
  perm : ∀ {p xs ys}, R p xs → xs.Perm ys → R p ys
  destroyConn : ∀ {p c rest}, R p (c :: rest) → R (p.destroyConn c) rest

/-- The same for what the handlers do. -/
structure Handled (R : SocketPool → List PoolConn → Prop) : Prop extends Purgeable R where
  apply : ∀ {p c rest} (e : Effect), R p (c :: rest) → R (p.apply c e).1 ((p.apply c e).2 :: rest)

/-- The same for what happens in `zdtun_lookup`. -/
structure Table (R : SocketPool → List PoolConn → Prop) : Prop extends Handled R where
  create : ∀ {p xs tuple now}, R p xs →
    R (p.count tuple.ipproto (· + 1)) (newConn tuple now :: xs)

theorem books_table : Table Books :=
  ⟨⟨⟨Books.perm, Books.destroyConn⟩, fun e h => h.apply e⟩,
    fun {_ _ tuple now} h => Books.create (c := newConn tuple now) h rfl⟩

variable {R : SocketPool → List PoolConn → Prop}

theorem Handled.applyAll (h : Handled R) (es : List Effect) (hr : R p (c :: rest)) :
    R (p.applyAll c es).1 ((p.applyAll c es).2 :: rest) := by
  induction es generalizing p c with
  | nil => exact hr
  | cons e es ih => exact ih (h.apply e hr)

theorem Handled.afterOpen (h : Handled R) {opened : SocketPool × PoolConn × Bool}
    (hr : R opened.1 (opened.2.1 :: rest)) (pkt : PoolPacket) :
    R (afterOpen opened pkt).1 ((afterOpen opened pkt).2 :: rest) := by
  obtain ⟨q, d, ok⟩ := opened
  unfold SocketPool.afterOpen
  cases ok with
  | false => exact h.apply (.closes .error) hr
  | true =>
    have hall := h.applyAll pkt.effects hr
    simp only [Bool.not_true, Bool.false_eq_true, if_false]
    cases pkt.ok with
    | true => exact h.apply (.touches pkt.now) hall
    | false => exact h.apply (.closes .error) hall

/-- A packet of a connection keeps what opening its socket keeps. -/
theorem Handled.handle (h : Handled R) (hr : R p (c :: rest)) (pkt : PoolPacket)
    (hopen : c.status = .new → R (p.openConn c pkt).1 ((p.openConn c pkt).2.1 :: rest)) :
    R (p.handle c pkt).1 ((p.handle c pkt).2 :: rest) := by
  unfold SocketPool.handle
  cases pkt.handling with
  | leave => exact hr
  | spoof => exact h.apply (.closes .closed) hr
  | forward =>
    unfold SocketPool.forward
    by_cases hc : c.status.isClosed = true
    · rw [if_pos hc]
      exact hr
    · rw [if_neg hc]
      by_cases hnew : c.status = .new
      · rw [if_pos hnew]
        exact h.afterOpen (hopen hnew) pkt
      · rw [if_neg hnew]
        have hopened : R (p, c, true).1 ((p, c, true).2.1 :: rest) := hr
        exact h.afterOpen hopened pkt

theorem Purgeable.purgeIdle (h : Purgeable R) (now : Nat) (hr : R p (xs ++ rest)) :
    R (purgeIdle now p xs).1 ((purgeIdle now p xs).2 ++ rest) := by
  induction xs generalizing p rest with
  | nil => exact hr
  | cons c xs ih =>
    unfold SocketPool.purgeIdle
    by_cases he : expired now c = true
    · rw [if_pos he]
      exact ih (h.destroyConn hr)
    · rw [if_neg he]
      have hmoved : R p (xs ++ c :: rest) := h.perm hr List.perm_middle.symm
      exact h.perm (ih hmoved) List.perm_middle

theorem Purgeable.foldl (h : Purgeable R) (hr : R p (xs ++ rest)) :
    R (xs.foldl SocketPool.destroyConn p) rest := by
  induction xs generalizing p with
  | nil => exact hr
  | cons c xs ih => exact ih (h.destroyConn hr)

namespace ConnTable

variable {t : ConnTable} {hashv : Tuple → UInt32}

theorem sorted_perm (conns : List PoolConn) (n : Nat) :
    conns.Perm ((conns.mergeSort fun a b => a.tstamp ≤ b.tstamp).take n ++
      (conns.mergeSort fun a b => a.tstamp ≤ b.tstamp).drop n) := by
  rw [List.take_append_drop]
  exact (List.mergeSort_perm _ _).symm

theorem forcePurge_keeps (h : Purgeable R) (hr : R t.pool t.conns) :
    R t.forcePurge.pool t.forcePurge.conns :=
  h.foldl (h.perm hr (sorted_perm t.conns _))

theorem zdtunPurgeExpired_keeps (h : Purgeable R) (hr : R t.pool t.conns) (now : Nat) :
    R (t.zdtunPurgeExpired now).pool (t.zdtunPurgeExpired now).conns := by
  have hall : R t.pool (t.conns ++ []) := by
    rw [List.append_nil]
    exact hr
  have hidle := h.purgeIdle now hall
  rw [List.append_nil] at hidle
  unfold zdtunPurgeExpired
  generalize purgeIdle now t.pool t.conns = idle at hidle
  obtain ⟨pool, conns⟩ := idle
  dsimp only
  split
  · exact forcePurge_keeps (t := ⟨pool, conns⟩) h hidle
  · exact hidle

theorem onConn_keeps (h : Purgeable R) {i : Nat}
    {work : SocketPool → PoolConn → SocketPool × PoolConn} (hr : R t.pool t.conns)
    (hwork : ∀ c rest, t.conns.Perm (c :: rest) → R t.pool (c :: rest) →
      R (work t.pool c).1 ((work t.pool c).2 :: rest)) :
    R (t.onConn i work).pool (t.onConn i work).conns := by
  unfold onConn
  cases hc : t.conns[i]? with
  | none => exact hr
  | some c =>
    obtain ⟨hi, hget⟩ := List.getElem?_eq_some_iff.mp hc
    have hfront : t.conns.Perm (c :: t.conns.eraseIdx i) :=
      hget ▸ (List.getElem_cons_eraseIdx_perm hi).symm
    exact h.perm (hwork c _ hfront (h.perm hr hfront)) (List.set_perm_cons_eraseIdx hi _).symm

/-- `zdtun_handle_fd` on one connection keeps what the handlers keep. -/
theorem ready_keeps (h : Handled R) (hr : R t.pool t.conns) (i : Nat) (effects : List Effect) :
    R (step hashv t (.ready i effects)).pool (step hashv t (.ready i effects)).conns := by
  refine onConn_keeps h.toPurgeable hr fun c rest _ hc => ?_
  unfold handleFd
  split
  · exact hc
  · exact h.applyAll effects hc

theorem destroy_keeps (h : Purgeable R) (hr : R t.pool t.conns) (i : Nat) :
    R (t.destroy i).pool (t.destroy i).conns := by
  unfold destroy
  cases hc : t.conns[i]? with
  | none => exact hr
  | some c =>
    obtain ⟨hi, hget⟩ := List.getElem?_eq_some_iff.mp hc
    exact h.destroyConn (h.perm hr (hget ▸ (List.getElem_cons_eraseIdx_perm hi).symm))

/-- A connection that is created is in front of a table without it. -/
theorem create_cases (h : Purgeable R) (hr : R t.pool t.conns) (pkt : PoolPacket) :
    ∃ u : ConnTable, R u.pool u.conns ∧
      (t.create pkt = (u, none) ∨ t.create pkt = (u.add pkt, some u.conns.length)) := by
  unfold create
  cases pkt.create with
  | false => exact ⟨t, hr, .inl rfl⟩
  | true =>
    simp only [Bool.not_true, Bool.false_eq_true, if_false]
    refine ⟨if maxNumSockets ≤ t.pool.numOpenSockets then t.zdtunPurgeExpired pkt.now else t,
      ?_, ?_⟩
    · split
      · exact zdtunPurgeExpired_keeps h hr pkt.now
      · exact hr
    · cases pkt.accepted with
      | false => exact .inl rfl
      | true => exact .inr rfl

theorem add_perm (t : ConnTable) (pkt : PoolPacket) :
    (newConn pkt.tuple pkt.now :: t.conns).Perm (t.add pkt).conns :=
  (List.perm_append_singleton _ _).symm

/-- What `zdtun_lookup` finds or creates, and in which table. -/
theorem zdtunLookup_cases (hashv : Tuple → UInt32) (h : Purgeable R) (hr : R t.pool t.conns)
    (pkt : PoolPacket) :
    ∃ u : ConnTable, R u.pool u.conns ∧ (t.zdtunLookup hashv pkt = (u, none) ∨
      t.zdtunLookup hashv pkt = (u.add pkt, some u.conns.length) ∨
        ∃ i, t.zdtunLookup hashv pkt = (u, some i)) := by
  unfold zdtunLookup
  cases hfind : t.find hashv pkt.tuple with
  | none =>
    obtain ⟨u, hu, hcreate | hcreate⟩ := create_cases h hr pkt
    · exact ⟨u, hu, .inl hcreate⟩
    · exact ⟨u, hu, .inr (.inl hcreate)⟩
  | some i =>
    dsimp only
    split
    · obtain ⟨u, hu, hcreate | hcreate⟩ := create_cases h (destroy_keeps h hr i) pkt
      · exact ⟨u, hu, .inl hcreate⟩
      · exact ⟨u, hu, .inr (.inl hcreate)⟩
    · exact ⟨t, hr, .inr (.inr ⟨i, rfl⟩)⟩

theorem zdtunLookup_keeps (hashv : Tuple → UInt32) (h : Table R) (hr : R t.pool t.conns)
    (pkt : PoolPacket) :
    R (t.zdtunLookup hashv pkt).1.pool (t.zdtunLookup hashv pkt).1.conns := by
  obtain ⟨u, hu, hnone | hadded | ⟨i, hfound⟩⟩ :=
    zdtunLookup_cases hashv h.toPurgeable hr pkt
  · rw [hnone]
    exact hu
  · rw [hadded]
    exact h.perm (h.create hu) (u.add_perm pkt)
  · rw [hfound]
    exact hu

/-- Work on the connection just added. -/
theorem onConn_add (t : ConnTable) (pkt : PoolPacket)
    (work : SocketPool → PoolConn → SocketPool × PoolConn) :
    (t.add pkt).onConn t.conns.length work =
      ⟨(work (t.add pkt).pool (newConn pkt.tuple pkt.now)).1,
        t.conns ++ [(work (t.add pkt).pool (newConn pkt.tuple pkt.now)).2]⟩ := by
  unfold onConn add
  simp

/-! ## Runs -/

/-- `socket` gives a descriptor that is not in use. -/
def FreshSocket (hashv : Tuple → UInt32) (t : ConnTable) : Event → Prop
  | .tunPacket pkt => ∀ fd ∈ pkt.socket, fd ∉ socks (t.zdtunLookup hashv pkt).1.conns
  | _ => True

instance (hashv : Tuple → UInt32) (t : ConnTable) : (e : Event) → Decidable (FreshSocket hashv t e)
  | .tunPacket pkt => inferInstanceAs
    (Decidable (∀ fd ∈ pkt.socket, fd ∉ socks (t.zdtunLookup hashv pkt).1.conns))
  | .ready .. => .isTrue trivial
  | .purge _ => .isTrue trivial

theorem runVpn_eq (hashv : Tuple → UInt32) (t : ConnTable) (pkt : PoolPacket) :
    t.runVpn hashv pkt = match (t.zdtunLookup hashv pkt).2 with
      | none => (t.zdtunLookup hashv pkt).1
      | some i => (t.zdtunLookup hashv pkt).1.onConn i fun p c => p.handle c pkt := by
  unfold runVpn
  generalize t.zdtunLookup hashv pkt = found
  obtain ⟨u, i⟩ := found
  cases i <;> rfl

theorem books_step {e : Event} (h : Books t.pool t.conns) (hfresh : FreshSocket hashv t e) :
    Books (step hashv t e).pool (step hashv t e).conns := by
  cases e with
  | tunPacket pkt =>
    have hlook := zdtunLookup_keeps hashv books_table h pkt
    change Books (t.runVpn hashv pkt).pool (t.runVpn hashv pkt).conns
    rw [runVpn_eq]
    cases (t.zdtunLookup hashv pkt).2 with
    | none => exact hlook
    | some i =>
      refine onConn_keeps books_table.toPurgeable hlook fun c rest hp hb => ?_
      refine books_table.handle hb pkt fun hnew => hb.openConn hnew pkt fun sock hsock hmem => ?_
      exact hfresh sock hsock ((hp.filterMap PoolConn.sock).mem_iff.mpr hmem)
  | ready i effects => exact ready_keeps books_table.toHandled h i effects
  | purge now => exact zdtunPurgeExpired_keeps books_table.toPurgeable h now

theorem books_init : Books init.pool init.conns :=
  ⟨⟨List.nodup_nil, List.forall_mem_nil _, List.forall_mem_nil _, List.forall_mem_nil _, rfl,
    Nat.zero_le _, rfl, rfl, rfl⟩, List.forall_mem_nil _⟩

/-- `zdtun_finalize` leaves nothing open. -/
theorem zdtunFinalize_keeps (h : Purgeable R) (hr : R t.pool t.conns) :
    R t.zdtunFinalize.pool [] := by
  have hall : R t.pool (t.conns ++ []) := by
    rw [List.append_nil]
    exact hr
  exact h.foldl hall

/-! ## Addresses -/

/-- The address of a TCP or UDP connection is in the table once, and under its own hash. -/
structure Addresses (conns : List PoolConn) : Prop where
  once : conns.Pairwise fun c d => c.tuple = d.tuple → c.tuple.ipproto = .icmp
  hashed : ∀ c ∈ conns, c.tuple.ipproto ≠ .icmp → c.hashed = c.tuple

theorem Addresses.perm (h : Addresses xs) (hp : xs.Perm ys) : Addresses ys := by
  refine ⟨(hp.pairwise_iff fun {c d} hcd heq => ?_).mp h.once, fun c hc => ?_⟩
  · rw [heq]
    exact hcd heq.symm
  · exact h.hashed c (hp.mem_iff.mpr hc)

theorem Addresses.tail (h : Addresses (c :: rest)) : Addresses rest :=
  ⟨(List.pairwise_cons.mp h.once).2, fun d hd => h.hashed d (List.mem_cons_of_mem _ hd)⟩

/-- In front stands a connection with the same address, or one of ICMP. -/
theorem Addresses.replaceHead (h : Addresses (c :: rest))
    (hproto : d.tuple.ipproto = c.tuple.ipproto)
    (hsame : c.tuple.ipproto ≠ .icmp → d.tuple = c.tuple ∧ d.hashed = c.hashed) :
    Addresses (d :: rest) := by
  obtain ⟨hhead, hrest⟩ := List.pairwise_cons.mp h.once
  refine ⟨List.pairwise_cons.mpr ⟨fun x hx heq => ?_, hrest⟩, fun x hx hx_proto => ?_⟩
  · by_contra hne
    rw [hproto] at hne
    obtain ⟨ht, -⟩ := hsame hne
    exact hne (hhead x hx (ht ▸ heq))
  · obtain rfl | hx := List.mem_cons.mp hx
    · rw [hproto] at hx_proto
      obtain ⟨ht, hh⟩ := hsame hx_proto
      rw [ht, hh]
      exact h.hashed c List.mem_cons_self hx_proto
    · exact h.hashed x (List.mem_cons_of_mem _ hx) hx_proto

theorem Addresses.create {tuple : Tuple} {now : Nat} (h : Addresses xs)
    (habsent : ∀ c ∈ xs, c.tuple = tuple → tuple.ipproto = .icmp) :
    Addresses (newConn tuple now :: xs) := by
  refine ⟨List.pairwise_cons.mpr ⟨fun c hc heq => habsent c hc heq.symm, h.once⟩,
    fun c hc hne => ?_⟩
  obtain rfl | hc := List.mem_cons.mp hc
  · rfl
  · exact h.hashed c hc hne

theorem zdtunConnClose_address (status : ConnStatus) :
    (p.zdtunConnClose c status).2.tuple = c.tuple ∧
      (p.zdtunConnClose c status).2.hashed = c.hashed := by
  unfold SocketPool.zdtunConnClose
  split <;> exact ⟨rfl, rfl⟩

theorem apply_address (e : Effect) :
    (p.apply c e).2.tuple = c.tuple ∧ (p.apply c e).2.hashed = c.hashed := by
  cases e with
  | selects on => exact ⟨rfl, rfl⟩
  | awaits on => exact ⟨rfl, rfl⟩
  | connects =>
    simp only [SocketPool.apply]
    split <;> exact ⟨rfl, rfl⟩
  | touches now => exact ⟨rfl, rfl⟩
  | serverCloses =>
    simp only [SocketPool.apply]
    split <;> exact ⟨rfl, rfl⟩
  | closes status => exact zdtunConnClose_address status

theorem addresses_handled : Handled fun _ conns => Addresses conns := by
  refine ⟨⟨Addresses.perm, Addresses.tail⟩, fun e h => ?_⟩
  obtain ⟨ht, hh⟩ := apply_address e
  exact h.replaceHead (congrArg Tuple.ipproto ht) fun _ => ⟨ht, hh⟩

theorem openUdp_address (pkt : PoolPacket) :
    (p.openUdp c pkt).2.1.tuple = c.tuple ∧ (p.openUdp c pkt).2.1.hashed = c.hashed := by
  unfold SocketPool.openUdp
  generalize p.openSocket pkt.socket = opened
  obtain ⟨q, fd⟩ := opened
  cases fd with
  | none => exact ⟨rfl, rfl⟩
  | some sock =>
    unfold SocketPool.bindAndConnectUdp
    cases pkt.setup with
    | noBindAddr => exact zdtunConnClose_address (c := { c with sock := some sock }) _
    | error errno => exact zdtunConnClose_address (c := { c with sock := some sock }) _
    | done => exact ⟨rfl, rfl⟩

theorem openTcp_address (pkt : PoolPacket) :
    (p.openTcp c pkt).2.1.tuple = c.tuple ∧ (p.openTcp c pkt).2.1.hashed = c.hashed := by
  unfold SocketPool.openTcp
  generalize p.openSocket pkt.socket = opened
  obtain ⟨q, fd⟩ := opened
  cases fd with
  | none => exact ⟨rfl, rfl⟩
  | some sock =>
    cases pkt.connect with
    | done => exact ⟨rfl, rfl⟩
    | inProgress => exact ⟨rfl, rfl⟩
    | error errno => exact zdtunConnClose_address (c := { c with sock := some sock }) _

/-- Only a new ICMP connection gets another address. -/
theorem openConn_address (pkt : PoolPacket) :
    (p.openConn c pkt).2.1.tuple.ipproto = c.tuple.ipproto ∧ (c.tuple.ipproto ≠ .icmp →
      (p.openConn c pkt).2.1.tuple = c.tuple ∧ (p.openConn c pkt).2.1.hashed = c.hashed) := by
  unfold SocketPool.openConn
  split
  next hproto =>
    obtain ⟨ht, hh⟩ := openUdp_address (p := p) (c := c) pkt
    exact ⟨congrArg Tuple.ipproto ht, fun _ => ⟨ht, hh⟩⟩
  next hproto =>
    obtain ⟨ht, hh⟩ := openTcp_address (p := p) (c := c) pkt
    exact ⟨congrArg Tuple.ipproto ht, fun _ => ⟨ht, hh⟩⟩
  next hproto =>
    refine ⟨?_, fun hne => absurd hproto hne⟩
    unfold SocketPool.openIcmp
    generalize p.openSocket pkt.socket = opened
    obtain ⟨q, fd⟩ := opened
    cases fd <;> rfl

/-- The same for a table in which only ICMP connections have the address. -/
theorem addresses_without (tuple : Tuple) : Purgeable fun _ conns => Addresses conns ∧
    ∀ c ∈ conns, c.tuple = tuple → tuple.ipproto = .icmp :=
  ⟨fun h hp => ⟨h.1.perm hp, fun c hc => h.2 c (hp.mem_iff.mpr hc)⟩,
    fun h => ⟨h.1.tail, fun c hc => h.2 c (List.mem_cons_of_mem _ hc)⟩⟩

theorem Addresses.lookupCreate {pkt : PoolPacket} (h : Addresses t.conns)
    (habsent : ∀ c ∈ t.conns, c.tuple = pkt.tuple → pkt.tuple.ipproto = .icmp) :
    Addresses (t.create pkt).1.conns := by
  obtain ⟨u, hu, hcreate | hcreate⟩ := create_cases (addresses_without pkt.tuple) ⟨h, habsent⟩ pkt
  · rw [hcreate]
    exact hu.1
  · rw [hcreate]
    exact (hu.1.create hu.2).perm (u.add_perm pkt)

theorem Addresses.zdtunLookup (hashv : Tuple → UInt32) (h : Addresses t.conns) (pkt : PoolPacket) :
    Addresses (t.zdtunLookup hashv pkt).1.conns := by
  unfold ConnTable.zdtunLookup
  cases hfind : t.find hashv pkt.tuple with
  | none =>
    refine h.lookupCreate fun c hc ht => ?_
    by_contra hne
    have hmiss := List.findIdx?_eq_none_iff.mp hfind c hc
    rw [h.hashed c hc (ht ▸ hne), ht] at hmiss
    simp at hmiss
  | some i =>
    dsimp only
    split
    · obtain ⟨hi, hmatch, -⟩ := List.findIdx?_eq_some_iff_getElem.mp hfind
      have hfront := (List.getElem_cons_eraseIdx_perm hi).symm
      have hsplit := h.perm hfront
      have hdestroy : (t.destroy i).conns = t.conns.eraseIdx i := by
        unfold destroy
        rw [List.getElem?_eq_getElem hi]
      have ht : t.conns[i].tuple = pkt.tuple := beq_iff_eq.mp (Bool.and_eq_true_iff.mp hmatch).2
      refine Addresses.lookupCreate (hdestroy ▸ hsplit.tail) fun c hc hsame => ?_
      rw [hdestroy] at hc
      exact ht ▸ (List.pairwise_cons.mp hsplit.once).1 c hc (ht.trans hsame.symm)
    · exact h

theorem addresses_step (h : Addresses t.conns) (e : Event) : Addresses (step hashv t e).conns := by
  cases e with
  | tunPacket pkt =>
    have hlook := h.zdtunLookup hashv pkt
    change Addresses (t.runVpn hashv pkt).conns
    rw [runVpn_eq]
    cases (t.zdtunLookup hashv pkt).2 with
    | none => exact hlook
    | some i =>
      refine onConn_keeps addresses_handled.toPurgeable hlook fun c rest _ hc => ?_
      refine addresses_handled.handle hc pkt fun _ => ?_
      obtain ⟨hproto, hsame⟩ := openConn_address (p := (t.zdtunLookup hashv pkt).1.pool) pkt
      exact hc.replaceHead hproto hsame
  | ready i effects => exact ready_keeps addresses_handled h i effects
  | purge now => exact zdtunPurgeExpired_keeps addresses_handled.toPurgeable h now

theorem addresses_init : Addresses init.conns := ⟨List.Pairwise.nil, List.forall_mem_nil _⟩

/-- In every run, the books are right: no two connections share a socket, a connection that is new
or closed has none, `select` is only asked about open sockets, below `FD_SETSIZE` and `all_max_fd`,
and the counters count, with at most `MAX_NUM_SOCKETS` sockets open. The address of a TCP or UDP
connection is in the table once. Whenever `zdtun_finalize` comes, it leaves no socket open. -/
theorem everyState_books (hashv : Tuple → UInt32) (es : List Event)
    (h : Machine.EveryStep (step hashv) (FreshSocket hashv) init es) :
    Machine.EveryState (step hashv)
      (fun t => Books t.pool t.conns ∧ Addresses t.conns ∧
        t.zdtunFinalize.pool.numOpenSockets = 0 ∧ t.zdtunFinalize.pool.allFds = [] ∧
        t.zdtunFinalize.pool.writeFds = []) init es := by
  have hkeeps (t : ConnTable) (e : Event) (ht : Books t.pool t.conns ∧ Addresses t.conns)
      (hf : FreshSocket hashv t e) :
      Books (step hashv t e).pool (step hashv t e).conns ∧ Addresses (step hashv t e).conns :=
    ⟨books_step ht.1 hf, addresses_step ht.2 e⟩
  refine Machine.everyState_of_invariant hkeeps (fun t ht => ⟨ht.1, ht.2, ?_, ?_, ?_⟩)
    ⟨books_init, addresses_init⟩ h
  all_goals have hend := (zdtunFinalize_keeps books_table.toPurgeable ht.1).accounts
  · exact UInt32.toNat_inj.mp hend.openSockets
  · exact List.eq_nil_iff_forall_not_mem.mpr fun fd hfd => nomatch hend.reads fd hfd
  · exact List.eq_nil_iff_forall_not_mem.mpr fun fd hfd => nomatch hend.writes fd hfd

/-- A client answers the echo requests of a host. -/
def echoReply (now : Nat) (sock : Nat) : PoolPacket :=
  ⟨{ srcIp := ip4 10 215 173 1, dstIp := ip4 9 9 9 1, srcPort := 0, dstPort := 7, ipver := .v4,
      ipproto := .icmp }, 7, true, true, now, .forward, some sock, .done, 0, .done, [], true⟩

/-! No echo reply finds the connection that the one before opened: the address is in the table more
than once. -/

example :
    ([Event.tunPacket (echoReply 10 7), .tunPacket (echoReply 11 8)].foldl
      (step fun tuple => tuple.srcPort.toUInt32) init).conns.map (·.tuple) =
    List.replicate 2 { (echoReply 10 7).tuple with srcPort := 7 } := by
  decide

/-! ## What a purge leaves -/

theorem purgeIdle_conns (now : Nat) :
    (purgeIdle now p xs).2 = xs.filter fun c => !expired now c := by
  induction xs generalizing p with
  | nil => rfl
  | cons c xs ih =>
    unfold purgeIdle
    by_cases he : expired now c = true
    · rw [if_pos he, ih, List.filter_cons, he]
      rfl
    · rw [if_neg he, List.filter_cons, Bool.eq_false_iff.mpr he]
      exact congrArg (c :: ·) ih

/-- The oldest connections come first. -/
theorem tstamp_le_of_sorted (n : Nat)
    (hc : c ∈ (xs.mergeSort fun a b => a.tstamp ≤ b.tstamp).take n)
    (hd : d ∈ (xs.mergeSort fun a b => a.tstamp ≤ b.tstamp).drop n) : c.tstamp ≤ d.tstamp := by
  have hsorted : (xs.mergeSort fun a b => a.tstamp ≤ b.tstamp).Pairwise
      fun a b => decide (a.tstamp ≤ b.tstamp) = true :=
    List.pairwise_mergeSort (fun a b e hab hbe => by simp at *; omega)
      (fun a b => by simp; omega) xs
  rw [← List.take_append_drop n (xs.mergeSort _)] at hsorted
  exact of_decide_eq_true ((List.pairwise_append.mp hsorted).2.2 c hc d hd)

/-- What a purge leaves of connections that are not expired. -/
structure Purged (live kept : List PoolConn) : Prop where
  full : (socks live).length ≤ maxNumSockets.toNat
  all : (socks live).length < maxNumSockets.toNat → kept = live
  oldest : (socks live).length = maxNumSockets.toNat → ∃ gone, (gone ++ kept).Perm live ∧
    gone.length = (maxNumSockets - numSocketsAfterPurge).toNat ∧
    ∀ c ∈ gone, ∀ d ∈ kept, c.tstamp ≤ d.tstamp

theorem purged_of_books (h : Books t.pool t.conns) (now : Nat) :
    Purged (t.conns.filter fun c => !expired now c) (t.zdtunPurgeExpired now).conns := by
  have hall : Books t.pool (t.conns ++ []) := by
    rw [List.append_nil]
    exact h
  have hidle := (books_table.purgeIdle now hall).accounts
  have hconns : (purgeIdle now t.pool t.conns).2 = t.conns.filter fun c => !expired now c :=
    purgeIdle_conns now
  rw [List.append_nil] at hidle
  unfold zdtunPurgeExpired
  generalize purgeIdle now t.pool t.conns = idle at hidle hconns
  obtain ⟨pool, live⟩ := idle
  obtain rfl : live = _ := hconns
  have hopen := hidle.openSockets
  have hlimit := hidle.limit
  refine ⟨hlimit, fun hroom => ?_, fun hfull => ?_⟩
  · have hnot : ¬ maxNumSockets ≤ pool.numOpenSockets := by
      rw [UInt32.le_iff_toNat_le, hopen]
      exact Nat.not_le_of_lt hroom
    dsimp only
    rw [if_neg hnot]
  · have hsame : pool.numOpenSockets = maxNumSockets := UInt32.toNat_inj.mp (hopen.trans hfull)
    dsimp only
    rw [hsame, if_pos (UInt32.le_iff_toNat_le.mpr (Nat.le_refl _))]
    unfold forcePurge
    dsimp only
    rw [hsame]
    refine ⟨_, (sorted_perm _ _).symm, ?_, fun c hc d hd => tstamp_le_of_sorted _ hc hd⟩
    have hmany : maxNumSockets.toNat ≤ (t.conns.filter fun c => !expired now c).length :=
      hfull ▸ List.length_filterMap_le _ _
    rw [List.length_take, List.length_mergeSort]
    exact Nat.min_eq_left (Nat.le_trans (by decide) hmany)

/-- In every run, a purge at any time leaves all connections that are neither closed nor idle, but
where all `MAX_NUM_SOCKETS` sockets are still in use: then exactly as many of them go as that is
above `NUM_SOCKETS_AFTER_PURGE`, and none of them is younger than one that stays. -/
theorem everyState_purged (hashv : Tuple → UInt32) (es : List Event)
    (h : Machine.EveryStep (step hashv) (FreshSocket hashv) init es) :
    Machine.EveryState (step hashv)
      (fun t => ∀ now, Purged (t.conns.filter fun c => !expired now c)
        (t.zdtunPurgeExpired now).conns) init es := by
  have hkeeps (t : ConnTable) (e : Event) (ht : Books t.pool t.conns)
      (hf : FreshSocket hashv t e) :
      Books (step hashv t e).pool (step hashv t e).conns := books_step ht hf
  exact Machine.everyState_of_invariant hkeeps (fun _ ht now => purged_of_books ht now) books_init h

/-! Two UDP connections from one port of a client, and a third one after the first is closed. -/

/-- It tells the addresses below apart, as `HASH_JEN` does. -/
def peerHash (tuple : Tuple) : UInt32 :=
  UInt32.ofNat (tuple.dstIp >>> 96).toNat + tuple.srcPort.toUInt32

def stunTuple (dst : ZdtunIp) : Tuple :=
  { srcIp := ip4 10 215 173 1, dstIp := dst, srcPort := 50000, dstPort := 3478, ipver := .v4,
    ipproto := .udp }

def udpPacket (tuple : Tuple) (now : Nat) (handling : Handling) (sock : Nat) : PoolPacket :=
  ⟨tuple, 0, true, true, now, handling, some sock, .done, 33333, .done, [], true⟩

def stunEvents : List Event :=
  [.tunPacket (udpPacket (stunTuple (ip4 9 9 9 1)) 10 .forward 7),
    .tunPacket (udpPacket (stunTuple (ip4 9 9 9 2)) 11 .forward 8),
    .ready 1 [.touches 12], .ready 0 [.selects false, .closes .closed],
    .tunPacket (udpPacket (stunTuple (ip4 9 9 9 3)) 13 .forward 7), .purge 42]

theorem freshSocket_stun :
    Machine.EveryStep (step peerHash) (FreshSocket peerHash) init stunEvents := by
  decide +kernel

theorem everyState_books_stun : Machine.EveryState (step peerHash)
    (fun t => Books t.pool t.conns ∧ Addresses t.conns ∧
      t.zdtunFinalize.pool.numOpenSockets = 0 ∧ t.zdtunFinalize.pool.allFds = [] ∧
      t.zdtunFinalize.pool.writeFds = []) init stunEvents :=
  everyState_books peerHash stunEvents freshSocket_stun

theorem everyState_purged_stun : Machine.EveryState (step peerHash)
    (fun t => ∀ now, Purged (t.conns.filter fun c => !expired now c)
      (t.zdtunPurgeExpired now).conns) init stunEvents :=
  everyState_purged peerHash stunEvents freshSocket_stun

end ConnTable

end SecureGuard.Native
