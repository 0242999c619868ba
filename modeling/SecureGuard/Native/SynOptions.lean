import Mathlib.Tactic.SplitIfs
import SecureGuard.Lib.TcpWire
import SecureGuard.Native.ClientPackets

/-! # The options of a SYN

The loop of `handle_tcp_fwd` over the options of a client's SYN, for the maximum segment size and
the window scale. What is left of the options is a `uint8_t`, computed from the length of the header
before anybody has looked whether that is long enough. -/

namespace SecureGuard.Native

open NetworkOrder TcpWire

/-! ## The loop -/

/-- The locals that the loop is for, and the offsets it reads. -/
structure SynOptions where
  mss : UInt16
  scale : UInt8
  reads : List Nat
deriving DecidableEq, Repr

def SynOptions.read (o : SynOptions) (i n : Nat) : SynOptions :=
  { o with reads := o.reads ++ (List.range n).map (i + ·) }

/-- An option of this kind and length, with its data at `i`. -/
def SynOptions.take (o : SynOptions) (buf : Nat → UInt8) (kind : UInt8) (len i : Nat) :
    SynOptions :=
  if kind = 2 ∧ len = 4 then { o.read i 2 with mss := UInt16.ofNat (be16 buf i) }
  else if kind = 3 ∧ len = 3 then { o.read i 1 with scale := buf i }
  else o

/-- The loop, with `opts` at `i`. -/
def optionsLoop (buf : Nat → UInt8) (i optslen : Nat) (o : SynOptions) : SynOptions :=
  if optslen ≤ 1 then o
  else if buf i = 1 then optionsLoop buf (i + 1) (optslen - 1) (o.read i 1)
  else if buf i = 0 ∨ (buf (i + 1)).toNat < 2 ∨ optslen < (buf (i + 1)).toNat then o.read i 2
  else
    optionsLoop buf (i + (buf (i + 1)).toNat) (optslen - (buf (i + 1)).toNat)
      ((o.read i 2).take buf (buf i) (buf (i + 1)).toNat (i + 2))
termination_by optslen
decreasing_by all_goals omega

/-- `optslen`, a `uint8_t`. -/
def ZdtunPkt.optslen (pkt : ZdtunPkt) : Nat := (pkt.l4HdrLen + 256 - tcpHeaderLen) % 256

/-- What `handle_tcp_fwd` finds in the options of a new connection. -/
def synOptions (buf : Nat → UInt8) (pkt : ZdtunPkt) (defaultMss : UInt16) : SynOptions :=
  optionsLoop buf (pkt.ipHdrLen + tcpHeaderLen) pkt.optslen ⟨defaultMss, 0, []⟩

/-! ## What it reads -/

variable {buf : Nat → UInt8} {i optslen lo hi : Nat} {o : SynOptions}

theorem reads_read {n : Nat} (h : ∀ k ∈ o.reads, lo ≤ k ∧ k < hi) (hlo : lo ≤ i)
    (hhi : i + n ≤ hi) : ∀ k ∈ (o.read i n).reads, lo ≤ k ∧ k < hi := by
  intro k hk
  obtain hk | hk := List.mem_append.mp hk
  · exact h k hk
  · obtain ⟨j, hj, rfl⟩ := List.mem_map.mp hk
    have hlt := List.mem_range.mp hj
    omega

theorem reads_take {kind : UInt8} {len : Nat} (h : ∀ k ∈ o.reads, lo ≤ k ∧ k < hi)
    (hlo : lo ≤ i) (hhi : i + len ≤ hi + 2) :
    ∀ k ∈ (o.take buf kind len i).reads, lo ≤ k ∧ k < hi := by
  unfold SynOptions.take
  split
  · rename_i hmss
    exact reads_read h hlo (by omega)
  · split
    · rename_i hscale
      exact reads_read h hlo (by omega)
    · exact h

/-- The loop stays within the `optslen` bytes. -/
theorem optionsLoop_reads (h : ∀ k ∈ o.reads, lo ≤ k ∧ k < hi) (hlo : lo ≤ i)
    (hhi : i + optslen ≤ hi) : ∀ k ∈ (optionsLoop buf i optslen o).reads, lo ≤ k ∧ k < hi := by
  induction i, optslen, o using optionsLoop.induct buf with
  | case1 i optslen o hle =>
    rw [optionsLoop, if_pos hle]
    exact h
  | case2 i optslen o hlt hkind ih =>
    rw [optionsLoop, if_neg hlt, if_pos hkind]
    exact ih (reads_read h hlo (by omega)) (by omega) (by omega)
  | case3 i optslen o hlt hkind hstop =>
    rw [optionsLoop, if_neg hlt, if_neg hkind, if_pos hstop]
    exact reads_read h hlo (by omega)
  | case4 i optslen o hlt hkind hgo ih =>
    rw [optionsLoop, if_neg hlt, if_neg hkind, if_neg hgo]
    have hread := reads_read (n := 2) h hlo (by omega)
    exact ih (reads_take hread (by omega) (by omega)) (by omega) (by omega)

theorem reads_mono (k : Nat) (hk : k ∈ o.reads) : k ∈ (optionsLoop buf i optslen o).reads := by
  have hread {o : SynOptions} (j n : Nat) (h : k ∈ o.reads) : k ∈ (o.read j n).reads :=
    List.mem_append_left _ h
  induction i, optslen, o using optionsLoop.induct buf with
  | case1 i optslen o hle =>
    rw [optionsLoop, if_pos hle]
    exact hk
  | case2 i optslen o hlt hkind ih =>
    rw [optionsLoop, if_neg hlt, if_pos hkind]
    exact ih (hread _ _ hk)
  | case3 i optslen o hlt hkind hstop =>
    rw [optionsLoop, if_neg hlt, if_neg hkind, if_pos hstop]
    exact hread _ _ hk
  | case4 i optslen o hlt hkind hgo ih =>
    rw [optionsLoop, if_neg hlt, if_neg hkind, if_neg hgo]
    refine ih ?_
    unfold SynOptions.take
    split
    · exact hread _ _ (hread _ _ hk)
    · split
      · exact hread _ _ (hread _ _ hk)
      · exact hread _ _ hk

/-- With more than one byte to go, the next one is read. -/
theorem mem_optionsLoop (h : 1 < optslen) : i ∈ (optionsLoop buf i optslen o).reads := by
  have hfirst (n : Nat) (hn : 0 < n) : i ∈ (o.read i n).reads :=
    List.mem_append_right _ (List.mem_map.mpr ⟨0, List.mem_range.mpr hn, Nat.add_zero i⟩)
  rw [optionsLoop, if_neg (Nat.not_le_of_lt h)]
  split
  · exact reads_mono _ (hfirst 1 Nat.one_pos)
  · split
    · exact hfirst 2 Nat.two_pos
    · refine reads_mono _ ?_
      unfold SynOptions.take
      split
      · exact List.mem_append_left _ (hfirst 2 Nat.two_pos)
      · split
        · exact List.mem_append_left _ (hfirst 2 Nat.two_pos)
        · exact hfirst 2 Nat.two_pos

/-! ## Accepted packets -/

section

variable {ids ids' : FragPorts} {n : Nat} {pkt : ZdtunPkt}

theorem zdtunParsePkt_whole (h : zdtunParsePkt ids buf n = .ok (pkt, ids'))
    (hfrag : pkt.isFragment = false) :
    ∃ ip l4Len sport dport, parseIpHeader buf n = .ok ip ∧
      parseL4Header buf ip = .ok (l4Len, sport, dport) ∧
      pkt = ⟨⟨ip.srcIp, ip.dstIp, sport, dport, ip.ipver, ip.ipproto⟩, false, false, ip.pktLen,
        ip.hdrLen, l4Len, ip.pktLen - ip.hdrLen - l4Len⟩ := by
  unfold zdtunParsePkt at h
  cases hip : parseIpHeader buf n with
  | error e => simp [hip, bind, Except.bind] at h
  | ok ip =>
    simp only [hip, bind, Except.bind, pure, Except.pure] at h
    split at h
    · obtain ⟨rfl, -⟩ := Prod.mk.inj (Except.ok.inj h)
      cases hfrag
    · cases hl4 : parseL4Header buf ip with
      | error e => simp [hl4] at h
      | ok r =>
        obtain ⟨l4Len, sport, dport⟩ := r
        simp only [hl4] at h
        obtain ⟨rfl, -⟩ := Prod.mk.inj (Except.ok.inj h)
        have hmore : decide (ip.fragOff / 0x2000 % 2 = 1) = false := hfrag
        exact ⟨ip, l4Len, sport, dport, rfl, hl4, by rw [hmore]⟩

theorem parseIpHeader_lengths {ip : IpHeader} (h : parseIpHeader buf n = .ok ip) :
    ip.pktLen ≤ n ∧ ip.hdrLen ≤ ip.pktLen := by
  unfold parseIpHeader at h
  split at h
  · cases h
  split at h
  · dsimp only at h
    split at h
    · cases h
    rename_i hhdr
    split at h
    · cases h
    rename_i htot
    obtain rfl := Except.ok.inj h
    exact ⟨Nat.min_le_left _ _, Nat.le_min.mpr ⟨Nat.le_of_not_lt hhdr, Nat.le_of_not_lt htot⟩⟩
  · split at h
    · split at h
      · cases h
      rename_i hshort
      split at h
      · cases h
      obtain rfl := Except.ok.inj h
      exact ⟨Nat.min_le_left _ _,
        Nat.le_min.mpr ⟨Nat.le_of_not_lt hshort, Nat.le_add_left _ _⟩⟩
    · cases h

/-- What the parser has looked at of a TCP packet: the header without options, and the length that
it says it has, are both within the packet. -/
theorem zdtunParsePkt_tcp (h : zdtunParsePkt ids buf n = .ok (pkt, ids'))
    (hproto : pkt.tuple.ipproto = ipprotoTcp) (hfrag : pkt.isFragment = false) :
    pkt.ipHdrLen + tcpHeaderLen ≤ pkt.len ∧ pkt.ipHdrLen + pkt.l4HdrLen ≤ pkt.len ∧
      pkt.len ≤ n ∧ pkt.l4HdrLen ≤ 60 := by
  obtain ⟨ip, l4Len, sport, dport, hip, hl4, rfl⟩ := zdtunParsePkt_whole h hfrag
  have hproto : ip.ipproto = ipprotoTcp := hproto
  unfold parseL4Header at hl4
  dsimp only at hl4
  rw [if_pos hproto] at hl4
  split_ifs at hl4 with hshort hlong
  obtain ⟨hlen, -⟩ := Prod.mk.inj (Except.ok.inj hl4)
  have hword := (buf (ip.hdrLen + 12)).toNat_lt
  refine ⟨Nat.le_of_not_lt hshort, ?_, (parseIpHeader_lengths hip).1, ?_⟩
  · rw [← hlen]
    exact Nat.le_of_not_lt hlong
  · change l4Len ≤ 60
    omega

/-- Of an accepted TCP packet, the loop reads the options of its header only, or stays away from
them if there are none, exactly if the header has the length that every TCP header has: a shorter
one makes `optslen` wrap around, and the loop starts behind the header. -/
theorem synOptions_in_header_iff (ids ids' : FragPorts) (buf : Nat → UInt8) (n : Nat)
    (pkt : ZdtunPkt) (defaultMss : UInt16) (h : zdtunParsePkt ids buf n = .ok (pkt, ids'))
    (hproto : pkt.tuple.ipproto = ipprotoTcp) (hfrag : pkt.isFragment = false) :
    (∀ k ∈ (synOptions buf pkt defaultMss).reads,
      pkt.ipHdrLen + tcpHeaderLen ≤ k ∧ k < pkt.ipHdrLen + pkt.l4HdrLen ∧ k < n) ↔
    tcpHeaderLen ≤ pkt.l4HdrLen := by
  obtain ⟨-, hhdr, hlen, hmax⟩ := zdtunParsePkt_tcp h hproto hfrag
  have h20 : tcpHeaderLen = 20 := rfl
  unfold synOptions ZdtunPkt.optslen
  constructor
  · intro hreads
    by_contra hshort
    have hmany : 1 < (pkt.l4HdrLen + 256 - tcpHeaderLen) % 256 := by omega
    obtain ⟨hlo, hhi, -⟩ := hreads _ (mem_optionsLoop hmany)
    omega
  · intro hlong k hk
    have hopts : (pkt.l4HdrLen + 256 - tcpHeaderLen) % 256 = pkt.l4HdrLen - tcpHeaderLen := by
      omega
    rw [hopts] at hk
    have hnone : ∀ k ∈ (⟨defaultMss, 0, []⟩ : SynOptions).reads,
        pkt.ipHdrLen + tcpHeaderLen ≤ k ∧ k < pkt.ipHdrLen + pkt.l4HdrLen := by simp
    obtain ⟨hlo, hhi⟩ := optionsLoop_reads hnone (Nat.le_refl _) (by omega) k hk
    exact ⟨hlo, hhi, by omega⟩

end

/-- A SYN to a web server, as it comes from the tun. -/
def clientSyn : ClientSegment :=
  ⟨5, 0, 512, ⟨false, true, false, false, false, false⟩,
    wire [.maximumSegmentSize 1400, .noOperation, .windowScale 7], []⟩

def synConn : SpoofConn :=
  ⟨⟨ip4 9 9 9 1, ip4 10 215 173 1, 80, 40001, .v4, ipprotoTcp⟩, .none⟩

theorem arrives_clientSyn : Arrives synConn clientSyn :=
  (arrives_buildReplyTcpip_iff
    ⟨fun _ => show _ % _ = 0 by decide, fun _ => show _ % _ = 0 by decide, by decide, by decide⟩ rfl
    ⟨rfl, by decide⟩ (by rw [buildReplyTcpip_length, sentSegment_length]; decide)).mpr rfl

theorem synOptions_in_header_clientSyn :
    (∀ k ∈ (synOptions (bufferOf (buildReplyTcpip synConn clientSyn))
        (tcpPkt synConn.tuple.swap clientSyn) 1460).reads,
      ipv4HeaderLen + tcpHeaderLen ≤ k ∧ k < ipv4HeaderLen + 28 ∧
        k < (buildReplyTcpip synConn clientSyn).length) ↔ tcpHeaderLen ≤ 28 :=
  synOptions_in_header_iff (fun _ => (0, 0)) _ _ _ _ 1460 (arrives_clientSyn.parsed _) rfl rfl

/-! ## What it finds -/

variable {opts : List TcpOption} {pad : List UInt8}

/-- An option of more than one byte: the loop looks at its data and goes on behind it. -/
theorem optionsLoop_long {kind : UInt8} {data rest : List UInt8} (hend : kind ≠ 0)
    (hnop : kind ≠ 1) (hshort : data.length + 2 < 256)
    (h : Before buf ⟨i, optslen⟩ (kind :: UInt8.ofNat (data.length + 2) :: (data ++ rest))) :
    optionsLoop buf i optslen o = optionsLoop buf (i + (data.length + 2))
        (optslen - (data.length + 2)) ((o.read i 2).take buf kind (data.length + 2) (i + 2)) ∧
      Before buf ⟨i + (data.length + 2), optslen - (data.length + 2)⟩ rest := by
  have hkind : buf i = kind := h.head
  have hlen : (buf (i + 1)).toNat = data.length + 2 := by
    have hbyte : buf (i + 1) = UInt8.ofNat (data.length + 2) := h.byte 1 (by simp)
    rw [hbyte, UInt8.toNat_ofNat']
    exact Nat.mod_eq_of_lt hshort
  have hall : optslen = data.length + rest.length + 2 := by
    have hcount : optslen = _ := h.len
    rw [hcount, List.length_cons, List.length_cons, List.length_append]
  have hstop : ¬(buf i = 0 ∨ (buf (i + 1)).toNat < 2 ∨ optslen < (buf (i + 1)).toNat) := by
    rw [hkind, hlen]
    intro hs
    obtain hs | hs | hs := hs
    · exact hend hs
    · omega
    · omega
  refine ⟨?_, ?_⟩
  · rw [optionsLoop, if_neg (by omega), if_neg (hkind ▸ hnop), if_neg hstop, hkind, hlen]
  · have hskip := h.skip (data.length + 2)
    rw [List.drop_succ_cons, List.drop_succ_cons, List.drop_left] at hskip
    exact hskip

theorem optionsLoop_padding (hpad : Padding pad) (h : Before buf ⟨i, optslen⟩ pad) :
    (optionsLoop buf i optslen o).mss = o.mss ∧ (optionsLoop buf i optslen o).scale = o.scale := by
  rw [optionsLoop]
  by_cases hle : optslen ≤ 1
  · rw [if_pos hle]
    exact ⟨rfl, rfl⟩
  · have hlen : optslen = pad.length := h.len
    obtain rfl | hhead := hpad
    · rw [List.length_nil] at hlen
      omega
    · obtain ⟨rest, rfl⟩ := List.head?_eq_some_iff.mp hhead
      have hzero : buf i = 0 := h.head
      rw [if_neg hle, if_neg (hzero ▸ by decide), if_pos (.inl hzero)]
      exact ⟨rfl, rfl⟩

/-- Options that are well formed are found, and nothing else. -/
theorem optionsLoop_wire (hpad : Padding pad) (h : Before buf ⟨i, optslen⟩ (wire opts ++ pad)) :
    (optionsLoop buf i optslen o).mss = segmentSizeOf o.mss opts ∧
      (optionsLoop buf i optslen o).scale = scaleOf o.scale opts := by
  induction opts generalizing i optslen o with
  | nil => exact optionsLoop_padding hpad h
  | cons opt opts ih =>
    rw [wire_cons, List.append_assoc] at h
    cases opt with
    | noOperation =>
      have hone : buf i = 1 := h.head
      have hnext : (optionsLoop buf (i + 1) (optslen - 1) (o.read i 1)).mss = _ ∧
          (optionsLoop buf (i + 1) (optslen - 1) (o.read i 1)).scale = _ :=
        ih (o := o.read i 1) (h.skip 1)
      by_cases hle : optslen ≤ 1
      · have hstop : optionsLoop buf (i + 1) (optslen - 1) (o.read i 1) = o.read i 1 := by
          rw [optionsLoop, if_pos (by omega)]
        rw [hstop] at hnext
        rw [optionsLoop, if_pos hle]
        exact hnext
      · rw [optionsLoop, if_neg hle, if_pos hone]
        exact hnext
    | maximumSegmentSize size =>
      have hopt : Before buf ⟨i, optslen⟩ (2 :: UInt8.ofNat ((u16 size.toNat).length + 2) ::
          (u16 size.toNat ++ (wire opts ++ pad))) := h
      have hshort : (u16 size.toNat).length + 2 < 256 := show 2 + 2 < 256 by decide
      obtain ⟨hgo, hrest⟩ := optionsLoop_long (o := o) (by decide) (by decide) hshort hopt
      have hsize : UInt16.ofNat (be16 buf (i + 2)) = size := by
        have hword : be16 buf (i + 2) = wordAt _ 2 := h.be16 (i := 2) (by simp [TcpOption.wire])
        have hbytes : wordAt ([2, 4] ++ u16 size.toNat ++ (wire opts ++ pad)) 2 = size.toNat :=
          wordAt_append [2, 4] size.toNat_lt (wire opts ++ pad)
        rw [hword]
        exact (congrArg UInt16.ofNat hbytes).trans (UInt16.ofNat_toNat)
      have hnext := ih (o := (o.read i 2).take buf 2 4 (i + 2)) hrest
      have htake : ((o.read i 2).take buf 2 4 (i + 2)).mss = size := hsize
      rw [htake] at hnext
      rw [hgo]
      exact hnext
    | windowScale shift =>
      have hopt : Before buf ⟨i, optslen⟩ (3 :: UInt8.ofNat ([shift].length + 2) ::
          ([shift] ++ (wire opts ++ pad))) := h
      have hshort : [shift].length + 2 < 256 := show 1 + 2 < 256 by decide
      obtain ⟨hgo, hrest⟩ := optionsLoop_long (o := o) (by decide) (by decide) hshort hopt
      have hshift : buf (i + 2) = shift := h.byte 2 (by simp [TcpOption.wire])
      have hnext := ih (o := (o.read i 2).take buf 3 3 (i + 2)) hrest
      have htake : ((o.read i 2).take buf 3 3 (i + 2)).scale = shift := hshift
      rw [htake] at hnext
      rw [hgo]
      exact hnext
    | other kind data hkind hshort hmss hscale =>
      obtain ⟨hgo, hrest⟩ := optionsLoop_long (o := o) hkind.1 hkind.2 hshort h
      have htake : (o.read i 2).take buf kind (data.length + 2) (i + 2) = o.read i 2 := by
        unfold SynOptions.take
        rw [if_neg fun hs => hmss hs.1 (by omega), if_neg fun hs => hscale hs.1 (by omega)]
      rw [hgo, htake]
      exact ih hrest

theorem before_bytesAt {len : Nat} {bytes : List UInt8} (h : bytesAt buf i len = bytes) :
    Before buf ⟨i, len⟩ bytes := by
  subst h
  refine ⟨?_, fun k hk => ?_⟩
  · simp [bytesAt]
  · simp [bytesAt]

/-- Whatever options a client's SYN has, in whatever order and with whatever other options between
them, zdtun takes over the maximum segment size and the window scale that they say, and its own
default and no scale where they do not say any. -/
theorem synOptions_wire (ids ids' : FragPorts) (buf : Nat → UInt8) (n : Nat) (pkt : ZdtunPkt)
    (defaultMss : UInt16) (opts : List TcpOption) (pad : List UInt8)
    (h : zdtunParsePkt ids buf n = .ok (pkt, ids')) (hproto : pkt.tuple.ipproto = ipprotoTcp)
    (hfrag : pkt.isFragment = false) (hlong : tcpHeaderLen ≤ pkt.l4HdrLen) (hpad : Padding pad)
    (hopts : bytesAt buf (pkt.ipHdrLen + tcpHeaderLen) (pkt.l4HdrLen - tcpHeaderLen) =
      wire opts ++ pad) :
    (synOptions buf pkt defaultMss).mss = segmentSizeOf defaultMss opts ∧
      (synOptions buf pkt defaultMss).scale = scaleOf 0 opts := by
  obtain ⟨-, -, -, hmax⟩ := zdtunParsePkt_tcp h hproto hfrag
  have h20 : tcpHeaderLen = 20 := rfl
  have hlen : pkt.optslen = pkt.l4HdrLen - tcpHeaderLen := by
    unfold ZdtunPkt.optslen
    omega
  unfold synOptions
  rw [hlen]
  exact optionsLoop_wire hpad (before_bytesAt hopts)

theorem synOptions_clientSyn :
    (synOptions (bufferOf (buildReplyTcpip synConn clientSyn))
      (tcpPkt synConn.tuple.swap clientSyn) 1460).mss = 1400 ∧
    (synOptions (bufferOf (buildReplyTcpip synConn clientSyn))
      (tcpPkt synConn.tuple.swap clientSyn) 1460).scale = 7 :=
  synOptions_wire (fun _ => (0, 0)) _ _ _ _ 1460
    [.maximumSegmentSize 1400, .noOperation, .windowScale 7] [] (arrives_clientSyn.parsed _) rfl rfl
    (by decide) (.inl rfl) (congrArg ClientSegment.opts arrives_clientSyn.segment)

end SecureGuard.Native
