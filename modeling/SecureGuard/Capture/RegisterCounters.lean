import SecureGuard.Capture.ConnectionsRegister

/-! # The counters of the register

The register counts the malicious and the blocked connections it tracks, and keeps the largest
size among them, as connections are added, updated and rolled out. Nothing is taken off the
count of the blocked ones when they roll out, and a reset leaves all three as they are. -/

namespace SecureGuard.Capture
open RingBuffer Machine

/-- The largest size among the connections. -/
def largest (l : List ConnectionDescriptor) : Nat := (l.map (·.totBytes)).foldr max 0

namespace Capturing

/-! ## What is to hold -/

/-- The register answers for the connections it tracks. -/
structure Counted (s : Capturing) : Prop where
  byId : ∀ incrId, s.reg.getConnById incrId = s.tracked.find? fun conn => conn.incrId = incrId
  numMalicious : s.reg.numMalicious = s.tracked.countP (·.isBlacklisted)
  numBlocked : s.reg.numBlocked = s.tracked.countP (·.isBlocked)
  maxBytes : s.reg.maxBytes = largest s.tracked

/-- The byte counters of an update are not below those of its connection. -/
def nonDecreasing (conn : ConnectionDescriptor) (u : ConnectionUpdate) : Bool :=
  !u.hasStats || (conn.sentBytes ≤ u.sentBytes && conn.rcvdBytes ≤ u.rcvdBytes)

def admissible (s : Capturing) : RegisterAction → Bool
  | .connectionsUpdates updates => s.reg.allUpdates nonDecreasing updates
  | _ => true

/-- The connections that a batch rolls out. -/
def rolling (s : Capturing) (new : List NewConn) : List ConnectionDescriptor :=
  s.tracked.take (s.reg.outItems (s.reg.mostRecent (number s.newConnId new)))

/-- Nothing that is tracked is counted, or has any bytes. -/
def uncounted (s : Capturing) : Bool :=
  s.tracked.all fun conn => !conn.isBlacklisted && !conn.isBlocked && conn.totBytes = 0

/-- No connection rolls out that is blocked, and there is no reset while one is malicious or
blocked, or has any bytes. -/
def fits (s : Capturing) : RegisterAction → Bool
  | .newConnections new => (s.rolling new).all fun conn => !conn.isBlocked
  | .connectionsUpdates _ => true
  | .reset => s.uncounted
  | .resetIfMany => s.reg.ring.count ≤ 5000 || s.uncounted

end Capturing

/-! ## Sizes -/

section Largest

variable {l l' : List ConnectionDescriptor} {conn : ConnectionDescriptor} {n : Nat}

theorem largest_le_iff : largest l ≤ n ↔ ∀ conn ∈ l, conn.totBytes ≤ n := by
  induction l with
  | nil => simp [largest]
  | cons conn l ih =>
    have hcons : largest (conn :: l) = max conn.totBytes (largest l) := rfl
    rw [hcons, Nat.max_le, ih, List.forall_mem_cons]

theorem largest_append : largest (l ++ l') = max (largest l) (largest l') := by
  refine eq_of_forall_ge_iff fun n => ?_
  rw [Nat.max_le, largest_le_iff, largest_le_iff, largest_le_iff, List.forall_mem_append]

theorem le_largest (h : conn ∈ l) : conn.totBytes ≤ largest l := largest_le_iff.mp le_rfl conn h

/-- The largest size is that of a connection, if there is any. -/
theorem exists_largest (h : 0 < largest l) : ∃ conn ∈ l, conn.totBytes = largest l := by
  by_contra hno
  rw [not_exists] at hno
  have hle : largest l ≤ largest l - 1 := by
    refine largest_le_iff.mpr fun conn hconn => ?_
    have hne : conn.totBytes ≠ largest l := fun heq => hno conn ⟨hconn, heq⟩
    have := le_largest hconn
    omega
  omega

/-- `calculateMaxBytes` finds the largest size. -/
theorem ConnectionsRegister.maxBytes_calculateMaxBytes {reg : ConnectionsRegister}
    (h : reg.ring.Holds l) : reg.calculateMaxBytes.maxBytes = largest l := by
  have hfold : ∀ k n, (List.range k).foldl (fun maxBytes pos =>
      (reg.ring.item pos).elim maxBytes fun conn => max maxBytes conn.totBytes) 0 ≤ n ↔
      ∀ pos < k, ∀ conn, reg.ring.item pos = some conn → conn.totBytes ≤ n := by
    intro k n
    induction k with
    | zero => simp
    | succ k ih =>
      rw [List.range_succ, List.foldl_append, List.foldl_cons, List.foldl_nil]
      simp only [Nat.lt_succ_iff_lt_or_eq, or_imp, forall_and, forall_eq]
      rw [← ih]
      cases reg.ring.item k with
      | none => simp
      | some conn => simp
  refine eq_of_forall_ge_iff fun n => ?_
  rw [calculateMaxBytes, hfold, largest_le_iff]
  constructor
  · intro hall conn hconn
    obtain ⟨pos, hpos, hitem⟩ := h.mem_iff.mp hconn
    exact hall pos hpos conn hitem
  · intro hall pos hpos conn hitem
    exact hall conn (h.mem_iff.mpr ⟨pos, hpos, hitem⟩)

end Largest

/-! ## New connections -/

theorem recount_eq (was now : Bool) (n : Int) :
    recount was now n = n + (if now then 1 else 0) - (if was then 1 else 0) := by
  cases was <;> cases now <;> simp [recount]

theorem ConnectionDescriptor.unaccounted_processUpdate (conn : ConnectionDescriptor)
    (u : ConnectionUpdate) : (conn.processUpdate u).alerted = conn.alerted ∧
      (conn.processUpdate u).blockAccounted = conn.blockAccounted := by
  rw [processUpdate]
  split <;> exact ⟨rfl, rfl⟩

/-- A new connection is not counted yet. -/
theorem unaccounted_number {incrId : Int} {new : List NewConn} {conn : ConnectionDescriptor}
    (h : conn ∈ number incrId new) : conn.alerted = false ∧ conn.blockAccounted = false := by
  induction new generalizing incrId with
  | nil => cases h
  | cons n new ih =>
    obtain rfl | h := List.mem_cons.mp h
    · rw [NewConn.descriptor]
      cases n.update with
      | none => exact ⟨rfl, rfl⟩
      | some u => exact ConnectionDescriptor.unaccounted_processUpdate _ u
    · exact ih h

namespace ConnectionsRegister

variable {reg : ConnectionsRegister} {l : List ConnectionDescriptor}

/-- What is counted when a connection is added, and whether the largest size is still to be
found. -/
theorem counters_addNew {conn : ConnectionDescriptor} (halerted : conn.alerted = false)
    (haccounted : conn.blockAccounted = false) (acc : ConnectionsRegister × Bool) :
    (addNew acc conn).1.numMalicious =
        acc.1.numMalicious + (if conn.isBlacklisted then 1 else 0) ∧
      (addNew acc conn).1.numBlocked = acc.1.numBlocked + (if conn.isBlocked then 1 else 0) ∧
      (addNew acc conn).1.maxBytes = max acc.1.maxBytes conn.totBytes ∧
      (addNew acc conn).2 = (acc.2 && conn.totBytes ≤ acc.1.maxBytes) := by
  refine ⟨?_, ?_, ?_, ?_⟩
  · simp [addNew, putStats, processConnectionStatus, recount_eq, halerted]
  · simp [addNew, putStats, processConnectionStatus, recount_eq, haccounted]
  · simp only [addNew]
    split <;> omega
  · simp only [addNew]
    split
    case isTrue hlt => rw [decide_eq_false (Nat.not_le.mpr hlt), Bool.and_false]
    case isFalse hle => rw [decide_eq_true (Nat.not_lt.mp hle), Bool.and_true]

theorem foldl_addNew {conns : List ConnectionDescriptor}
    (h : ∀ conn ∈ conns, conn.alerted = false ∧ conn.blockAccounted = false)
    (acc : ConnectionsRegister × Bool) :
    (conns.foldl addNew acc).1.numMalicious =
        acc.1.numMalicious + conns.countP (·.isBlacklisted) ∧
      (conns.foldl addNew acc).1.numBlocked = acc.1.numBlocked + conns.countP (·.isBlocked) ∧
      (conns.foldl addNew acc).1.maxBytes = max acc.1.maxBytes (largest conns) ∧
      (conns.foldl addNew acc).2 = (acc.2 && largest conns ≤ acc.1.maxBytes) := by
  induction conns generalizing acc with
  | nil => simp [largest]
  | cons conn conns ih =>
    obtain ⟨halerted, haccounted⟩ := h conn List.mem_cons_self
    obtain ⟨hmalicious, hblocked, hmax, hrecalc⟩ :=
      ih (fun c hc => h c (List.mem_cons_of_mem conn hc)) (addNew acc conn)
    obtain ⟨hmalicious', hblocked', hmax', hrecalc'⟩ := counters_addNew halerted haccounted acc
    have hcons : largest (conn :: conns) = max conn.totBytes (largest conns) := rfl
    rw [List.foldl_cons, hmalicious, hblocked, hmax, hrecalc, hmalicious', hblocked', hmax',
      hrecalc', List.countP_cons, List.countP_cons, hcons, Bool.and_assoc, ← Bool.decide_and]
    refine ⟨?_, ?_, by omega, ?_⟩
    · push_cast
      split <;> omega
    · push_cast
      split <;> omega
    · congr 2
      simp only [eq_iff_iff]
      omega

theorem largest_map_accounted (conns : List ConnectionDescriptor) :
    largest (conns.map (·.accounted)) = largest conns := by
  rw [largest, List.map_map]
  rfl

/-- Without a connection of the largest size, the others are as large as before. -/
theorem largest_drop {k : Nat} (h : ∀ conn ∈ l.take k, conn.totBytes ≠ largest l) :
    largest (l.drop k) = largest l := by
  have hsplit : largest l = max (largest (l.take k)) (largest (l.drop k)) := by
    rw [← largest_append, List.take_append_drop]
  by_contra hne
  obtain ⟨conn, hconn, hlargest⟩ := exists_largest (show 0 < largest (l.take k) by omega)
  exact h conn hconn (by omega)

/-- What is counted after a batch. -/
theorem counters_newConnections (h : reg.ring.Holds l) {all : List ConnectionDescriptor}
    (hall : ∀ conn ∈ all, conn.alerted = false ∧ conn.blockAccounted = false) :
    (reg.newConnections all).numMalicious = reg.numMalicious -
        (l.take (reg.outItems (reg.mostRecent all))).countP (·.isBlacklisted) +
        (reg.mostRecent all).countP (·.isBlacklisted) ∧
      (reg.newConnections all).numBlocked =
        reg.numBlocked + (reg.mostRecent all).countP (·.isBlocked) ∧
      (reg.maxBytes = largest l → (reg.newConnections all).maxBytes =
        largest (l.drop (reg.outItems (reg.mostRecent all)) ++
          (reg.mostRecent all).map (·.accounted))) := by
  have hholds := holds_newConnections h all
  obtain ⟨acc, hstart, hrecalc, heq⟩ := newConnections_eq h all
  obtain ⟨hmalicious, hblocked, hmax, hleft⟩ := foldl_addNew
    (fun conn (hconn : conn ∈ reg.mostRecent all) => hall conn (List.mem_of_mem_drop hconn)) acc
  rw [hstart.numMalicious] at hmalicious
  rw [hstart.numBlocked] at hblocked
  rw [hstart.maxBytes] at hmax hleft
  rw [heq] at hholds ⊢
  cases hfold : ((reg.mostRecent all).foldl addNew acc).2 with
  | true =>
    rw [hfold, if_pos rfl] at hholds
    rw [if_pos rfl]
    exact ⟨hmalicious, hblocked, fun _ => maxBytes_calculateMaxBytes hholds⟩
  | false =>
    rw [if_neg Bool.false_ne_true]
    refine ⟨hmalicious, hblocked, fun hexact => ?_⟩
    -- Either a new connection is larger than all before, or none of the largest ones has gone.
    have hdrop : largest (l.drop (reg.outItems (reg.mostRecent all))) ≤ largest l :=
      largest_le_iff.mpr fun conn hconn => le_largest (List.mem_of_mem_drop hconn)
    rw [hmax, largest_append, largest_map_accounted, hexact]
    by_cases hlarger : largest (reg.mostRecent all) ≤ largest l
    · have hstays : ∀ conn ∈ l.take (reg.outItems (reg.mostRecent all)),
          conn.totBytes ≠ largest l := by
        intro conn hconn heq
        rw [hleft, hexact, decide_eq_true hlarger, Bool.and_true, hrecalc,
          List.any_eq_false] at hfold
        exact hfold conn hconn (decide_eq_true (heq.trans hexact.symm))
      rw [largest_drop hstays]
    · omega

/-! ## Updates -/

/-- The counters are those of the connections. -/
structure Counts (reg : ConnectionsRegister) (l : List ConnectionDescriptor) : Prop where
  numMalicious : reg.numMalicious = l.countP (·.isBlacklisted)
  numBlocked : reg.numBlocked = l.countP (·.isBlocked)
  maxBytes : reg.maxBytes = largest l

variable {i : Nat} {conn : ConnectionDescriptor}

/-- How a counter follows a connection that is replaced. -/
theorem countP_set_eq {p : ConnectionDescriptor → Bool} (hi : l[i]? = some conn)
    (x : ConnectionDescriptor) : ((l.set i x).countP p : Int) =
      l.countP p + (if p x then 1 else 0) - (if p conn then 1 else 0) := by
  obtain ⟨hlt, hget⟩ := List.getElem?_eq_some_iff.mp hi
  have hmem : conn ∈ l := List.mem_of_getElem? hi
  have hle : (if p conn then 1 else 0) ≤ l.countP p := by
    split
    case isTrue hp => exact List.countP_pos_iff.mpr ⟨conn, hmem, hp⟩
    case isFalse => exact Nat.zero_le _
  rw [List.countP_set hlt, hget, Int.natCast_add, Int.natCast_sub hle]
  cases p x <;> cases p conn <;> simp

theorem largest_set (hi : l[i]? = some conn) {x : ConnectionDescriptor}
    (hle : conn.totBytes ≤ x.totBytes) : largest (l.set i x) = max (largest l) x.totBytes := by
  obtain ⟨hlt, hget⟩ := List.getElem?_eq_some_iff.mp hi
  have hsplit : l = l.take i ++ conn :: l.drop (i + 1) := by
    rw [← hget, List.getElem_cons_drop, List.take_append_drop]
  have hcons : ∀ c : ConnectionDescriptor, largest (l.take i ++ c :: l.drop (i + 1)) =
      max (largest (l.take i)) (max c.totBytes (largest (l.drop (i + 1)))) :=
    fun c => largest_append
  have hl := hcons conn
  rw [← hsplit] at hl
  rw [List.set_eq_take_append_cons_drop, if_pos hlt, hcons, hl]
  omega

/-- The size of a connection after an update, and that of the update. -/
theorem totBytes_processUpdate {u : ConnectionUpdate} (hu : Capturing.nonDecreasing conn u = true) :
    conn.totBytes ≤ (conn.processUpdate u).totBytes ∧
      max conn.totBytes u.totBytes = (conn.processUpdate u).totBytes := by
  rw [ConnectionDescriptor.processUpdate]
  split
  case isTrue hstats =>
    have hboth : conn.sentBytes ≤ u.sentBytes ∧ conn.rcvdBytes ≤ u.rcvdBytes := by
      simpa [Capturing.nonDecreasing, hstats] using hu
    simp only [ConnectionDescriptor.totBytes, ConnectionUpdate.totBytes]
    omega
  case isFalse hstats =>
    have hnone : u.updateType &&& updateStats = 0 := by
      simpa [ConnectionUpdate.hasStats] using hstats
    have hzero := u.unset hnone
    simp only [ConnectionDescriptor.totBytes, ConnectionUpdate.totBytes]
    omega

/-- The counters follow an update. -/
theorem Counts.updateConn (h : reg.Counts l) (hi : l[i]? = some conn)
    (haccounted : conn.accounted = conn) {u : ConnectionUpdate}
    (hu : Capturing.nonDecreasing conn u = true) (pos : Nat) :
    (reg.updateConn pos conn u).Counts (l.set i (conn.processUpdate u).accounted) := by
  obtain ⟨halerted, hblocked⟩ := conn.unaccounted_processUpdate u
  have hmalicious : conn.alerted = conn.isBlacklisted := by
    rw [← haccounted]
    rfl
  have hcounted : conn.blockAccounted = conn.isBlocked := by
    rw [← haccounted]
    rfl
  obtain ⟨hle, hmax⟩ := totBytes_processUpdate hu
  constructor
  · have hstep : (reg.updateConn pos conn u).numMalicious =
        recount (conn.processUpdate u).alerted (conn.processUpdate u).isBlacklisted
          reg.numMalicious := rfl
    rw [hstep, recount_eq, halerted, hmalicious, countP_set_eq hi, h.numMalicious]
    rfl
  · have hstep : (reg.updateConn pos conn u).numBlocked =
        recount (conn.processUpdate u).blockAccounted (conn.processUpdate u).isBlocked
          reg.numBlocked := rfl
    rw [hstep, recount_eq, hblocked, hcounted, countP_set_eq hi, h.numBlocked]
    rfl
  · have hstep : (reg.updateConn pos conn u).maxBytes = max reg.maxBytes u.totBytes := rfl
    have hlargest := le_largest (List.mem_of_getElem? hi)
    have hset : largest (l.set i (conn.processUpdate u).accounted) =
        max (largest l) (conn.processUpdate u).totBytes := largest_set hi hle
    rw [hstep, h.maxBytes, hset, ← hmax]
    omega

end ConnectionsRegister

/-! ## Every run -/

namespace Capturing

variable {s : Capturing} {l : List ConnectionDescriptor}

/-- The register tracks some connections, and answers for them. -/
structure Inv (s : Capturing) : Prop where
  tracks : s.Tracks s.tracked
  counted : s.Counted

/-- Connections are always found by their ids; what may go wrong is how they are counted. -/
theorem Tracks.counted_iff (h : s.Tracks l) : s.Counted ↔ s.reg.Counts l := by
  have htracked := h.tracked_eq
  constructor
  · intro hc
    exact ⟨htracked ▸ hc.numMalicious, htracked ▸ hc.numBlocked, htracked ▸ hc.maxBytes⟩
  · intro hc
    refine ⟨fun incrId => ?_, ?_, ?_, ?_⟩ <;> rw [htracked]
    · exact ConnectionsRegister.getConnById_eq h.holds h.numbered incrId
    · exact hc.numMalicious
    · exact hc.numBlocked
    · exact hc.maxBytes

theorem Inv.counts (h : s.Inv) : s.reg.Counts s.tracked := h.tracks.counted_iff.mp h.counted

theorem Tracks.inv_iff (h : s.Tracks l) : s.Inv ↔ s.Counted := by
  refine ⟨Inv.counted, fun hc => ⟨?_, hc⟩⟩
  rw [h.tracked_eq]
  exact h

theorem inv_started (size : Nat) (newConnId : Int) : (started size newConnId).Inv := by
  have htracks := tracks_started size newConnId
  exact htracks.inv_iff.mpr (htracks.counted_iff.mpr ⟨rfl, rfl, rfl⟩)

/-- How many connections with some property are tracked after a batch. -/
theorem countP_newConnections {p : ConnectionDescriptor → Bool}
    (hp : ∀ conn : ConnectionDescriptor, p conn.accounted = p conn) (new : List NewConn) :
    (s.tracked.drop (s.reg.outItems (s.reg.mostRecent (number s.newConnId new))) ++
        (s.reg.mostRecent (number s.newConnId new)).map (·.accounted)).countP p +
      (s.rolling new).countP p =
        s.tracked.countP p + (s.reg.mostRecent (number s.newConnId new)).countP p := by
  have hkept : p ∘ ConnectionDescriptor.accounted = p := funext hp
  have hsplit : s.tracked.countP p = (s.rolling new).countP p + (s.tracked.drop
      (s.reg.outItems (s.reg.mostRecent (number s.newConnId new)))).countP p := by
    rw [rolling, ← List.countP_append, List.take_append_drop]
  rw [List.countP_append, List.countP_map, hkept, hsplit]
  omega

/-- A batch is counted rightly exactly if no blocked connection rolls out. -/
theorem Inv.newConnections (h : s.Inv) (new : List NewConn) :
    (s.newConnections new).Inv ↔ ((s.rolling new).all fun conn => !conn.isBlocked) = true := by
  have htracks := h.tracks.newConnections new
  have hcounts := h.counts
  have hall : ∀ conn ∈ number s.newConnId new, conn.alerted = false ∧ conn.blockAccounted = false :=
    fun conn => unaccounted_number
  obtain ⟨hmalicious, hblocked, hmax⟩ :=
    ConnectionsRegister.counters_newConnections h.tracks.holds hall
  rw [hcounts.numMalicious] at hmalicious
  rw [hcounts.numBlocked] at hblocked
  have hmaliciousNow := s.countP_newConnections (p := (·.isBlacklisted)) (fun _ => rfl) new
  have hblockedNow := s.countP_newConnections (p := (·.isBlocked)) (fun _ => rfl) new
  have hnone : ((s.rolling new).all fun conn => !conn.isBlocked) = true ↔
      (s.rolling new).countP (·.isBlocked) = 0 := by
    rw [List.countP_eq_zero, List.all_eq_true]
    simp only [Bool.not_eq_true', Bool.not_eq_true]
  rw [htracks.inv_iff, htracks.counted_iff, hnone]
  constructor
  · intro hc
    have hnow := hblocked.symm.trans hc.numBlocked
    omega
  · intro hzero
    refine ⟨hmalicious.trans ?_, hblocked.trans ?_, hmax hcounts.maxBytes⟩
    · rw [rolling] at hmaliciousNow
      omega
    · omega

theorem Inv.connectionsUpdates (h : s.Inv) {updates : List ConnectionUpdate}
    (hadmissible : s.reg.allUpdates nonDecreasing updates = true) :
    (s.step (.connectionsUpdates updates)).Inv := by
  obtain ⟨l', htracks, hcounts⟩ := h.tracks.connectionsUpdates h.counts hadmissible
    fun reg l i conn u hholds haccounted hcounts hi hu =>
      hcounts.updateConn hi (haccounted conn (List.mem_of_getElem? hi)) hu _
  exact htracks.inv_iff.mpr (htracks.counted_iff.mpr hcounts)

/-- After a reset the counters are those of no connections exactly if they were. -/
theorem Inv.reset (h : s.Inv) : s.reset.Inv ↔ s.uncounted = true := by
  have htracks := h.tracks.reset
  have hcounts := h.counts
  have huncounted : s.uncounted = true ↔ s.tracked.countP (·.isBlacklisted) = 0 ∧
      s.tracked.countP (·.isBlocked) = 0 ∧ largest s.tracked ≤ 0 := by
    rw [uncounted, List.all_eq_true, List.countP_eq_zero, List.countP_eq_zero, largest_le_iff,
      ← forall₂_and, ← forall₂_and]
    simp only [Bool.and_eq_true, Bool.not_eq_true', Bool.not_eq_true, decide_eq_true_eq,
      Nat.le_zero, and_assoc]
  rw [htracks.inv_iff, htracks.counted_iff, huncounted]
  constructor
  · intro hc
    have hmalicious : s.reg.numMalicious = 0 := hc.numMalicious
    have hblocked : s.reg.numBlocked = 0 := hc.numBlocked
    have hmax : s.reg.maxBytes = 0 := hc.maxBytes
    rw [hcounts.numMalicious] at hmalicious
    rw [hcounts.numBlocked] at hblocked
    rw [hcounts.maxBytes] at hmax
    exact ⟨Int.natCast_eq_zero.mp hmalicious, Int.natCast_eq_zero.mp hblocked, hmax.le⟩
  · rintro ⟨hmalicious, hblocked, hmax⟩
    refine ⟨?_, ?_, ?_⟩
    · exact hcounts.numMalicious.trans (congrArg _ hmalicious)
    · exact hcounts.numBlocked.trans (congrArg _ hblocked)
    · exact hcounts.maxBytes.trans (Nat.le_zero.mp hmax)

theorem Inv.step_iff (h : s.Inv) {action : RegisterAction}
    (hadmissible : s.admissible action = true) :
    (s.step action).Inv ↔ s.fits action = true := by
  cases action with
  | newConnections new => exact h.newConnections new
  | connectionsUpdates updates => exact iff_of_true (h.connectionsUpdates hadmissible) rfl
  | reset => exact h.reset
  | resetIfMany =>
    rw [step, fits, Bool.or_eq_true, decide_eq_true_eq]
    split
    case isTrue hmany => rw [h.reset, or_iff_right (Nat.not_le.mpr hmany)]
    case isFalse hfew => exact iff_of_true h (Or.inl (Nat.not_lt.mp hfew))

/-- The register answers for the connections it tracks all along exactly if no blocked connection
rolls out, and there is no reset while something is counted. -/
theorem everyState_counted_iff (size : Nat) (newConnId : Int) (actions : List RegisterAction)
    (hadmissible : EveryStep step (fun s action => s.admissible action = true)
      (started size newConnId) actions) :
    EveryState step Counted (started size newConnId) actions ↔
      EveryStep step (fun s action => s.fits action = true) (started size newConnId) actions := by
  have hgives : ∀ s : Capturing, s.Inv → s.Counted := fun s h => h.counted
  have hgood : ∀ (s : Capturing) (action : RegisterAction), s.Inv → s.admissible action = true →
      ((s.step action).Counted ↔ s.fits action = true) := by
    intro s action h ha
    rw [← h.step_iff ha]
    refine ⟨fun hc => ?_, fun hinv => hinv.counted⟩
    obtain ⟨l, htracks⟩ := h.tracks.tracks_step action
    exact htracks.inv_iff.mpr hc
  exact everyState_iff_everyStep_of_admissible hgives hgood
    (fun s action h ha hfits => (h.step_iff ha).mpr hfits) (inv_started size newConnId) actions
    hadmissible

/-- A malicious connection rolls out. -/
theorem everyState_counted_malicious : EveryState step Counted (started 1 0)
    [.newConnections [⟨10001, 5, none⟩],
      .connectionsUpdates [(ConnectionUpdate.new 0).setStats 6 40 60 0x0100],
      .newConnections [⟨10002, 7, none⟩]] :=
  (everyState_counted_iff 1 0 _ (by decide)).mpr (by decide)

/-- A blocked connection rolls out, and a malicious one is reset: both are still counted. -/
theorem rolledOut_stays_counted :
    ¬ (∀ (size : Nat) (newConnId : Int) (actions : List RegisterAction),
      EveryStep step (fun s action => s.admissible action = true) (started size newConnId) actions →
        EveryState step Counted (started size newConnId) actions) ∧
      ¬ EveryState step Counted (started 1 0)
        [.newConnections [⟨10001, 5, some ((ConnectionUpdate.new 0).setStats 5 40 0 0x0400)⟩],
          .newConnections [⟨10002, 7, none⟩]] ∧
      ¬ EveryState step Counted (started 1 0)
        [.newConnections [⟨10001, 5, some ((ConnectionUpdate.new 0).setStats 5 40 0 0x0100)⟩],
          .reset] := by
  have hrolledOut : ¬ EveryState step Counted (started 1 0)
      [.newConnections [⟨10001, 5, some ((ConnectionUpdate.new 0).setStats 5 40 0 0x0400)⟩],
        .newConnections [⟨10002, 7, none⟩]] :=
    fun h => absurd h.last.numBlocked (by decide)
  refine ⟨fun h => hrolledOut (h 1 0 _ (by decide)), hrolledOut, fun h => ?_⟩
  exact absurd h.last.numMalicious (by decide)

end Capturing

end SecureGuard.Capture
