import SecureGuard.Capture.ConnectionsRegister

/-! # The traffic of each app

For each app the register adds up the bytes of its connections: those a connection has when it is
added, and with every update the difference between the update and the connection. An update
without statistics has no bytes of its own, so that what the connection has is taken off. -/

namespace SecureGuard.Capture
open RingBuffer Machine

/-- The bytes of the connections of an app. -/
def total (bytes : ConnectionDescriptor → Nat) (uid : Int) (l : List ConnectionDescriptor) : Nat :=
  ((l.filter fun conn => conn.uid = uid).map bytes).sum

namespace Capturing

/-! ## What is to hold -/

/-- The connections since the last reset, as they are or were when they rolled out. -/
def inserted (s : Capturing) : List ConnectionDescriptor := s.rolledOut ++ s.tracked

/-- The totals of the apps are those of their connections. -/
structure Conserved (s : Capturing) : Prop where
  sentBytes : ∀ uid,
    (s.reg.getAppsStatsOrCreate uid).sentBytes = total (·.sentBytes) uid s.inserted
  rcvdBytes : ∀ uid,
    (s.reg.getAppsStatsOrCreate uid).rcvdBytes = total (·.rcvdBytes) uid s.inserted

/-- The update has statistics, or its connection no bytes. -/
def keepsBytes (conn : ConnectionDescriptor) (u : ConnectionUpdate) : Bool :=
  u.hasStats || (conn.sentBytes = 0 && conn.rcvdBytes = 0)

/-- No update without statistics is for a connection that has any bytes. -/
def keepsTotals (s : Capturing) : RegisterAction → Bool
  | .connectionsUpdates updates => s.reg.allUpdates keepsBytes updates
  | _ => true

end Capturing

/-! ## Both directions -/

inductive Direction
  | sent
  | rcvd

def AppStats.bytes (stats : AppStats) : Direction → Int
  | .sent => stats.sentBytes
  | .rcvd => stats.rcvdBytes

def ConnectionDescriptor.bytes (d : Direction) (conn : ConnectionDescriptor) : Nat :=
  match d with
  | .sent => conn.sentBytes
  | .rcvd => conn.rcvdBytes

def ConnectionUpdate.bytes (u : ConnectionUpdate) : Direction → Nat
  | .sent => u.sentBytes
  | .rcvd => u.rcvdBytes

section Total

variable {bytes : ConnectionDescriptor → Nat} {uid : Int} {l l' : List ConnectionDescriptor}
  {conn : ConnectionDescriptor}

theorem total_cons : total bytes uid (conn :: l) =
    (if conn.uid = uid then bytes conn else 0) + total bytes uid l := by
  rw [total, List.filter_cons]
  split
  case isTrue h => rw [if_pos (of_decide_eq_true h), List.map_cons, List.sum_cons]; rfl
  case isFalse h => rw [if_neg (fun huid => h (decide_eq_true huid)), Nat.zero_add]; rfl

theorem total_append : total bytes uid (l ++ l') = total bytes uid l + total bytes uid l' := by
  rw [total, List.filter_append, List.map_append, List.sum_append]
  rfl

/-- What a connection that is replaced by another one of its app adds. -/
theorem total_set {i : Nat} (hi : l[i]? = some conn) {x : ConnectionDescriptor}
    (huid : x.uid = conn.uid) : (total bytes uid (l.set i x) : Int) =
      total bytes uid l + if conn.uid = uid then (bytes x : Int) - bytes conn else 0 := by
  obtain ⟨hlt, hget⟩ := List.getElem?_eq_some_iff.mp hi
  have hsplit : l = l.take i ++ conn :: l.drop (i + 1) := by
    rw [← hget, List.getElem_cons_drop, List.take_append_drop]
  have hl := congrArg (total bytes uid) hsplit
  rw [total_append, total_cons] at hl
  rw [List.set_eq_take_append_cons_drop, if_pos hlt, total_append, total_cons, huid, hl]
  split <;> push_cast <;> omega

theorem total_map_accounted (d : Direction) :
    total (·.bytes d) uid (l.map (·.accounted)) = total (·.bytes d) uid l := by
  induction l with
  | nil => rfl
  | cons conn l ih =>
    rw [List.map_cons, total_cons, total_cons, ih]
    cases d <;> rfl

end Total

theorem ConnectionDescriptor.uid_processUpdate (conn : ConnectionDescriptor)
    (u : ConnectionUpdate) : (conn.processUpdate u).uid = conn.uid := by
  rw [processUpdate]
  split <;> rfl

/-- An update changes the bytes if it has statistics, and has none itself if not. -/
theorem ConnectionDescriptor.bytes_processUpdate (conn : ConnectionDescriptor)
    (u : ConnectionUpdate) (d : Direction) :
    (u.hasStats = true ∧ (conn.processUpdate u).bytes d = u.bytes d) ∨
      (u.hasStats = false ∧ (conn.processUpdate u).bytes d = conn.bytes d ∧ u.bytes d = 0) := by
  rw [processUpdate]
  cases hstats : u.hasStats with
  | true => exact Or.inl ⟨rfl, by cases d <;> rfl⟩
  | false =>
    have hzero := u.unset (by simpa [ConnectionUpdate.hasStats] using hstats)
    refine Or.inr ⟨rfl, rfl, ?_⟩
    cases d with
    | sent => exact hzero.1
    | rcvd => exact hzero.2

namespace ConnectionsRegister

variable {reg : ConnectionsRegister} {l old : List ConnectionDescriptor}
  {conn : ConnectionDescriptor} {first : Int}

theorem getAppsStatsOrCreate_putStats (uid uid' : Int) (stats : AppStats) :
    (reg.putStats uid stats).getAppsStatsOrCreate uid' =
      if uid' = uid then stats else reg.getAppsStatsOrCreate uid' := by
  simp only [getAppsStatsOrCreate, putStats]
  split <;> rfl

/-! ## New connections -/

theorem bytes_addNew (acc : ConnectionsRegister × Bool) (conn : ConnectionDescriptor)
    (d : Direction) (uid : Int) :
    ((addNew acc conn).1.getAppsStatsOrCreate uid).bytes d =
      (acc.1.getAppsStatsOrCreate uid).bytes d + if conn.uid = uid then conn.bytes d else 0 := by
  have hput : ∃ stats : AppStats, (addNew acc conn).1.getAppsStatsOrCreate uid =
      (if uid = conn.uid then stats else acc.1.getAppsStatsOrCreate uid) ∧
      stats.bytes d = (acc.1.getAppsStatsOrCreate conn.uid).bytes d + conn.bytes d := by
    refine ⟨_, getAppsStatsOrCreate_putStats _ _ _, ?_⟩
    cases d <;> rfl
  obtain ⟨stats, hget, hstats⟩ := hput
  rw [hget]
  by_cases huid : conn.uid = uid
  · rw [if_pos huid.symm, if_pos huid, hstats, huid]
  · rw [if_neg (Ne.symm huid), if_neg huid]
    exact (Int.add_zero _).symm

theorem bytes_foldl_addNew (conns : List ConnectionDescriptor) (acc : ConnectionsRegister × Bool)
    (d : Direction) (uid : Int) :
    ((conns.foldl addNew acc).1.getAppsStatsOrCreate uid).bytes d =
      (acc.1.getAppsStatsOrCreate uid).bytes d + total (·.bytes d) uid conns := by
  induction conns generalizing acc with
  | nil => exact (Int.add_zero _).symm
  | cons conn conns ih =>
    rw [List.foldl_cons, ih, bytes_addNew, total_cons]
    split <;> push_cast <;> omega

theorem bytes_newConnections (h : reg.ring.Holds l) (all : List ConnectionDescriptor)
    (d : Direction) (uid : Int) :
    ((reg.newConnections all).getAppsStatsOrCreate uid).bytes d =
      (reg.getAppsStatsOrCreate uid).bytes d + total (·.bytes d) uid (reg.mostRecent all) := by
  obtain ⟨acc, hstart, -, heq⟩ := newConnections_eq h all
  have hsame : acc.1.getAppsStatsOrCreate uid = reg.getAppsStatsOrCreate uid := by
    rw [getAppsStatsOrCreate, getAppsStatsOrCreate, hstart.appsStats]
  rw [heq, ← hsame, ← bytes_foldl_addNew]
  split <;> rfl

/-! ## Updates -/

/-- How far the total of an app is ahead of its connections, `old` being those that have rolled
out. -/
def ahead (reg : ConnectionsRegister) (old l : List ConnectionDescriptor) (d : Direction)
    (uid : Int) : Int :=
  (reg.getAppsStatsOrCreate uid).bytes d - total (·.bytes d) uid (old ++ l)

/-- An update takes off what its connection has if it has no statistics itself. -/
theorem ahead_updateConn {i : Nat} (hi : l[i]? = some conn) (u : ConnectionUpdate) (pos : Nat)
    (d : Direction) (uid : Int) :
    (reg.updateConn pos conn u).ahead old (l.set i (conn.processUpdate u).accounted) d uid =
      reg.ahead old l d uid -
        if conn.uid = uid ∧ u.hasStats = false then (conn.bytes d : Int) else 0 := by
  have hput : ∃ stats : AppStats, (reg.updateConn pos conn u).getAppsStatsOrCreate uid =
      (if uid = conn.uid then stats else reg.getAppsStatsOrCreate uid) ∧ stats.bytes d =
        (reg.getAppsStatsOrCreate conn.uid).bytes d + ((u.bytes d : Int) - conn.bytes d) := by
    refine ⟨_, getAppsStatsOrCreate_putStats _ _ _, ?_⟩
    cases d <;> rfl
  obtain ⟨stats, hget, hstats⟩ := hput
  have hbytes : (conn.processUpdate u).accounted.bytes d = (conn.processUpdate u).bytes d := by
    cases d <;> rfl
  have huid : (conn.processUpdate u).accounted.uid = conn.uid := conn.uid_processUpdate u
  rw [ahead, ahead, hget, total_append, total_append, Int.natCast_add, total_set hi huid, hbytes]
  by_cases hsame : conn.uid = uid
  · rw [if_pos hsame.symm, if_pos hsame, hstats, hsame]
    obtain ⟨hhas, hnew⟩ | ⟨hhas, hnew, hzero⟩ := conn.bytes_processUpdate u d
    · rw [if_neg (by simp [hhas]), hnew]
      omega
    · rw [if_pos ⟨rfl, hhas⟩, hnew, hzero]
      omega
  · rw [if_neg (Ne.symm hsame), if_neg hsame, if_neg (fun h => hsame h.1)]
    omega

def NotAhead (reg : ConnectionsRegister) (old l : List ConnectionDescriptor) : Prop :=
  ∀ d uid, reg.ahead old l d uid ≤ 0

def Exact (reg : ConnectionsRegister) (old l : List ConnectionDescriptor) : Prop :=
  ∀ d uid, reg.ahead old l d uid = 0

theorem NotAhead.updateConn (h : reg.NotAhead old l) {i : Nat} (hi : l[i]? = some conn)
    (u : ConnectionUpdate) (pos : Nat) :
    (reg.updateConn pos conn u).NotAhead old (l.set i (conn.processUpdate u).accounted) := by
  intro d uid
  have := h d uid
  rw [ahead_updateConn hi]
  split <;> omega

/-- What an update takes off never comes back. -/
theorem NotAhead.exact_updateConn_iff (h : reg.NotAhead old l) {i : Nat}
    (hi : l[i]? = some conn) (u : ConnectionUpdate) (pos : Nat) :
    (reg.updateConn pos conn u).Exact old (l.set i (conn.processUpdate u).accounted) ↔
      Capturing.keepsBytes conn u = true ∧ reg.Exact old l := by
  constructor
  · intro hexact
    have hboth : ∀ d uid, reg.ahead old l d uid = 0 ∧
        (conn.uid = uid ∧ u.hasStats = false → conn.bytes d = 0) := by
      intro d uid
      have hle := h d uid
      have hzero := hexact d uid
      rw [ahead_updateConn hi] at hzero
      split at hzero
      case isTrue => exact ⟨by omega, fun _ => by omega⟩
      case isFalse hno => exact ⟨by omega, fun hyes => absurd hyes hno⟩
    refine ⟨?_, fun d uid => (hboth d uid).1⟩
    rw [Capturing.keepsBytes]
    cases hstats : u.hasStats with
    | true => rfl
    | false =>
      have hsent : conn.sentBytes = 0 := (hboth .sent conn.uid).2 ⟨rfl, hstats⟩
      have hrcvd : conn.rcvdBytes = 0 := (hboth .rcvd conn.uid).2 ⟨rfl, hstats⟩
      simp [hsent, hrcvd]
  · rintro ⟨hkeeps, hexact⟩ d uid
    rw [ahead_updateConn hi, hexact d uid]
    split
    case isTrue hno =>
      have hzero : conn.sentBytes = 0 ∧ conn.rcvdBytes = 0 := by
        simpa [Capturing.keepsBytes, hno.2] using hkeeps
      cases d with
      | sent => simp [ConnectionDescriptor.bytes, hzero.1]
      | rcvd => simp [ConnectionDescriptor.bytes, hzero.2]
    case isFalse => rfl

/-- The totals are exact after some updates exactly if they were and each update keeps them. -/
theorem foldl_update_exact_iff (updates : List ConnectionUpdate) (h : reg.ring.Holds l)
    (hn : Numbered first l) (hle : reg.NotAhead old l) :
    ∃ l', (updates.foldl (update first (first + l.length - 1)) reg).ring.Holds l' ∧
      ((updates.foldl (update first (first + l.length - 1)) reg).Exact old l' ↔
        reg.allFound Capturing.keepsBytes first (first + l.length - 1) updates = true ∧
          reg.Exact old l) := by
  induction updates generalizing reg l with
  | nil => exact ⟨l, h, (and_iff_right rfl).symm⟩
  | cons u updates ih =>
    rw [List.foldl_cons, allFound, Bool.and_eq_true]
    obtain ⟨hnone, hsame, -⟩ | ⟨i, conn, hi, -, hfound, hupdate⟩ := update_cases h hn u
    · rw [hsame, hnone, Option.all_none, eq_self, true_and]
      exact ih h hn hle
    · have hlen : (l.set i (conn.processUpdate u).accounted).length = l.length :=
        List.length_set
      obtain ⟨l', hl', hiff⟩ := ih (holds_updateConn h hi u)
        (hn.set hi (conn.incrId_processUpdate u)) (hle.updateConn hi u _)
      rw [hlen, hle.exact_updateConn_iff hi] at hiff
      rw [hlen] at hl'
      rw [hupdate, hfound, Option.all_some]
      exact ⟨l', hl', hiff.trans (by tauto)⟩

/-- The totals are exact after a batch of updates exactly if they were and each update keeps
them. -/
theorem connectionsUpdates_exact_iff (updates : List ConnectionUpdate) (h : reg.ring.Holds l)
    (hn : Numbered first l) (hle : reg.NotAhead old l) :
    ∃ l', (reg.connectionsUpdates updates).ring.Holds l' ∧
      ((reg.connectionsUpdates updates).Exact old l' ↔
        reg.allUpdates Capturing.keepsBytes updates = true ∧ reg.Exact old l) := by
  rw [connectionsUpdates]
  by_cases hcount : reg.ring.count = 0
  · rw [if_pos hcount, allUpdates, decide_eq_true hcount, Bool.true_or]
    exact ⟨l, h, (and_iff_right rfl).symm⟩
  · obtain ⟨oldest, newest, hfirst, hlast, hold, hnew⟩ := ends_eq h hn hcount
    rw [if_neg hcount, allUpdates, decide_eq_false hcount, Bool.false_or, hfirst, hlast,
      Option.all_some, Option.all_some, Option.elim_some, Option.elim_some, hold, hnew]
    exact foldl_update_exact_iff updates h hn hle

end ConnectionsRegister

namespace Capturing

variable {s : Capturing} {l : List ConnectionDescriptor}

theorem conserved_iff (h : s.Tracks l) : s.Conserved ↔ s.reg.Exact s.rolledOut l := by
  have hzero : ∀ d uid, s.reg.ahead s.rolledOut l d uid = 0 ↔
      (s.reg.getAppsStatsOrCreate uid).bytes d = total (·.bytes d) uid s.inserted := by
    intro d uid
    rw [ConnectionsRegister.ahead, inserted, h.tracked_eq]
    omega
  constructor
  · rintro ⟨hsent, hrcvd⟩ d uid
    rw [hzero]
    cases d with
    | sent => exact hsent uid
    | rcvd => exact hrcvd uid
  · intro hexact
    exact ⟨fun uid => (hzero .sent uid).mp (hexact .sent uid),
      fun uid => (hzero .rcvd uid).mp (hexact .rcvd uid)⟩

/-- The register tracks some connections, and the totals are right. -/
structure Balanced (s : Capturing) : Prop where
  tracks : s.Tracks s.tracked
  conserved : s.Conserved

theorem balanced_iff (h : s.Tracks l) : s.Balanced ↔ s.Conserved := by
  refine ⟨Balanced.conserved, fun hc => ⟨?_, hc⟩⟩
  rw [h.tracked_eq]
  exact h

theorem Balanced.exact (h : s.Balanced) : s.reg.Exact s.rolledOut s.tracked :=
  (conserved_iff h.tracks).mp h.conserved

theorem balanced_started (size : Nat) (newConnId : Int) : (started size newConnId).Balanced :=
  ⟨tracks_started size newConnId, ⟨fun _ => rfl, fun _ => rfl⟩⟩

theorem Balanced.reset (h : s.Balanced) : s.reset.Balanced :=
  ⟨h.tracks.reset, ⟨fun _ => rfl, fun _ => rfl⟩⟩

/-- New connections add what they have; those that roll out keep what they had. -/
theorem Balanced.newConnections (h : s.Balanced) (new : List NewConn) :
    (s.newConnections new).Balanced := by
  have htracks := h.tracks.newConnections new
  rw [balanced_iff htracks, conserved_iff htracks]
  intro d uid
  have hbytes := ConnectionsRegister.bytes_newConnections h.tracks.holds
    (number s.newConnId new) d uid
  have hbefore := h.exact d uid
  have hall : ∀ k, s.rolledOut ++ s.tracked.take k ++ (s.tracked.drop k ++
      (s.reg.mostRecent (number s.newConnId new)).map (·.accounted)) = s.rolledOut ++ s.tracked ++
        (s.reg.mostRecent (number s.newConnId new)).map (·.accounted) := by
    intro k
    rw [List.append_assoc, ← List.append_assoc (s.tracked.take k), List.take_append_drop,
      ← List.append_assoc]
  have hreg : (s.newConnections new).reg = s.reg.newConnections (number s.newConnId new) := rfl
  have hrolled : (s.newConnections new).rolledOut = s.rolledOut ++
      s.tracked.take (s.reg.outItems (s.reg.mostRecent (number s.newConnId new))) := rfl
  rw [ConnectionsRegister.ahead] at hbefore
  rw [ConnectionsRegister.ahead, hreg, hrolled, hall, hbytes, total_append, total_map_accounted]
  push_cast
  omega

/-- Updates keep the totals exactly if each of them does. -/
theorem Balanced.connectionsUpdates (h : s.Balanced) (updates : List ConnectionUpdate) :
    (s.step (.connectionsUpdates updates)).Balanced ↔
      s.reg.allUpdates keepsBytes updates = true := by
  obtain ⟨l, htracks⟩ := h.tracks.tracks_step (.connectionsUpdates updates)
  obtain ⟨l', hl', hiff⟩ := ConnectionsRegister.connectionsUpdates_exact_iff updates
    h.tracks.holds h.tracks.numbered (fun d uid => (h.exact d uid).le)
  have hsame : l' = l := hl'.items_eq.symm.trans htracks.tracked_eq
  rw [balanced_iff htracks, conserved_iff htracks, ← hsame]
  exact hiff.trans (and_iff_left h.exact)

theorem Balanced.step_iff (h : s.Balanced) (action : RegisterAction) :
    (s.step action).Balanced ↔ s.keepsTotals action = true := by
  cases action with
  | newConnections new => exact iff_of_true (h.newConnections new) rfl
  | connectionsUpdates updates => exact h.connectionsUpdates updates
  | reset => exact iff_of_true h.reset rfl
  | resetIfMany =>
    refine iff_of_true ?_ rfl
    rw [step]
    split
    · exact h.reset
    · exact h

/-- The totals of the apps are those of their connections all along exactly if no update without
statistics is for a connection that has any bytes. -/
theorem everyState_conserved_iff (size : Nat) (newConnId : Int) (actions : List RegisterAction) :
    EveryState step Conserved (started size newConnId) actions ↔
      EveryStep step (fun s action => s.keepsTotals action = true) (started size newConnId)
        actions := by
  have hgives : ∀ s : Capturing, s.Balanced → s.Conserved := fun s h => h.conserved
  have hgood : ∀ (s : Capturing) (action : RegisterAction), s.Balanced →
      ((s.step action).Conserved ↔ s.keepsTotals action = true) := by
    intro s action h
    obtain ⟨l, htracks⟩ := h.tracks.tracks_step action
    rw [← h.step_iff action, balanced_iff htracks]
  exact everyState_iff_everyStep hgives hgood (fun s action h => (h.step_iff action).mpr)
    (balanced_started size newConnId) actions

/-- The host of a connection becomes known, and the app's traffic is taken off. -/
theorem setInfo_takes_bytes_off :
    ¬ (∀ (size : Nat) (newConnId : Int) (actions : List RegisterAction),
      EveryState step Conserved (started size newConnId) actions) ∧
      (run step (started 4 0)
        [.newConnections [⟨10001, 5, some ((ConnectionUpdate.new 0).setStats 5 40 60 0)⟩],
          .connectionsUpdates [(ConnectionUpdate.new 0).setInfo]]).reg.appsStats 10001 =
        some ⟨0, 0, 1, 0⟩ := by
  refine ⟨fun h => ?_, by decide⟩
  have hconserved := (h 4 0
    [.newConnections [⟨10001, 5, some ((ConnectionUpdate.new 0).setStats 5 40 60 0)⟩],
      .connectionsUpdates [(ConnectionUpdate.new 0).setInfo]]).last
  exact absurd (hconserved.sentBytes 10001) (by decide)

end Capturing

end SecureGuard.Capture
