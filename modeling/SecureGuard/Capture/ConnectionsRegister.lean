import SecureGuard.Lib.Machine
import SecureGuard.Lib.RingBuffer

/-! # The register of connections

The application keeps the last connections in a ring and finds them by their ids, which the
native side numbers. It counts those that are malicious or blocked, keeps the largest size among
them, and adds up the traffic of each app. -/

namespace SecureGuard.Capture
open RingBuffer

/-! ## Connections and updates -/

/-- The parts of a connection that the register reads or writes. -/
structure ConnectionDescriptor where
  incrId : Int
  uid : Int
  lastSeen : Int
  sentBytes : Nat
  rcvdBytes : Nat
  isBlocked : Bool
  blacklistedIp : Bool
  blacklistedHost : Bool
  alerted : Bool
  blockAccounted : Bool
deriving DecidableEq, Repr

namespace ConnectionDescriptor

def isBlacklisted (conn : ConnectionDescriptor) : Bool := conn.blacklistedIp || conn.blacklistedHost

def totBytes (conn : ConnectionDescriptor) : Nat := conn.sentBytes + conn.rcvdBytes

end ConnectionDescriptor

/-- `UPDATE_STATS`, `UPDATE_INFO` and `UPDATE_PAYLOAD`. -/
def updateStats : Nat := 0x1

def updateInfo : Nat := 0x2

def updatePayload : Nat := 0x4

/-- The fields are those of the statistics, zero until they are set. -/
structure ConnectionUpdate where
  incrId : Int
  updateType : Nat
  lastSeen : Int
  sentBytes : Nat
  rcvdBytes : Nat
  status : Nat
  unset : updateType &&& updateStats = 0 → sentBytes = 0 ∧ rcvdBytes = 0

namespace ConnectionUpdate

def new (incrId : Int) : ConnectionUpdate := ⟨incrId, 0, 0, 0, 0, 0, fun _ => ⟨rfl, rfl⟩⟩

def setStats (u : ConnectionUpdate) (lastSeen : Int) (sentBytes rcvdBytes status : Nat) :
    ConnectionUpdate where
  incrId := u.incrId
  updateType := u.updateType ||| updateStats
  lastSeen := lastSeen
  sentBytes := sentBytes
  rcvdBytes := rcvdBytes
  status := status
  unset := by
    intro h
    rw [Nat.and_or_distrib_right, Nat.and_self, updateStats, Nat.or_eq_zero_iff] at h
    cases h.2

/-- `setInfo`, and `setPayload`: what they bring is not kept here. -/
def setOther (u : ConnectionUpdate) (flag : Nat) (h : flag &&& updateStats = 0) :
    ConnectionUpdate where
  incrId := u.incrId
  updateType := u.updateType ||| flag
  lastSeen := u.lastSeen
  sentBytes := u.sentBytes
  rcvdBytes := u.rcvdBytes
  status := u.status
  unset := by
    intro hstats
    rw [Nat.and_or_distrib_right, h, Nat.or_zero] at hstats
    exact u.unset hstats

def setInfo (u : ConnectionUpdate) : ConnectionUpdate := u.setOther updateInfo rfl

def setPayload (u : ConnectionUpdate) : ConnectionUpdate := u.setOther updatePayload rfl

def hasStats (u : ConnectionUpdate) : Bool := u.updateType &&& updateStats ≠ 0

def totBytes (u : ConnectionUpdate) : Nat := u.sentBytes + u.rcvdBytes

end ConnectionUpdate

/-- Only the statistics of an update reach the fields that are kept here. -/
def ConnectionDescriptor.processUpdate (conn : ConnectionDescriptor) (u : ConnectionUpdate) :
    ConnectionDescriptor :=
  if u.hasStats then
    { conn with
      sentBytes := u.sentBytes
      rcvdBytes := u.rcvdBytes
      isBlocked := u.status &&& 0x0400 ≠ 0
      blacklistedHost := u.status &&& 0x0200 ≠ 0
      blacklistedIp := u.status &&& 0x0100 ≠ 0
      lastSeen := u.lastSeen }
  else conn

/-! ## The register -/

structure AppStats where
  sentBytes : Int := 0
  rcvdBytes : Int := 0
  numConnections : Int := 0
  numBlockedConnections : Int := 0
deriving DecidableEq, Repr

structure ConnectionsRegister where
  ring : Buffer ConnectionDescriptor
  untrackedItems : Int
  numMalicious : Int
  numBlocked : Int
  lastFirewallBlock : Int
  maxBytes : Nat
  appsStats : Int → Option AppStats

/-- A counter of the connections in some state, for one that was or was not counted. -/
def recount (counted now : Bool) (n : Int) : Int :=
  if !counted && now then n + 1 else if counted && !now then n - 1 else n

/-- Whether it is counted then. -/
def counted (was now : Bool) : Bool :=
  if !was && now then true else if was && !now then false else was

theorem counted_eq (was now : Bool) : counted was now = now := by cases was <;> cases now <;> rfl

namespace ConnectionsRegister

def created (size : Nat) : ConnectionsRegister := ⟨Buffer.empty size, 0, 0, 0, 0, 0, fun _ => none⟩

def getAppsStatsOrCreate (reg : ConnectionsRegister) (uid : Int) : AppStats :=
  (reg.appsStats uid).getD {}

def putStats (reg : ConnectionsRegister) (uid : Int) (stats : AppStats) : ConnectionsRegister :=
  { reg with appsStats := fun u => if u = uid then some stats else reg.appsStats u }

def processConnectionStatus (reg : ConnectionsRegister) (conn : ConnectionDescriptor)
    (stats : AppStats) : ConnectionsRegister × ConnectionDescriptor × AppStats :=
  ({ reg with
      numMalicious := recount conn.alerted conn.isBlacklisted reg.numMalicious
      numBlocked := recount conn.blockAccounted conn.isBlocked reg.numBlocked
      lastFirewallBlock :=
        if conn.isBlocked then max conn.lastSeen reg.lastFirewallBlock
        else reg.lastFirewallBlock },
    { conn with
      alerted := counted conn.alerted conn.isBlacklisted
      blockAccounted := counted conn.blockAccounted conn.isBlocked },
    { stats with
      numBlockedConnections :=
        recount conn.blockAccounted conn.isBlocked stats.numBlockedConnections })

/-- An old connection is removed: `numMalicious`, and `recalcMaxBytes`. -/
def removeOld (maxBytes : Nat) (acc : Int × Bool) : Option ConnectionDescriptor → Int × Bool
  | none => acc
  | some conn =>
    (if conn.isBlacklisted then acc.1 - 1 else acc.1, acc.2 || conn.totBytes = maxBytes)

/-- A new connection is added; the second part is `recalcMaxBytes`. -/
def addNew (acc : ConnectionsRegister × Bool) (conn : ConnectionDescriptor) :
    ConnectionsRegister × Bool :=
  let reg := acc.1
  let status := reg.processConnectionStatus conn (reg.getAppsStatsOrCreate conn.uid)
  let stats := { status.2.2 with
    numConnections := status.2.2.numConnections + 1
    rcvdBytes := status.2.2.rcvdBytes + conn.rcvdBytes
    sentBytes := status.2.2.sentBytes + conn.sentBytes }
  ({ status.1.putStats conn.uid stats with
      ring := reg.ring.put status.2.1
      maxBytes := if reg.maxBytes < conn.totBytes then conn.totBytes else reg.maxBytes },
    if reg.maxBytes < conn.totBytes then false else acc.2)

def calculateMaxBytes (reg : ConnectionsRegister) : ConnectionsRegister :=
  { reg with
    maxBytes := (List.range reg.ring.count).foldl
      (fun maxBytes pos => (reg.ring.item pos).elim maxBytes fun conn => max maxBytes conn.totBytes)
      0 }

/-- The last connections of a batch that is larger than the ring. -/
def mostRecent (reg : ConnectionsRegister) (conns : List ConnectionDescriptor) :
    List ConnectionDescriptor := conns.drop (conns.length - reg.ring.size)

/-- `out_items`, of a batch that is not larger than the ring. -/
def outItems (reg : ConnectionsRegister) (conns : List ConnectionDescriptor) : Nat :=
  conns.length - min (reg.ring.size - reg.ring.count) conns.length

def newConnections (reg : ConnectionsRegister) (all : List ConnectionDescriptor) :
    ConnectionsRegister :=
  let conns := reg.mostRecent all
  let removedItems :=
    (List.range (reg.outItems conns)).map fun i => reg.ring.item (reg.ring.posOf i)
  let removed := removedItems.foldl (removeOld reg.maxBytes) (reg.numMalicious, false)
  let added := conns.foldl addNew
    ({ reg with
        numMalicious := removed.1
        untrackedItems := reg.untrackedItems + (all.length - conns.length : Int) +
          reg.outItems conns },
      removed.2)
  if added.2 then added.1.calculateMaxBytes else added.1

/-- An update of the connection at `pos`. -/
def updateConn (reg : ConnectionsRegister) (pos : Nat) (conn : ConnectionDescriptor)
    (u : ConnectionUpdate) : ConnectionsRegister :=
  let stats := reg.getAppsStatsOrCreate conn.uid
  let stats := { stats with
    sentBytes := stats.sentBytes + ((u.sentBytes : Int) - conn.sentBytes)
    rcvdBytes := stats.rcvdBytes + ((u.rcvdBytes : Int) - conn.rcvdBytes) }
  let status := { reg with
    maxBytes := max reg.maxBytes u.totBytes }.processConnectionStatus (conn.processUpdate u) stats
  { status.1.putStats conn.uid status.2.2 with ring := reg.ring.replace pos status.2.1 }

/-- The position of the connection with the id, if it is tracked. -/
def posOfId (firstId : Int) (reg : ConnectionsRegister) (incrId : Int) : Nat :=
  ((incrId - firstId).toNat + reg.ring.firstPos) % reg.ring.size

/-- An update is for a connection that is tracked, or is ignored. -/
def update (firstId lastId : Int) (reg : ConnectionsRegister) (u : ConnectionUpdate) :
    ConnectionsRegister :=
  if firstId ≤ u.incrId ∧ u.incrId ≤ lastId then
    let pos := reg.posOfId firstId u.incrId
    (reg.ring.item pos).elim reg fun conn => reg.updateConn pos conn u
  else reg

def connectionsUpdates (reg : ConnectionsRegister) (updates : List ConnectionUpdate) :
    ConnectionsRegister :=
  if reg.ring.count = 0 then reg
  else (reg.ring.item reg.ring.firstPos).elim reg fun first =>
    (reg.ring.item reg.ring.lastPos).elim reg fun last =>
      updates.foldl (update first.incrId last.incrId) reg

def reset (reg : ConnectionsRegister) : ConnectionsRegister :=
  { reg with
    ring := Buffer.empty reg.ring.size
    untrackedItems := 0
    appsStats := fun _ => none }

def getConn (reg : ConnectionsRegister) (i : Int) : Option ConnectionDescriptor :=
  if i < 0 ∨ (reg.ring.count : Int) ≤ i then none
  else reg.ring.item ((reg.ring.firstPos + i.toNat) % reg.ring.size)

def getConnPositionById (reg : ConnectionsRegister) (incrId : Int) : Int :=
  if reg.ring.count = 0 then -1
  else (reg.ring.item reg.ring.firstPos).elim (-1) fun first =>
    (reg.ring.item reg.ring.lastPos).elim (-1) fun last =>
      if incrId < first.incrId ∨ last.incrId < incrId then -1 else incrId - first.incrId

def getConnById (reg : ConnectionsRegister) (incrId : Int) : Option ConnectionDescriptor :=
  let pos := reg.getConnPositionById incrId
  if pos < 0 then none else reg.getConn pos

end ConnectionsRegister

/-! ## A capture -/

/-- A connection that the native side has not handed over yet, with its first update. -/
structure NewConn where
  uid : Int
  firstSeen : Int
  update : Option ConnectionUpdate

def NewConn.descriptor (incrId : Int) (new : NewConn) : ConnectionDescriptor :=
  let conn := ⟨incrId, new.uid, new.firstSeen, 0, 0, false, false, false, false, false⟩
  new.update.elim conn conn.processUpdate

/-- The native side numbers its connections one after the other. -/
def number : Int → List NewConn → List ConnectionDescriptor
  | _, [] => []
  | incrId, new :: conns => new.descriptor incrId :: number (incrId + 1) conns

/-- The register, the next number, and the connections that have rolled out since the last reset,
as they were then. -/
structure Capturing where
  reg : ConnectionsRegister
  newConnId : Int
  rolledOut : List ConnectionDescriptor

inductive RegisterAction
  | newConnections (conns : List NewConn)
  | connectionsUpdates (updates : List ConnectionUpdate)
  | reset
  | resetIfMany

namespace Capturing

/-- The connections in the register, the oldest first. -/
def tracked (s : Capturing) : List ConnectionDescriptor := s.reg.ring.items

def newConnections (s : Capturing) (new : List NewConn) : Capturing where
  reg := s.reg.newConnections (number s.newConnId new)
  newConnId := s.newConnId + new.length
  rolledOut := s.rolledOut ++
    s.tracked.take (s.reg.outItems (s.reg.mostRecent (number s.newConnId new)))

def reset (s : Capturing) : Capturing := { s with reg := s.reg.reset, rolledOut := [] }

def step (s : Capturing) : RegisterAction → Capturing
  | .newConnections conns => s.newConnections conns
  | .connectionsUpdates updates => { s with reg := s.reg.connectionsUpdates updates }
  | .reset => s.reset
  | .resetIfMany => if 5000 < s.reg.ring.count then s.reset else s

def started (size : Nat) (newConnId : Int) : Capturing :=
  ⟨ConnectionsRegister.created size, newConnId, []⟩

/-- One item of `connUpdateWork`. -/
def connUpdateWork (s : Capturing) (newConns : List NewConn) (updates : List ConnectionUpdate) :
    Capturing :=
  let s := if newConns = [] then s else s.newConnections newConns
  let s := if updates = [] then s else { s with reg := s.reg.connectionsUpdates updates }
  if 5000 < s.reg.ring.count then s.reset else s

end Capturing

/-! ## What is tracked -/

/-- The connection as the register keeps it. -/
def ConnectionDescriptor.accounted (conn : ConnectionDescriptor) : ConnectionDescriptor :=
  { conn with alerted := conn.isBlacklisted, blockAccounted := conn.isBlocked }

/-- The connections have consecutive ids. -/
def Numbered (first : Int) (l : List ConnectionDescriptor) : Prop :=
  ∀ (i : Nat) (conn : ConnectionDescriptor), l[i]? = some conn → conn.incrId = first + i

theorem ConnectionDescriptor.incrId_processUpdate (conn : ConnectionDescriptor)
    (u : ConnectionUpdate) : (conn.processUpdate u).incrId = conn.incrId := by
  rw [processUpdate]
  split <;> rfl

theorem NewConn.incrId_descriptor (incrId : Int) (new : NewConn) :
    (new.descriptor incrId).incrId = incrId := by
  rw [descriptor]
  cases new.update with
  | none => rfl
  | some u => exact ConnectionDescriptor.incrId_processUpdate _ u

theorem length_number (incrId : Int) (new : List NewConn) :
    (number incrId new).length = new.length := by
  induction new generalizing incrId with
  | nil => rfl
  | cons n new ih => rw [number, List.length_cons, List.length_cons, ih]

section Numbered

variable {first : Int} {l : List ConnectionDescriptor} {conn : ConnectionDescriptor}

theorem numbered_number (incrId : Int) (new : List NewConn) :
    Numbered incrId (number incrId new) := by
  induction new generalizing incrId with
  | nil => exact fun i conn hi => by cases hi
  | cons n new ih =>
    intro i conn hi
    cases i with
    | zero =>
      cases hi
      rw [n.incrId_descriptor]
      exact (Int.add_zero incrId).symm
    | succ i =>
      have := ih (incrId + 1) i conn hi
      push_cast
      omega

theorem Numbered.map_accounted (h : Numbered first l) : Numbered first (l.map (·.accounted)) := by
  intro i conn hi
  rw [List.getElem?_map, Option.map_eq_some_iff] at hi
  obtain ⟨c, hc, rfl⟩ := hi
  exact h i c hc

theorem Numbered.append (h : Numbered first l) {l' : List ConnectionDescriptor}
    (h' : Numbered (first + l.length) l') : Numbered first (l ++ l') := by
  intro i conn hi
  rw [List.getElem?_append] at hi
  split at hi
  case isTrue => exact h i conn hi
  case isFalse hge =>
    have := h' _ conn hi
    omega

theorem Numbered.drop (h : Numbered first l) (k : Nat) : Numbered (first + k) (l.drop k) := by
  intro i conn hi
  rw [List.getElem?_drop] at hi
  have := h _ conn hi
  push_cast at this
  omega

theorem Numbered.set (h : Numbered first l) {i : Nat} (hi : l[i]? = some conn)
    {conn' : ConnectionDescriptor} (hid : conn'.incrId = conn.incrId) :
    Numbered first (l.set i conn') := by
  intro j c hj
  rw [List.getElem?_set] at hj
  split at hj
  case isTrue heq =>
    split at hj
    · cases hj
      rw [hid, ← heq]
      exact h i conn hi
    · cases hj
  case isFalse => exact h j c hj

end Numbered

namespace ConnectionsRegister

variable {reg : ConnectionsRegister} {first : Int} {l : List ConnectionDescriptor}
  {conn : ConnectionDescriptor}

theorem processConnectionStatus_conn (reg : ConnectionsRegister) (conn : ConnectionDescriptor)
    (stats : AppStats) : (reg.processConnectionStatus conn stats).2.1 = conn.accounted := by
  simp only [processConnectionStatus, counted_eq, ConnectionDescriptor.accounted]

theorem ring_foldl_addNew (conns : List ConnectionDescriptor) (acc : ConnectionsRegister × Bool) :
    (conns.foldl addNew acc).1.ring =
      (conns.map (·.accounted)).foldl Buffer.put acc.1.ring := by
  induction conns generalizing acc with
  | nil => rfl
  | cons conn conns ih =>
    rw [List.foldl_cons, ih, List.map_cons, List.foldl_cons]
    congr 1
    rw [addNew, processConnectionStatus_conn]

theorem ring_newConnections (all : List ConnectionDescriptor) : (reg.newConnections all).ring =
    ((reg.mostRecent all).map (·.accounted)).foldl Buffer.put reg.ring := by
  rw [newConnections]
  split
  · exact ring_foldl_addNew _ _
  · exact ring_foldl_addNew _ _

theorem length_mostRecent (all : List ConnectionDescriptor) :
    (reg.mostRecent all).length = min all.length reg.ring.size := by
  rw [mostRecent, List.length_drop]
  omega

/-- The connections that stay and those that are added are the last ones of all. -/
theorem kept_eq (h : reg.ring.Holds l) (all : List ConnectionDescriptor) :
    (l ++ all.map (·.accounted)).drop (l.length + all.length - reg.ring.size) =
      l.drop (reg.outItems (reg.mostRecent all)) ++ (reg.mostRecent all).map (·.accounted) := by
  have hlen := h.length
  have hle := h.le
  have hrecent := reg.length_mostRecent all
  by_cases hlarge : all.length ≤ reg.ring.size
  · have hall : reg.mostRecent all = all := by
      rw [mostRecent, Nat.sub_eq_zero_of_le hlarge, List.drop_zero]
    have hout : reg.outItems all = l.length + all.length - reg.ring.size := by
      rw [outItems]
      omega
    rw [hall, hout, List.drop_append_of_le_length (by omega)]
  · have hout : reg.outItems (reg.mostRecent all) = l.length := by
      rw [outItems, hrecent]
      omega
    have hsum : l.length + all.length - reg.ring.size =
        l.length + (all.length - reg.ring.size) := by omega
    rw [hout, List.drop_length, List.nil_append, hsum, ← List.drop_drop, List.drop_left, mostRecent,
      List.map_drop]

theorem holds_newConnections (h : reg.ring.Holds l) (all : List ConnectionDescriptor) :
    (reg.newConnections all).ring.Holds
      (l.drop (reg.outItems (reg.mostRecent all)) ++ (reg.mostRecent all).map (·.accounted)) := by
  have hlen := h.length
  have hle := h.le
  have hrecent := reg.length_mostRecent all
  rw [ring_newConnections]
  obtain hzero | hpos := Nat.eq_zero_or_pos reg.ring.size
  · have hnone : reg.mostRecent all = [] := List.length_eq_zero_iff.mp (by omega)
    have hnil : l = [] := List.length_eq_zero_iff.mp (by omega)
    subst hnil
    rw [hnone, List.map_nil, List.foldl_nil, List.append_nil, List.drop_nil]
    exact h
  · have hputs := h.puts ((reg.mostRecent all).map (·.accounted)) hpos
    have hout : reg.outItems (reg.mostRecent all) =
        l.length + (reg.mostRecent all).length - reg.ring.size := by
      rw [outItems]
      omega
    rw [List.length_map, ← hout, List.drop_append_of_le_length (by omega)] at hputs
    exact hputs

theorem foldl_removeOld (maxBytes : Nat) (acc : Int × Bool) (l : List ConnectionDescriptor) :
    (l.map some).foldl (removeOld maxBytes) acc =
      (acc.1 - l.countP (·.isBlacklisted),
        acc.2 || l.any fun conn => conn.totBytes = maxBytes) := by
  induction l generalizing acc with
  | nil => simp
  | cons conn l ih =>
    rw [List.map_cons, List.foldl_cons, ih, List.countP_cons, List.any_cons, removeOld,
      Bool.or_assoc]
    refine Prod.ext ?_ rfl
    simp only
    split <;> push_cast <;> omega

/-- The items at the positions that are removed. -/
theorem removed_eq (h : reg.ring.Holds l) {k : Nat} (hk : k ≤ l.length) :
    (List.range k).map (fun i => reg.ring.item (reg.ring.posOf i)) = (l.take k).map some := by
  have hlen := h.length
  refine List.ext_getElem? fun i => ?_
  rw [List.getElem?_map, List.getElem?_map, List.getElem?_take]
  by_cases hi : i < k
  · have hget := List.getElem?_eq_getElem (show i < l.length by omega)
    rw [if_pos hi, List.getElem?_range hi, hget, Option.map_some, h.item i (by omega), hget]
    rfl
  · rw [if_neg hi, List.getElem?_eq_none (by simpa using hi)]
    rfl

/-- But for the malicious and the untracked connections, a register before a batch is added is as
it was. -/
structure Started (reg : ConnectionsRegister) (out : List ConnectionDescriptor)
    (start : ConnectionsRegister) : Prop where
  ring : start.ring = reg.ring
  numMalicious : start.numMalicious = reg.numMalicious - out.countP (·.isBlacklisted)
  numBlocked : start.numBlocked = reg.numBlocked
  maxBytes : start.maxBytes = reg.maxBytes
  appsStats : start.appsStats = reg.appsStats

/-- A batch is added once the old connections are removed. -/
theorem newConnections_eq (h : reg.ring.Holds l) (all : List ConnectionDescriptor) :
    ∃ acc, reg.Started (l.take (reg.outItems (reg.mostRecent all))) acc.1 ∧
      acc.2 = (l.take (reg.outItems (reg.mostRecent all))).any
        (fun conn => conn.totBytes = reg.maxBytes) ∧
      reg.newConnections all = if ((reg.mostRecent all).foldl addNew acc).2 then
        ((reg.mostRecent all).foldl addNew acc).1.calculateMaxBytes
        else ((reg.mostRecent all).foldl addNew acc).1 := by
  have hlen := h.length
  have hle := h.le
  have hout : reg.outItems (reg.mostRecent all) ≤ l.length := by
    rw [outItems, mostRecent, List.length_drop]
    omega
  rw [newConnections, removed_eq h hout, foldl_removeOld]
  exact ⟨_, ⟨rfl, rfl, rfl, rfl, rfl⟩, Bool.false_or _, rfl⟩

/-- The connection an update is for. -/
def found (firstId lastId : Int) (reg : ConnectionsRegister) (u : ConnectionUpdate) :
    Option ConnectionDescriptor :=
  if firstId ≤ u.incrId ∧ u.incrId ≤ lastId then reg.ring.item (reg.posOfId firstId u.incrId)
  else none

/-- What an update is for: a connection that is tracked, at its place, or none. -/
theorem update_cases (h : reg.ring.Holds l) (hn : Numbered first l) (u : ConnectionUpdate) :
    (found first (first + l.length - 1) reg u = none ∧
        update first (first + l.length - 1) reg u = reg ∧ ∀ conn ∈ l, conn.incrId ≠ u.incrId) ∨
      ∃ i conn, l[i]? = some conn ∧ conn.incrId = u.incrId ∧
        found first (first + l.length - 1) reg u = some conn ∧
        update first (first + l.length - 1) reg u = reg.updateConn (reg.ring.posOf i) conn u := by
  rw [update, found]
  split
  case isTrue hin =>
    obtain ⟨i, hi⟩ : ∃ i : Nat, u.incrId - first = i := ⟨(u.incrId - first).toNat, by omega⟩
    have hlt : i < l.length := by omega
    have hget : l[i]? = some l[i] := List.getElem?_eq_getElem hlt
    have hpos : reg.posOfId first u.incrId = reg.ring.posOf i := by
      rw [posOfId, hi, Int.toNat_natCast, Nat.add_comm]
      rfl
    have hitem : reg.ring.item (reg.ring.posOf i) = some l[i] := by
      rw [h.item i (h.length ▸ hlt), hget]
    refine Or.inr ⟨i, l[i], hget, ?_, ?_, ?_⟩
    · have := hn i _ hget
      omega
    · rw [hpos, hitem]
    · simp only [hpos, hitem, Option.elim_some]
  case isFalse hout =>
    refine Or.inl ⟨rfl, rfl, fun conn hmem heq => ?_⟩
    obtain ⟨i, hi⟩ := List.mem_iff_getElem?.mp hmem
    obtain ⟨hlt, -⟩ := List.getElem?_eq_some_iff.mp hi
    have := hn i conn hi
    omega

theorem holds_updateConn (h : reg.ring.Holds l) {i : Nat} (hi : l[i]? = some conn)
    (u : ConnectionUpdate) : (reg.updateConn (reg.ring.posOf i) conn u).ring.Holds
      (l.set i (conn.processUpdate u).accounted) := by
  obtain ⟨hlt, -⟩ := List.getElem?_eq_some_iff.mp hi
  have hreplace := h.replace (x := (conn.processUpdate u).accounted) (h.length ▸ hlt)
  rw [updateConn, processConnectionStatus_conn]
  exact hreplace

/-- The ids of the oldest and of the newest connection. -/
theorem ends_eq (h : reg.ring.Holds l) (hn : Numbered first l) (hcount : reg.ring.count ≠ 0) :
    ∃ oldest newest, reg.ring.item reg.ring.firstPos = some oldest ∧
      reg.ring.item reg.ring.lastPos = some newest ∧ oldest.incrId = first ∧
      newest.incrId = first + l.length - 1 := by
  have hlen := h.length
  have holdest := List.getElem?_eq_getElem (show 0 < l.length by omega)
  have hnewest := List.getElem?_eq_getElem (show l.length - 1 < l.length by omega)
  refine ⟨l[0], l[l.length - 1], ?_, ?_, (hn _ _ holdest).trans (Int.add_zero first), ?_⟩
  · rw [h.item_firstPos (by omega), List.head?_eq_getElem?, holdest]
  · rw [h.item_lastPos (by omega), List.getLast?_eq_getElem?, hnewest]
  · have := hn _ _ hnewest
    omega

/-- `P` holds of every update with the connection it is for, as it is then. -/
def allFound (P : ConnectionDescriptor → ConnectionUpdate → Bool) (firstId lastId : Int) :
    ConnectionsRegister → List ConnectionUpdate → Bool
  | _, [] => true
  | reg, u :: updates => (reg.found firstId lastId u).all (fun conn => P conn u) &&
      allFound P firstId lastId (reg.update firstId lastId u) updates

def allUpdates (P : ConnectionDescriptor → ConnectionUpdate → Bool) (reg : ConnectionsRegister)
    (updates : List ConnectionUpdate) : Bool :=
  reg.ring.count = 0 || (reg.ring.item reg.ring.firstPos).all fun oldest =>
    (reg.ring.item reg.ring.lastPos).all fun newest =>
      reg.allFound P oldest.incrId newest.incrId updates

variable {P : ConnectionDescriptor → ConnectionUpdate → Bool}
  {R : ConnectionsRegister → List ConnectionDescriptor → Prop}

/-- Every update of a tracked connection that satisfies `P` keeps `R`. -/
def UpdatesKeep (P : ConnectionDescriptor → ConnectionUpdate → Bool)
    (R : ConnectionsRegister → List ConnectionDescriptor → Prop) : Prop :=
  ∀ (reg : ConnectionsRegister) (l : List ConnectionDescriptor) (i : Nat)
    (conn : ConnectionDescriptor) (u : ConnectionUpdate), reg.ring.Holds l → R reg l →
    l[i]? = some conn → P conn u = true →
    R (reg.updateConn (reg.ring.posOf i) conn u) (l.set i (conn.processUpdate u).accounted)

/-- What each update keeps, they keep together. -/
theorem foldl_update_induction (updates : List ConnectionUpdate) (h : reg.ring.Holds l)
    (hn : Numbered first l) (hR : R reg l)
    (hall : reg.allFound P first (first + l.length - 1) updates = true)
    (hkeeps : UpdatesKeep P R) :
    ∃ l', (updates.foldl (update first (first + l.length - 1)) reg).ring.Holds l' ∧
      Numbered first l' ∧ l'.length = l.length ∧
      R (updates.foldl (update first (first + l.length - 1)) reg) l' := by
  induction updates generalizing reg l with
  | nil => exact ⟨l, h, hn, rfl, hR⟩
  | cons u updates ih =>
    rw [allFound, Bool.and_eq_true] at hall
    obtain ⟨hu, hrest⟩ := hall
    rw [List.foldl_cons]
    obtain ⟨-, hsame, -⟩ | ⟨i, conn, hi, -, hfound, hupdate⟩ := update_cases h hn u
    · rw [hsame] at hrest ⊢
      exact ih h hn hR hrest
    · rw [hfound, Option.all_some] at hu
      rw [hupdate] at hrest ⊢
      have hlen : (l.set i (conn.processUpdate u).accounted).length = l.length :=
        List.length_set
      have hnext := ih (holds_updateConn h hi u) (hn.set hi (conn.incrId_processUpdate u))
        (hkeeps reg l i conn u h hR hi hu)
      rw [hlen] at hnext
      exact hnext hrest

theorem connectionsUpdates_induction (updates : List ConnectionUpdate) (h : reg.ring.Holds l)
    (hn : Numbered first l) (hR : R reg l) (hall : reg.allUpdates P updates = true)
    (hkeeps : UpdatesKeep P R) :
    ∃ l', (reg.connectionsUpdates updates).ring.Holds l' ∧ Numbered first l' ∧
      l'.length = l.length ∧ R (reg.connectionsUpdates updates) l' := by
  rw [connectionsUpdates]
  split
  case isTrue => exact ⟨l, h, hn, rfl, hR⟩
  case isFalse hcount =>
    obtain ⟨oldest, newest, hfirst, hlast, hold, hnew⟩ := ends_eq h hn hcount
    rw [allUpdates, decide_eq_false hcount, Bool.false_or, hfirst, hlast, Option.all_some,
      Option.all_some, hold, hnew] at hall
    rw [hfirst, hlast, Option.elim_some, Option.elim_some, hold, hnew]
    exact foldl_update_induction updates h hn hR hall hkeeps

theorem allFound_true (firstId lastId : Int) (updates : List ConnectionUpdate) :
    reg.allFound (fun _ _ => true) firstId lastId updates = true := by
  induction updates generalizing reg with
  | nil => rfl
  | cons u updates ih =>
    rw [allFound, ih, Bool.and_true]
    cases reg.found firstId lastId u <;> rfl

theorem allUpdates_true (updates : List ConnectionUpdate) :
    reg.allUpdates (fun _ _ => true) updates = true := by
  simp [allUpdates, allFound_true]

/-- A connection is found by its id exactly if it is tracked. -/
theorem getConnById_eq (h : reg.ring.Holds l) (hn : Numbered first l) (incrId : Int) :
    reg.getConnById incrId = l.find? fun conn => conn.incrId = incrId := by
  have hlen := h.length
  by_cases hin : first ≤ incrId ∧ incrId < first + l.length
  · obtain ⟨i, hi⟩ : ∃ i : Nat, incrId - first = i := ⟨(incrId - first).toNat, by omega⟩
    have hlt : i < l.length := by omega
    obtain ⟨oldest, newest, hfirst, hlast, hold, hnew⟩ := ends_eq h hn (by omega)
    have hpos : reg.getConnPositionById incrId = i := by
      rw [getConnPositionById, if_neg (by omega), hfirst, hlast, Option.elim_some,
        Option.elim_some, if_neg (by omega)]
      omega
    have hget : reg.getConnById incrId = some l[i] := by
      rw [getConnById, hpos, if_neg (by omega), getConn, if_neg (by omega), Int.toNat_natCast,
        ← List.getElem?_eq_getElem hlt]
      exact h.item i (by omega)
    rw [hget, eq_comm, List.find?_eq_some_iff_getElem]
    refine ⟨?_, i, hlt, rfl, fun j hj => ?_⟩
    · have := hn i _ (List.getElem?_eq_getElem hlt)
      exact decide_eq_true (by omega)
    · have := hn j _ (List.getElem?_eq_getElem (by omega))
      simp only [Bool.not_eq_true', decide_eq_false_iff_not]
      omega
  · have hpos : reg.getConnPositionById incrId = -1 := by
      rw [getConnPositionById]
      split
      · rfl
      · rename_i hcount
        obtain ⟨oldest, newest, hfirst, hlast, hold, hnew⟩ := ends_eq h hn hcount
        rw [hfirst, hlast, Option.elim_some, Option.elim_some, if_pos (by omega)]
    have hnone : l.find? (fun conn => conn.incrId = incrId) = none := by
      rw [List.find?_eq_none]
      intro conn hmem
      obtain ⟨i, hi⟩ := List.mem_iff_getElem?.mp hmem
      obtain ⟨hlt, -⟩ := List.getElem?_eq_some_iff.mp hi
      have := hn i conn hi
      simp only [decide_eq_true_eq]
      omega
    rw [getConnById, hpos, hnone]
    rfl

end ConnectionsRegister

namespace Capturing

variable {s : Capturing} {l : List ConnectionDescriptor}

/-- The register tracks these connections, the oldest first. -/
structure Tracks (s : Capturing) (l : List ConnectionDescriptor) : Prop where
  holds : s.reg.ring.Holds l
  numbered : Numbered (s.newConnId - l.length) l
  accounted : ∀ conn ∈ l, conn.accounted = conn

theorem Tracks.tracked_eq (h : s.Tracks l) : s.tracked = l := h.holds.items_eq

theorem tracks_started (size : Nat) (newConnId : Int) : (started size newConnId).Tracks [] where
  holds := Buffer.holds_empty size
  numbered := fun i conn hi => by cases hi
  accounted := fun conn hconn => by cases hconn

theorem Tracks.reset (_ : s.Tracks l) : s.reset.Tracks [] where
  holds := Buffer.holds_empty _
  numbered := fun i conn hi => by cases hi
  accounted := fun conn hconn => by cases hconn

theorem Tracks.newConnections (h : s.Tracks l) (new : List NewConn) :
    (s.newConnections new).Tracks
      (l.drop (s.reg.outItems (s.reg.mostRecent (number s.newConnId new))) ++
        (s.reg.mostRecent (number s.newConnId new)).map (·.accounted)) := by
  refine ⟨ConnectionsRegister.holds_newConnections h.holds _, ?_, fun conn hconn => ?_⟩
  · have hbatch : Numbered (s.newConnId - l.length + l.length)
        ((number s.newConnId new).map (·.accounted)) := by
      rw [Int.sub_add_cancel]
      exact (numbered_number s.newConnId new).map_accounted
    have hall := (h.numbered.append hbatch).drop (l.length + new.length - s.reg.ring.size)
    have hfirst : (s.newConnections new).newConnId = s.newConnId + new.length := rfl
    have hlen := h.holds.length
    have hle := h.holds.le
    have hkept := ConnectionsRegister.kept_eq h.holds (number s.newConnId new)
    rw [length_number] at hkept
    rw [← hkept, hfirst, List.length_drop, List.length_append, List.length_map, length_number]
    have heq : s.newConnId + (new.length : Int) - ((l.length + new.length -
        (l.length + new.length - s.reg.ring.size) : Nat) : Int) =
        s.newConnId - l.length + ((l.length + new.length - s.reg.ring.size : Nat) : Int) := by
      omega
    rw [heq]
    exact hall
  · obtain hold | hnew := List.mem_append.mp hconn
    · exact h.accounted conn (List.mem_of_mem_drop hold)
    · obtain ⟨c, -, rfl⟩ := List.mem_map.mp hnew
      rfl

/-- What the updates of tracked connections keep, a batch of them keeps. -/
theorem Tracks.connectionsUpdates {P : ConnectionDescriptor → ConnectionUpdate → Bool}
    {R : ConnectionsRegister → List ConnectionDescriptor → Prop} (h : s.Tracks l) (hR : R s.reg l)
    {updates : List ConnectionUpdate} (hall : s.reg.allUpdates P updates = true)
    (hstep : ∀ (reg : ConnectionsRegister) (l : List ConnectionDescriptor) (i : Nat)
      (conn : ConnectionDescriptor) (u : ConnectionUpdate), reg.ring.Holds l →
      (∀ conn ∈ l, conn.accounted = conn) → R reg l → l[i]? = some conn → P conn u = true →
      R (reg.updateConn (reg.ring.posOf i) conn u) (l.set i (conn.processUpdate u).accounted)) :
    ∃ l', (s.step (.connectionsUpdates updates)).Tracks l' ∧
      R (s.reg.connectionsUpdates updates) l' := by
  obtain ⟨l', hholds, hnumbered, hlen, haccounted, hR'⟩ :=
    ConnectionsRegister.connectionsUpdates_induction
      (R := fun reg l => (∀ conn ∈ l, conn.accounted = conn) ∧ R reg l) updates h.holds h.numbered
      ⟨h.accounted, hR⟩ hall (fun reg l i conn u hholds hR hi hP => by
        refine ⟨fun c hc => ?_, hstep reg l i conn u hholds hR.1 hR.2 hi hP⟩
        obtain hold | rfl := List.mem_or_eq_of_mem_set hc
        · exact hR.1 c hold
        · rfl)
  refine ⟨l', ⟨hholds, ?_, haccounted⟩, hR'⟩
  rw [hlen]
  exact hnumbered

theorem Tracks.tracks_step (h : s.Tracks l) (action : RegisterAction) :
    ∃ l', (s.step action).Tracks l' := by
  cases action with
  | newConnections new => exact ⟨_, h.newConnections new⟩
  | connectionsUpdates updates =>
    obtain ⟨l', htracks, -⟩ := h.connectionsUpdates (R := fun _ _ => True) trivial
      (ConnectionsRegister.allUpdates_true updates) fun _ _ _ _ _ _ _ _ _ _ => trivial
    exact ⟨l', htracks⟩
  | reset => exact ⟨[], h.reset⟩
  | resetIfMany =>
    rw [step]
    split
    · exact ⟨[], h.reset⟩
    · exact ⟨l, h⟩

/-- An item of the service is a run of its parts. -/
theorem connUpdateWork_eq_run (s : Capturing) (newConns : List NewConn)
    (updates : List ConnectionUpdate) : ∃ actions : List RegisterAction,
      s.connUpdateWork newConns updates = Machine.run step s actions := by
  refine ⟨(if newConns = [] then [] else [.newConnections newConns]) ++
    (if updates = [] then [] else [.connectionsUpdates updates]) ++ [.resetIfMany], ?_⟩
  rw [connUpdateWork]
  split <;> split <;> rfl

end Capturing

end SecureGuard.Capture
