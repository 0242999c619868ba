import SecureGuard.Lib.Machine
import SecureGuard.Native.PacketLoop

/-! # The deadline of the next connections dump

A first query of netd puts the dump off, so that the connection the query was made for may tell
its app. The deadline and the number of queries that wait are adjusted little by little, in three
functions; between two dumps the delay must be in the deadline once or not at all. -/

namespace SecureGuard.Native
open Machine

/-- A call of one of the three functions. Whatever the engine does besides may change everything
but the delay. -/
inductive DelayCall
  | performDpi (pkt : Packet) (isTx : Bool) (dpi : DpiResult) (data : PdConn)
  | pdNewConnection (tuple : Tuple) (uid : Int)
  | pdHousekeeping
  | other (pd : Pcapdroid)

def applyCall (pd : Pcapdroid) : DelayCall → Pcapdroid
  | .performDpi pkt isTx dpi data => (performDpi pd pkt isTx dpi data).1
  | .pdNewConnection tuple uid => (pdNewConnection pd tuple uid).1
  | .pdHousekeeping => pdHousekeeping pd
  | .other pd' => { pd' with netdDelay := pd.netdDelay }

/-- The statistics go before the connections. -/
def dumpsStats (pd : Pcapdroid) : Bool :=
  pd.dumpCaptureStatsNow ||
    (pd.newStats && captureStatsUpdateFrequencyMs ≤ pd.nowMs - pd.lastUpdateMs)

/-- The call comes to the connections dump of `pd_housekeeping`. -/
def dumpsConnections (pd : Pcapdroid) : DelayCall → Bool
  | .pdHousekeeping => !dumpsStats pd && pd.netdDelay.nextConnectionsDump ≤ pd.nowMs
  | _ => false

def inspections : DelayCall → Nat
  | .performDpi .. => 1
  | _ => 0

/-- The engine, with the deadline that the start or the last dump set and the number of packets
inspected since then. -/
structure DumpRun where
  pd : Pcapdroid
  deadline : UInt64
  inspected : Nat

namespace DumpRun

/-- `pd_run` sets the first deadline. -/
def start (prefs : Prefs) (bl : Option Blacklist) (nowMs : UInt64) : DumpRun :=
  ⟨pdRun prefs bl nowMs, nowMs + 500, 0⟩

def step (s : DumpRun) (call : DelayCall) : DumpRun where
  pd := applyCall s.pd call
  deadline :=
    if dumpsConnections s.pd call then s.pd.nowMs + connectionDumpUpdateFrequencyMs
    else s.deadline
  inspected := if dumpsConnections s.pd call then 0 else s.inspected + inspections call

end DumpRun

/-- The deadline has the delay once while queries wait, and not at all while none does. No more
queries wait than packets were inspected. -/
structure NetdDelay.Once (d : NetdDelay) (deadline : UInt64) (inspected : Nat) : Prop where
  nextDump : d.nextConnectionsDump =
    deadline + if 0 < d.netdResolveWaiting then netdResolveDelayMs else 0
  nonneg : 0 ≤ d.netdResolveWaiting
  bounded : d.netdResolveWaiting ≤ inspected

def DumpRun.DelayedOnce (s : DumpRun) : Prop := s.pd.netdDelay.Once s.deadline s.inspected

/-! ## What the calls do to the delay -/

namespace NetdDelay.Once

variable {d : NetdDelay} {deadline : UInt64} {n : Nat}

theorem set (deadline : UInt64) : NetdDelay.Once ⟨0, deadline⟩ deadline 0 where
  nextDump := (UInt64.add_zero deadline).symm
  nonneg := Int.le_refl 0
  bounded := Int.le_refl 0

theorem succ (h : d.Once deadline n) : d.Once deadline (n + 1) where
  nextDump := h.nextDump
  nonneg := h.nonneg
  bounded := Int.le_trans h.bounded (by omega)

/-- The first query that waits adds the delay. -/
theorem query (h : d.Once deadline n) (nowMs : UInt64) :
    (d.query nowMs).Once deadline (n + 1) := by
  have hnonneg := h.nonneg
  have hbounded := h.bounded
  unfold NetdDelay.query
  split
  · refine ⟨?_, by dsimp only; omega, by dsimp only; omega⟩
    dsimp only
    rw [h.nextDump, if_pos (show 0 < d.netdResolveWaiting + 1 by omega)]
    split
    · next hzero => rw [hzero, if_neg (Int.lt_irrefl 0), UInt64.add_zero]
    · next hne => rw [if_pos (by omega)]
  · exact h.succ

/-- The last one that waits takes it off again. -/
theorem resolved (h : d.Once deadline n) : d.resolved.Once deadline n := by
  have hbounded := h.bounded
  unfold NetdDelay.resolved
  split
  · next hpos =>
    refine ⟨?_, by dsimp only; omega, by dsimp only; omega⟩
    dsimp only
    rw [h.nextDump, if_pos hpos]
    split
    · next hzero => rw [hzero, if_neg (Int.lt_irrefl 0), UInt64.add_zero, UInt64.add_sub_cancel]
    · next hne => rw [if_pos (by omega)]
  · exact h

theorem resolveAll (h : d.Once deadline n) (queries : Nat) :
    (Nat.repeat NetdDelay.resolved queries d).Once deadline n := by
  induction queries with
  | zero => exact h
  | succ queries ih => exact ih.resolved

end NetdDelay.Once

theorem netdDelay_performDpi (pd : Pcapdroid) (pkt : Packet) (isTx : Bool) (dpi : DpiResult)
    (data : PdConn) : (performDpi pd pkt isTx dpi data).1.netdDelay = pd.netdDelay ∨
      (performDpi pd pkt isTx dpi data).1.netdDelay = pd.netdDelay.query pd.nowMs := by
  simp only [performDpi]
  split
  · exact .inr rfl
  · exact .inl rfl

theorem netdDelay_pdNewConnection (pd : Pcapdroid) (tuple : Tuple) (uid : Int) :
    ∃ queries, (pdNewConnection pd tuple uid).1.netdDelay =
      Nat.repeat NetdDelay.resolved queries pd.netdDelay := by
  have hnew : (pdNewConnection pd tuple uid).1.netdDelay =
      (resolvedNew pd tuple uid).1.netdDelay := rfl
  rw [hnew, resolvedNew, resolveForNew]
  split
  · split
    · exact ⟨0, rfl⟩
    · exact ⟨_, rfl⟩
  · exact ⟨0, rfl⟩

theorem netdDelay_dumpOrReload (pd : Pcapdroid) : (dumpOrReload pd).netdDelay =
    if dumpsConnections pd .pdHousekeeping then
      ⟨0, pd.nowMs + connectionDumpUpdateFrequencyMs⟩
    else pd.netdDelay := by
  unfold dumpOrReload dumpsConnections dumpsStats
  split
  · next hstats =>
    rw [hstats]
    rfl
  · next hstats =>
    rw [(Bool.not_eq_true _).mp hstats]
    split
    · next hdue => simp [hdue, connectionsDump]
    · next hnot =>
      have hreload : (reloadStep pd).netdDelay = pd.netdDelay := by
        unfold reloadStep
        repeat' split
        all_goals rfl
      simp only [hnot, Bool.not_false, Bool.true_and, decide_false, Bool.false_eq_true, if_false]
      split
      · exact hreload
      · rfl

/-- Only the connections dump of housekeeping sets the delay. -/
theorem netdDelay_pdHousekeeping (pd : Pcapdroid) : (pdHousekeeping pd).netdDelay =
    if dumpsConnections pd .pdHousekeeping then
      ⟨0, pd.nowMs + connectionDumpUpdateFrequencyMs⟩
    else pd.netdDelay := by
  obtain ⟨md, conns, hbefore⟩ := installMalwareWhitelist_frame (dumpOrReload pd)
  obtain ⟨fw, conns', tls, he⟩ := pdHousekeeping_frame pd
  rw [he, beforeFirewall, hbefore]
  exact netdDelay_dumpOrReload pd

namespace DumpRun

theorem delayedOnce_start (prefs : Prefs) (bl : Option Blacklist) (nowMs : UInt64) :
    (start prefs bl nowMs).DelayedOnce := .set _

theorem DelayedOnce.step {s : DumpRun} (h : s.DelayedOnce) (call : DelayCall) :
    (s.step call).DelayedOnce := by
  cases call with
  | performDpi pkt isTx dpi data =>
    have hd : (performDpi s.pd pkt isTx dpi data).1.netdDelay.Once s.deadline
        (s.inspected + 1) := by
      obtain he | he := netdDelay_performDpi s.pd pkt isTx dpi data
      · exact he ▸ NetdDelay.Once.succ h
      · exact he ▸ NetdDelay.Once.query h _
    exact hd
  | pdNewConnection tuple uid =>
    have hd : (pdNewConnection s.pd tuple uid).1.netdDelay.Once s.deadline s.inspected := by
      obtain ⟨queries, he⟩ := netdDelay_pdNewConnection s.pd tuple uid
      exact he ▸ NetdDelay.Once.resolveAll h queries
    exact hd
  | pdHousekeeping =>
    rw [DelayedOnce, DumpRun.step, applyCall]
    dsimp only
    rw [netdDelay_pdHousekeeping]
    split
    · exact .set _
    · exact h
  | other pd => exact h

end DumpRun

/-- **The netd delay never accumulates**: in every interleaving of the calls the deadline is the
one set last, with the delay exactly while queries wait. -/
theorem netdDelay_once (prefs : Prefs) (bl : Option Blacklist) (nowMs : UInt64)
    (calls : List DelayCall) :
    EveryState DumpRun.step DumpRun.DelayedOnce (.start prefs bl nowMs) calls :=
  everyState_of_invariant (fun _ call h _ => DumpRun.DelayedOnce.step h call) (fun _ h => h)
    (DumpRun.delayedOnce_start prefs bl nowMs) (everyStep_of_forall_mem _ fun _ _ => trivial)

/-! ## The runs of the engine -/

/-- The calls lead from one state of the engine to the other. -/
def Reaches (pd pd' : Pcapdroid) : Prop := ∃ calls, run applyCall pd calls = pd'

variable {pd pd' pd'' : Pcapdroid}

namespace Reaches

theorem refl (pd : Pcapdroid) : Reaches pd pd := ⟨[], rfl⟩

theorem trans (h : Reaches pd pd') (k : Reaches pd' pd'') : Reaches pd pd'' := by
  obtain ⟨calls, rfl⟩ := h
  obtain ⟨calls', rfl⟩ := k
  exact ⟨calls ++ calls', run_append applyCall pd calls calls'⟩

theorem of_call (pd : Pcapdroid) (call : DelayCall) : Reaches pd (applyCall pd call) :=
  ⟨[call], rfl⟩

theorem of_netdDelay (h : pd'.netdDelay = pd.netdDelay) : Reaches pd pd' := by
  have hother : applyCall pd (.other pd') = pd' := by rw [applyCall, ← h]
  exact hother ▸ of_call pd (.other pd')

end Reaches

theorem reaches_pdProcessPacket (pd : Pcapdroid) (pkt : Packet) (isTx : Bool) (dpi : DpiResult)
    (data : PdConn) : Reaches pd (pdProcessPacket pd pkt isTx dpi data).1 := by
  unfold pdProcessPacket
  split
  · exact .of_call pd (.performDpi pkt isTx dpi data)
  · exact .refl pd

theorem netdDelay_accountForwarded (pd : Pcapdroid) (data : PdConn) :
    (accountForwarded pd data).1.netdDelay = pd.netdDelay := by
  obtain ⟨stats, he⟩ := accountForwarded_frame pd data
  rw [he]

theorem netdDelay_deliver (pd : Pcapdroid) (c : Conn) (write : WriteResult) :
    (deliver pd c write).1.netdDelay = pd.netdDelay := by
  obtain ⟨stats, conns, running, he⟩ := deliver_frame pd c write
  rw [he]

theorem reaches_remote2vpn (pd : Pcapdroid) (id : Nat) (i : Ingress) :
    Reaches pd (remote2vpn pd id i).1 := by
  unfold remote2vpn
  split
  · exact .refl pd
  · next c hc =>
    split
    · exact .refl pd
    · have haccount : Reaches pd ((accountForwarded pd c.data).1.atTime i.ms) :=
        .of_netdDelay (netdDelay_accountForwarded pd c.data)
      exact (haccount.trans (reaches_pdProcessPacket _ i.pkt false i.dpi _)).trans
        (.of_netdDelay (netdDelay_deliver _ _ i.write))

theorem reaches_remote2vpns (id : Nat) (is : List Ingress) (pd : Pcapdroid) :
    Reaches pd (remote2vpns id pd is).1 := by
  induction is generalizing pd with
  | nil => exact .refl pd
  | cons i is ih => exact (reaches_remote2vpn pd id i).trans (ih _)

theorem netdDelay_checkFirst (pd : Pcapdroid) (c : Conn) (p : TunPacket) :
    (checkFirst pd c p).1.netdDelay = pd.netdDelay := by
  obtain ⟨vpn, server, requests, gate, he⟩ := checkFirst_frame pd c p
  rw [he]

theorem netdDelay_accountForward (pd : Pcapdroid) (id : Nat) (forwarded : Bool) :
    (accountForward pd id forwarded).netdDelay = pd.netdDelay := by
  obtain ⟨stats, conns, he⟩ := accountForward_frame pd id forwarded
  rw [he]

theorem reaches_egress (pd : Pcapdroid) (c : Conn) (p : TunPacket) :
    Reaches pd (egress pd c p).1 := by
  have hinspect : Reaches pd (inspectEgress pd c p).1 :=
    (reaches_pdProcessPacket pd p.pkt true p.dpi _).trans
      (.of_netdDelay (netdDelay_checkFirst _ _ p))
  have hdecide : ∀ pd c, Reaches pd (decideEgress pd c p).1 := by
    intro pd c
    unfold decideEgress
    split
    · exact .of_netdDelay rfl
    · have hset : Reaches pd (pd.setConn (inFlight c)) := .of_netdDelay rfl
      exact (hset.trans (reaches_remote2vpns _ p.ingress _)).trans
        (.of_netdDelay (netdDelay_accountForward _ _ p.forwarded))
  exact hinspect.trans (hdecide _ _)

theorem reaches_tunPacket (pd : Pcapdroid) (p : TunPacket) : Reaches pd (tunPacket pd p).1 := by
  have htime : Reaches pd (pd.atTime p.ms) := .of_netdDelay rfl
  have hconn : ∀ r, tunConn pd p = some r → Reaches pd r.1 := by
    intro r hr
    unfold tunConn at hr
    repeat' split at hr
    · cases hr
    · cases hr
      exact htime
    · cases hr
    · cases hr
      exact htime.trans (.of_call _ (.pdNewConnection p.pkt.tuple (resolveUid p.uid)))
  unfold tunPacket
  split
  · exact htime
  · next pd' c hr => exact (hconn _ hr).trans (reaches_egress pd' c p)

theorem netdDelay_closeConn (pd : Pcapdroid) (id : Nat) (status : ConnStatus)
    (guess : L7Proto) : (closeConn pd id status guess).netdDelay = pd.netdDelay := by
  unfold closeConn
  split
  · rfl
  · split <;> rfl

theorem reaches_step (pd : Pcapdroid) (e : Event) : Reaches pd (step pd e) := by
  cases e with
  | tunPacket p =>
    simp only [step, react]
    split
    · exact reaches_tunPacket pd p
    · exact .refl pd
  | netPacket id i => exact reaches_remote2vpn pd id i
  | connClosed id status guess => exact .of_netdDelay (netdDelay_closeConn pd id status guess)
  | refreshTime ms => exact .of_netdDelay rfl
  | housekeeping => exact .of_call pd .pdHousekeeping
  | blacklistsLoaded bl =>
    obtain ⟨md, he⟩ := loadNewBlacklists_frame pd bl
    have hsame : (loadNewBlacklists pd bl).netdDelay = pd.netdDelay := by rw [he]
    exact .of_netdDelay hsame
  | jni call =>
    obtain ⟨netfree, privateDns, server, running, fw, reload, md, tls, he⟩ := jniCall_frame pd call
    have hsame : (jniCall pd call).netdDelay = pd.netdDelay := by rw [he]
    exact .of_netdDelay hsame

theorem reaches_run (events : List Event) (pd : Pcapdroid) :
    Reaches pd (run step pd events) := by
  induction events generalizing pd with
  | nil => exact .refl pd
  | cons e events ih => exact (reaches_step pd e).trans (ih _)

theorem DumpRun.run_pd (s : DumpRun) (calls : List DelayCall) :
    (run DumpRun.step s calls).pd = run applyCall s.pd calls := by
  induction calls generalizing s with
  | nil => rfl
  | cons call calls ih => exact ih (s.step call)

/-- A run of the engine is an interleaving of the calls. -/
theorem exists_calls_of_events (prefs : Prefs) (bl : Option Blacklist) (nowMs : UInt64)
    (events : List Event) : ∃ calls, (run DumpRun.step (.start prefs bl nowMs) calls).pd =
      run step (pdRun prefs bl nowMs) events := by
  obtain ⟨calls, h⟩ := reaches_run events (pdRun prefs bl nowMs)
  exact ⟨calls, (DumpRun.run_pd _ calls).trans h⟩

end SecureGuard.Native
