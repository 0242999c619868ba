import SecureGuard.Native.Verdict
import SecureGuard.Native.DnsReply

/-! # Packet inspection

`process_ndpi_data`, `pd_giveup_dpi`, `perform_dpi` and `pd_process_packet`. nDPI itself is
outside: what it answers for a packet is an input, unconstrained. -/

namespace SecureGuard.Native

/-- What nDPI reports for one packet: the protocol after `pd_ndpi2proto`, the host name in
the flow, whether more dissection is possible, and the protocol `ndpi_detection_giveup` would
guess if the detection ends here. -/
structure DpiResult where
  l7proto : L7Proto
  hostServerName : CStr
  extraDissection : Bool
  guess : L7Proto
  deriving DecidableEq, Repr

/-- `MAX_DPI_PACKETS`. -/
def maxDpiPackets : Nat := 12

/-- `NETD_RESOLVE_DELAY_MS`. -/
def netdResolveDelayMs : UInt64 := 1000

/-- `CONNECTION_DUMP_UPDATE_FREQUENCY_MS`. -/
def connectionDumpUpdateFrequencyMs : UInt64 := 1000

/-- `CAPTURE_STATS_UPDATE_FREQUENCY_MS`. -/
def captureStatsUpdateFrequencyMs : UInt64 := 300

/-- `is_numeric_host`: a digit first, or a colon before the first dot. -/
def isNumericHost : CStr → Bool
  | [] => false
  | c :: s => (48 ≤ c && c ≤ 57) || ((c :: s).takeWhile (· != dot)).contains 58

/-- The host name `process_ndpi_data` takes from the flow. -/
def foundInfo (data : PdConn) : Option CStr :=
  data.ndpiFlow.bind fun flow =>
    match data.l7proto with
    | .tls | .dns => if flow.hostServerName.isEmpty then none else some flow.hostServerName
    | .http =>
      if flow.hostServerName.isEmpty || isNumericHost flow.hostServerName then none
      else some flow.hostServerName
    | _ => none

section Processing

variable (pd : Pcapdroid) (tuple : Tuple)

/-- A found host replaces a missing or cached one and is checked. -/
def processInfo (data : PdConn) : Gate × PdConn :=
  match foundInfo data with
  | some host =>
    if data.info.isNone || data.infoFromLru then
      checkBlacklistedDomain pd { data with info := some (host.take 256), infoFromLru := false }
    else (pd.gate, data)
  | none => (pd.gate, data)

/-- `process_ndpi_data`. -/
def processNdpiData (data : PdConn) : Gate × PdConn :=
  let (gate, data) := processInfo pd data
  (gate, if pd.vpnCapture then vpnProcessNdpi pd tuple data else data)

/-- `pd_giveup_dpi`. -/
def pdGiveupDpi (guess : L7Proto) (data : PdConn) : Gate × PdConn :=
  if data.ndpiFlow.isNone then (pd.gate, data)
  else
    let data := if data.l7proto = .unknown then { data with l7proto := guess } else data
    let (gate, data) := processNdpiData pd tuple data
    (gate, { data with ndpiFlow := none })

end Processing

/-- The delay a first netd query puts on the next dump. -/
def NetdDelay.query (d : NetdDelay) (nowMs : UInt64) : NetdDelay :=
  if 0 < d.netdResolveWaiting || d.nextConnectionsDump - netdResolveDelayMs < nowMs then
    { netdResolveWaiting := d.netdResolveWaiting + 1
      nextConnectionsDump :=
        if d.netdResolveWaiting = 0 then d.nextConnectionsDump + netdResolveDelayMs
        else d.nextConnectionsDump }
  else d

/-- The dissection of `perform_dpi`, once nDPI's answer is in the flow. -/
def dissect (pd : Pcapdroid) (pkt : Packet) (dpi : DpiResult) (data : PdConn) : Gate × PdConn :=
  if data.sentPkts + data.rcvdPkts + 1 ≥ maxDpiPackets ||
      (data.l7proto != .unknown && !dpi.extraDissection) then
    pdGiveupDpi pd pkt.tuple dpi.guess data
  else processNdpiData pd pkt.tuple data

/-- `perform_dpi`. -/
def performDpi (pd : Pcapdroid) (pkt : Packet) (isTx : Bool) (dpi : DpiResult)
    (data : PdConn) : Pcapdroid × PdConn :=
  let data := { data with l7proto := dpi.l7proto, ndpiFlow := some ⟨dpi.hostServerName⟩ }
  let lru :=
    if !isTx && data.l7proto == .dns then processDnsReply pd.ipToHost dpi.hostServerName pkt
    else pd.ipToHost
  let (gate, data) := dissect pd pkt dpi data
  let netdDelay :=
    if data.l7proto == .dns && data.uid == uidNetd && data.sentPkts + data.rcvdPkts == 0 then
      pd.netdDelay.query pd.nowMs
    else pd.netdDelay
  ({ pd with ipToHost := lru, gate := gate, netdDelay := netdDelay }, data)

/-- `pd_process_packet`. -/
def pdProcessPacket (pd : Pcapdroid) (pkt : Packet) (isTx : Bool) (dpi : DpiResult)
    (data : PdConn) : Pcapdroid × PdConn :=
  if data.ndpiFlow.isSome && (!pkt.isFragment || pkt.isFirstFragment) then
    performDpi pd pkt isTx dpi data
  else (pd, data)

/-! ## Inspection only tightens -/

theorem withInfo_tightens (data : PdConn) (info : Option CStr) (fromLru : Bool) :
    Tightens data { data with info := info, infoFromLru := fromLru } :=
  ⟨rfl, rfl, rfl, rfl, rfl, rfl, id, id⟩

theorem withFlow_tightens (data : PdConn) (l7proto : L7Proto) (flow : Option NdpiFlow) :
    Tightens data { data with l7proto := l7proto, ndpiFlow := flow } :=
  ⟨rfl, rfl, rfl, rfl, rfl, rfl, id, id⟩

theorem processInfo_tightens (pd : Pcapdroid) (data : PdConn) :
    Tightens data (processInfo pd data).2 := by
  unfold processInfo
  split
  · split
    · exact (withInfo_tightens data _ _).trans (checkBlacklistedDomain_tightens pd _)
    · exact Tightens.refl data
  · exact Tightens.refl data

theorem processNdpiData_tightens (pd : Pcapdroid) (tuple : Tuple) (data : PdConn) :
    Tightens data (processNdpiData pd tuple data).2 := by
  refine (processInfo_tightens pd data).trans ?_
  simp only [processNdpiData]
  split
  · exact vpnProcessNdpi_tightens pd tuple _
  · exact Tightens.refl _

theorem pdGiveupDpi_tightens (pd : Pcapdroid) (tuple : Tuple) (guess : L7Proto)
    (data : PdConn) : Tightens data (pdGiveupDpi pd tuple guess data).2 := by
  unfold pdGiveupDpi
  split
  · exact Tightens.refl data
  · have hguess : Tightens data
        (if data.l7proto = .unknown then { data with l7proto := guess } else data) := by
      split
      · exact withFlow_tightens data guess data.ndpiFlow
      · exact Tightens.refl data
    exact (hguess.trans (processNdpiData_tightens pd tuple _)).trans (withFlow_tightens _ _ none)

theorem dissect_tightens (pd : Pcapdroid) (pkt : Packet) (dpi : DpiResult) (data : PdConn) :
    Tightens data (dissect pd pkt dpi data).2 := by
  unfold dissect
  split
  · exact pdGiveupDpi_tightens pd _ _ data
  · exact processNdpiData_tightens pd _ data

theorem performDpi_snd (pd : Pcapdroid) (pkt : Packet) (isTx : Bool) (dpi : DpiResult)
    (data : PdConn) : (performDpi pd pkt isTx dpi data).2 = (dissect pd pkt dpi { data with
      l7proto := dpi.l7proto, ndpiFlow := some ⟨dpi.hostServerName⟩ }).2 := rfl

theorem performDpi_tightens (pd : Pcapdroid) (pkt : Packet) (isTx : Bool) (dpi : DpiResult)
    (data : PdConn) : Tightens data (performDpi pd pkt isTx dpi data).2 :=
  (withFlow_tightens data _ _).trans (dissect_tightens pd pkt dpi _)

theorem pdProcessPacket_tightens (pd : Pcapdroid) (pkt : Packet) (isTx : Bool)
    (dpi : DpiResult) (data : PdConn) :
    Tightens data (pdProcessPacket pd pkt isTx dpi data).2 := by
  unfold pdProcessPacket
  split
  · exact performDpi_tightens pd pkt isTx dpi data
  · exact Tightens.refl data

/-- What inspecting a packet changes besides the connection itself. -/
theorem pdProcessPacket_frame (pd : Pcapdroid) (pkt : Packet) (isTx : Bool)
    (dpi : DpiResult) (data : PdConn) : ∃ lru gate netdDelay,
      (pdProcessPacket pd pkt isTx dpi data).1 =
        { pd with ipToHost := lru, gate := gate, netdDelay := netdDelay } := by
  unfold pdProcessPacket
  split
  · exact ⟨_, _, _, rfl⟩
  · exact ⟨pd.ipToHost, pd.gate, pd.netdDelay, rfl⟩

/-! ## A host taken from the flow is never empty -/

theorem foundInfo_ne_nil {data : PdConn} {host : CStr} (h : foundInfo data = some host) :
    host ≠ [] := by
  obtain ⟨flow, _, hflow⟩ := Option.bind_eq_some_iff.mp h
  split at hflow
  · split at hflow
    · cases hflow
    · next hne => cases hflow; simpa using hne
  · split at hflow
    · cases hflow
    · next hne => cases hflow; simpa using hne
  · split at hflow
    · cases hflow
    · next hne =>
      cases hflow
      simp only [Bool.or_eq_true, not_or] at hne
      simpa using hne.1
  · cases hflow

end SecureGuard.Native
