import P4Tas.Controller.Types
import P4Tas.Request

/-!
# The configuration's own functions

`configuration.rs`: guard band insertion, the assignment of app and batch ids, and the entries of
stream identification and of the flow meters.  `Configuration.prepare` is the sequence of calls
`main.rs` makes before it generates table entries.

Parsing a MAC address is left to the `macaddr` crate: `macFromStr` gives its bytes.
-/

namespace P4Tas.Controller

/-! ## Guard bands -/

/-- The loop over the time slices of a guarded GCL: every slice is moved to `lastHigh` and followed
by a slice of the guard band's width in which all its queues are closed. -/
def guardedSlices (guardBandWidth : U32) : U32 → List TASTimeSlice → Rust (List TASTimeSlice)
  | _, [] => .ok []
  | lastHigh, ts :: rest => do
    let width ← checkedSub ts.high ts.low
    let high ← checkedAdd lastHigh width
    let guardHigh ← checkedAdd high guardBandWidth
    let slices ← guardedSlices guardBandWidth guardHigh rest
    return { ts with low := lastHigh, high := high } ::
      { low := high, high := guardHigh, queueStates := ts.queueStates.setAll 1 } :: slices

/-- The body of the loop over the GCLs. -/
def GateControlList.insertGuardBands (gcl : GateControlList) : Rust GateControlList :=
  if gcl.guardBandWidth = 0 then
    .ok gcl
  else do
    let timeSlices ← guardedSlices gcl.guardBandWidth 0 gcl.timeSlices
    let guardTime ← checkedMul gcl.guardBandWidth (BitVec.ofNat 32 gcl.timeSlices.length)
    let period ← checkedAdd gcl.period guardTime
    return { gcl with period, timeSlices }

namespace Configuration

def insertTasGsi (cfg : Configuration) : Rust Configuration := do
  let gcls ← cfg.tas.gcls.mapM GateControlList.insertGuardBands
  return { cfg with tas := { cfg.tas with gcls } }

/-! ## App ids and batch ids -/

def findSchedule (cfg : Configuration) (name : String) : Option StreamGateControlList :=
  cfg.psfp.streamGateSchedules.find? fun s => s.name == name

def findGcl (cfg : Configuration) (name : String) : Option GateControlList :=
  cfg.tas.gcls.find? fun g => g.name == name

/-- One app id for each stream gate, counted up from `appId`. -/
def appIdMappings (cfg : Configuration) : List StreamGate → U8 → Rust (List AppIDMapping × U8)
  | [], appId => .ok ([], appId)
  | gate :: gates, appId => do
    let schedule ← unwrap (cfg.findSchedule gate.schedule)
    let next ← checkedAdd appId 1
    let (rest, last) ← cfg.appIdMappings gates next
    return ({ appId, streamGateId := gate.streamGateId, hyperperiodDuration := schedule.period } ::
      rest, last)

def configureAppIdsStreamGateHyperperiod (cfg : Configuration) (appState : AppState) :
    Rust (Configuration × AppState) := do
  let (mappings, last) ← cfg.appIdMappings cfg.psfp.streamGates appState.lastConfiguredAppId
  return ({ cfg with psfp := { cfg.psfp with appIdMappings := some mappings } },
    { appState with lastConfiguredAppId := last })

/-- One app id and one batch id for each port mapping; the batch id is the index of the mapping. -/
def batchMappings (cfg : Configuration) :
    List GCLToPortMapping → Nat → U8 → Rust (List BatchIDMapping × U8)
  | [], _, appId => .ok ([], appId)
  | mapping :: mappings, batchCfg, appId => do
    let gcl ← unwrap (cfg.findGcl mapping.gcl)
    let next ← checkedAdd appId 1
    let (rest, last) ← cfg.batchMappings mappings (batchCfg + 1) next
    return ({ appId, batchId := BitVec.ofNat 8 batchCfg, egressDevPort := mapping.port,
              hyperperiodDuration := gcl.period.setWidth 64 } :: rest, last)

def configureAppIdsTasHyperperiod (cfg : Configuration) (appState : AppState) :
    Rust (Configuration × AppState) := do
  let (mappings, last) ←
    cfg.batchMappings cfg.tas.gclToPortMapping 0 appState.lastConfiguredAppId
  return ({ cfg with tas := { cfg.tas with batchMappings := some mappings } },
    { appState with lastConfiguredAppId := last })

/-- The sequence of calls in `main.rs`. -/
def prepare (cfg : Configuration) : Rust (Configuration × AppState) := do
  let guarded ← cfg.insertTasGsi
  let (mapped, appState) ← guarded.configureAppIdsStreamGateHyperperiod AppState.new
  mapped.configureAppIdsTasHyperperiod appState

/-! ## Stream identification -/

/-- The number a big-endian byte string denotes. -/
def bytesValue (bytes : List U8) : Nat :=
  bytes.foldl (fun value byte => value * 256 + byte.toNat) 0

/-- The action of a stream, and the part of its data the stream itself carries. -/
def streamIdAction (macFromStr : String → Option (List U8)) (stream : Stream) :
    Rust (Action × List (Param × Nat)) :=
  match stream.overwriteMac with
  | some newMac => do
    let newPcp ← unwrap stream.overwritePcp
    let mac ← unwrap (macFromStr newMac)
    return (.assignStreamHandleOverwriteMacAndPcp,
      [(.pcp, newPcp.toNat), (.ethDstAddr, bytesValue mac)])
  | none => .ok (.assignStreamHandle, [])

def findHandle (cfg : Configuration) (stream : Stream) : StreamHandle :=
  (cfg.psfp.streamHandles.find? fun h => h.streamHandle == stream.streamHandle).getD {}

def findGate (cfg : Configuration) (handle : StreamHandle) : StreamGate :=
  (cfg.psfp.streamGates.find? fun g => g.streamGateId == handle.streamGateInstance).getD {}

def findMeter (cfg : Configuration) (handle : StreamHandle) : FlowMeter :=
  (cfg.psfp.flowMeters.find? fun f => f.flowMeterId == handle.flowMeterInstance).getD {}

def findFilter (cfg : Configuration) (stream : Stream) : StreamFilter :=
  (cfg.psfp.streamFilters.find? fun s => s.streamHandle == stream.streamHandle).getD {}

/-- `if let Some(ip) = ip { req = req.match_key(key, MatchValue::ternary(ip, ip)) }` -/
def ipv4Key (key : Key) : Option U32 → List (Key × MatchValue)
  | some ip => [(key, .ternary ip.toNat ip.toNat)]
  | none => []

/-- The body of the loop over the streams. -/
def streamIdRequest (macFromStr : String → Option (List U8)) (cfg : Configuration)
    (stream : Stream) : Rust Request := do
  let handle := cfg.findHandle stream
  let gate := cfg.findGate handle
  let meter := cfg.findMeter handle
  let filter := cfg.findFilter stream
  let schedule ← unwrap (cfg.findSchedule gate.schedule)
  let ethDst ← unwrap (macFromStr stream.ethDst)
  let (action, streamData) ← streamIdAction macFromStr stream
  return {
    table := .streamId
    matchKeys :=
      [(.ethernetDstAddr, .exact (bytesValue ethDst)), (.eth8021qVid, .exact stream.vid.toNat)] ++
        ipv4Key .ipv4SrcAddr stream.ipv4Src ++ ipv4Key .ipv4DstAddr stream.ipv4Dst
    action
    actionData := streamData ++
      [(.streamHandle, handle.streamHandle.toNat),
       (.streamBlockedDueToOversizeFrameEnable, filter.streamBlockEnable.toNat),
       (.streamGateId, gate.streamGateId.toNat),
       (.gateClosedDueToInvalidRxEnable, gate.gateClosedDueToInvalidRxEnable.toNat),
       (.gateClosedDueToOctetsExceededEnable, gate.gateClosedDueToOctetsExceededEmable.toNat),
       (.flowMeterInstanceId, meter.flowMeterId.toNat),
       (.dropOnYellow, meter.dropYellow.toNat),
       (.markAllFramesRedEnable, meter.markRed.toNat),
       (.colorAware, meter.colorAware.toNat),
       (.hyperperiod, schedule.period.toNat)] }

def configureStreamIdentification (macFromStr : String → Option (List U8)) (cfg : Configuration) :
    Rust (List Request) :=
  cfg.psfp.streams.mapM (streamIdRequest macFromStr cfg)

/-! ## Flow meters -/

/-- The body of the loop over the flow meters. -/
def flowMeterRequest (f : FlowMeter) : Request where
  table := .flowMeterInstance
  matchKeys := [(.flowMeterInstanceId, .exact f.flowMeterId.toNat)]
  action := .setColorDirect
  actionData :=
    [(.meterSpecCirKbps, f.cirKbps.toNat), (.meterSpecPirKbps, f.pirKbps.toNat),
     (.meterSpecCbsKbits, f.cbs.toNat), (.meterSpecPbsKbits, f.pbs.toNat)]

def configureFlowMeter (cfg : Configuration) : List Request :=
  cfg.psfp.flowMeters.map flowMeterRequest

end Configuration

end P4Tas.Controller
