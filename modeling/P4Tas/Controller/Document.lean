import P4Tas.Controller.Types
import P4Tas.Lib.Json

/-!
# The configuration document

`Configuration::new` reads the configuration from a JSON document.  The records of `types.rs` derive
their readers: a field is read from the key of its name, fields marked `#[serde(default)]` and
fields of an `Option` type may be missing, keys that are no field are ignored.  The fields that no
modelled function uses are read all the same, since the document is rejected where they do not fit.

The text of the document is parsed by `serde_json`; a record may also be written as a list of its
fields in their order, which has no keys and is not modelled.

* `StreamGate.deserialize_eq_some` and so on: what a record holds that was read;
* `Configuration.new_eq_some`: the records of the `psfp` object, list by list.
-/

namespace P4Tas.Controller

open Json (boolean list optional record required signed string unsigned withDefault)

/-! ## Texts and maps -/

/-- A number of eight bits in decimal, without leading zeros. -/
def parseU8 (s : List Char) : Option U8 :=
  let value := s.foldl (fun n c => n * 10 + (c.toNat - '0'.toNat)) 0
  if s ≠ [] ∧ s.all Char.isDigit ∧ (s.length = 1 ∨ s.head? ≠ some '0') ∧ value < 2 ^ 8 then
    some (BitVec.ofNat 8 value)
  else
    none

/-- `Ipv4Addr::from_str` -/
def parseIpv4 (s : List Char) : Option U32 :=
  match (s.splitOn '.').map parseU8 with
  | [some a, some b, some c, some d] => some (a ++ b ++ c ++ d)
  | _ => none

def ipv4Addr (j : Json) : Option U32 := do
  let s ← string j
  parseIpv4 s.toList

namespace QueueStates

def empty : QueueStates where
  entries := []
  nodup := .nil

/-- `HashMap::insert`: a later state of a queue replaces an earlier one. -/
def insert (qs : QueueStates) (queue state : U8) : QueueStates where
  entries := (queue, state) :: qs.entries.filter fun e => e.1 ≠ queue
  nodup := by
    refine List.nodup_cons.mpr ⟨?_, ?_⟩
    · simp
    · exact qs.nodup.sublist (List.filter_sublist.map Prod.fst)

/-- A map is read from an object, with its keys in decimal. -/
def deserialize : Json → Option QueueStates :=
  record fun members => members.foldlM (fun qs m => do
    let queue ← parseU8 m.1.toList
    let state ← unsigned 8 m.2
    return qs.insert queue state) empty

end QueueStates

/-! ## The records of `types.rs` -/

def Stream.deserialize : Json → Option Stream := record fun members => do
  let vid ← required (unsigned 16) "vid" members
  let streamHandle ← required (unsigned 8) "stream_handle" members
  let _ ← optional string "eth_src" members
  let ethDst ← required string "eth_dst" members
  let _ ← optional (unsigned 16) "overwrite_vid" members
  let overwritePcp ← optional (unsigned 8) "overwrite_pcp" members
  let overwriteMac ← optional string "overwrite_mac" members
  let _ ← optional (unsigned 32) "dst_port" members
  let ipv4Src ← optional ipv4Addr "ipv4_src" members
  let ipv4Dst ← optional ipv4Addr "ipv4_dst" members
  let _ ← optional (unsigned 8) "ipv4_diffserv" members
  let _ ← optional (unsigned 8) "ipv4_protocol" members
  let _ ← optional (unsigned 32) "src_port" members
  return { vid, streamHandle, ethDst, overwritePcp, overwriteMac, ipv4Src, ipv4Dst }

def StreamHandle.deserialize : Json → Option StreamHandle := record fun members => do
  let streamHandle ← required (unsigned 8) "stream_handle" members
  let streamGateInstance ← required (unsigned 32) "stream_gate_instance" members
  let flowMeterInstance ← required (unsigned 32) "flow_meter_instance" members
  return { streamHandle, streamGateInstance, flowMeterInstance }

def StreamFilter.deserialize : Json → Option StreamFilter := record fun members => do
  let streamHandle ← required (unsigned 8) "stream_handle" members
  let streamBlockEnable ← required boolean "stream_block_enable" members
  let _ ← required (unsigned 32) "max_sdu" members
  return { streamHandle, streamBlockEnable }

/-- The last field is spelled differently than in the table. -/
def StreamGate.deserialize : Json → Option StreamGate := record fun members => do
  let streamGateId ← required (unsigned 32) "stream_gate_id" members
  let schedule ← required string "schedule" members
  let gateClosedDueToInvalidRxEnable ←
    withDefault false boolean "gate_closed_due_to_invalid_rx_enable" members
  let gateClosedDueToOctetsExceededEmable ←
    withDefault false boolean "gate_closed_due_to_octets_exceeded_emable" members
  return { streamGateId, schedule, gateClosedDueToInvalidRxEnable,
           gateClosedDueToOctetsExceededEmable }

def FlowMeter.deserialize : Json → Option FlowMeter := record fun members => do
  let flowMeterId ← required (unsigned 32) "flow_meter_id" members
  let cirKbps ← required (unsigned 64) "cir_kbps" members
  let pirKbps ← required (unsigned 64) "pir_kbps" members
  let cbs ← required (unsigned 64) "cbs" members
  let pbs ← required (unsigned 64) "pbs" members
  let dropYellow ← withDefault false boolean "drop_yellow" members
  let markRed ← withDefault false boolean "mark_red" members
  let colorAware ← withDefault false boolean "color_aware" members
  return { flowMeterId, cirKbps, pirKbps, cbs, pbs, dropYellow, markRed, colorAware }

def PSFPTimeSlice.deserialize : Json → Option PSFPTimeSlice := record fun members => do
  let low ← required (unsigned 32) "low" members
  let high ← required (unsigned 32) "high" members
  let state ← required (unsigned 8) "state" members
  let ipv ← required (unsigned 8) "ipv" members
  let octets ← required (unsigned 32) "octets" members
  return { low, high, state, ipv, octets }

def StreamGateControlList.deserialize : Json → Option StreamGateControlList :=
  record fun members => do
    let name ← required string "name" members
    let period ← required (unsigned 64) "period" members
    let intervals ← required (list PSFPTimeSlice.deserialize) "intervals" members
    return { name, period, intervals }

/-- The adjustment is read and dropped. -/
def deserializeDeltaAdjustment : Json → Option Unit := record fun members => do
  let _ ← required (signed 64) "epsilon_1" members
  let _ ← required (signed 64) "epsilon_2" members
  let _ ← required (signed 64) "delta" members
  let _ ← required (signed 64) "sum" members

def AppIDMapping.deserialize : Json → Option AppIDMapping := record fun members => do
  let appId ← required (unsigned 8) "app_id" members
  let streamGateId ← required (unsigned 32) "stream_gate_id" members
  let _ ← required boolean "hyperperiod_done" members
  let _ ← required deserializeDeltaAdjustment "delta" members
  let _ ← required (unsigned 64) "hyperperiod_register_value" members
  let hyperperiodDuration ← required (unsigned 64) "hyperperiod_duration" members
  return { appId, streamGateId, hyperperiodDuration }

def PSFP.deserialize : Json → Option PSFP := record fun members => do
  let streams ← required (list Stream.deserialize) "streams" members
  let streamHandles ← required (list StreamHandle.deserialize) "stream_handles" members
  let streamFilters ← required (list StreamFilter.deserialize) "stream_filters" members
  let streamGates ← required (list StreamGate.deserialize) "stream_gates" members
  let flowMeters ← required (list FlowMeter.deserialize) "flow_meters" members
  let streamGateSchedules ←
    required (list StreamGateControlList.deserialize) "stream_gate_schedules" members
  let appIdMappings ← optional (list AppIDMapping.deserialize) "app_id_mappings" members
  return { streams, streamHandles, streamFilters, streamGates, flowMeters, streamGateSchedules,
           appIdMappings }

def BatchIDMapping.deserialize : Json → Option BatchIDMapping := record fun members => do
  let appId ← required (unsigned 8) "app_id" members
  let batchId ← required (unsigned 8) "batch_id" members
  let egressDevPort ← required (unsigned 8) "egress_dev_port" members
  let hyperperiodDuration ← required (unsigned 64) "hyperperiod_duration" members
  return { appId, batchId, egressDevPort, hyperperiodDuration }

def GCLToPortMapping.deserialize : Json → Option GCLToPortMapping := record fun members => do
  let port ← required (unsigned 8) "port" members
  let gcl ← required string "gcl" members
  return { port, gcl }

def TASTimeSlice.deserialize : Json → Option TASTimeSlice := record fun members => do
  let low ← required (unsigned 32) "low" members
  let high ← required (unsigned 32) "high" members
  let queueStates ← required QueueStates.deserialize "queue_states" members
  return { low, high, queueStates }

def GateControlList.deserialize : Json → Option GateControlList := record fun members => do
  let period ← required (unsigned 32) "period" members
  let name ← required string "name" members
  let timeSlices ← required (list TASTimeSlice.deserialize) "time_slices" members
  let guardBandWidth ← required (unsigned 32) "guard_band_width" members
  return { period, name, timeSlices, guardBandWidth }

def TAS.deserialize : Json → Option TAS := record fun members => do
  let gclToPortMapping ←
    required (list GCLToPortMapping.deserialize) "gcl_to_port_mapping" members
  let gcls ← required (list GateControlList.deserialize) "gcls" members
  let batchMappings ← optional (list BatchIDMapping.deserialize) "batch_mappings" members
  return { gclToPortMapping, gcls, batchMappings }

def defaultPktgenActivationGmTime : String :=
  "1772647368.495519698"

/-- `none` where the document is rejected. -/
def Configuration.new : Json → Option Configuration := record fun members => do
  let _ ← withDefault defaultPktgenActivationGmTime string "pktgen_activation_gm_time" members
  let psfp ← required PSFP.deserialize "psfp" members
  let tas ← required TAS.deserialize "tas" members
  return { psfp, tas }

/-! ## What the records hold -/

/-- The parts of a record that later results use are those the document gives. -/
structure Stream.ReadFrom (j : Json) (stream : Stream) : Prop where
  streamHandle : j.natural? "stream_handle" = some stream.streamHandle.toNat

structure StreamHandle.ReadFrom (j : Json) (handle : StreamHandle) : Prop where
  streamHandle : j.natural? "stream_handle" = some handle.streamHandle.toNat
  streamGateInstance : j.natural? "stream_gate_instance" = some handle.streamGateInstance.toNat
  flowMeterInstance : j.natural? "flow_meter_instance" = some handle.flowMeterInstance.toNat

structure StreamFilter.ReadFrom (j : Json) (filter : StreamFilter) : Prop where
  streamHandle : j.natural? "stream_handle" = some filter.streamHandle.toNat
  streamBlockEnable : j.flag "stream_block_enable" = filter.streamBlockEnable

structure StreamGate.ReadFrom (j : Json) (gate : StreamGate) : Prop where
  streamGateId : j.natural? "stream_gate_id" = some gate.streamGateId.toNat
  schedule : j.text? "schedule" = some gate.schedule
  invalidRx :
    j.flag "gate_closed_due_to_invalid_rx_enable" = gate.gateClosedDueToInvalidRxEnable
  octetsExceeded :
    j.flag "gate_closed_due_to_octets_exceeded_emable" = gate.gateClosedDueToOctetsExceededEmable

structure FlowMeter.ReadFrom (j : Json) (meter : FlowMeter) : Prop where
  flowMeterId : j.natural? "flow_meter_id" = some meter.flowMeterId.toNat
  dropYellow : j.flag "drop_yellow" = meter.dropYellow
  markRed : j.flag "mark_red" = meter.markRed
  colorAware : j.flag "color_aware" = meter.colorAware

structure StreamGateControlList.ReadFrom (j : Json) (schedule : StreamGateControlList) :
    Prop where
  name : j.text? "name" = some schedule.name
  period : j.natural? "period" = some schedule.period.toNat

/-- The records of each list are read one by one. -/
structure PSFP.ReadFrom (j : Json) (psfp : PSFP) : Prop where
  streams : List.Forall₂ Stream.ReadFrom (j.elements "streams") psfp.streams
  streamHandles :
    List.Forall₂ StreamHandle.ReadFrom (j.elements "stream_handles") psfp.streamHandles
  streamFilters :
    List.Forall₂ StreamFilter.ReadFrom (j.elements "stream_filters") psfp.streamFilters
  streamGates : List.Forall₂ StreamGate.ReadFrom (j.elements "stream_gates") psfp.streamGates
  flowMeters : List.Forall₂ FlowMeter.ReadFrom (j.elements "flow_meters") psfp.flowMeters
  streamGateSchedules :
    List.Forall₂ StreamGateControlList.ReadFrom (j.elements "stream_gate_schedules")
      psfp.streamGateSchedules

variable {j : Json}

theorem Stream.deserialize_eq_some {stream : Stream}
    (run : Stream.deserialize j = some stream) : stream.ReadFrom j := by
  obtain ⟨members, rfl, run⟩ := Json.record_eq_some run
  obtain ⟨_, _, run⟩ := Option.bind_eq_some_iff.mp run
  obtain ⟨streamHandle, handleRun, run⟩ := Option.bind_eq_some_iff.mp run
  -- the other fields are read from other keys
  iterate 11 obtain ⟨_, _, run⟩ := Option.bind_eq_some_iff.mp run
  cases run
  exact ⟨Json.required_natural handleRun⟩

theorem StreamHandle.deserialize_eq_some {handle : StreamHandle}
    (run : StreamHandle.deserialize j = some handle) : handle.ReadFrom j := by
  obtain ⟨members, rfl, run⟩ := Json.record_eq_some run
  obtain ⟨streamHandle, handleRun, run⟩ := Option.bind_eq_some_iff.mp run
  obtain ⟨streamGateInstance, gateRun, run⟩ := Option.bind_eq_some_iff.mp run
  obtain ⟨flowMeterInstance, meterRun, run⟩ := Option.bind_eq_some_iff.mp run
  cases run
  exact ⟨Json.required_natural handleRun, Json.required_natural gateRun,
    Json.required_natural meterRun⟩

theorem StreamFilter.deserialize_eq_some {filter : StreamFilter}
    (run : StreamFilter.deserialize j = some filter) : filter.ReadFrom j := by
  obtain ⟨members, rfl, run⟩ := Json.record_eq_some run
  obtain ⟨streamHandle, handleRun, run⟩ := Option.bind_eq_some_iff.mp run
  obtain ⟨streamBlockEnable, enableRun, run⟩ := Option.bind_eq_some_iff.mp run
  obtain ⟨_, _, run⟩ := Option.bind_eq_some_iff.mp run
  cases run
  exact ⟨Json.required_natural handleRun, Json.required_flag enableRun⟩

theorem StreamGate.deserialize_eq_some {gate : StreamGate}
    (run : StreamGate.deserialize j = some gate) : gate.ReadFrom j := by
  obtain ⟨members, rfl, run⟩ := Json.record_eq_some run
  obtain ⟨streamGateId, idRun, run⟩ := Option.bind_eq_some_iff.mp run
  obtain ⟨schedule, scheduleRun, run⟩ := Option.bind_eq_some_iff.mp run
  obtain ⟨invalidRx, invalidRxRun, run⟩ := Option.bind_eq_some_iff.mp run
  obtain ⟨octetsExceeded, octetsRun, run⟩ := Option.bind_eq_some_iff.mp run
  cases run
  exact ⟨Json.required_natural idRun, Json.required_text scheduleRun,
    Json.withDefault_flag invalidRxRun, Json.withDefault_flag octetsRun⟩

theorem FlowMeter.deserialize_eq_some {meter : FlowMeter}
    (run : FlowMeter.deserialize j = some meter) : meter.ReadFrom j := by
  obtain ⟨members, rfl, run⟩ := Json.record_eq_some run
  obtain ⟨flowMeterId, idRun, run⟩ := Option.bind_eq_some_iff.mp run
  -- the rates and the bursts
  iterate 4 obtain ⟨_, _, run⟩ := Option.bind_eq_some_iff.mp run
  obtain ⟨dropYellow, dropRun, run⟩ := Option.bind_eq_some_iff.mp run
  obtain ⟨markRed, markRun, run⟩ := Option.bind_eq_some_iff.mp run
  obtain ⟨colorAware, awareRun, run⟩ := Option.bind_eq_some_iff.mp run
  cases run
  exact ⟨Json.required_natural idRun, Json.withDefault_flag dropRun,
    Json.withDefault_flag markRun, Json.withDefault_flag awareRun⟩

theorem StreamGateControlList.deserialize_eq_some {schedule : StreamGateControlList}
    (run : StreamGateControlList.deserialize j = some schedule) : schedule.ReadFrom j := by
  obtain ⟨members, rfl, run⟩ := Json.record_eq_some run
  obtain ⟨name, nameRun, run⟩ := Option.bind_eq_some_iff.mp run
  obtain ⟨period, periodRun, run⟩ := Option.bind_eq_some_iff.mp run
  obtain ⟨_, _, run⟩ := Option.bind_eq_some_iff.mp run
  cases run
  exact ⟨Json.required_text nameRun, Json.required_natural periodRun⟩

theorem PSFP.deserialize_eq_some {psfp : PSFP} (run : PSFP.deserialize j = some psfp) :
    psfp.ReadFrom j := by
  obtain ⟨members, rfl, run⟩ := Json.record_eq_some run
  obtain ⟨streams, streamsRun, run⟩ := Option.bind_eq_some_iff.mp run
  obtain ⟨streamHandles, handlesRun, run⟩ := Option.bind_eq_some_iff.mp run
  obtain ⟨streamFilters, filtersRun, run⟩ := Option.bind_eq_some_iff.mp run
  obtain ⟨streamGates, gatesRun, run⟩ := Option.bind_eq_some_iff.mp run
  obtain ⟨flowMeters, metersRun, run⟩ := Option.bind_eq_some_iff.mp run
  obtain ⟨streamGateSchedules, schedulesRun, run⟩ := Option.bind_eq_some_iff.mp run
  obtain ⟨_, _, run⟩ := Option.bind_eq_some_iff.mp run
  cases run
  exact ⟨(Json.required_list streamsRun).imp fun _ _ => Stream.deserialize_eq_some,
    (Json.required_list handlesRun).imp fun _ _ => StreamHandle.deserialize_eq_some,
    (Json.required_list filtersRun).imp fun _ _ => StreamFilter.deserialize_eq_some,
    (Json.required_list gatesRun).imp fun _ _ => StreamGate.deserialize_eq_some,
    (Json.required_list metersRun).imp fun _ _ => FlowMeter.deserialize_eq_some,
    (Json.required_list schedulesRun).imp fun _ _ => StreamGateControlList.deserialize_eq_some⟩

/-- A configuration that was read holds the records of the document's `psfp` object. -/
theorem Configuration.new_eq_some {doc : Json} {cfg : Configuration}
    (run : Configuration.new doc = some cfg) :
    ∃ psfp, doc.get? "psfp" = some psfp ∧ cfg.psfp.ReadFrom psfp := by
  obtain ⟨members, rfl, run⟩ := Json.record_eq_some run
  obtain ⟨_, _, run⟩ := Option.bind_eq_some_iff.mp run
  obtain ⟨psfp, psfpRun, run⟩ := Option.bind_eq_some_iff.mp run
  obtain ⟨_, _, run⟩ := Option.bind_eq_some_iff.mp run
  cases run
  obtain ⟨j, given, readRun⟩ := Json.required_eq_some psfpRun
  exact ⟨j, given, PSFP.deserialize_eq_some readRun⟩

end P4Tas.Controller
