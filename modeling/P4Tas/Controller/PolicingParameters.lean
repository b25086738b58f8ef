import P4Tas.Controller.Document
import P4Tas.Controller.StartupBatch

/-!
# The policing parameters of a stream

From the configuration document to the entry of a stream: the handle of the stream names a gate and
a meter, the gate names a schedule, and the filter is that of the handle.  The entry carries what
the document says about them, with one exception.

* `streamIdRequest_carries_iff`: what the entry of one stream carries;
* `policing_parameters_iff`: it carries all parameters of the document exactly when the gate does
  not close for exceeded octets, since the field of the record has another name than the key;
* `octets_exceeded_ignored`: a document with such a gate.
-/

namespace P4Tas.Controller

open P4Tas.Controller.Configuration

/-! ## What the document says about a stream -/

/-- The objects of a list of the `psfp` object. -/
def psfpList (doc : Json) (key : String) : List Json :=
  match doc.get? "psfp" with
  | some psfp => psfp.elements key
  | none => []

/-- The keys of a gate in `configuration.json`. -/
def gateKeys : List String :=
  ["stream_gate_id", "schedule", "gate_closed_due_to_invalid_rx_enable",
   "gate_closed_due_to_octets_exceeded_enable"]

def UsesGateKeys (doc : Json) : Prop :=
  ∀ gate ∈ psfpList doc "stream_gates", ∀ key ∈ gate.keys, key ∈ gateKeys

/-- The stream has one handle, the handle one gate and one meter, and the gate one schedule. -/
structure Resolves (doc stream handle gate meter schedule : Json) : Prop where
  handle_eq : (psfpList doc "stream_handles").filter
    (fun h => h.natural? "stream_handle" == stream.natural? "stream_handle") = [handle]
  gate_eq : (psfpList doc "stream_gates").filter
    (fun g => g.natural? "stream_gate_id" == handle.natural? "stream_gate_instance") = [gate]
  meter_eq : (psfpList doc "flow_meters").filter
    (fun f => f.natural? "flow_meter_id" == handle.natural? "flow_meter_instance") = [meter]
  schedule_eq : (psfpList doc "stream_gate_schedules").filter
    (fun s => s.text? "name" == gate.text? "schedule") = [schedule]

def AllResolve (doc : Json) : Prop :=
  ∀ stream ∈ psfpList doc "streams",
    ∃ handle gate meter schedule, Resolves doc stream handle gate meter schedule

namespace Resolves

variable {doc stream handle gate meter schedule handle' gate' meter' schedule' : Json}

theorem gate_mem (resolves : Resolves doc stream handle gate meter schedule) :
    gate ∈ psfpList doc "stream_gates" :=
  List.mem_of_mem_filter (resolves.gate_eq ▸ List.mem_singleton_self gate)

/-- A stream resolves to one handle, gate, meter and schedule. -/
theorem unique (resolves : Resolves doc stream handle gate meter schedule)
    (resolves' : Resolves doc stream handle' gate' meter' schedule') :
    handle = handle' ∧ gate = gate' ∧ meter = meter' ∧ schedule = schedule' := by
  cases resolves.handle_eq.symm.trans resolves'.handle_eq
  cases resolves.gate_eq.symm.trans resolves'.gate_eq
  cases resolves.meter_eq.symm.trans resolves'.meter_eq
  cases resolves.schedule_eq.symm.trans resolves'.schedule_eq
  exact ⟨rfl, rfl, rfl, rfl⟩

end Resolves

/-- The filter of the stream, the first one that is listed. -/
def filterOf (doc stream : Json) : Option Json :=
  (psfpList doc "stream_filters").find? fun f =>
    f.natural? "stream_handle" == stream.natural? "stream_handle"

/-- The entry carries a number of the document. -/
def CarriesNumber (r : Request) (param : Param) (number : Option Nat) : Prop :=
  ∃ n, number = some n ∧ r.data? param = some n

/-- The entry carries a flag of the document. -/
def CarriesFlag (r : Request) (param : Param) (flag : Bool) : Prop :=
  r.data? param = some flag.toNat

/-- The entry carries the parameters of the document. -/
structure CarriesParameters (doc stream gate meter schedule : Json) (r : Request) : Prop where
  table_eq : r.table = .streamId
  gateId : CarriesNumber r .streamGateId (gate.natural? "stream_gate_id")
  invalidRx : CarriesFlag r .gateClosedDueToInvalidRxEnable
    (gate.flag "gate_closed_due_to_invalid_rx_enable")
  octetsExceeded : CarriesFlag r .gateClosedDueToOctetsExceededEnable
    (gate.flag "gate_closed_due_to_octets_exceeded_enable")
  meterId : CarriesNumber r .flowMeterInstanceId (meter.natural? "flow_meter_id")
  dropYellow : CarriesFlag r .dropOnYellow (meter.flag "drop_yellow")
  markRed : CarriesFlag r .markAllFramesRedEnable (meter.flag "mark_red")
  colorAware : CarriesFlag r .colorAware (meter.flag "color_aware")
  blockEnable : CarriesFlag r .streamBlockedDueToOversizeFrameEnable
    ((filterOf doc stream).any (·.flag "stream_block_enable"))
  period : CarriesNumber r .hyperperiod (schedule.natural? "period")

/-! ## From the document to the records -/

section Join

variable {doc psfp : Json} {cfg : Configuration} {stream : Stream}
  {streamJ handle gate meter schedule : Json}

theorem psfpList_eq (given : doc.get? "psfp" = some psfp) (key : String) :
    psfpList doc key = psfp.elements key := by
  unfold psfpList
  rw [given]

theorem some_toNat_injective {w : Nat} :
    Function.Injective fun v : BitVec w => some v.toNat := by
  intro a b same
  exact BitVec.eq_of_toNat_eq (Option.some.inj same)

/-- The lookups of the controller find the records that were read from the document's objects. -/
theorem Resolves.readFrom (resolves : Resolves doc streamJ handle gate meter schedule)
    (given : doc.get? "psfp" = some psfp) (read : cfg.psfp.ReadFrom psfp)
    (streamRead : stream.ReadFrom streamJ) :
    (cfg.findHandle stream).ReadFrom handle ∧ (cfg.streamGate stream).ReadFrom gate ∧
      (cfg.findMeter (cfg.findHandle stream)).ReadFrom meter ∧
      ∃ s, cfg.findSchedule (cfg.streamGate stream).schedule = some s ∧ s.ReadFrom schedule := by
  obtain ⟨handleOne, gateOne, meterOne, scheduleOne⟩ := resolves
  rw [psfpList_eq given] at handleOne gateOne meterOne scheduleOne
  rw [streamRead.streamHandle] at handleOne
  obtain ⟨h, handleFound, handleRead⟩ := KeyedList.exists_find?_of_unique some_toNat_injective
    read.streamHandles (fun _ _ isRead => isRead.streamHandle) handleOne
  have handle_eq : cfg.findHandle stream = h := by
    unfold findHandle
    rw [handleFound]
    rfl
  rw [handleRead.streamGateInstance] at gateOne
  obtain ⟨g, gateFound, gateRead⟩ := KeyedList.exists_find?_of_unique some_toNat_injective
    read.streamGates (fun _ _ isRead => isRead.streamGateId) gateOne
  have gate_eq : cfg.streamGate stream = g := by
    unfold streamGate findGate
    rw [handle_eq, gateFound]
    rfl
  rw [handleRead.flowMeterInstance] at meterOne
  obtain ⟨f, meterFound, meterRead⟩ := KeyedList.exists_find?_of_unique some_toNat_injective
    read.flowMeters (fun _ _ isRead => isRead.flowMeterId) meterOne
  have meter_eq : cfg.findMeter (cfg.findHandle stream) = f := by
    unfold findMeter
    rw [handle_eq, meterFound]
    rfl
  rw [gateRead.schedule] at scheduleOne
  obtain ⟨s, scheduleFound, scheduleRead⟩ :=
    KeyedList.exists_find?_of_unique (Option.some_injective String) read.streamGateSchedules
      (fun _ _ isRead => isRead.name) scheduleOne
  rw [gate_eq, handle_eq]
  rw [handle_eq] at meter_eq
  rw [meter_eq]
  exact ⟨handleRead, gateRead, meterRead, s, scheduleFound, scheduleRead⟩

/-- A stream without a filter is not blocked. -/
theorem filterOf_any (given : doc.get? "psfp" = some psfp) (read : cfg.psfp.ReadFrom psfp)
    (streamRead : stream.ReadFrom streamJ) :
    (filterOf doc streamJ).any (·.flag "stream_block_enable") =
      (cfg.findFilter stream).streamBlockEnable := by
  unfold filterOf findFilter
  rw [psfpList_eq given, streamRead.streamHandle]
  rcases KeyedList.find?_image some_toNat_injective read.streamFilters
    (fun _ _ isRead => isRead.streamHandle) stream.streamHandle with
    ⟨none, none'⟩ | ⟨j, f, isRead, found, found'⟩
  · rw [none, none']
    rfl
  · rw [found, found']
    exact isRead.streamBlockEnable

end Join

/-! ## The entry of a stream -/

variable {macFromStr : String → Option (List U8)} {cfg : Configuration} {stream : Stream}
  {r : Request}

/-- The filter and the meter of the stream, in the entry. -/
theorem streamIdRequest_meter (run : cfg.streamIdRequest macFromStr stream = .ok r) :
    CarriesFlag r .streamBlockedDueToOversizeFrameEnable
        (cfg.findFilter stream).streamBlockEnable ∧
      r.data? .flowMeterInstanceId =
        some (cfg.findMeter (cfg.findHandle stream)).flowMeterId.toNat ∧
      CarriesFlag r .dropOnYellow (cfg.findMeter (cfg.findHandle stream)).dropYellow ∧
      CarriesFlag r .markAllFramesRedEnable (cfg.findMeter (cfg.findHandle stream)).markRed ∧
      CarriesFlag r .colorAware (cfg.findMeter (cfg.findHandle stream)).colorAware := by
  obtain ⟨schedule, _, run⟩ := Fallible.bind_eq_ok.mp run
  obtain ⟨ethDst, _, run⟩ := Fallible.bind_eq_ok.mp run
  obtain ⟨⟨action, streamData⟩, actionRun, run⟩ := Fallible.bind_eq_ok.mp run
  rcases streamIdAction_eq_ok actionRun with rfl | ⟨pcp, mac, rfl⟩
  · cases run
    exact ⟨rfl, rfl, rfl, rfl, rfl⟩
  · cases run
    exact ⟨rfl, rfl, rfl, rfl, rfl⟩

variable {doc psfp streamJ handle gate meter schedule : Json}

/-- **The entry of one stream** carries all parameters of the document exactly when the gate does
not close for exceeded octets: the controller looks for this flag under another key. -/
theorem streamIdRequest_carries_iff
    (resolves : Resolves doc streamJ handle gate meter schedule)
    (given : doc.get? "psfp" = some psfp) (read : cfg.psfp.ReadFrom psfp)
    (streamRead : stream.ReadFrom streamJ) (keys : ∀ key ∈ gate.keys, key ∈ gateKeys)
    (run : cfg.streamIdRequest macFromStr stream = .ok r) :
    CarriesParameters doc streamJ gate meter schedule r ↔
      gate.flag "gate_closed_due_to_octets_exceeded_enable" = false := by
  obtain ⟨_, gateRead, meterRead, s, found, scheduleRead⟩ :=
    resolves.readFrom given read streamRead
  have isEntry := streamIdRequest_isStreamEntry run
  obtain ⟨blockEnable, meterId, dropYellow, markRed, colorAware⟩ := streamIdRequest_meter run
  obtain ⟨s', found', period⟩ := isEntry.hyperperiod
  cases found'.symm.trans found
  have misspelled : "gate_closed_due_to_octets_exceeded_emable" ∉ gate.keys := fun member =>
    absurd (keys _ member) (by decide)
  have octets : r.data? .gateClosedDueToOctetsExceededEnable = some 0 := by
    rw [isEntry.octetsExceeded, ← gateRead.octetsExceeded, Json.flag_of_not_mem_keys misspelled]
    rfl
  refine ⟨fun carries => ?_, fun unset => ?_⟩
  · have same := octets.symm.trans carries.octetsExceeded
    cases enabled : gate.flag "gate_closed_due_to_octets_exceeded_enable" with
    | false => rfl
    | true =>
      rw [enabled] at same
      exact absurd same (by decide)
  · rw [← filterOf_any given read streamRead] at blockEnable
    rw [← meterRead.dropYellow] at dropYellow
    rw [← meterRead.markRed] at markRed
    rw [← meterRead.colorAware] at colorAware
    exact ⟨isEntry.table_eq, ⟨_, gateRead.streamGateId, isEntry.gateId⟩,
      gateRead.invalidRx ▸ isEntry.invalidRx, by unfold CarriesFlag; rw [unset]; exact octets,
      ⟨_, meterRead.flowMeterId, meterId⟩, dropYellow, markRed, colorAware, blockEnable,
      ⟨_, scheduleRead.period, period⟩⟩

/-! ## All streams -/

/-- The entry carries the parameters of what its stream resolves to. -/
def Policed (doc stream : Json) (r : Request) : Prop :=
  ∃ handle gate meter schedule, Resolves doc stream handle gate meter schedule ∧
    CarriesParameters doc stream gate meter schedule r

/-- No stream passes a gate that closes for exceeded octets. -/
def NoOctetPolicing (doc : Json) : Prop :=
  ∀ stream ∈ psfpList doc "streams", ∀ handle gate meter schedule,
    Resolves doc stream handle gate meter schedule →
      gate.flag "gate_closed_due_to_octets_exceeded_enable" = false

/-- **The policing parameters of the document reach the streams** exactly when no gate of a stream
closes for exceeded octets. -/
theorem policing_parameters_iff {out : Configuration} {app : AppState} {requests : List Request}
    (read : Configuration.new doc = some cfg)
    (keys : UsesGateKeys doc) (resolves : AllResolve doc)
    (prepare : cfg.prepare = .ok (out, app))
    (run : out.configureStreamIdentification macFromStr = .ok requests) :
    List.Forall₂ (Policed doc) (psfpList doc "streams") requests ↔ NoOctetPolicing doc := by
  obtain ⟨psfp, given, readFrom⟩ := Configuration.new_eq_some read
  obtain ⟨apps, batches, prepared, _⟩ := prepare_eq_ok prepare
  have readOut : out.psfp.ReadFrom psfp := by
    rw [prepared.psfp_eq]
    exact ⟨readFrom.streams, readFrom.streamHandles, readFrom.streamFilters,
      readFrom.streamGates, readFrom.flowMeters, readFrom.streamGateSchedules⟩
  have entries := KeyedList.related_trans readOut.streams
    (configureStreamIdentification_eq_ok.mp run)
  rw [← psfpList_eq given] at entries
  refine KeyedList.forall₂_iff_forall entries ?_
  rintro streamJ member r ⟨stream, streamRead, requested⟩
  obtain ⟨handle, gate, meter, schedule, resolved⟩ := resolves streamJ member
  have gateKeys := keys gate resolved.gate_mem
  have carries := streamIdRequest_carries_iff resolved given readOut streamRead gateKeys requested
  refine ⟨?_, fun unset => ?_⟩
  · intro h _ _ _ _ resolved''
    obtain ⟨_, _, _, _, resolved', carried⟩ := h
    obtain ⟨rfl, rfl, rfl, rfl⟩ := resolved'.unique resolved
    obtain ⟨rfl, rfl, rfl, rfl⟩ := resolved''.unique resolved
    exact carries.mp carried
  · exact ⟨handle, gate, meter, schedule, resolved,
      carries.mpr (unset handle gate meter schedule resolved)⟩

/-! ## A document -/

def sampleStream : Json :=
  .obj [("vid", .integer 50), ("stream_handle", .integer 1),
        ("eth_dst", .str "00:00:00:00:00:32")]

def sampleHandle : Json :=
  .obj [("stream_handle", .integer 1), ("stream_gate_instance", .integer 1),
        ("flow_meter_instance", .integer 500)]

def sampleGate (octetsExceeded : Bool) : Json :=
  .obj [("stream_gate_id", .integer 1), ("schedule", .str "OPEN"),
        ("gate_closed_due_to_invalid_rx_enable", .bool true),
        ("gate_closed_due_to_octets_exceeded_enable", .bool octetsExceeded)]

def sampleMeter : Json :=
  .obj [("flow_meter_id", .integer 500), ("cir_kbps", .integer 410000000),
        ("pir_kbps", .integer 420000000), ("cbs", .integer 1), ("pbs", .integer 2),
        ("drop_yellow", .bool true), ("mark_red", .bool false), ("color_aware", .bool false)]

def sampleSchedule : Json :=
  .obj [("name", .str "OPEN"), ("period", .integer 800000000), ("time_shift", .integer 0),
        ("intervals", .arr [.obj [("low", .integer 0), ("high", .integer 800000000),
          ("state", .integer 1), ("ipv", .integer 8), ("octets", .integer 500000)]])]

/-- One stream, and one port whose queues are always open. -/
def sampleDocument (octetsExceeded : Bool) : Json :=
  .obj [("psfp", .obj [("streams", .arr [sampleStream]), ("stream_handles", .arr [sampleHandle]),
          ("stream_filters", .arr []), ("stream_gates", .arr [sampleGate octetsExceeded]),
          ("flow_meters", .arr [sampleMeter]),
          ("stream_gate_schedules", .arr [sampleSchedule])]),
        ("tas", .obj [
          ("gcl_to_port_mapping", .arr [.obj [("port", .integer 133), ("gcl", .str "OPEN")]]),
          ("gcls", .arr [.obj [("name", .str "OPEN"), ("period", .integer 400000000),
            ("guard_band_width", .integer 0),
            ("time_slices", .arr [.obj [("low", .integer 0), ("high", .integer 400000000),
              ("queue_states", .obj [("0", .integer 0), ("1", .integer 0)])]])]])])]

/-- What is read from the document, whether the gate closes for exceeded octets or not. -/
def readSample : Configuration where
  psfp := {
    streams := [{ vid := 50, streamHandle := 1, ethDst := "00:00:00:00:00:32",
                  overwritePcp := none, overwriteMac := none, ipv4Src := none, ipv4Dst := none }]
    streamHandles := [{ streamHandle := 1, streamGateInstance := 1, flowMeterInstance := 500 }]
    streamFilters := []
    streamGates :=
      [{ streamGateId := 1, schedule := "OPEN", gateClosedDueToInvalidRxEnable := true }]
    flowMeters := [{ flowMeterId := 500, cirKbps := 410000000, pirKbps := 420000000, cbs := 1,
                     pbs := 2, dropYellow := true }]
    streamGateSchedules := [{ name := "OPEN", period := 800000000, intervals :=
      [{ low := 0, high := 800000000, state := 1, ipv := 8, octets := 500000 }] }] }
  tas := {
    gclToPortMapping := [{ port := 133, gcl := "OPEN" }]
    gcls := [{ period := 400000000, name := "OPEN", guardBandWidth := 0, timeSlices :=
      [{ low := 0, high := 400000000, queueStates := ⟨[(1, 0), (0, 0)], by decide⟩ }] }] }

theorem sampleDocument_new (octetsExceeded : Bool) :
    Configuration.new (sampleDocument octetsExceeded) = some readSample :=
  rfl

/-- The entry of the stream, with a 0 for exceeded octets. -/
theorem readSample_run :
    ∃ out app r, readSample.prepare = .ok (out, app) ∧
      out.configureStreamIdentification sampleMacFromStr = .ok [r] ∧
      r.data? .gateClosedDueToOctetsExceededEnable = some 0 :=
  ⟨_, _, _, rfl, rfl, rfl⟩

theorem sampleDocument_keys (octetsExceeded : Bool) :
    UsesGateKeys (sampleDocument octetsExceeded) :=
  List.forall_mem_singleton.mpr fun _ member => member

theorem sampleDocument_resolves (octetsExceeded : Bool) :
    Resolves (sampleDocument octetsExceeded) sampleStream sampleHandle (sampleGate octetsExceeded)
      sampleMeter sampleSchedule :=
  ⟨rfl, rfl, rfl, rfl⟩

theorem sampleDocument_allResolve (octetsExceeded : Bool) :
    AllResolve (sampleDocument octetsExceeded) :=
  List.forall_mem_singleton.mpr ⟨_, _, _, _, sampleDocument_resolves octetsExceeded⟩

theorem policing_parameters_iff_sample :
    ∃ cfg out app requests, Configuration.new (sampleDocument false) = some cfg ∧
      cfg.prepare = .ok (out, app) ∧
      out.configureStreamIdentification sampleMacFromStr = .ok requests ∧
      List.Forall₂ (Policed (sampleDocument false)) (psfpList (sampleDocument false) "streams")
        requests := by
  obtain ⟨out, app, r, prepare, run, _⟩ := readSample_run
  refine ⟨readSample, out, app, [r], sampleDocument_new false, prepare, run, ?_⟩
  refine (policing_parameters_iff (sampleDocument_new false) (sampleDocument_keys false)
    (sampleDocument_allResolve false) prepare run).mpr ?_
  refine List.forall_mem_singleton.mpr fun _ _ _ _ resolves => ?_
  obtain ⟨rfl, rfl, rfl, rfl⟩ := (sampleDocument_resolves false).unique resolves
  rfl

/-- **A gate that closes for exceeded octets does not.**  The document sets the flag of the gate,
and the entry of the stream carries 0 for it; nothing is rejected. -/
theorem octets_exceeded_ignored :
    UsesGateKeys (sampleDocument true) ∧ AllResolve (sampleDocument true) ∧
      ∃ cfg out app r, Configuration.new (sampleDocument true) = some cfg ∧
        cfg.prepare = .ok (out, app) ∧
        out.configureStreamIdentification sampleMacFromStr = .ok [r] ∧
        r.data? .gateClosedDueToOctetsExceededEnable = some 0 ∧
        ¬ List.Forall₂ (Policed (sampleDocument true)) (psfpList (sampleDocument true) "streams")
          [r] := by
  obtain ⟨out, app, r, prepare, run, zero⟩ := readSample_run
  refine ⟨sampleDocument_keys true, sampleDocument_allResolve true, readSample, out, app, r,
    sampleDocument_new true, prepare, run, zero, fun related => ?_⟩
  obtain ⟨⟨_, _, _, _, resolves, carries⟩, _⟩ := List.forall₂_cons.mp related
  obtain ⟨rfl, rfl, rfl, rfl⟩ := (sampleDocument_resolves true).unique resolves
  exact absurd (zero.symm.trans carries.octetsExceeded) (by decide)

end P4Tas.Controller
