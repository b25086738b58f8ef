import P4Tas.DataPlane.Admission
import P4Tas.DataPlane.GateDecision
import P4Tas.DataPlane.InstalledBatch

/-!
# Streams follow their schedules

With the batch of a configuration installed, which frames of a stream gate pass, in terms of the
schedule the gate names.

* `Batch.plain`, `Batch.gateInRange`: what a configuration that `Fits` the registers grants;
* `Batch.gate_of_opens`: no frame passes without a gate;
* `Batch.placed_diffTs`: the position of a frame in the period of its gate;
* `opens_someOpen`, `opens_of_allOpen`: the entries that a frame may hit, by the schedule;
* `admitted_in_schedule`: every frame that passes came in an open time slice, and so did all earlier
  ones of a gate that closes;
* `in_schedule_admitted`: a frame in open time slices passes a gate whose frames all were.
-/

namespace P4Tas.DataPlane

open Controller Controller.Configuration Controller.StreamGateControlList

/-- The ids of the configuration fit the registers, its streams resolve, and no gate polices
octets. -/
structure Fits (cfg : Configuration) : Prop where
  resolved : ∀ s ∈ cfg.psfp.streams, cfg.Resolved s
  gateIds : ∀ g ∈ cfg.psfp.streamGates, g.streamGateId.toNat < 256
  meterIds : ∀ f ∈ cfg.psfp.flowMeters, f.flowMeterId.toNat < 2048
  octets : ∀ g ∈ cfg.psfp.streamGates, g.gateClosedDueToOctetsExceededEmable = false

/-- The interval opens the gate. -/
def isOpen (t : PSFPTimeSlice) : Prop :=
  t.state.setWidth 1 = (1 : BitVec 1)

def SomeOpen (intervals : List PSFPTimeSlice) (position : Nat) : Prop :=
  ∃ t ∈ intervals, t.Contains position ∧ isOpen t

/-- The position is in the intervals, and all that contain it are open. -/
def AllOpen (intervals : List PSFPTimeSlice) (position : Nat) : Prop :=
  (∃ t ∈ intervals, t.Contains position) ∧ ∀ t ∈ intervals, t.Contains position → isOpen t

/-- The queue of a frame in the interval. -/
def sliceQueue (t : PSFPTimeSlice) (pcp : BitVec 3) : BitVec 7 :=
  if t.ipv.setWidth 4 = (8 : BitVec 4) then pcp.setWidth 7 else (t.ipv.setWidth 4).setWidth 7

/-- The frame is of a stream of the gate. -/
def OfGate (gate : Controller.StreamGate) (frame : Tsn.Frame) : Prop :=
  ∃ r, frame.stream? = some r ∧ (param r .streamGateId 12).toNat = gate.streamGateId.toNat

/-- The position of a frame in the period of the gate. -/
def gatePosition (gate : Controller.StreamGate) (schedule : Controller.StreamGateControlList)
    (before : List Tsn.Frame) (frame : Tsn.Frame) : Nat :=
  positionSince schedule.period.toNat
    ((Tsn.gateEnds gate.streamGateId.toNat before).getLastD 0) frame.tstamp

variable {macFromStr : String → Option (List U8)} {switch : Switch} {cfg out : Configuration}
  {apps : List AppIDMapping} {batches : List BatchIDMapping} {app app' : AppState}
  {schedules gcls streams requests : List Request} {target : Target} {tables : Tables}

/-! ## Streams -/

theorem streamIdRequest_meterId {s : Stream} {r : Request}
    (run : cfg.streamIdRequest macFromStr s = .ok r) :
    r.data? .flowMeterInstanceId = some (cfg.findMeter (cfg.findHandle s)).flowMeterId.toNat := by
  obtain ⟨schedule, _, run⟩ := Fallible.bind_eq_ok.mp run
  obtain ⟨ethDst, _, run⟩ := Fallible.bind_eq_ok.mp run
  obtain ⟨⟨action, streamData⟩, actionRun, run⟩ := Fallible.bind_eq_ok.mp run
  rcases streamIdAction_eq_ok actionRun with rfl | ⟨pcp, mac, rfl⟩
  · cases run
    rfl
  · cases run
    rfl

theorem prepared_findMeter (prepared : Prepared cfg out apps batches) (s : Stream) :
    out.findMeter (out.findHandle s) = cfg.findMeter (cfg.findHandle s) := by
  unfold findMeter findHandle
  rw [prepared.psfp_eq]

namespace Batch

variable {frame : Tsn.Frame} {r : Request}

/-- An entry is the request of a stream. -/
theorem requested_of_entry (prepared : Prepared cfg out apps batches)
    (batch : Batch macFromStr switch out apps batches app app' schedules gcls streams tables)
    (entry : r ∈ tables.entries .streamId) :
    ∃ s ∈ cfg.psfp.streams, out.streamIdRequest macFromStr s = .ok r := by
  rw [batch.streamId] at entry
  obtain ⟨s, member, requested⟩ := KeyedList.exists_related
    (configureStreamIdentification_eq_ok.mp batch.streamsRun).flip entry
  rw [prepared.streams_eq] at member
  exact ⟨s, member, requested⟩

/-- What the entry of an identified frame says of its stream. -/
theorem requested_data (prepared : Prepared cfg out apps batches) (fits : Fits cfg) {s : Stream}
    (member : s ∈ cfg.psfp.streams) (requested : out.streamIdRequest macFromStr s = .ok r) :
    cfg.streamGate s ∈ cfg.psfp.streamGates ∧
      (param r .streamGateId 12).toNat = (cfg.streamGate s).streamGateId.toNat ∧
      flag r .gateClosedDueToInvalidRxEnable =
        (cfg.streamGate s).gateClosedDueToInvalidRxEnable ∧
      flag r .gateClosedDueToOctetsExceededEnable = false ∧
      (param r .flowMeterInstanceId 16).toNat < 2048 ∧
      ∃ schedule, cfg.findSchedule (cfg.streamGate s).schedule = some schedule ∧
        param r .hyperperiod 64 = schedule.period := by
  have isEntry := streamIdRequest_isStreamEntry requested
  have meterId := streamIdRequest_meterId requested
  obtain ⟨schedule, found, period⟩ := isEntry.hyperperiod
  rw [prepared.streamGate_eq, prepared.findSchedule_eq] at found
  have ofGates := (KeyedList.mem_of_find? (fits.resolved s member).streamGate_id).1
  have gateBound := fits.gateIds _ ofGates
  refine ⟨ofGates, ?_, ?_, ?_, ?_, schedule, found, ?_⟩
  · unfold param
    rw [isEntry.gateId, prepared.streamGate_eq, Option.getD_some, BitVec.toNat_ofNat]
    omega
  · unfold flag
    rw [isEntry.invalidRx, prepared.streamGate_eq]
    cases (cfg.streamGate s).gateClosedDueToInvalidRxEnable <;> rfl
  · unfold flag
    rw [isEntry.octetsExceeded, prepared.streamGate_eq, fits.octets _ ofGates]
    rfl
  · unfold param
    rw [meterId, prepared_findMeter prepared, Option.getD_some, BitVec.toNat_ofNat]
    have meterBound : (cfg.findMeter (cfg.findHandle s)).flowMeterId.toNat < 2048 := by
      unfold findMeter
      cases foundMeter : cfg.psfp.flowMeters.find?
          fun f => f.flowMeterId == (cfg.findHandle s).flowMeterInstance with
      | none => decide
      | some f => exact fits.meterIds f (KeyedList.mem_of_find? foundMeter).1
    omega
  · unfold param
    rw [period, Option.getD_some, BitVec.ofNat_toNat, BitVec.setWidth_eq]

theorem stream_of_entry (prepared : Prepared cfg out apps batches) (fits : Fits cfg)
    (batch : Batch macFromStr switch out apps batches app app' schedules gcls streams tables)
    (entry : r ∈ tables.entries .streamId) :
    ∃ s ∈ cfg.psfp.streams, cfg.streamGate s ∈ cfg.psfp.streamGates ∧
      (param r .streamGateId 12).toNat = (cfg.streamGate s).streamGateId.toNat ∧
      flag r .gateClosedDueToInvalidRxEnable =
        (cfg.streamGate s).gateClosedDueToInvalidRxEnable ∧
      flag r .gateClosedDueToOctetsExceededEnable = false ∧
      (param r .flowMeterInstanceId 16).toNat < 2048 ∧
      ∃ schedule, cfg.findSchedule (cfg.streamGate s).schedule = some schedule ∧
        param r .hyperperiod 64 = schedule.period := by
  obtain ⟨s, member, requested⟩ := requested_of_entry prepared batch entry
  exact ⟨s, member, requested_data prepared fits member requested⟩

/-- The registers have cells for the gate and the meter of every frame. -/
theorem plain (prepared : Prepared cfg out apps batches) (fits : Fits cfg)
    (batch : Batch macFromStr switch out apps batches app app' schedules gcls streams
      frame.tables) (green : frame.pkt.igTmMd.packetColor = 0) : frame.Plain := by
  have metadata : frame.gateId.toNat < 256 ∧ frame.meterId.toNat < 2048 ∧
      frame.identified.igMd.streamGate.gateClosedDueToOctetsExceededEnable = false := by
    unfold Tsn.Frame.gateId Tsn.Frame.meterId Tsn.Frame.identified
    cases found : frame.tables.lookup .streamId frame.pkt.fields with
    | some r =>
      obtain ⟨s, _, ofGates, gateId, _, octets, meterId, _⟩ :=
        batch.stream_of_entry prepared fits (List.mem_of_mem_filter (Tables.lookup_mem found))
      rw [Tsn.streamIdentification_igMd found]
      refine ⟨?_, meterId, octets⟩
      exact gateId.trans_lt (fits.gateIds _ ofGates)
    | none =>
      have unchanged : StreamIdentification.apply frame.tables frame.pkt = frame.pkt := by
        unfold StreamIdentification.apply
        rw [found]
      rw [unchanged, frame.fresh]
      exact ⟨by decide, by decide, rfl⟩
  exact ⟨fun _ => metadata.1, fun _ => metadata.2.1, fun _ => metadata.2.2, fun _ => green⟩

theorem gateInRange (prepared : Prepared cfg out apps batches) (fits : Fits cfg)
    (batch : Batch macFromStr switch out apps batches app app' schedules gcls streams
      frame.tables) : frame.GateInRange := by
  intro gate role
  obtain ⟨_, m, _, member, _, rfl⟩ := (batch.role_endsGate_iff prepared).mp role
  obtain ⟨g, ofGates, isApp⟩ := KeyedList.exists_related prepared.apps_gates.flip member
  have bound := fits.gateIds g ofGates
  rw [isApp.1, BitVec.toNat_setWidth]
  omega

/-! ### Positions -/

variable {gate : Controller.StreamGate} {schedule : Controller.StreamGateControlList}
  {before : List Tsn.Frame}

theorem noTimer_of_stream? (identified : frame.stream? = some r) :
    frame.pkt.hdr.timer = none ∧
      frame.tables.lookup .streamId frame.pkt.fields = some r := by
  unfold Tsn.Frame.stream? at identified
  cases timer : frame.pkt.hdr.timer with
  | some generated =>
    rw [timer] at identified
    cases identified
  | none =>
    rw [timer] at identified
    exact ⟨rfl, identified⟩

/-- The metadata of a frame of the gate. -/
theorem ofGate_metadata (prepared : Prepared cfg out apps batches) (fits : Fits cfg)
    (batch : Batch macFromStr switch out apps batches app app' schedules gcls streams
      frame.tables) (sole : SoleUser cfg gate)
    (found : cfg.findSchedule gate.schedule = some schedule) (ofGate : OfGate gate frame) :
    frame.pkt.hdr.timer = none ∧ frame.gateId.toNat = gate.streamGateId.toNat ∧
      frame.identified.igMd.streamGate.gateClosedDueToInvalidRxEnable =
        gate.gateClosedDueToInvalidRxEnable ∧
      frame.identified.igMd.hyperperiod.duration = schedule.period := by
  obtain ⟨r, identified, own⟩ := ofGate
  obtain ⟨noTimer, hit⟩ := noTimer_of_stream? identified
  obtain ⟨s, _, ofGates, gateId, invalidRx, _, _, schedule', found', period⟩ :=
    batch.stream_of_entry prepared fits (List.mem_of_mem_filter (Tables.lookup_mem hit))
  have same : cfg.streamGate s = gate :=
    sole.byId _ ofGates (BitVec.eq_of_toNat_eq (gateId.symm.trans own))
  rw [same] at invalidRx found'
  rw [found] at found'
  cases found'
  unfold Tsn.Frame.gateId Tsn.Frame.identified
  rw [Tsn.streamIdentification_igMd hit]
  exact ⟨noTimer, own, invalidRx, period⟩

/-- The position of a frame of the gate, by the hyperperiod packets of the gate. -/
theorem placed_diffTs (prepared : Prepared cfg out apps batches) (fits : Fits cfg)
    (batch : Batch macFromStr switch out apps batches app app' schedules gcls streams
      frame.tables) (sole : SoleUser cfg gate)
    (found : cfg.findSchedule gate.schedule = some schedule)
    (short : schedule.period.toNat < 2 ^ 32) (ofGate : OfGate gate frame) :
    (frame.placed before).igMd.diffTs.toNat = gatePosition gate schedule before frame := by
  obtain ⟨_, gateId, _, duration⟩ := ofGate_metadata prepared fits batch sole found ofGate
  obtain ⟨m, member, isApp⟩ := KeyedList.exists_related prepared.apps_gates sole.member
  obtain ⟨schedule', found', period⟩ := isApp.2
  rw [found] at found'
  cases found'
  have listed : schedule.period ∈
      apps.map (·.hyperperiodDuration) ++ batches.map (·.hyperperiodDuration) := by
    rw [← period]
    exact List.mem_append_left _ (List.mem_map_of_mem member)
  have durationHere : (Tsn.setHyperperiodTs ((Tsn.gateEnds frame.gateId.toNat before).getLastD 0)
      frame.identified).igMd.hyperperiod.duration = schedule.period := duration
  unfold Tsn.Frame.placed
  rw [Tsn.adjusted_position listed (by omega) batch.underflow batch.exceeded _ durationHere,
    Tsn.min_recomputed (by omega), Tsn.elapsed_eq, gateId]
  have tstamp : (Tsn.setHyperperiodTs ((Tsn.gateEnds gate.streamGateId.toNat before).getLastD 0)
      frame.identified).igIntrMd = frame.pkt.igIntrMd := by
    unfold Tsn.setHyperperiodTs Tsn.Frame.identified StreamIdentification.apply
    dsimp only
    split
    · split
      · rfl
      · rfl
    · rfl
  rw [tstamp]
  rfl

/-- The entries that a frame of the gate hits, by its position. -/
theorem schedule_hits (prepared : Prepared cfg out apps batches) (fits : Fits cfg)
    (batch : Batch macFromStr switch out apps batches app app' schedules gcls streams
      frame.tables) (sole : SoleUser cfg gate)
    (found : cfg.findSchedule gate.schedule = some schedule)
    (short : schedule.period.toNat < 2 ^ 32) (ofGate : OfGate gate frame) :
    ((∃ r, r ∈ Request.hits (frame.placed before).fields
        (frame.tables.entries .streamGateInstance)) ↔
        ∃ t ∈ schedule.intervals, t.Contains (gatePosition gate schedule before frame)) ∧
      ∀ r ∈ Request.hits (frame.placed before).fields
        (frame.tables.entries .streamGateInstance), ∃ t ∈ schedule.intervals,
          t.Contains (gatePosition gate schedule before frame) ∧
            ∃ identifier, r ∈ intervalEntries gate.streamGateId t identifier := by
  obtain ⟨_, gateId, _, _⟩ := ofGate_metadata prepared fits batch sole found ofGate
  have position :=
    @placed_diffTs _ _ _ _ _ _ _ _ _ _ _ _ _ _ before prepared fits batch sole found short ofGate
  have below : gatePosition gate schedule before frame < 2 ^ 32 :=
    (positionSince_le _ _ _).trans_lt short
  have own : (frame.placed before).fields .streamGateId = gate.streamGateId.toNat := by
    obtain ⟨_, _, _, placed⟩ := Tsn.placed_eq before frame
    rw [placed]
    exact gateId
  have here : (frame.placed before).fields .diffTs % 2 ^ 32 =
      gatePosition gate schedule before frame := by
    have key : (frame.placed before).fields .diffTs =
        (frame.placed before).igMd.diffTs.toNat := rfl
    rw [key, position, Nat.mod_eq_of_lt below]
  obtain ⟨_, identifiers, numbered⟩ :=
    writeAllSchedules_eq_ok prepared.appIdMappings_eq batch.schedulesRun
  have soleOut : SoleUser out gate := by
    obtain ⟨member, byId, bySchedule⟩ := sole
    rw [← prepared.streamGates_eq] at member byId bySchedule
    exact ⟨member, byId, bySchedule⟩
  have foundOut : out.findSchedule gate.schedule = some schedule := by
    rw [prepared.findSchedule_eq]
    exact found
  have written_iff {t : PSFPTimeSlice} :=
    soleOut.mem_written prepared.apps_gates_out foundOut (t := t)
  rw [batch.streamGateInstance]
  have belongs (r : Request) (hit : r ∈ Request.hits (frame.placed before).fields schedules) :
      ∃ t ∈ schedule.intervals, t.Contains (gatePosition gate schedule before frame) ∧
        ∃ identifier, r ∈ intervalEntries gate.streamGateId t identifier := by
    obtain ⟨⟨streamGateId, t⟩, member, identifier, inEntries, ownPair, inside⟩ :=
      numbered.mem_hits hit
    have same : streamGateId = gate.streamGateId :=
      BitVec.eq_of_toNat_eq (ownPair.symm.trans own)
    rw [same] at member inEntries
    rw [here] at inside
    exact ⟨t, written_iff.mp member, inside, identifier, inEntries⟩
  refine ⟨⟨fun h => ?_, fun h => ?_⟩, belongs⟩
  · obtain ⟨r, hit⟩ := h
    obtain ⟨t, member, inside, _⟩ := belongs r hit
    exact ⟨t, member, inside⟩
  · obtain ⟨t, member, inside⟩ := h
    rw [← here] at inside
    exact numbered.exists_hit (written_iff.mpr member) own inside

/-- A frame that an entry lets pass is policed by a gate. -/
theorem gate_of_opens (prepared : Prepared cfg out apps batches)
    (batch : Batch macFromStr switch out apps batches app app' schedules gcls streams
      frame.tables) (opens : frame.Opens before) :
    ∃ gate ∈ cfg.psfp.streamGates, gate.streamGateId.toNat = frame.gateId.toNat := by
  obtain ⟨r, hit, _⟩ := opens
  obtain ⟨_, identifiers, numbered⟩ :=
    writeAllSchedules_eq_ok prepared.appIdMappings_eq batch.schedulesRun
  have found := Tables.lookup_mem hit
  rw [batch.streamGateInstance] at found
  obtain ⟨⟨streamGateId, t⟩, member, identifier, inEntries, ownPair, inside⟩ :=
    numbered.mem_hits found
  obtain ⟨gate, _, gateFound, idEq, _⟩ := mem_written member
  have listed := (KeyedList.mem_of_find? gateFound).1
  rw [prepared.streamGates_eq] at listed
  refine ⟨gate, listed, ?_⟩
  obtain ⟨_, _, _, placed⟩ := Tsn.placed_eq before frame
  rw [placed] at ownPair
  rw [idEq]
  exact ownPair.symm

end Batch

/-! ## Time slices -/

/-- The data of an entry of an interval. -/
theorem intervalEntries_data {streamGateId identifier : U32} {t : PSFPTimeSlice} {r : Request}
    (member : r ∈ intervalEntries streamGateId t identifier) :
    param r .gateState 1 = t.state.setWidth 1 ∧ param r .ipv 4 = t.ipv.setWidth 4 := by
  unfold intervalEntries at member
  cases run : rangeToTernaryEntries streamGateId t.low t.high t.state t.ipv identifier t.octets with
  | error e =>
    rw [run] at member
    cases member
  | ok es =>
    rw [run] at member
    obtain ⟨blocks, _, same⟩ := Fallible.bind_eq_ok.mp run
    cases same
    obtain ⟨e, _, rfl⟩ := List.mem_map.mp member
    exact ⟨BitVec.ofNat_toNat _ _, BitVec.ofNat_toNat _ _⟩

variable {frame : Tsn.Frame} {gate : Controller.StreamGate}
  {schedule : Controller.StreamGateControlList} {before : List Tsn.Frame}

/-- The entry that a frame hits is of an interval that contains its position. -/
theorem slice_of_lookup {r : Request} (prepared : Prepared cfg out apps batches)
    (fits : Fits cfg) (batch : Batch macFromStr switch out apps batches app app' schedules gcls
      streams frame.tables) (sole : SoleUser cfg gate)
    (found : cfg.findSchedule gate.schedule = some schedule)
    (short : schedule.period.toNat < 2 ^ 32) (ofGate : OfGate gate frame)
    (hit : frame.tables.lookup .streamGateInstance (frame.placed before).fields = some r) :
    ∃ t ∈ schedule.intervals, t.Contains (gatePosition gate schedule before frame) ∧
      (param r .gateState 1 = 1 ↔ isOpen t) ∧
      ∀ pkt, StreamGate.queue r pkt = sliceQueue t pkt.hdr.eth8021q.pcp := by
  obtain ⟨_, belongs⟩ :=
    @Batch.schedule_hits _ _ _ _ _ _ _ _ _ _ _ _ _ _ before prepared fits batch sole found short
      ofGate
  obtain ⟨t, member, inside, identifier, entry⟩ := belongs r (Tables.lookup_mem hit)
  obtain ⟨state, ipv⟩ := intervalEntries_data entry
  refine ⟨t, member, inside, ?_, fun pkt => ?_⟩
  · rw [state]
    exact Iff.rfl
  · unfold StreamGate.queue sliceQueue
    rw [ipv]

theorem someOpen_of_opens (prepared : Prepared cfg out apps batches)
    (fits : Fits cfg) (batch : Batch macFromStr switch out apps batches app app' schedules gcls
      streams frame.tables) (sole : SoleUser cfg gate)
    (found : cfg.findSchedule gate.schedule = some schedule)
    (short : schedule.period.toNat < 2 ^ 32) (ofGate : OfGate gate frame)
    (opens : frame.Opens before) :
    SomeOpen schedule.intervals (gatePosition gate schedule before frame) := by
  obtain ⟨r, hit, opened⟩ := opens
  obtain ⟨t, member, inside, state, _⟩ :=
    slice_of_lookup prepared fits batch sole found short ofGate hit
  exact ⟨t, member, inside, state.mp opened⟩

theorem opens_of_allOpen (prepared : Prepared cfg out apps batches)
    (fits : Fits cfg) (batch : Batch macFromStr switch out apps batches app app' schedules gcls
      streams frame.tables) (sole : SoleUser cfg gate)
    (found : cfg.findSchedule gate.schedule = some schedule)
    (short : schedule.period.toNat < 2 ^ 32) (ofGate : OfGate gate frame)
    (allOpen : AllOpen schedule.intervals (gatePosition gate schedule before frame)) :
    frame.Opens before := by
  obtain ⟨covered, all⟩ := allOpen
  obtain ⟨hit_iff, _⟩ :=
    @Batch.schedule_hits _ _ _ _ _ _ _ _ _ _ _ _ _ _ before prepared fits batch sole found short
      ofGate
  obtain ⟨r', hit'⟩ := hit_iff.mpr covered
  obtain ⟨r, hit⟩ := frame.tables.precedence.isSome _ (List.ne_nil_of_mem hit')
  obtain ⟨t, member, inside, state, _⟩ :=
    slice_of_lookup prepared fits batch sole found short ofGate hit
  exact ⟨r, hit, state.mpr (all t member inside)⟩

/-- A frame that may close the gate is of one of its streams. -/
theorem ofGate_of_enabled (noTimer : frame.pkt.hdr.timer = none)
    (own : frame.gateId.toNat = gate.streamGateId.toNat)
    (enabled : frame.identified.igMd.streamGate.gateClosedDueToInvalidRxEnable = true) :
    OfGate gate frame := by
  unfold OfGate Tsn.Frame.stream?
  rw [noTimer]
  cases hit : frame.tables.lookup .streamId frame.pkt.fields with
  | some r =>
    unfold Tsn.Frame.gateId Tsn.Frame.identified at own
    rw [Tsn.streamIdentification_igMd hit] at own
    exact ⟨r, rfl, own⟩
  | none =>
    -- without a stream the flags are at their initial values
    have unchanged : frame.identified = frame.pkt := by
      unfold Tsn.Frame.identified StreamIdentification.apply
      rw [hit]
    rw [unchanged, frame.fresh] at enabled
    exact absurd enabled nofun

variable {registers registers' : Tsn.Registers} {earlier later : List (Tsn.Frame × Tsn.Result)}
  {event : Tsn.Frame × Tsn.Result}

/-- In every run from fresh registers, with the batch of a configuration that fits, a frame that
passes came in an open time slice of its gate's schedule, and goes to the queue of the slice.  Where
the gate closes on frames outside their slices, all earlier frames of the gate came in open slices.
The gate is the only user of its schedule, the period fits the 32 bits that are matched, and all
packets enter green. -/
theorem admitted_in_schedule (prepare : cfg.prepare = .ok (out, app))
    (run : tableRequests macFromStr switch out app = .ok requests) (fits : Fits cfg)
    (steps : Transition.Run (Tsn.step target) registers (earlier ++ event :: later) registers')
    (fresh : Tsn.Fresh registers)
    (installed : ∀ e ∈ earlier ++ [event], Installed requests e.1.tables)
    (green : ∀ e ∈ earlier ++ [event], e.1.pkt.igTmMd.packetColor = 0)
    (sole : SoleUser cfg gate) (found : cfg.findSchedule gate.schedule = some schedule)
    (short : schedule.period.toNat < 2 ^ 32) (ofGate : OfGate gate event.1)
    (passed : ¬ event.2.Dropped) :
    (∃ t ∈ schedule.intervals,
        t.Contains (gatePosition gate schedule (earlier.map Prod.fst) event.1) ∧ isOpen t ∧
          event.2.pkt.igTmMd.qid = sliceQueue t event.1.identified.hdr.eth8021q.pcp) ∧
      (gate.gateClosedDueToInvalidRxEnable = true → ∀ before e between,
        earlier = before ++ e :: between → OfGate gate e.1 → SomeOpen schedule.intervals
          (gatePosition gate schedule (before.map Prod.fst) e.1)) := by
  obtain ⟨apps, batches, prepared, _⟩ := prepare_eq_ok prepare
  obtain ⟨app', schedules, gcls, streams, entries⟩ := batchEntries prepared run
  have batch (e : Tsn.Frame × Tsn.Result) (member : e ∈ earlier ++ [event]) :=
    entries e.1.tables (installed e member)
  have last : event ∈ earlier ++ [event] := List.mem_append_right _ List.mem_cons_self
  obtain ⟨noTimer, own, invalidRx, _⟩ :=
    Batch.ofGate_metadata prepared fits (batch event last) sole found ofGate
  obtain ⟨_, verdict⟩ := Tsn.run_verdict steps fresh
    (fun e member => (batch e member).plain prepared fits (green e member))
    (fun e member => (batch e (List.mem_append_left _ member)).gateInRange prepared fits) noTimer
  have passes := verdict.passed passed
  obtain ⟨r, hit, opened, qid⟩ := verdict.queue passes
  obtain ⟨t, member, inside, state, queue⟩ :=
    slice_of_lookup prepared fits (batch event last) sole found short ofGate hit
  refine ⟨⟨t, member, inside, state.mp opened, qid.trans (queue _)⟩, ?_⟩
  intro enabled before e between split ofGate'
  have member' : e ∈ earlier ++ [event] := by
    rw [split]
    simp
  obtain ⟨noTimer', own', invalidRx', _⟩ :=
    Batch.ofGate_metadata prepared fits (batch e member') sole found ofGate'
  by_contra outside
  -- else the earlier frame closed the gate
  refine passes.2 (invalidRx.trans enabled) ⟨before.map Prod.fst, e.1, between.map Prod.fst,
    by rw [split, List.map_append, List.map_cons], noTimer', ?_, invalidRx'.trans enabled,
    fun opens => ?_⟩
  · exact BitVec.eq_of_toNat_eq (own'.trans own.symm)
  · exact outside
      (someOpen_of_opens prepared fits (batch e member') sole found short ofGate' opens)

/-- A frame passes a gate where it and, if the gate closes, all earlier frames of the gate come at
positions with all slices open. -/
theorem passesGate_of_allOpen {earlier : List Tsn.Frame} (prepared : Prepared cfg out apps batches)
    (fits : Fits cfg) (batch : ∀ f ∈ earlier ++ [frame],
      Batch macFromStr switch out apps batches app app' schedules gcls streams f.tables)
    (sole : SoleUser cfg gate) (found : cfg.findSchedule gate.schedule = some schedule)
    (short : schedule.period.toNat < 2 ^ 32) (ofGate : OfGate gate frame)
    (allOpen : AllOpen schedule.intervals (gatePosition gate schedule earlier frame))
    (history : gate.gateClosedDueToInvalidRxEnable = true → ∀ before f between,
      earlier = before ++ f :: between → OfGate gate f →
        AllOpen schedule.intervals (gatePosition gate schedule before f)) :
    frame.PassesGate earlier := by
  have here := batch frame (List.mem_append_right _ List.mem_cons_self)
  obtain ⟨_, own, invalidRx, _⟩ := Batch.ofGate_metadata prepared fits here sole found ofGate
  refine ⟨opens_of_allOpen prepared fits here sole found short ofGate allOpen, ?_⟩
  intro enabled closed
  obtain ⟨before, f, between, split, noTimer, own', enabled', outside⟩ := closed
  have member : f ∈ earlier ++ [frame] := by
    rw [split]
    simp
  have ofGate' : OfGate gate f := by
    refine ofGate_of_enabled noTimer ?_ enabled'
    rw [own', own]
  exact outside (opens_of_allOpen prepared fits (batch f member) sole found short ofGate'
    (history (invalidRx.symm.trans enabled) before f between split ofGate'))

/-- In every such run a frame passes that comes at a position where all slices of its gate's
schedule are open, if its meter lets it pass, and all earlier frames of a gate that closes came at
such positions. -/
theorem in_schedule_admitted (prepare : cfg.prepare = .ok (out, app))
    (run : tableRequests macFromStr switch out app = .ok requests) (fits : Fits cfg)
    (steps : Transition.Run (Tsn.step target) registers (earlier ++ event :: later) registers')
    (fresh : Tsn.Fresh registers)
    (installed : ∀ e ∈ earlier ++ [event], Installed requests e.1.tables)
    (green : ∀ e ∈ earlier ++ [event], e.1.pkt.igTmMd.packetColor = 0)
    (sole : SoleUser cfg gate) (found : cfg.findSchedule gate.schedule = some schedule)
    (short : schedule.period.toNat < 2 ^ 32) (ofGate : OfGate gate event.1)
    (allOpen : AllOpen schedule.intervals
      (gatePosition gate schedule (earlier.map Prod.fst) event.1))
    (history : gate.gateClosedDueToInvalidRxEnable = true → ∀ before e between,
      earlier = before ++ e :: between → OfGate gate e.1 → AllOpen schedule.intervals
        (gatePosition gate schedule (before.map Prod.fst) e.1))
    (meter : event.1.PassesMeter (earlier.map Prod.fst)) : ¬ event.2.Dropped := by
  obtain ⟨apps, batches, prepared, _⟩ := prepare_eq_ok prepare
  obtain ⟨app', schedules, gcls, streams, entries⟩ := batchEntries prepared run
  have batch (e : Tsn.Frame × Tsn.Result) (member : e ∈ earlier ++ [event]) :=
    entries e.1.tables (installed e member)
  have last : event ∈ earlier ++ [event] := List.mem_append_right _ List.mem_cons_self
  obtain ⟨noTimer, _⟩ := Batch.ofGate_metadata prepared fits (batch event last) sole found ofGate
  obtain ⟨_, verdict⟩ := Tsn.run_verdict steps fresh
    (fun e member => (batch e member).plain prepared fits (green e member))
    (fun e member => (batch e (List.mem_append_left _ member)).gateInRange prepared fits) noTimer
  have frames (f : Tsn.Frame) (member : f ∈ earlier.map Prod.fst ++ [event.1]) :
      Batch macFromStr switch out apps batches app app' schedules gcls streams f.tables := by
    have mapped : f ∈ (earlier ++ [event]).map Prod.fst := by
      rw [List.map_append]
      exact member
    obtain ⟨e, listed, rfl⟩ := List.mem_map.mp mapped
    exact batch e listed
  rw [verdict.dropped_iff, not_not]
  refine ⟨passesGate_of_allOpen prepared fits frames sole found short ofGate allOpen
    fun enabled before f between split ofGate' => ?_, meter⟩
  obtain ⟨before', rest, rfl, rfl, restSplit⟩ := List.map_eq_append_iff.mp split
  obtain ⟨e, between', rfl, rfl, rfl⟩ := List.map_eq_cons_iff.mp restSplit
  exact history enabled before' e between' rfl ofGate'

/-! ### A run of a gate that closes -/

def closingGate : Controller.StreamGate :=
  { streamGateId := 1, schedule := "psfp", gateClosedDueToInvalidRxEnable := true }

def closingSchedule : Controller.StreamGateControlList :=
  { name := "psfp", period := 16, intervals :=
      [{ low := 0, high := 4, state := 1, ipv := 0, octets := 100 },
       { low := 4, high := 16, state := 0, ipv := 0, octets := 100 }] }

def closingSample : Configuration :=
  { sample with
    psfp := { sample.psfp with
      streamGates := [closingGate]
      streamGateSchedules := [closingSchedule] } }

def closingPrepared : Configuration where
  psfp := { closingSample.psfp with
    appIdMappings := some [{ appId := 1, streamGateId := 1, hyperperiodDuration := 16 }] }
  tas := { samplePrepared.tas with
    batchMappings := some
      [{ appId := 2, batchId := 0, egressDevPort := 133, hyperperiodDuration := 8 }] }

theorem prepare_closingSample : closingSample.prepare = .ok (closingPrepared, ⟨3, 0⟩) :=
  rfl

def closingRequests : List Request :=
  Fallible.output (tableRequests sampleMacFromStr .sample closingPrepared ⟨3, 0⟩)

theorem closingRequests_run :
    tableRequests sampleMacFromStr .sample closingPrepared ⟨3, 0⟩ = .ok closingRequests := by
  have returns : ∃ requests,
      tableRequests sampleMacFromStr .sample closingPrepared ⟨3, 0⟩ = .ok requests :=
    Fallible.exists_of_isOk (by decide +kernel)
  obtain ⟨requests, run⟩ := returns
  unfold closingRequests
  rw [run, Fallible.output_ok]

theorem closingSample_fits : Fits closingSample where
  resolved := by
    intro s member
    cases List.mem_singleton.mp member
    exact ⟨_, List.mem_cons_self, rfl⟩
  gateIds := by decide
  meterIds := by decide
  octets := by decide

theorem closingGate_sole : SoleUser closingSample closingGate where
  member := List.mem_singleton_self _
  byId := fun _ member _ => List.mem_singleton.mp member
  bySchedule := fun _ member _ => List.mem_singleton.mp member

/-- A frame of the stream of the gate. -/
def streamFrame (ts : BitVec 48) : Tsn.Frame where
  tables := ⟨closingRequests, .first⟩
  meter := fun _ => 0
  pkt := { (default : Packet) with
    hdr := { (default : Headers) with
      ethernet := { dstAddr := 0x32 }
      eth8021q := { pcp := 5, dei := 0, vid := 50 }
      ipv4 := { srcAddr := 0x0A000001, dstAddr := 0 } }
    igIntrMd := { ingressMacTstamp := ts } }
  fresh := rfl

theorem streamFrame_ofGate (ts : BitVec 48) : OfGate closingGate (streamFrame ts) := by
  have first : (streamFrame 0).stream?.map (fun r => (param r .streamGateId 12).toNat) =
      some 1 := by
    decide +kernel
  have same : (streamFrame ts).stream? = (streamFrame 0).stream? := rfl
  obtain ⟨r, identified, own⟩ := Option.map_eq_some_iff.mp first
  exact ⟨r, same.trans identified, own⟩

theorem streamFrame_installed (ts : BitVec 48) :
    Installed closingRequests (streamFrame ts).tables :=
  installed_self closingRequests .first

/-- The frame passes 2 ns after the start. -/
def firstResult : Tsn.Result :=
  (streamFrame 2).pass Tsn.sampleRegisters

/-- And the next one 1 ns later. -/
def secondResult : Tsn.Result :=
  (streamFrame 3).pass firstResult.registers

theorem streamRun : Transition.Run (Tsn.step .strict) Tsn.sampleRegisters
    ([(streamFrame 2, firstResult)] ++ (streamFrame 3, secondResult) :: [])
    secondResult.registers :=
  Tsn.run_pair Tsn.sampleRegisters (streamFrame 2) (streamFrame 3)

/-- What holds of all frames holds of those of the run. -/
theorem streamRun_forall {P : Tsn.Frame → Prop} (all : ∀ ts, P (streamFrame ts)) :
    ∀ e ∈ [(streamFrame 2, firstResult)] ++ [(streamFrame 3, secondResult)], P e.1 := by
  intro e member
  rcases List.mem_pair.mp member with rfl | rfl
  · exact all 2
  · exact all 3

theorem streamRun_installed :
    ∀ e ∈ [(streamFrame 2, firstResult)] ++ [(streamFrame 3, secondResult)],
      Installed closingRequests e.1.tables :=
  streamRun_forall (P := fun frame => Installed closingRequests frame.tables)
    streamFrame_installed

theorem streamRun_green : ∀ e ∈ [(streamFrame 2, firstResult)] ++ [(streamFrame 3, secondResult)],
    e.1.pkt.igTmMd.packetColor = 0 :=
  streamRun_forall (P := fun frame => frame.pkt.igTmMd.packetColor = 0) fun _ => rfl

theorem admitted_in_schedule_sample :
    ¬ secondResult.Dropped ∧ SomeOpen closingSchedule.intervals
      (gatePosition closingGate closingSchedule [] (streamFrame 2)) := by
  have passed : ¬ secondResult.Dropped := by
    unfold Tsn.Result.Dropped
    decide +kernel
  have admitted := admitted_in_schedule prepare_closingSample closingRequests_run
    closingSample_fits streamRun Tsn.sampleRegisters_fresh streamRun_installed streamRun_green
    closingGate_sole rfl (by decide) (streamFrame_ofGate 3) passed
  exact ⟨passed, admitted.2 rfl [] (streamFrame 2, firstResult) [] rfl (streamFrame_ofGate 2)⟩

/-- Before 4 ns only the first slice contains a position. -/
theorem closingSchedule_allOpen {position : Nat} (early : position < 4) :
    AllOpen closingSchedule.intervals position := by
  refine ⟨⟨_, List.mem_cons_self, Nat.zero_le _, early.le⟩, fun t member inside => ?_⟩
  rcases List.mem_pair.mp member with rfl | rfl
  · rfl
  · exact absurd inside.1 (Nat.not_le_of_lt early)

theorem streamRun_meter : (streamFrame 3).PassesMeter [streamFrame 2] := by
  refine ⟨by decide +kernel, fun reddened => ?_, fun _ => by decide +kernel⟩
  have unmarked : (streamFrame 2).identified.igMd.flowMeter.markAllFramesRedEnable = false := by
    decide +kernel
  obtain ⟨before, frame, later, split, _, _, marks, _⟩ := reddened
  have member : frame ∈ [streamFrame 2] := by
    rw [split]
    exact List.mem_append_right _ List.mem_cons_self
  rw [List.mem_singleton.mp member, unmarked] at marks
  exact Bool.false_ne_true marks

theorem in_schedule_admitted_sample : ¬ secondResult.Dropped := by
  have here : AllOpen closingSchedule.intervals
      (gatePosition closingGate closingSchedule [streamFrame 2] (streamFrame 3)) :=
    closingSchedule_allOpen (by decide +kernel)
  have before : ∀ before e between, [(streamFrame 2, firstResult)] = before ++ e :: between →
      OfGate closingGate e.1 → AllOpen closingSchedule.intervals
        (gatePosition closingGate closingSchedule (before.map Prod.fst) e.1) := by
    intro before e between split _
    obtain ⟨empty, same⟩ := History.split_of_singleton split
    rw [empty, same]
    exact closingSchedule_allOpen (by decide +kernel)
  have short : closingSchedule.period.toNat < 2 ^ 32 := by decide
  have admitted := @in_schedule_admitted sampleMacFromStr .sample closingSample closingPrepared
    ⟨3, 0⟩ closingRequests .strict closingGate closingSchedule Tsn.sampleRegisters
    secondResult.registers [(streamFrame 2, firstResult)] [] (streamFrame 3, secondResult)
    prepare_closingSample closingRequests_run closingSample_fits streamRun Tsn.sampleRegisters_fresh
    streamRun_installed streamRun_green closingGate_sole rfl short (streamFrame_ofGate 3)
  exact admitted here (fun _ => before) streamRun_meter

end P4Tas.DataPlane
