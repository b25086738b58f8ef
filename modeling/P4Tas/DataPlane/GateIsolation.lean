import P4Tas.Controller.MatchKeys
import P4Tas.DataPlane.Isolation
import P4Tas.DataPlane.Restart

/-!
# The gates of a configuration

When the ids of a configuration fit the registers and a gate shares no meter with another, its
installed batch is one whose gates and meters do not interfere.

* `Apart`: what is asked of the configuration;
* `Batch.separate`: the tables are separate, for every meter of the gate;
* `Tsn.unwinding_gate`: the meters of a gate taken together;
* `gate_alone`: the frames of the gate are decided as if no other packet came.
-/

namespace P4Tas.DataPlane

open Controller Controller.Configuration Controller.StreamGateControlList

/-- The meter of the stream. -/
def streamMeter (cfg : Configuration) (s : Stream) : Controller.FlowMeter :=
  cfg.findMeter (cfg.findHandle s)

/-- The number of intervals that are written for the gate. -/
def intervalCount (cfg : Configuration) (gate : Controller.StreamGate) : Nat :=
  ((cfg.findSchedule gate.schedule).map fun schedule => schedule.intervals.length).getD 0

/-- The ids fit the registers, and no stream of another gate uses a meter of this one.  Neither the
gate nor its meters have the id 0, which frames carry that are not identified. -/
structure Apart (cfg : Configuration) (gate : Controller.StreamGate) : Prop where
  listed : gate ∈ cfg.psfp.streamGates
  named : gate.streamGateId ≠ 0
  ids : (cfg.psfp.streamGates.map (·.streamGateId)).Nodup
  gateIds : ∀ g ∈ cfg.psfp.streamGates, g.streamGateId.toNat < 256
  meterIds : ∀ f ∈ cfg.psfp.flowMeters, f.flowMeterId.toNat < 2048
  intervals : (cfg.psfp.streamGates.map (intervalCount cfg)).sum ≤ 2048
  meterNamed : ∀ s ∈ cfg.psfp.streams, (cfg.streamGate s).streamGateId = gate.streamGateId →
    (streamMeter cfg s).flowMeterId ≠ 0
  meterOwn : ∀ s ∈ cfg.psfp.streams, (cfg.streamGate s).streamGateId = gate.streamGateId →
    ∀ s' ∈ cfg.psfp.streams,
      (streamMeter cfg s').flowMeterId = (streamMeter cfg s).flowMeterId →
        (cfg.streamGate s').streamGateId = gate.streamGateId

/-- The id of the gate as the pipeline carries it. -/
def gateId (gate : Controller.StreamGate) : BitVec 12 :=
  gate.streamGateId.setWidth 12

namespace Tsn

variable {σ ι : Type} {tables : Tables} {gate : BitVec 12}

/-- A stream of the gate uses the meter. -/
def UsedBy (tables : Tables) (gate : BitVec 12) (meterId : BitVec 16) : Prop :=
  ∃ r ∈ tables.entries .streamId,
    param r .streamGateId 12 = gate ∧ param r .flowMeterInstanceId 16 = meterId

/-- The frames of a gate whose meters are all separate. -/
theorem unwinding_gate (target : Target)
    (separate : ∀ meterId, UsedBy tables gate meterId → Separate tables gate meterId)
    (meter : Meter σ ι) :
    Noninterference.Unwinding (process target tables meter)
      (decision? tables fun r => param r .streamGateId 12 = gate) (ofGate tables gate)
      fun shared shared' => ∀ meterId, UsedBy tables gate meterId →
        Related tables gate meterId shared shared' := by
  refine .joint (fun meterId used => unwinding target (separate meterId used) meter) ?_ ?_
  · intro arrival result hidden
    cases timer : arrival.pkt.hdr.timer with
    | some _ => exact decision?_timer timer tables _ result
    | none =>
      unfold ofGate at hidden
      rw [timer] at hidden
      unfold decision?
      rw [timer]
      dsimp only at hidden ⊢
      rw [hidden]
      exact if_neg Bool.false_ne_true
  · intro arrival shown
    cases timer : arrival.pkt.hdr.timer with
    | some _ => exact .inr fun result => decision?_timer timer tables _ result
    | none =>
      unfold ofGate at shown
      rw [timer] at shown
      dsimp only at shown
      cases found : tables.lookup .streamId arrival.pkt.fields with
      | none =>
        rw [found] at shown
        exact absurd shown Bool.false_ne_true
      | some r =>
        rw [found, Option.any_some, decide_eq_true_eq] at shown
        have entry := (Request.mem_hits.mp (Tables.lookup_mem found)).1
        refine .inl ⟨param r .flowMeterInstanceId 16, ⟨r, entry, shown, rfl⟩, fun result => ?_⟩
        have both : streamsOf gate (param r .flowMeterInstanceId 16) r = true :=
          decide_eq_true ⟨shown, rfl⟩
        unfold decision?
        rw [timer, found]
        dsimp only
        rw [Option.any_some, Option.any_some, both, decide_eq_true shown]

end Tsn

/-! ## The intervals of a batch -/

/-- An entry carries the gate and the number of its interval. -/
theorem intervalEntries_ids {streamGateId identifier : U32} {t : PSFPTimeSlice} {r : Request}
    (member : r ∈ intervalEntries streamGateId t identifier) :
    r.key? .streamGateId = some (.exact streamGateId.toNat) ∧
      r.data? .intervalIdentifier = some identifier.toNat := by
  cases returned : ternaryBlocks t.low t.high with
  | error e =>
    unfold intervalEntries rangeToTernaryEntries at member
    rw [returned] at member
    exact absurd member List.not_mem_nil
  | ok es =>
    rw [intervalEntries_eq returned] at member
    obtain ⟨e, _, rfl⟩ := List.mem_map.mp member
    exact ⟨rfl, rfl⟩

/-- An entry is of one of the intervals, with the number of this interval. -/
theorem numbered_source {pairs : List (U32 × PSFPTimeSlice)} {start last : U32}
    {requests : List Request} {identifiers : List U32}
    (numbered : Numbered pairs start last requests identifiers) {r : Request}
    (member : r ∈ requests) :
    ∃ x ∈ pairs.zip identifiers, r.key? .streamGateId = some (.exact x.1.1.toNat) ∧
      r.data? .intervalIdentifier = some x.2.toNat := by
  rw [numbered.requests_eq] at member
  obtain ⟨x, paired, entry⟩ := List.mem_flatMap.mp member
  exact ⟨x, paired, intervalEntries_ids entry⟩

/-- The gates are written with the intervals of their schedules. -/
theorem written_length {cfg : Configuration}
    (ids : (cfg.psfp.streamGates.map (·.streamGateId)).Nodup) {mappings : List AppIDMapping}
    (related : List.Forall₂ cfg.IsAppMapping cfg.psfp.streamGates mappings) :
    (written cfg mappings).length = (cfg.psfp.streamGates.map (intervalCount cfg)).sum := by
  rw [written_eq ids related, List.length_flatMap]
  refine congrArg List.sum (List.map_congr_left fun gate member => ?_)
  obtain ⟨first, firstFound⟩ : ∃ first, findGateOfSchedule cfg gate.schedule = some first :=
    KeyedList.exists_find? member rfl
  unfold writtenFor intervalCount
  rw [firstFound, Option.toList_some, List.flatMap_singleton]
  cases cfg.findSchedule gate.schedule with
  | none => rfl
  | some schedule =>
    rw [Option.toList_some, List.flatMap_singleton]
    exact List.length_map _

variable {macFromStr : String → Option (List U8)} {switch : Switch} {cfg out : Configuration}
  {apps : List AppIDMapping} {batches : List BatchIDMapping} {app app' : AppState}
  {schedules gcls streams : List Request} {tables : Tables} {gate : Controller.StreamGate}
  {r : Request}

namespace Apart

theorem gateId_toNat (apart : Apart cfg gate) : (gateId gate).toNat = gate.streamGateId.toNat := by
  have bound := apart.gateIds gate apart.listed
  unfold gateId
  rw [BitVec.toNat_setWidth]
  omega

theorem streamGate_lt (apart : Apart cfg gate) (s : Stream) :
    (cfg.streamGate s).streamGateId.toNat < 256 := by
  unfold streamGate findGate
  cases found : cfg.psfp.streamGates.find?
      fun g => g.streamGateId == (cfg.findHandle s).streamGateInstance with
  | none => decide
  | some g => exact apart.gateIds g (KeyedList.mem_of_find? found).1

theorem streamMeter_lt (apart : Apart cfg gate) (s : Stream) :
    (streamMeter cfg s).flowMeterId.toNat < 2048 := by
  unfold streamMeter findMeter
  cases found : cfg.psfp.flowMeters.find?
      fun f => f.flowMeterId == (cfg.findHandle s).flowMeterInstance with
  | none => decide
  | some f => exact apart.meterIds f (KeyedList.mem_of_find? found).1

end Apart

namespace Batch

/-- An entry carries the ids of the gate and the meter of its stream. -/
theorem stream_ids (prepared : Prepared cfg out apps batches) (apart : Apart cfg gate)
    (batch : Batch macFromStr switch out apps batches app app' schedules gcls streams tables)
    (entry : r ∈ tables.entries .streamId) :
    ∃ s ∈ cfg.psfp.streams,
      (param r .streamGateId 12).toNat = (cfg.streamGate s).streamGateId.toNat ∧
      (param r .flowMeterInstanceId 16).toNat = (streamMeter cfg s).flowMeterId.toNat := by
  obtain ⟨s, member, requested⟩ := requested_of_entry prepared batch entry
  have gateBound := apart.streamGate_lt s
  have meterBound := apart.streamMeter_lt s
  refine ⟨s, member, ?_, ?_⟩
  · unfold param
    rw [(streamIdRequest_isStreamEntry requested).gateId, prepared.streamGate_eq,
      Option.getD_some, BitVec.toNat_ofNat]
    omega
  · unfold param
    rw [streamIdRequest_meterId requested, prepared_findMeter prepared, Option.getD_some,
      BitVec.toNat_ofNat]
    exact Nat.mod_eq_of_lt (Nat.lt_trans meterBound (by decide))

/-- An entry carries the number of its interval, which is below the size of the registers, and the
gate this interval was written for. -/
theorem interval_numbers (prepared : Prepared cfg out apps batches) (apart : Apart cfg gate)
    (start : app.uniqueIntervalIdentifier = 0)
    (batch : Batch macFromStr switch out apps batches app app' schedules gcls streams tables) :
    ∃ gates : List U32, ∀ r ∈ tables.entries .streamGateInstance, ∃ i g, gates[i]? = some g ∧
      i < 2048 ∧ r.key? .streamGateId = some (.exact g.toNat) ∧
      (param r .intervalIdentifier 12).toNat = i := by
  obtain ⟨_, identifiers, numbered⟩ :=
    writeAllSchedules_eq_ok prepared.appIdMappings_eq batch.schedulesRun
  have few : (written out apps).length ≤ 2048 := by
    have ids := apart.ids
    rw [← prepared.streamGates_eq] at ids
    rw [written_length ids prepared.apps_gates_out, prepared.streamGates_eq]
    have same : intervalCount out = intervalCount cfg := by
      funext g
      unfold intervalCount
      rw [prepared.findSchedule_eq]
    rw [same]
    exact apart.intervals
  refine ⟨(written out apps).map Prod.fst, fun r entry => ?_⟩
  rw [batch.streamGateInstance] at entry
  obtain ⟨x, paired, key, number⟩ := numbered_source numbered entry
  obtain ⟨i, inside, at_i⟩ := List.mem_iff_getElem.mp paired
  rw [List.length_zip, Nat.lt_min] at inside
  have number_i : x.2.toNat = i := by
    have here := congrArg (·[i]?) numbered.consecutive
    rw [start] at here
    simpa [← at_i, inside.1, inside.2] using here
  refine ⟨i, x.1.1, ?_, by omega, key, ?_⟩
  · simp [← at_i, inside.1]
  · unfold param
    rw [number, Option.getD_some, BitVec.toNat_ofNat, number_i]
    omega

/-- The tables of the batch are separate, for every meter of the gate. -/
theorem separate (prepared : Prepared cfg out apps batches) (apart : Apart cfg gate)
    (start : app.uniqueIntervalIdentifier = 0)
    (batch : Batch macFromStr switch out apps batches app app' schedules gcls streams tables)
    {meterId : BitVec 16} (used : Tsn.UsedBy tables (gateId gate) meterId) :
    Tsn.Separate tables (gateId gate) meterId := by
  obtain ⟨gates, numbers⟩ := interval_numbers prepared apart start batch
  obtain ⟨r, entry, own, meters⟩ := used
  obtain ⟨s, member, gateEq, meterEq⟩ := stream_ids prepared apart batch entry
  rw [own, apart.gateId_toNat] at gateEq
  rw [meters] at meterEq
  have ofGate : (cfg.streamGate s).streamGateId = gate.streamGateId :=
    BitVec.eq_of_toNat_eq gateEq.symm
  constructor
  case gate_nonzero =>
    intro zero
    have none := congrArg BitVec.toNat zero
    rw [apart.gateId_toNat] at none
    exact apart.named (BitVec.eq_of_toNat_eq none)
  case meter_nonzero =>
    rintro rfl
    exact apart.meterNamed s member ofGate (BitVec.eq_of_toNat_eq meterEq.symm)
  case stream_gates =>
    intro r' entry'
    obtain ⟨s', _, gateEq', _⟩ := stream_ids prepared apart batch entry'
    rw [gateEq']
    exact apart.streamGate_lt s'
  case app_gates =>
    intro r' entry'
    rw [batch.appIdStreamGate] at entry'
    obtain ⟨m, mapped, rfl⟩ := List.mem_map.mp entry'
    obtain ⟨g, listed, isApp⟩ := KeyedList.exists_related prepared.apps_gates.flip mapped
    have bound := apart.gateIds g listed
    rw [← isApp.1] at bound
    have data : (PacketGenerator.appIdStreamGateRequest m).data? .streamGateId =
        some m.streamGateId.toNat := rfl
    unfold param
    rw [data, Option.getD_some, BitVec.toNat_ofNat]
    omega
  case stream_meters =>
    intro r' entry'
    obtain ⟨s', _, _, meterEq'⟩ := stream_ids prepared apart batch entry'
    rw [meterEq']
    exact apart.streamMeter_lt s'
  case meter_own =>
    intro r' entry' sameMeter
    obtain ⟨s', member', gateEq', meterEq'⟩ := stream_ids prepared apart batch entry'
    rw [sameMeter] at meterEq'
    have shared := apart.meterOwn s member ofGate s' member'
      (BitVec.eq_of_toNat_eq (meterEq'.symm.trans meterEq))
    refine BitVec.eq_of_toNat_eq ?_
    rw [gateEq', shared, apart.gateId_toNat]
  case intervals =>
    intro r' entry'
    obtain ⟨i, _, _, small, _, number⟩ := numbers r' entry'
    rw [number]
    exact small
  case intervals_own =>
    intro r' entry' r'' entry'' same
    obtain ⟨i, g, written, _, key, number⟩ := numbers r' entry'
    obtain ⟨i', g', written', _, key', number'⟩ := numbers r'' entry''
    rw [same, number'] at number
    rw [number, written] at written'
    rw [key, key', Option.some.inj written']
  case gate_keys =>
    intro r' entry'
    obtain ⟨_, g, _, _, key, _⟩ := numbers r' entry'
    exact ⟨_, key⟩
  case meter_keys =>
    intro r' entry'
    rw [batch.flowMeterInstance] at entry'
    obtain ⟨f, _, rfl⟩ := List.mem_map.mp entry'
    exact ⟨_, rfl⟩

end Batch

/-- **Every gate as if it were alone.**  Let the ids of a configuration fit the registers, and let a
gate share no meter with another.  After a start of the controller with this configuration, whatever
the registers and the meters hold, the frames of the gate are dropped, queued and marked in every
sequence of packets as they are in the sequence of only those frames and the hyperperiod packets of
the gate. -/
theorem gate_alone {driver : Driver} {devPort : U32 → U32 → Option U32} {s s' : SwitchState}
    (documented : driver.Documented)
    (restarted : Controller.run driver macFromStr switch devPort cfg s = .ok (some s'))
    (apart : Apart cfg gate) (precedence : Precedence) (target : Target) {σ ι : Type}
    (meter : Tsn.Meter σ ι) (shared : Tsn.Shared σ) (arrivals : List (Tsn.Arrival ι)) :
    Tsn.decisions target ⟨s'.installed, precedence⟩ meter
        (fun r => param r .streamGateId 12 = gateId gate) shared arrivals =
      Tsn.decisions target ⟨s'.installed, precedence⟩ meter
        (fun r => param r .streamGateId 12 = gateId gate) shared
        (arrivals.filter (Tsn.ofGate ⟨s'.installed, precedence⟩ (gateId gate))) := by
  obtain ⟨out, apps, batches, app, app', schedules, gcls, streams, prepared, start, batch, _⟩ :=
    started_batch documented restarted precedence
  exact (Tsn.unwinding_gate target (fun _ => batch.separate prepared apart start)
    meter).observed_visible (fun _ _ => .refl shared) arrivals

/-! ### Two gates -/

/-- Two gates that close on frames outside their slices, each with a stream and a meter. -/
def pairSample : Configuration :=
  { gatePair with
    psfp := { gatePair.psfp with
      streams :=
        [{ vid := 7, streamHandle := 1, ethDst := "00:00:00:00:00:32", overwritePcp := none,
           overwriteMac := none, ipv4Src := none, ipv4Dst := none },
         { vid := 8, streamHandle := 2, ethDst := "00:00:00:00:00:32", overwritePcp := none,
           overwriteMac := none, ipv4Src := none, ipv4Dst := none }]
      streamHandles :=
        [{ streamHandle := 1, streamGateInstance := 1, flowMeterInstance := 1 },
         { streamHandle := 2, streamGateInstance := 2, flowMeterInstance := 2 }]
      streamGates :=
        [{ streamGateId := 1, schedule := "psfp", gateClosedDueToInvalidRxEnable := true },
         { streamGateId := 2, schedule := "other", gateClosedDueToInvalidRxEnable := true }]
      flowMeters := [{ flowMeterId := 1 }, { flowMeterId := 2 }] } }

def pairPrepared : Configuration where
  psfp := { pairSample.psfp with
    appIdMappings := some
      [{ appId := 1, streamGateId := 1, hyperperiodDuration := 8 },
       { appId := 2, streamGateId := 2, hyperperiodDuration := 6 }] }
  tas := samplePrepared.tas

theorem prepare_pairSample : pairSample.prepare = .ok (pairPrepared, ⟨4, 0⟩) :=
  rfl

def firstGate : Controller.StreamGate :=
  { streamGateId := 1, schedule := "psfp", gateClosedDueToInvalidRxEnable := true }

theorem pairSample_apart : Apart pairSample firstGate where
  listed := List.mem_cons_self
  named := by decide
  ids := by decide
  gateIds := by decide
  meterIds := by decide
  intervals := by decide
  meterNamed := by decide
  meterOwn := by decide

def pairRequests : List Request :=
  Fallible.output (tableRequests sampleMacFromStr eightQueues pairPrepared ⟨4, 0⟩)

/-- The controller starts with the configuration, and its requests are installed. -/
theorem pairSample_started (s : SwitchState) : ∃ s',
    Controller.run directDriver sampleMacFromStr eightQueues (fun port _ => some port) pairSample
        s = .ok (some s') ∧
      Installed pairRequests ⟨s'.installed, .first⟩ := by
  obtain ⟨forwarding, forwardingRun⟩ :
      ∃ forwarding, forwardingRequests (fun port _ => some port) = .ok forwarding :=
    Fallible.exists_of_isOk (by decide +kernel)
  obtain ⟨generators, generatorsRun⟩ : ∃ generators,
      PacketGenerator.activateTrafficGenApplications pairPrepared = .ok generators :=
    Fallible.exists_of_isOk (by decide +kernel)
  obtain ⟨afc, afcRun⟩ :
      ∃ afc, Controller.TAS.configureAfcPorts eightQueues pairPrepared = .ok afc :=
    Fallible.exists_of_isOk (by decide +kernel)
  obtain ⟨requests, requestsRun⟩ : ∃ requests,
      tableRequests sampleMacFromStr eightQueues pairPrepared ⟨4, 0⟩ = .ok requests :=
    Fallible.exists_of_isOk (by decide +kernel)
  refine ⟨_, run_direct forwardingRun prepare_pairSample generatorsRun afcRun requestsRun s, ?_⟩
  unfold pairRequests
  rw [requestsRun]
  exact broughtUp_batch forwardingRun generators afc s .first

/-- A frame that blocks the second gate changes nothing for two frames of the first one. -/
theorem gate_alone_sample : ∃ s',
    Controller.run directDriver sampleMacFromStr eightQueues (fun port _ => some port) pairSample
        usedSwitch = .ok (some s') ∧
      Tsn.decisions .strict ⟨s'.installed, .first⟩ Tsn.countingMeter
          (fun r => param r .streamGateId 12 = 1) ⟨s'.ingress, fun _ => 0⟩
          [Tsn.vlanFrame 7, Tsn.vlanFrame 8, Tsn.vlanFrame 7] =
        Tsn.decisions .strict ⟨s'.installed, .first⟩ Tsn.countingMeter
          (fun r => param r .streamGateId 12 = 1) ⟨s'.ingress, fun _ => 0⟩
          [Tsn.vlanFrame 7, Tsn.vlanFrame 7] := by
  obtain ⟨s', restarted, installed⟩ := pairSample_started usedSwitch
  refine ⟨s', restarted, ?_⟩
  have alone := gate_alone directDriver_documented restarted pairSample_apart .first .strict
    Tsn.countingMeter ⟨s'.ingress, fun _ => 0⟩
    [Tsn.vlanFrame 7, Tsn.vlanFrame 8, Tsn.vlanFrame 7]
  have entries : Tables.entries ⟨s'.installed, .first⟩ .streamId =
      Tables.entries ⟨pairRequests, .first⟩ .streamId :=
    (installed .streamId (by decide)).trans
      (installed_self pairRequests .first .streamId (by decide)).symm
  have noTimer (vid : BitVec 12) : (Tsn.vlanFrame vid).pkt.hdr.timer = none := rfl
  have same (vid : BitVec 12) : Tsn.ofGate ⟨s'.installed, .first⟩ 1 (Tsn.vlanFrame vid) =
      Tsn.ofGate ⟨pairRequests, .first⟩ 1 (Tsn.vlanFrame vid) := by
    unfold Tsn.ofGate Tables.lookup
    rw [noTimer]
    dsimp only
    rw [entries]
  have own : Tsn.ofGate ⟨s'.installed, .first⟩ 1 (Tsn.vlanFrame 7) = true := by
    rw [same]
    decide +kernel
  have other : ¬ Tsn.ofGate ⟨s'.installed, .first⟩ 1 (Tsn.vlanFrame 8) = true := by
    rw [same]
    decide +kernel
  have first : gateId firstGate = 1 := by decide
  rw [first, List.filter_cons_of_pos own, List.filter_cons_of_neg other,
    List.filter_cons_of_pos own] at alone
  exact alone

end P4Tas.DataPlane
