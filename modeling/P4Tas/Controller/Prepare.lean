import P4Tas.Controller.Configuration
import P4Tas.Lib.KeyedList

/-!
# The prepared configuration

What `main.rs` leaves in the configuration before any table entry is generated: the guarded GCLs,
one app id for each stream gate, one app id and one batch id for each mapped port.  `Prepared`
states it as relations between the configuration before and after, so that later results need no
loop of `configuration.rs`.
-/

namespace P4Tas.Controller

namespace GateControlList

/-- Guard bands keep the name of a GCL. -/
theorem insertGuardBands_name {gcl guarded : GateControlList}
    (run : gcl.insertGuardBands = .ok guarded) : gcl.name = guarded.name := by
  unfold insertGuardBands at run
  split at run
  · rw [Except.ok.inj run]
  · obtain ⟨_, _, run⟩ := Fallible.bind_eq_ok.mp run
    obtain ⟨_, _, run⟩ := Fallible.bind_eq_ok.mp run
    obtain ⟨_, _, run⟩ := Fallible.bind_eq_ok.mp run
    rw [← Except.ok.inj run]

end GateControlList

namespace Configuration

theorem insertTasGsi_eq_ok {cfg guarded : Configuration} :
    cfg.insertTasGsi = .ok guarded ↔
      ∃ gcls, List.Forall₂ (fun g g' => g.insertGuardBands = .ok g') cfg.tas.gcls gcls ∧
        guarded = { cfg with tas := { cfg.tas with gcls } } := by
  unfold insertTasGsi
  rw [Fallible.bind_eq_ok]
  refine ⟨?_, ?_⟩
  · intro h
    obtain ⟨gcls, run, result⟩ := h
    exact ⟨gcls, Fallible.mapM_eq_ok.mp run, (Except.ok.inj result).symm⟩
  · intro h
    obtain ⟨gcls, related, rfl⟩ := h
    exact ⟨gcls, Fallible.mapM_eq_ok.mpr related, rfl⟩

/-! ## App ids and batch ids -/

/-- The app mapping of a stream gate names the gate and the period of its schedule. -/
def IsAppMapping (cfg : Configuration) (gate : StreamGate) (m : AppIDMapping) : Prop :=
  m.streamGateId = gate.streamGateId ∧
    ∃ s, cfg.findSchedule gate.schedule = some s ∧ m.hyperperiodDuration = s.period

/-- The batch mapping of a port mapping names the port and the period of its GCL. -/
def IsBatchMapping (cfg : Configuration) (mapping : GCLToPortMapping) (b : BatchIDMapping) :
    Prop :=
  b.egressDevPort = mapping.port ∧
    ∃ g, cfg.findGcl mapping.gcl = some g ∧ b.hyperperiodDuration = g.period.setWidth 64

/-- The app ids are counted up from the last configured one, which counts along. -/
theorem appIdMappings_eq_ok {cfg : Configuration} {gates : List StreamGate} {appId last : U8}
    {ms : List AppIDMapping} (run : cfg.appIdMappings gates appId = .ok (ms, last)) :
    List.Forall₂ cfg.IsAppMapping gates ms ∧
      ms.map (fun m => m.appId.toNat) = List.range' appId.toNat gates.length ∧
      last.toNat = appId.toNat + gates.length := by
  induction gates generalizing appId ms last with
  | nil =>
    cases run
    exact ⟨.nil, rfl, rfl⟩
  | cons gate gates ih =>
    obtain ⟨schedule, found, run⟩ := Fallible.bind_eq_ok.mp run
    obtain ⟨next, nextRun, run⟩ := Fallible.bind_eq_ok.mp run
    obtain ⟨⟨rest, stop⟩, restRun, run⟩ := Fallible.bind_eq_ok.mp run
    cases run
    obtain ⟨related, ids, lastEq⟩ := ih restRun
    have nextEq : next.toNat = appId.toNat + 1 := checkedAdd_eq_ok.mp nextRun
    refine ⟨.cons ⟨rfl, schedule, unwrap_eq_ok.mp found, rfl⟩ related, ?_, ?_⟩
    · rw [List.map_cons, ids, nextEq, List.length_cons, List.range'_succ]
    · rw [lastEq, nextEq, List.length_cons]
      omega

/-- App ids go on counting; the batch ids are the positions of the port mappings. -/
theorem batchMappings_eq_ok {cfg : Configuration} {mappings : List GCLToPortMapping} {batch : Nat}
    {appId last : U8} {bs : List BatchIDMapping}
    (run : cfg.batchMappings mappings batch appId = .ok (bs, last)) :
    List.Forall₂ cfg.IsBatchMapping mappings bs ∧
      bs.map (fun b => b.appId.toNat) = List.range' appId.toNat mappings.length ∧
      bs.map (fun b => b.batchId) = (List.range' batch mappings.length).map (BitVec.ofNat 8) ∧
      last.toNat = appId.toNat + mappings.length := by
  induction mappings generalizing appId batch bs last with
  | nil =>
    cases run
    exact ⟨.nil, rfl, rfl, rfl⟩
  | cons mapping mappings ih =>
    obtain ⟨gcl, found, run⟩ := Fallible.bind_eq_ok.mp run
    obtain ⟨next, nextRun, run⟩ := Fallible.bind_eq_ok.mp run
    obtain ⟨⟨rest, stop⟩, restRun, run⟩ := Fallible.bind_eq_ok.mp run
    cases run
    obtain ⟨related, ids, batches, lastEq⟩ := ih restRun
    have nextEq : next.toNat = appId.toNat + 1 := checkedAdd_eq_ok.mp nextRun
    refine ⟨.cons ⟨rfl, gcl, unwrap_eq_ok.mp found, rfl⟩ related, ?_, ?_, ?_⟩
    · rw [List.map_cons, ids, nextEq, List.length_cons, List.range'_succ]
    · rw [List.map_cons, batches, List.length_cons, List.range'_succ, List.map_cons]
    · rw [lastEq, nextEq, List.length_cons]
      omega

/-! ## The whole sequence -/

/-- The configuration `main.rs` works with, in terms of the one it read. -/
structure Prepared (cfg out : Configuration) (apps : List AppIDMapping)
    (batches : List BatchIDMapping) : Prop where
  psfp_eq : out.psfp = { cfg.psfp with appIdMappings := some apps }
  tas_eq : out.tas = { cfg.tas with gcls := out.tas.gcls, batchMappings := some batches }
  guarded : List.Forall₂ (fun g g' => g.insertGuardBands = .ok g') cfg.tas.gcls out.tas.gcls
  apps_gates : List.Forall₂ cfg.IsAppMapping cfg.psfp.streamGates apps
  batches_ports : List.Forall₂ out.IsBatchMapping cfg.tas.gclToPortMapping batches
  app_ids : apps.map (fun m => m.appId.toNat) ++ batches.map (fun b => b.appId.toNat) =
    List.range' 1 (apps.length + batches.length)
  few : apps.length + batches.length ≤ 254
  batch_ids : batches.map (fun b => b.batchId.toNat) = List.range batches.length

namespace Prepared

variable {cfg out : Configuration} {apps : List AppIDMapping} {batches : List BatchIDMapping}

theorem streamGates_eq (prepared : Prepared cfg out apps batches) :
    out.psfp.streamGates = cfg.psfp.streamGates := by
  rw [prepared.psfp_eq]

theorem streams_eq (prepared : Prepared cfg out apps batches) :
    out.psfp.streams = cfg.psfp.streams := by
  rw [prepared.psfp_eq]

theorem flowMeters_eq (prepared : Prepared cfg out apps batches) :
    out.psfp.flowMeters = cfg.psfp.flowMeters := by
  rw [prepared.psfp_eq]

theorem appIdMappings_eq (prepared : Prepared cfg out apps batches) :
    out.psfp.appIdMappings = some apps := by
  rw [prepared.psfp_eq]

theorem findSchedule_eq (prepared : Prepared cfg out apps batches) (name : String) :
    out.findSchedule name = cfg.findSchedule name := by
  unfold findSchedule
  rw [prepared.psfp_eq]

theorem mappings_eq (prepared : Prepared cfg out apps batches) :
    out.tas.gclToPortMapping = cfg.tas.gclToPortMapping := by
  rw [prepared.tas_eq]

theorem batchMappings_eq (prepared : Prepared cfg out apps batches) :
    out.tas.batchMappings = some batches := by
  rw [prepared.tas_eq]

/-- The app mappings fit the gates of the prepared configuration just as well. -/
theorem apps_gates_out (prepared : Prepared cfg out apps batches) :
    List.Forall₂ out.IsAppMapping out.psfp.streamGates apps := by
  rw [prepared.streamGates_eq]
  refine prepared.apps_gates.imp fun gate m isApp => ?_
  unfold IsAppMapping
  rw [prepared.findSchedule_eq]
  exact isApp

end Prepared

theorem prepare_eq_ok {cfg out : Configuration} {app : AppState}
    (run : cfg.prepare = .ok (out, app)) :
    ∃ apps batches, Prepared cfg out apps batches ∧ app.uniqueIntervalIdentifier = 0 := by
  obtain ⟨guarded, guardedRun, run⟩ := Fallible.bind_eq_ok.mp run
  obtain ⟨gcls, related, rfl⟩ := insertTasGsi_eq_ok.mp guardedRun
  obtain ⟨⟨mapped, app1⟩, mappedRun, run⟩ := Fallible.bind_eq_ok.mp run
  obtain ⟨⟨apps, last1⟩, appsRun, mappedRun⟩ := Fallible.bind_eq_ok.mp mappedRun
  cases mappedRun
  obtain ⟨⟨batches, last2⟩, batchesRun, run⟩ := Fallible.bind_eq_ok.mp run
  cases run
  obtain ⟨gates, appIds, last1Eq⟩ := appIdMappings_eq_ok appsRun
  obtain ⟨ports, batchAppIds, batchIds, last2Eq⟩ := batchMappings_eq_ok batchesRun
  have gatesLength := gates.length_eq
  have portsLength := ports.length_eq
  have start : AppState.new.lastConfiguredAppId.toNat = 1 := rfl
  have bound := last2.isLt
  dsimp only at last1Eq last2Eq batchAppIds appIds gatesLength portsLength batchIds
  rw [last1Eq, start, gatesLength, portsLength] at last2Eq
  refine ⟨apps, batches, ⟨rfl, rfl, related, gates, ports, ?_, by omega, ?_⟩, rfl⟩
  · rw [appIds, batchAppIds, last1Eq, start, gatesLength, portsLength, ← List.range'_append_1]
  · have values : batches.map (fun b => b.batchId.toNat) =
        (batches.map fun b => b.batchId).map BitVec.toNat := by
      rw [List.map_map]
      rfl
    rw [values, batchIds, List.map_map, portsLength, ← List.range_eq_range']
    -- there are fewer than 256 mappings, so no batch id is cut off
    refine (List.map_congr_left fun i member => ?_).trans (List.map_id' _)
    have inRange := List.mem_range.mp member
    exact Nat.mod_eq_of_lt (by omega)

/-! ## A small configuration -/

/-- One port with a guarded GCL, and two stream gates that share a schedule. -/
def sample : Configuration where
  psfp := {
    streams := [{ vid := 50, streamHandle := 1, ethDst := "00:00:00:00:00:32",
                  overwritePcp := none, overwriteMac := none, ipv4Src := some 0x0A000001,
                  ipv4Dst := none }]
    streamHandles := [{ streamHandle := 1, streamGateInstance := 1, flowMeterInstance := 1 }]
    streamFilters := [{ streamHandle := 1, streamBlockEnable := true }]
    streamGates :=
      [{ streamGateId := 1, schedule := "psfp" }, { streamGateId := 2, schedule := "psfp" }]
    flowMeters := [{ flowMeterId := 1 }]
    streamGateSchedules := [{ name := "psfp", period := 8, intervals :=
      [{ low := 0, high := 4, state := 1, ipv := 0, octets := 100 },
       { low := 4, high := 8, state := 0, ipv := 0, octets := 100 }] }] }
  tas := {
    gclToPortMapping := [{ port := 133, gcl := "tas" }]
    gcls := [{ period := 6, name := "tas", guardBandWidth := 2, timeSlices :=
      [{ low := 0, high := 6, queueStates := ⟨[(3, 0)], by decide⟩ }] }] }

/-- What the sequence makes of it. -/
def samplePrepared : Configuration where
  psfp := { sample.psfp with
    appIdMappings := some
      [{ appId := 1, streamGateId := 1, hyperperiodDuration := 8 },
       { appId := 2, streamGateId := 2, hyperperiodDuration := 8 }] }
  tas := { sample.tas with
    gcls := [{ period := 8, name := "tas", guardBandWidth := 2, timeSlices :=
      [{ low := 0, high := 6, queueStates := ⟨[(3, 0)], by decide⟩ },
       { low := 6, high := 8, queueStates := ⟨[(3, 1)], by decide⟩ }] }]
    batchMappings := some
      [{ appId := 3, batchId := 0, egressDevPort := 133, hyperperiodDuration := 8 }] }

theorem prepare_sample : sample.prepare = .ok (samplePrepared, ⟨4, 0⟩) :=
  rfl

end Configuration

end P4Tas.Controller
