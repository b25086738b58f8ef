import P4Tas.Controller.GateAmbiguity
import P4Tas.Controller.MatchKeys

/-!
# The startup batch

`run` collects the requests of all generators and writes them at once; the write fails when two of
them are for one table with the same key.  The generators loop over gates, ports and schedules
separately, and take keys from a period or from the first gate of a schedule, which need not be
distinct where the configured names and ids are.

* `tableRequests_noDuplicates_iff`: with distinct names and ids and proper slices, the batch has no
  two entries with the same key exactly when the configuration is `Apart`;
* `ListedConsecutively.apart_iff`: for slices that are listed end to start, that is a condition on
  the periods and the shared schedules alone;
* `equal_periods_collide`: a gate and a port with the same period.
-/

namespace P4Tas.Controller

open P4Tas.Controller.Configuration PacketGenerator Request StreamGateControlList TAS

/-- The requests `run` collects once the configuration is prepared, without those for PTP. -/
def tableRequests (macFromStr : String → Option (List U8)) (switch : Switch) (cfg : Configuration)
    (appState : AppState) : Rust (List Request) := do
  let (schedules, _) ← writeAllSchedules cfg appState
  let gcls ← configureTasQueueId switch cfg
  let appIds ← configureAppIds cfg
  let streams ← cfg.configureStreamIdentification macFromStr
  return schedules ++ (gcls ++ (configureTasControlRecirculation ++ (appIds ++ (streams ++
    (cfg.configureFlowMeter ++ DeltaAdjustment.initUnderflowDetectionTable)))))

/-- The ids and names of the configuration are distinct within their kinds. -/
structure DistinctNames (macFromStr : String → Option (List U8)) (cfg : Configuration) : Prop where
  gates : (cfg.psfp.streamGates.map (·.streamGateId)).Nodup
  schedules : (cfg.psfp.streamGateSchedules.map (·.name)).Nodup
  gcls : (cfg.tas.gcls.map (·.name)).Nodup
  ports : (cfg.tas.gclToPortMapping.map (·.port)).Nodup
  meters : (cfg.psfp.flowMeters.map (·.flowMeterId)).Nodup
  streams : (cfg.psfp.streams.map (streamKey macFromStr)).Nodup

/-- Nothing is written twice: the periods of the gates and the ports differ where they have
exceeded-detection entries, no schedule with intervals is shared by two gates, and no two slices
that are written for one gate, or for one queue of a port, have a ternary entry in common. -/
structure Apart (cfg : Configuration) : Prop where
  periods : cfg.periods.Pairwise PeriodsApart
  schedules : SharedAreEmpty cfg
  intervals : IntervalsApart cfg
  slices : SlicesApart cfg

variable {cfg out : Configuration} {apps : List AppIDMapping} {batches : List BatchIDMapping}

/-- Intervals and slices that are listed end to start have no ternary entry in common, so that
only the periods and the shared schedules can collide. -/
theorem ListedConsecutively.apart_iff (listed : ListedConsecutively cfg)
    (intervals : ProperIntervals cfg) (slices : ProperSlices cfg) :
    Apart cfg ↔ cfg.periods.Pairwise PeriodsApart ∧ SharedAreEmpty cfg := by
  refine ⟨fun apart => ⟨apart.periods, apart.schedules⟩, fun h => ⟨h.1, h.2, ?_, ?_⟩⟩
  · intro gate _ schedule found
    rcases listed.schedules schedule (KeyedList.mem_of_find? found).1 with ⟨a, b, chain, _⟩
    exact chain_apart chain (intervals.of_found found)
  · intro mapping _ gcl found _
    have member := (KeyedList.mem_of_find? found).1
    rcases listed.gcls gcl member with ⟨a, b, chain, _⟩
    refine (chain_apart chain (slices gcl member)).imp ?_
    intro t t' unshared _
    exact unshared

theorem Configuration.Prepared.properIntervals (prepared : Prepared cfg out apps batches)
    (proper : ProperIntervals cfg) : ProperIntervals out := by
  unfold ProperIntervals
  rw [prepared.psfp_eq]
  exact proper

/-- The prepared configuration has the gates and the schedules of the one it was made from. -/
theorem Configuration.Prepared.written_apart_iff (prepared : Prepared cfg out apps batches)
    (ids : (cfg.psfp.streamGates.map (·.streamGateId)).Nodup) (proper : ProperIntervals cfg) :
    ((written out apps).Pairwise fun x y => x.1 = y.1 → ¬ x.2.ShareEntry y.2) ↔
      SharedAreEmpty cfg ∧ IntervalsApart cfg := by
  have shared : SharedAreEmpty out ↔ SharedAreEmpty cfg := by
    unfold SharedAreEmpty
    simp only [prepared.streamGates_eq, prepared.findSchedule_eq]
  have intervals : IntervalsApart out ↔ IntervalsApart cfg := by
    unfold IntervalsApart
    simp only [prepared.streamGates_eq, prepared.findSchedule_eq]
  rw [StreamGateControlList.written_apart_iff (prepared.streamGates_eq ▸ ids)
    (prepared.properIntervals proper) prepared.apps_gates_out, shared, intervals]

/-- A written interval is one of a schedule. -/
theorem StreamGateControlList.ProperIntervals.written (proper : ProperIntervals cfg)
    (mappings : List AppIDMapping) :
    ∀ pair ∈ written cfg mappings, pair.2.low.toNat < pair.2.high.toNat := by
  intro pair member
  rcases mem_written member with ⟨gate, schedule, _, _, found, memberT⟩
  exact proper.of_found found pair.2 memberT

/-- **The startup batch has no duplicate entry** exactly when the configuration is apart. -/
theorem tableRequests_noDuplicates_iff {macFromStr : String → Option (List U8)} {switch : Switch}
    {app : AppState} {requests : List Request} (prepare : cfg.prepare = .ok (out, app))
    (distinct : DistinctNames macFromStr cfg) (intervals : ProperIntervals cfg)
    (slices : ProperSlices cfg)
    (run : tableRequests macFromStr switch out app = .ok requests) :
    NoDuplicates requests ↔ Apart cfg := by
  rcases prepare_eq_ok prepare with ⟨apps, batches, prepared, _⟩
  rcases Fallible.bind_eq_ok.mp run with ⟨⟨schedules, app'⟩, schedulesRun, run⟩
  rcases Fallible.bind_eq_ok.mp run with ⟨gcls, gclsRun, run⟩
  rcases Fallible.bind_eq_ok.mp run with ⟨appIds, appIdsRun, run⟩
  rcases Fallible.bind_eq_ok.mp run with ⟨streams, streamsRun, run⟩
  cases run
  rcases writeAllSchedules_eq_ok prepared.appIdMappings_eq schedulesRun with
    ⟨_, identifiers, numbered⟩
  have properWritten := (prepared.properIntervals intervals).written apps
  have schedulesIff := (numbered.noDuplicates_iff properWritten).trans
    (prepared.written_apart_iff distinct.gates intervals)
  have gcls := configureTasQueueId_noDuplicates_iff prepared distinct.ports slices gclsRun
  have appIds := configureAppIds_noDuplicates_iff prepared appIdsRun
  have streams := configureStreamIdentification_noDuplicates
    (prepared.streams_eq ▸ distinct.streams) streamsRun
  have meters := configureFlowMeter_noDuplicates (prepared.flowMeters_eq ▸ distinct.meters)
  have recirculation := configureTasControlRecirculation_noDuplicates
  have underflow := DeltaAdjustment.initUnderflowDetectionTable_noDuplicates
  have rest₁ := meters.1.append underflow.1
  have rest₂ := streams.1.append rest₁
  have rest₃ := appIds.1.append rest₂
  have rest₄ := recirculation.1.append rest₃
  have rest₅ := gcls.1.append rest₄
  rw [noDuplicates_append numbered.table rest₅ (by decide),
    noDuplicates_append gcls.1 rest₄ (by decide),
    noDuplicates_append recirculation.1 rest₃ (by decide),
    noDuplicates_append appIds.1 rest₂ (by decide),
    noDuplicates_append streams.1 rest₁ (by decide),
    noDuplicates_append meters.1 underflow.1 (by decide), schedulesIff, gcls.2, appIds.2]
  refine ⟨fun h => ?_, fun apart => ?_⟩
  · rcases h with ⟨⟨shared, intervals⟩, slices, _, periods, _⟩
    exact ⟨periods, shared, intervals, slices⟩
  · exact ⟨⟨apart.schedules, apart.intervals⟩, apart.slices, recirculation.2, apart.periods,
      streams.2, meters.2, underflow.2⟩

/-- A configuration whose gate and port have different periods. -/
def apartSample : Configuration :=
  { Configuration.sample with
    psfp := { Configuration.sample.psfp with
      streamGates := [{ streamGateId := 1, schedule := "psfp" }]
      streamGateSchedules := [{ name := "psfp", period := 16, intervals :=
        [{ low := 0, high := 4, state := 1, ipv := 0, octets := 100 },
         { low := 4, high := 16, state := 0, ipv := 0, octets := 100 }] }] } }

theorem apartSample_listed : ListedConsecutively apartSample where
  gcls := List.forall_mem_singleton.mpr ⟨0, 6, by decide, by decide⟩
  schedules := List.forall_mem_singleton.mpr ⟨0, 16, by decide, by decide⟩

/-- The address of the sample stream. -/
def sampleMacFromStr : String → Option (List U8)
  | "00:00:00:00:00:32" => some [0, 0, 0, 0, 0, 0x32]
  | _ => none

theorem tableRequests_noDuplicates_iff_sample :
    ∃ out app requests, apartSample.prepare = .ok (out, app) ∧
      tableRequests sampleMacFromStr .sample out app = .ok requests ∧ NoDuplicates requests := by
  obtain ⟨⟨out, app⟩, prepare⟩ : ∃ x, apartSample.prepare = .ok x := ⟨_, rfl⟩
  have out_eq := Except.ok.inj prepare
  obtain ⟨requests, run⟩ : ∃ requests,
      tableRequests sampleMacFromStr .sample out app = .ok requests := by
    cases out_eq
    exact Fallible.exists_of_isOk (by decide +kernel)
  have distinct : DistinctNames sampleMacFromStr apartSample :=
    ⟨by decide, by decide, by decide, by decide, by decide, by decide⟩
  refine ⟨out, app, requests, prepare, run, ?_⟩
  refine (tableRequests_noDuplicates_iff prepare distinct (by decide) (by decide) run).mpr ?_
  refine (apartSample_listed.apart_iff (by decide) (by decide)).mpr ⟨by decide, ?_⟩
  -- there is only one gate
  intro gate member gate' member' differ
  rw [List.mem_singleton.mp member, List.mem_singleton.mp member'] at differ
  exact absurd rfl differ

/-- **A gate and a port with the same period collide.**  The only gate of the configuration has the
period 8, as has the port with its guard band, and the exceeded-detection entries of this period are
in the batch twice. -/
theorem equal_periods_collide :
    DistinctNames sampleMacFromStr singleGate ∧ ProperIntervals singleGate ∧
      ProperSlices singleGate ∧ (∀ s ∈ singleGate.psfp.streams, singleGate.Resolved s) ∧
      ∃ out app requests, singleGate.prepare = .ok (out, app) ∧
        tableRequests sampleMacFromStr .sample out app = .ok requests ∧
        ¬ NoDuplicates requests := by
  have distinct : DistinctNames sampleMacFromStr singleGate :=
    ⟨by decide, by decide, by decide, by decide, by decide, by decide⟩
  have resolved : ∀ s ∈ singleGate.psfp.streams, singleGate.Resolved s := by
    intro s member
    cases List.mem_singleton.mp member
    exact ⟨_, List.mem_cons_self, rfl⟩
  obtain ⟨⟨out, app⟩, prepare⟩ : ∃ x, singleGate.prepare = .ok x := ⟨_, rfl⟩
  have out_eq := Except.ok.inj prepare
  obtain ⟨requests, run, twice⟩ : ∃ requests,
      tableRequests sampleMacFromStr .sample out app = .ok requests ∧
        decide (¬ requests.Nodup) = true := by
    cases out_eq
    exact Fallible.exists_of_any (by decide +kernel)
  exact ⟨distinct, by decide, by decide, resolved, out, app, requests, prepare, run,
    fun unique => of_decide_eq_true twice unique.nodup⟩

end P4Tas.Controller
