import P4Tas.Controller.RangeCover
import P4Tas.Controller.StartupBatch

/-!
# Startup

What `run` computes from the configuration, in the order of `main.rs`: the prepared configuration,
the applications of the packet generator, and the batch of table entries.  Any of the calls may
panic, in an `unwrap` or `expect`, or in the checked arithmetic of a debug build.

* `startup_eq_ok`: the calls one by one;
* `startup_returns_iff`: for a configuration whose references resolve, startup returns exactly when
  the configuration is `Startable`;
* `psfp_only_panics`: a configuration without port mappings.
-/

namespace P4Tas.Controller

open P4Tas.Controller.Configuration PacketGenerator StreamGateControlList TAS

/-- The calls of `run`, without those for PTP and those that only ask the switch. -/
def startup (macFromStr : String → Option (List U8)) (switch : Switch) (cfg : Configuration) :
    Rust (List Request × List Request) := do
  let (out, appState) ← cfg.prepare
  let (schedules, _) ← writeAllSchedules out appState
  let generators ← activateTrafficGenApplications out
  let gcls ← configureTasQueueId switch out
  let appIds ← configureAppIds out
  let streams ← out.configureStreamIdentification macFromStr
  return (generators, schedules ++ (gcls ++ (configureTasControlRecirculation ++
    (appIds ++ (streams ++ (out.configureFlowMeter ++
      DeltaAdjustment.initUnderflowDetectionTable))))))

variable {macFromStr : String → Option (List U8)} {switch : Switch} {cfg out : Configuration}
  {apps : List AppIDMapping} {batches : List BatchIDMapping} {app : AppState}

/-- Startup returns the applications and the batch. -/
theorem startup_eq_ok {generators requests : List Request} :
    startup macFromStr switch cfg = .ok (generators, requests) ↔
      ∃ out app, cfg.prepare = .ok (out, app) ∧
        activateTrafficGenApplications out = .ok generators ∧
        tableRequests macFromStr switch out app = .ok requests := by
  unfold startup tableRequests
  simp only [Fallible.bind_eq_ok, Prod.exists]
  refine exists_congr fun out => exists_congr fun app => and_congr_right fun _ => ?_
  refine ⟨?_, ?_⟩
  · intro h
    obtain ⟨schedules, app', schedulesRun, generators', generated, gcls, gclsRun, appIds,
      appIdsRun, streams, streamsRun, result⟩ := h
    cases result
    exact ⟨generated, schedules, app', schedulesRun, gcls, gclsRun, appIds, appIdsRun, streams,
      streamsRun, rfl⟩
  · intro h
    obtain ⟨generated, schedules, app', schedulesRun, gcls, gclsRun, appIds, appIdsRun, streams,
      streamsRun, result⟩ := h
    cases result
    exact ⟨schedules, app', schedulesRun, generators, generated, gcls, gclsRun, appIds,
      appIdsRun, streams, streamsRun, rfl⟩

/-! ## What is asked of the configuration -/

/-- The references of the configuration resolve, its texts parse, and its numbers are in range. -/
structure WellReferenced (macFromStr : String → Option (List U8)) (cfg : Configuration) :
    Prop where
  handles : ∀ s ∈ cfg.psfp.streams, ∃ h ∈ cfg.psfp.streamHandles, h.streamHandle = s.streamHandle
  gates : ∀ s ∈ cfg.psfp.streams, cfg.Resolved s
  schedules : ∀ g ∈ cfg.psfp.streamGates,
    ∃ s ∈ cfg.psfp.streamGateSchedules, s.name = g.schedule
  gcls : ∀ mapping ∈ cfg.tas.gclToPortMapping, ∃ gcl ∈ cfg.tas.gcls, gcl.name = mapping.gcl
  macs : ∀ s ∈ cfg.psfp.streams, ∃ mac, macFromStr s.ethDst = some mac
  overwriteMacs : ∀ s ∈ cfg.psfp.streams, ∀ newMac, s.overwriteMac = some newMac →
    (∃ mac, macFromStr newMac = some mac) ∧ ∃ pcp, s.overwritePcp = some pcp
  few : cfg.psfp.streamGates.length + cfg.tas.gclToPortMapping.length ≤ 15
  slices : ∀ gcl ∈ cfg.tas.gcls, ∀ t ∈ gcl.timeSlices,
    t.low.toNat ≤ t.high.toNat ∧ t.high.toNat < 2 ^ 32 - 1
  intervals : ∀ s ∈ cfg.psfp.streamGateSchedules, ∀ t ∈ s.intervals,
    t.low.toNat ≤ t.high.toNat ∧ t.high.toNat < 2 ^ 32 - 1
  periods : ∀ gcl ∈ cfg.tas.gcls,
    gcl.period.toNat + gcl.guardBandWidth.toNat * gcl.timeSlices.length < 2 ^ 32

/-- The switch answers for every queue of a mapped GCL. -/
def Switch.AnswersAll (switch : Switch) (cfg : Configuration) : Prop :=
  ∀ mapping ∈ cfg.tas.gclToPortMapping, ∀ gcl, cfg.findGcl mapping.gcl = some gcl →
    ∀ t ∈ gcl.timeSlices, ∀ qId ∈ t.queueStates.keys, switch.Answers mapping.port qId

/-- The schedule that is written for a gate: that of the first gate with its id. -/
def scheduleOf (cfg : Configuration) (gate : StreamGate) : Option StreamGateControlList :=
  (cfg.psfp.streamGates.find? fun g => g.streamGateId == gate.streamGateId).bind fun g =>
    cfg.findSchedule g.schedule

/-- The intervals that are written, those of a schedule once for each of its gates. -/
def gateIntervals (cfg : Configuration) : List PSFPTimeSlice :=
  cfg.psfp.streamGates.flatMap fun gate => (scheduleOf cfg gate).toList.flatMap (·.intervals)

/-- What startup needs besides. -/
structure Startable (cfg : Configuration) : Prop where
  ports : cfg.tas.gclToPortMapping ≠ []
  /-- The guard bands end in the range of a position. -/
  bands : ∀ gcl ∈ cfg.tas.gcls, gcl.guardBandWidth ≠ 0 →
    guardedWidth gcl.guardBandWidth gcl.timeSlices < 2 ^ 32
  /-- And below its maximum where the last of them is written. -/
  tops : ∀ mapping ∈ cfg.tas.gclToPortMapping, ∀ gcl, cfg.findGcl mapping.gcl = some gcl →
    gcl.guardBandWidth ≠ 0 →
    guardedWidth gcl.guardBandWidth gcl.timeSlices < 2 ^ 32 - 1 ∨
      ∀ t ∈ gcl.timeSlices.getLast?, t.queueStates.entries = []
  /-- There is an identifier for every interval. -/
  identifiers : (gateIntervals cfg).length < 2 ^ 32

theorem WellReferenced.findSchedule (ref : WellReferenced macFromStr cfg) {gate : StreamGate}
    (member : gate ∈ cfg.psfp.streamGates) : ∃ s, cfg.findSchedule gate.schedule = some s := by
  obtain ⟨s, memberS, named⟩ := ref.schedules gate member
  exact KeyedList.exists_find? memberS named

theorem WellReferenced.findGcl (ref : WellReferenced macFromStr cfg)
    {mapping : GCLToPortMapping} (member : mapping ∈ cfg.tas.gclToPortMapping) :
    ∃ gcl, cfg.findGcl mapping.gcl = some gcl := by
  obtain ⟨gcl, memberG, named⟩ := ref.gcls mapping member
  exact KeyedList.exists_find? memberG named

/-! ## Guard bands -/

/-- Only the last guard band can end at the maximum. -/
theorem guardedSlices_belowTop_iff {guardBandWidth last : U32} {slices guarded : List TASTimeSlice}
    (wide : guardBandWidth ≠ 0) (run : guardedSlices guardBandWidth last slices = .ok guarded) :
    (∀ t ∈ guarded, t.queueStates.entries ≠ [] → BelowTop t.low t.high) ↔
      last.toNat + guardedWidth guardBandWidth slices < 2 ^ 32 - 1 ∨
        ∀ t ∈ slices.getLast?, t.queueStates.entries = [] := by
  have positive : 0 < guardBandWidth.toNat := BitVec.toNat_pos_of_ne_zero wide
  induction slices generalizing last guarded with
  | nil =>
    cases run
    simp
  | cons ts rest ih =>
    obtain ⟨high, guardHigh, tail, _, highEq, guardEq, tailRun, rfl⟩ :=
      guardedSlices_cons_eq_ok.mp run
    have width := guardedWidth_cons guardBandWidth ts rest
    have bound := guardHigh.isLt
    have moved : BelowTop last high := .inl (by omega)
    have closed : (ts.queueStates.setAll 1).entries ≠ [] ↔ ts.queueStates.entries ≠ [] := by
      unfold QueueStates.setAll
      simp
    have band : BelowTop high guardHigh ↔ guardHigh.toNat < 2 ^ 32 - 1 := by
      refine ⟨?_, .inl⟩
      rintro (below | same)
      · exact below
      · rw [same] at guardEq
        omega
    simp only [List.forall_mem_cons, moved, implies_true, true_and, closed, band, ih tailRun]
    cases rest with
    | nil =>
      have none : guardedWidth guardBandWidth [] = 0 := rfl
      simp only [List.getLast?_singleton, List.getLast?_nil, Option.mem_def, Option.some.injEq,
        forall_eq', reduceCtorEq, false_imp_iff, implies_true, or_true, and_true]
      rw [width, none, imp_iff_or_not, not_not]
      refine or_congr_left ?_
      omega
    | cons ts' rest =>
      have width' := guardedWidth_cons guardBandWidth ts' rest
      obtain ⟨high', guardHigh', _, _, highEq', guardEq', _, _⟩ :=
        guardedSlices_cons_eq_ok.mp tailRun
      have bound' := guardHigh'.isLt
      -- a further guard band follows
      have inside : guardHigh.toNat < 2 ^ 32 - 1 := by omega
      have sum : last.toNat + guardedWidth guardBandWidth (ts :: ts' :: rest) =
          guardHigh.toNat + guardedWidth guardBandWidth (ts' :: rest) := by omega
      simp only [inside, implies_true, true_and, List.getLast?_cons_cons]
      rw [sum]

theorem GateControlList.insertGuardBands_returns_iff {gcl : GateControlList}
    (ordered : ∀ t ∈ gcl.timeSlices, t.low.toNat ≤ t.high.toNat)
    (fits : gcl.period.toNat + gcl.guardBandWidth.toNat * gcl.timeSlices.length < 2 ^ 32) :
    (∃ guarded, gcl.insertGuardBands = .ok guarded) ↔
      (gcl.guardBandWidth ≠ 0 → guardedWidth gcl.guardBandWidth gcl.timeSlices < 2 ^ 32) := by
  unfold insertGuardBands
  by_cases none : gcl.guardBandWidth = 0
  · rw [if_pos none]
    exact ⟨fun _ wide => absurd none wide, fun _ => ⟨gcl, rfl⟩⟩
  have slices := @guardedSlices_returns_iff gcl.guardBandWidth 0 gcl.timeSlices ordered
  have start : (0 : U32).toNat = 0 := rfl
  rw [start, Nat.zero_add] at slices
  rw [if_neg none]
  refine ⟨?_, fun narrow => ?_⟩
  · intro returns _
    obtain ⟨guarded, run⟩ := returns
    obtain ⟨timeSlices, slicesRun, _⟩ := Fallible.bind_eq_ok.mp run
    exact slices.mp ⟨timeSlices, slicesRun⟩
  · obtain ⟨timeSlices, slicesRun⟩ := slices.mpr (narrow none)
    obtain ⟨period, run, _⟩ := insertGuardBands_of_slices none fits slicesRun
    unfold insertGuardBands at run
    rw [if_neg none] at run
    exact ⟨_, run⟩

namespace Configuration

theorem insertTasGsi_returns_iff (ref : WellReferenced macFromStr cfg) :
    (∃ guarded, cfg.insertTasGsi = .ok guarded) ↔
      ∀ gcl ∈ cfg.tas.gcls, gcl.guardBandWidth ≠ 0 →
        guardedWidth gcl.guardBandWidth gcl.timeSlices < 2 ^ 32 := by
  have gcls : (∃ guarded, cfg.tas.gcls.mapM GateControlList.insertGuardBands = .ok guarded) ↔
      (∃ guarded, cfg.insertTasGsi = .ok guarded) := by
    refine ⟨?_, ?_⟩
    · intro h
      obtain ⟨gcls, run⟩ := h
      exact ⟨_, insertTasGsi_eq_ok.mpr ⟨gcls, Fallible.mapM_eq_ok.mp run, rfl⟩⟩
    · intro h
      obtain ⟨guarded, run⟩ := h
      obtain ⟨gcls, related, _⟩ := insertTasGsi_eq_ok.mp run
      exact ⟨gcls, Fallible.mapM_eq_ok.mpr related⟩
  rw [← gcls, Fallible.mapM_returns_iff]
  refine forall₂_congr fun gcl member => ?_
  exact GateControlList.insertGuardBands_returns_iff
    (fun t listed => (ref.slices gcl member t listed).1) (ref.periods gcl member)

/-! ## App ids and batch ids -/

theorem appIdMappings_returns {gates : List StreamGate} {appId : U8}
    (schedules : ∀ g ∈ gates, ∃ s, cfg.findSchedule g.schedule = some s)
    (few : appId.toNat + gates.length < 2 ^ 8) : ∃ x, cfg.appIdMappings gates appId = .ok x := by
  induction gates generalizing appId with
  | nil => exact ⟨_, rfl⟩
  | cons gate gates ih =>
    obtain ⟨⟨schedule, found⟩, schedulesRest⟩ := List.forall_mem_cons.mp schedules
    rw [List.length_cons] at few
    obtain ⟨next, nextRun, nextEq⟩ := checkedAdd_one_returns (a := appId) (by omega)
    obtain ⟨rest, restRun⟩ := @ih next schedulesRest (by omega)
    unfold appIdMappings
    simp only [found, unwrap, nextRun, restRun, Fallible.ok_bind]
    exact ⟨_, rfl⟩

theorem batchMappings_returns {mappings : List GCLToPortMapping} {batch : Nat} {appId : U8}
    (gcls : ∀ mapping ∈ mappings, ∃ g, cfg.findGcl mapping.gcl = some g)
    (few : appId.toNat + mappings.length < 2 ^ 8) :
    ∃ x, cfg.batchMappings mappings batch appId = .ok x := by
  induction mappings generalizing appId batch with
  | nil => exact ⟨_, rfl⟩
  | cons mapping mappings ih =>
    obtain ⟨⟨gcl, found⟩, gclsRest⟩ := List.forall_mem_cons.mp gcls
    rw [List.length_cons] at few
    obtain ⟨next, nextRun, nextEq⟩ := checkedAdd_one_returns (a := appId) (by omega)
    obtain ⟨rest, restRun⟩ := @ih (batch + 1) next gclsRest (by omega)
    unfold batchMappings
    simp only [found, unwrap, nextRun, restRun, Fallible.ok_bind]
    exact ⟨_, rfl⟩

/-- The names and the ids always resolve; only the guard bands may not fit. -/
theorem prepare_returns_iff (ref : WellReferenced macFromStr cfg) :
    (∃ result, cfg.prepare = .ok result) ↔
      ∀ gcl ∈ cfg.tas.gcls, gcl.guardBandWidth ≠ 0 →
        guardedWidth gcl.guardBandWidth gcl.timeSlices < 2 ^ 32 := by
  rw [← insertTasGsi_returns_iff ref]
  refine ⟨?_, ?_⟩
  · intro h
    obtain ⟨result, run⟩ := h
    obtain ⟨guarded, guardedRun, _⟩ := Fallible.bind_eq_ok.mp run
    exact ⟨guarded, guardedRun⟩
  · intro h
    obtain ⟨guarded, guardedRun⟩ := h
    obtain ⟨gcls, related, rfl⟩ := insertTasGsi_eq_ok.mp guardedRun
    have few := ref.few
    have start : AppState.new.lastConfiguredAppId.toNat = 1 := rfl
    have apps := @appIdMappings_returns { cfg with tas := { cfg.tas with gcls } }
      cfg.psfp.streamGates AppState.new.lastConfiguredAppId
      (fun gate member => ref.findSchedule member) (by omega)
    obtain ⟨⟨apps, last⟩, appsRun⟩ := apps
    obtain ⟨_, _, lastEq⟩ := appIdMappings_eq_ok appsRun
    rw [start] at lastEq
    have batches := @batchMappings_returns
      { psfp := { cfg.psfp with appIdMappings := some apps }, tas := { cfg.tas with gcls } }
      cfg.tas.gclToPortMapping 0 last (fun mapping member => ?_) (by omega)
    · obtain ⟨batches, batchesRun⟩ := batches
      exact ⟨_, Fallible.bind_eq_ok.mpr ⟨_, guardedRun, Fallible.bind_eq_ok.mpr
        ⟨_, Fallible.bind_eq_ok.mpr ⟨_, appsRun, rfl⟩,
          Fallible.bind_eq_ok.mpr ⟨_, batchesRun, rfl⟩⟩⟩⟩
    · obtain ⟨gcl, found⟩ := ref.findGcl member
      -- the guarded GCLs have the names of those configured
      rcases KeyedList.find?_forall₂ (k := mapping.gcl) related
        (fun _ _ run => GateControlList.insertGuardBands_name run) with
        ⟨none, _⟩ | ⟨_, guarded, _, _, foundGuarded⟩
      · cases none.symm.trans found
      · exact ⟨guarded, foundGuarded⟩

end Configuration

/-! ## Stream gates -/

/-- The app mapping of a gate leads to the schedule of the first gate with its id. -/
theorem Configuration.Prepared.target?_eq_scheduleOf (prepared : Prepared cfg out apps batches)
    (ref : WellReferenced macFromStr cfg) {gate : StreamGate}
    (member : gate ∈ cfg.psfp.streamGates) {m : AppIDMapping} (isApp : cfg.IsAppMapping gate m) :
    ∃ streamGateId schedule, target? out m = some (streamGateId, schedule) ∧
      scheduleOf cfg gate = some schedule := by
  obtain ⟨first, firstFound⟩ : ∃ first,
      cfg.psfp.streamGates.find? (fun g => g.streamGateId == gate.streamGateId) = some first :=
    KeyedList.exists_find? member rfl
  have firstMember := (KeyedList.mem_of_find? firstFound).1
  obtain ⟨schedule, scheduleFound⟩ := ref.findSchedule firstMember
  obtain ⟨streamGate, streamGateFound⟩ : ∃ streamGate,
      findGateOfSchedule cfg first.schedule = some streamGate :=
    KeyedList.exists_find? firstMember rfl
  refine ⟨streamGate.streamGateId, schedule, target?_eq_some.mpr ⟨first, ?_, ?_, streamGate, ?_,
    rfl⟩, ?_⟩
  · unfold findGateOfMapping
    rw [prepared.streamGates_eq, isApp.1]
    exact firstFound
  · rw [prepared.findSchedule_eq]
    exact scheduleFound
  · unfold findGateOfSchedule
    rw [prepared.streamGates_eq]
    exact streamGateFound
  · unfold scheduleOf
    rw [firstFound]
    exact scheduleFound

theorem Configuration.Prepared.written_intervals (prepared : Prepared cfg out apps batches)
    (ref : WellReferenced macFromStr cfg) :
    (written out apps).map Prod.snd = gateIntervals cfg := by
  unfold written gateIntervals
  rw [List.map_flatMap]
  refine (KeyedList.flatMap_related prepared.apps_gates ?_).symm
  intro gate member m isApp
  obtain ⟨streamGateId, schedule, target, found⟩ :=
    prepared.target?_eq_scheduleOf ref member isApp
  rw [target, found, Option.toList_some, Option.toList_some, List.flatMap_singleton,
    List.flatMap_singleton]
  unfold underGate
  rw [List.map_map]
  exact (List.map_id' _).symm

/-- All gates are found, and all intervals can be decomposed; only the identifiers may run out. -/
theorem Configuration.Prepared.writeAllSchedules_returns_iff
    (prepared : Prepared cfg out apps batches) (ref : WellReferenced macFromStr cfg)
    (fresh : app.uniqueIntervalIdentifier = 0) :
    (∃ x, writeAllSchedules out app = .ok x) ↔ (gateIntervals cfg).length < 2 ^ 32 := by
  have start : app.uniqueIntervalIdentifier.toNat = 0 := by rw [fresh]; rfl
  rw [← prepared.written_intervals ref, List.length_map]
  refine ⟨?_, fun enough => ?_⟩
  · intro h
    obtain ⟨⟨requests, app'⟩, run⟩ := h
    obtain ⟨_, identifiers, numbered⟩ :=
      writeAllSchedules_eq_ok prepared.appIdMappings_eq run
    have last := numbered.last_eq
    have bound := app'.uniqueIntervalIdentifier.isLt
    omega
  · refine writeAllSchedules_returns prepared.appIdMappings_eq ?_ ?_ (by omega)
    · intro m member
      obtain ⟨gate, gateMember, isApp⟩ := KeyedList.exists_related prepared.apps_gates.flip member
      obtain ⟨streamGateId, schedule, target, _⟩ :=
        prepared.target?_eq_scheduleOf ref gateMember isApp
      exact ⟨_, target⟩
    · intro pair member
      obtain ⟨gate, schedule, _, _, found, listed⟩ := mem_written member
      rw [prepared.findSchedule_eq] at found
      exact (ref.intervals schedule (KeyedList.mem_of_find? found).1 pair.2 listed).2

/-! ## Ports -/

theorem mem_keys_setAll {qs : QueueStates} {state q : U8} :
    q ∈ (qs.setAll state).keys ↔ q ∈ qs.keys := by
  rw [QueueStates.mem_keys]
  simp only [QueueStates.mem_setAll, exists_and_left, exists_eq, and_true]

/-- Guard bands list the queues of the slices. -/
theorem GateControlList.insertGuardBands_keys {gcl guarded : GateControlList}
    (run : gcl.insertGuardBands = .ok guarded) {t : TASTimeSlice}
    (member : t ∈ guarded.timeSlices) :
    ∃ s ∈ gcl.timeSlices, ∀ q, q ∈ t.queueStates.keys ↔ q ∈ s.queueStates.keys := by
  rcases insertGuardBands_eq_ok run with ⟨_, rfl⟩ | ⟨_, slicesRun, _⟩
  · exact ⟨t, member, fun _ => Iff.rfl⟩
  · obtain ⟨s, memberS, same | closed⟩ := guardedSlices_mem slicesRun member
    · exact ⟨s, memberS, fun _ => by rw [same]⟩
    · exact ⟨s, memberS, fun _ => by rw [closed]; exact mem_keys_setAll⟩

/-- The slices of a GCL with its guard bands end below the maximum unless its last guard band ends
there. -/
theorem GateControlList.insertGuardBands_belowTop_iff {gcl guarded : GateControlList}
    (ends : ∀ t ∈ gcl.timeSlices, t.high.toNat < 2 ^ 32 - 1)
    (run : gcl.insertGuardBands = .ok guarded) :
    (∀ t ∈ guarded.timeSlices, t.queueStates.entries ≠ [] → BelowTop t.low t.high) ↔
      (gcl.guardBandWidth ≠ 0 →
        guardedWidth gcl.guardBandWidth gcl.timeSlices < 2 ^ 32 - 1 ∨
          ∀ t ∈ gcl.timeSlices.getLast?, t.queueStates.entries = []) := by
  rcases insertGuardBands_eq_ok run with ⟨none, rfl⟩ | ⟨wide, slicesRun, _⟩
  · exact ⟨fun _ some => absurd none some, fun _ t member _ => .inl (ends t member)⟩
  · have start : (0 : U32).toNat = 0 := rfl
    rw [guardedSlices_belowTop_iff wide slicesRun, start, Nat.zero_add]
    exact ⟨fun holds _ => holds, fun holds => holds wide⟩

/-- The ports, their GCLs and batches are found, and the switch answers; only a last guard band may
end at the maximum. -/
theorem Configuration.Prepared.configureTasQueueId_returns_iff
    (prepared : Prepared cfg out apps batches) (ref : WellReferenced macFromStr cfg)
    (answers : switch.AnswersAll cfg) :
    (∃ requests, configureTasQueueId switch out = .ok requests) ↔
      ∀ mapping ∈ cfg.tas.gclToPortMapping, ∀ gcl, cfg.findGcl mapping.gcl = some gcl →
        gcl.guardBandWidth ≠ 0 →
          guardedWidth gcl.guardBandWidth gcl.timeSlices < 2 ^ 32 - 1 ∨
            ∀ t ∈ gcl.timeSlices.getLast?, t.queueStates.entries = [] := by
  unfold configureTasQueueId
  rw [Fallible.concatMap_returns_iff, prepared.mappings_eq]
  refine forall₂_congr fun mapping member => ?_
  obtain ⟨gcl, found⟩ := ref.findGcl member
  obtain ⟨guarded, guardedFound, run⟩ : ∃ guarded, out.findGcl mapping.gcl = some guarded ∧
      gcl.insertGuardBands = .ok guarded := by
    rcases prepared.findGcl_related mapping.gcl with ⟨none, _⟩ | ⟨gcl', guarded, run, here, there⟩
    · cases none.symm.trans found
    · cases here.symm.trans found
      exact ⟨guarded, there, run⟩
  obtain ⟨b, batchFound⟩ := prepared.exists_batch member
  have batch : out.batchId? mapping.port = some b.batchId :=
    prepared.batchId?_eq_some.mpr ⟨b, batchFound, rfl⟩
  have answered : ∀ t ∈ guarded.timeSlices, ∀ qId ∈ t.queueStates.keys,
      switch.Answers mapping.port qId := by
    intro t listed qId key
    obtain ⟨s, memberS, same⟩ := GateControlList.insertGuardBands_keys run listed
    exact answers mapping member gcl found s memberS qId ((same qId).mp key)
  have ends : ∀ t ∈ gcl.timeSlices, t.high.toNat < 2 ^ 32 - 1 := fun t listed =>
    (ref.slices gcl (KeyedList.mem_of_find? found).1 t listed).2
  rw [mappingEntries_eq guardedFound batch, gclEntries_returns_iff answered]
  simp only [ternaryBlocks_returns_iff, GateControlList.insertGuardBands_belowTop_iff ends run]
  refine ⟨fun holds gcl' found' => ?_, fun holds => holds gcl found⟩
  cases found'.symm.trans found
  exact holds

/-! ## Streams -/

theorem Configuration.Prepared.configureStreamIdentification_returns
    (prepared : Prepared cfg out apps batches) (ref : WellReferenced macFromStr cfg) :
    ∃ requests, out.configureStreamIdentification macFromStr = .ok requests := by
  unfold configureStreamIdentification
  refine Fallible.mapM_returns_iff.mpr ?_
  rw [prepared.streams_eq]
  intro s member
  have gateMember : cfg.streamGate s ∈ cfg.psfp.streamGates :=
    List.mem_of_find?_eq_some (ref.gates s member).streamGate_id
  obtain ⟨schedule, found⟩ := ref.findSchedule gateMember
  rw [← prepared.findSchedule_eq, ← prepared.streamGate_eq] at found
  obtain ⟨mac, parsed⟩ := ref.macs s member
  obtain ⟨action, actionRun⟩ : ∃ action, streamIdAction macFromStr s = .ok action := by
    unfold streamIdAction
    cases overwrite : s.overwriteMac with
    | none => exact ⟨_, rfl⟩
    | some newMac =>
      obtain ⟨⟨newMacBytes, newParsed⟩, pcp, given⟩ := ref.overwriteMacs s member newMac overwrite
      simp only [given, newParsed, unwrap, Fallible.ok_bind]
      exact ⟨_, rfl⟩
  unfold streamGate at found
  unfold streamIdRequest
  simp only [found, parsed, unwrap, actionRun, Fallible.ok_bind]
  exact ⟨_, rfl⟩

/-! ## The whole run -/

/-- The batch is collected when all generators return. -/
theorem tableRequests_returns_iff :
    (∃ requests, tableRequests macFromStr switch out app = .ok requests) ↔
      (∃ x, writeAllSchedules out app = .ok x) ∧
        (∃ requests, configureTasQueueId switch out = .ok requests) ∧
        (∃ requests, configureAppIds out = .ok requests) ∧
        ∃ requests, out.configureStreamIdentification macFromStr = .ok requests := by
  unfold tableRequests
  refine ⟨?_, ?_⟩
  · intro h
    obtain ⟨requests, run⟩ := h
    obtain ⟨schedules, schedulesRun, run⟩ := Fallible.bind_eq_ok.mp run
    obtain ⟨gcls, gclsRun, run⟩ := Fallible.bind_eq_ok.mp run
    obtain ⟨appIds, appIdsRun, run⟩ := Fallible.bind_eq_ok.mp run
    obtain ⟨streams, streamsRun, run⟩ := Fallible.bind_eq_ok.mp run
    exact ⟨⟨schedules, schedulesRun⟩, ⟨gcls, gclsRun⟩, ⟨appIds, appIdsRun⟩, streams, streamsRun⟩
  · intro h
    obtain ⟨⟨schedules, schedulesRun⟩, ⟨gcls, gclsRun⟩, ⟨appIds, appIdsRun⟩, streams,
      streamsRun⟩ := h
    simp only [schedulesRun, gclsRun, appIdsRun, streamsRun, Fallible.ok_bind]
    exact ⟨_, rfl⟩

/-- **Startup returns exactly on startable configurations.**  The configuration is well referenced,
and the switch answers for the queues of the mapped ports. -/
theorem startup_returns_iff (ref : WellReferenced macFromStr cfg)
    (answers : switch.AnswersAll cfg) :
    (∃ result, startup macFromStr switch cfg = .ok result) ↔ Startable cfg := by
  refine ⟨?_, fun startable => ?_⟩
  · intro h
    obtain ⟨⟨generators, requests⟩, run⟩ := h
    obtain ⟨out, app, prepare, generated, collected⟩ := startup_eq_ok.mp run
    obtain ⟨apps, batches, prepared, fresh⟩ := prepare_eq_ok prepare
    obtain ⟨schedules, gcls, _, _⟩ := tableRequests_returns_iff.mp ⟨requests, collected⟩
    exact ⟨prepared.activateTrafficGenApplications_returns_iff.mp ⟨generators, generated⟩,
      (prepare_returns_iff ref).mp ⟨_, prepare⟩,
      (prepared.configureTasQueueId_returns_iff ref answers).mp gcls,
      (prepared.writeAllSchedules_returns_iff ref fresh).mp schedules⟩
  · obtain ⟨⟨out, app⟩, prepare⟩ := (prepare_returns_iff ref).mpr startable.bands
    obtain ⟨apps, batches, prepared, fresh⟩ := prepare_eq_ok prepare
    obtain ⟨generators, generated⟩ :=
      prepared.activateTrafficGenApplications_returns_iff.mpr startable.ports
    obtain ⟨requests, collected⟩ := tableRequests_returns_iff.mpr
      ⟨(prepared.writeAllSchedules_returns_iff ref fresh).mpr startable.identifiers,
        (prepared.configureTasQueueId_returns_iff ref answers).mpr startable.tops,
        ⟨_, prepared.configureAppIds_eq⟩, prepared.configureStreamIdentification_returns ref⟩
    exact ⟨(generators, requests),
      startup_eq_ok.mpr ⟨out, app, prepare, generated, collected⟩⟩

theorem WellReferenced.sample : WellReferenced sampleMacFromStr Configuration.sample where
  handles := by decide
  gates := List.forall_mem_singleton.mpr ⟨_, List.mem_cons_self, rfl⟩
  schedules := by decide
  gcls := by decide
  macs := List.forall_mem_singleton.mpr ⟨_, rfl⟩
  overwriteMacs := List.forall_mem_singleton.mpr nofun
  few := by decide
  slices := by decide
  intervals := by decide
  periods := by decide

theorem startup_returns_iff_sample :
    ∃ result, startup sampleMacFromStr .sample Configuration.sample = .ok result := by
  have answers : Switch.sample.AnswersAll Configuration.sample := by
    intro mapping member gcl found t listed qId key
    cases List.mem_singleton.mp member
    cases found
    cases List.mem_singleton.mp listed
    cases List.mem_singleton.mp key
    exact ⟨_, _, _, rfl, rfl, rfl⟩
  refine (startup_returns_iff .sample answers).mpr ⟨by decide, by decide, ?_, by decide⟩
  intro mapping member gcl found _
  cases List.mem_singleton.mp member
  cases found
  exact .inl (by decide)

/-- The sample configuration with its stream gates only. -/
def psfpOnly : Configuration :=
  { Configuration.sample with tas := { gclToPortMapping := [], gcls := [] } }

/-- **A configuration without ports does not start.**  It is well referenced, but there is no batch
for the control traffic: the number of batches less one underflows. -/
theorem psfp_only_panics :
    WellReferenced sampleMacFromStr psfpOnly ∧ Switch.sample.AnswersAll psfpOnly ∧
      ∃ out app, psfpOnly.prepare = .ok (out, app) ∧
        activateTrafficGenApplications out = .error .overflow ∧
        startup sampleMacFromStr .sample psfpOnly = .error .overflow := by
  have ref : WellReferenced sampleMacFromStr psfpOnly :=
    { WellReferenced.sample with
      gcls := nofun
      few := by decide
      slices := nofun
      periods := nofun }
  exact ⟨ref, nofun, _, _, rfl, rfl, by decide +kernel⟩

end P4Tas.Controller
