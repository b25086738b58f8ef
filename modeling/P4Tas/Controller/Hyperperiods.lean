import P4Tas.Controller.PacketGenerator
import P4Tas.Controller.StreamRequests
import P4Tas.Controller.TasEntries

/-!
# One hyperperiod for every table

The period of a gate's schedule and the guarded period of a port's GCL are written into several
tables, by functions that look the gate or port up by name, by id or by position.  They agree.

* `Configures.of_distinct`: requests made from records with distinct ids;
* `Prepared.generators_configure`, `gates_configure`, `ports_configure`, `batches_configure`: what
  the packet generator and its three tables say about one app or batch id;
* `hyperperiods_agree`: the agreement, for every gate and every port.
-/

namespace P4Tas.Controller

/-- A list of requests made from records with distinct ids configures every record. -/
theorem Configures.of_distinct {α : Type} (request : α → Request) (id : α → Nat)
    {requests : List Request} {table : Table} {key : Key} {as : List α} {data : List (Param × Nat)}
    (distinct : (as.map id).Nodup) {a : α} (member : a ∈ as)
    (requested : request a ∈ requests) (table_eq : (request a).table = table)
    (keys : ∀ a', (request a').key? key = some (.exact (id a')))
    (only : ∀ r ∈ requests, r.table = table → r.key? key = some (.exact (id a)) →
      ∃ a' ∈ as, r = request a')
    (carries : ∀ d ∈ data, (request a).data? d.1 = some d.2) :
    Configures requests table key (id a) data := by
  refine ⟨⟨request a, requested, table_eq, keys a⟩, fun r rMember ofTable hasKey => ?_⟩
  rcases only r rMember ofTable hasKey with ⟨a', member', rfl⟩
  have same : id a' = id a := by
    rw [keys a'] at hasKey
    exact MatchValue.exact.inj (Option.some.inj hasKey)
  rw [List.inj_on_of_nodup_map distinct member' member same]
  exact carries

/-- The exceeded-detection set of a hyperperiod is installed, under its duration. -/
def ExceededInstalled (entries : List Request) (hyperperiod : U64) : Prop :=
  ∀ r ∈ DeltaAdjustment.initHyperperiodExceededDetectionTable hyperperiod,
    r ∈ entries ∧ r.key? .hyperperiodDuration = some (.exact hyperperiod.toNat)

namespace PacketGenerator

theorem exceeded_table {hyperperiod : U64} {r : Request}
    (member : r ∈ DeltaAdjustment.initHyperperiodExceededDetectionTable hyperperiod) :
    r.table = .hyperperiodExceededDetection ∧
      r.key? .hyperperiodDuration = some (.exact hyperperiod.toNat) := by
  rcases DeltaAdjustment.mem_exceeded.mp member with ⟨i, _, _, rfl⟩
  exact ⟨rfl, rfl⟩

variable {apps : List AppIDMapping} {batches : List BatchIDMapping} {r : Request}

/-- The requests of `configure_app_ids`, by table. -/
theorem mem_configureAppIds :
    r ∈ apps.flatMap gateRequests ++ batches.flatMap portRequests ↔
      (∃ m ∈ apps, r = appIdStreamGateRequest m) ∨ (∃ b ∈ batches, r = appIdTasRequest b) ∨
        (∃ b ∈ batches, r = batchIdToPortRequest b) ∨
        (∃ m ∈ apps, r ∈ DeltaAdjustment.initHyperperiodExceededDetectionTable
          m.hyperperiodDuration) ∨
        ∃ b ∈ batches, r ∈ DeltaAdjustment.initHyperperiodExceededDetectionTable
          b.hyperperiodDuration := by
  simp only [List.mem_append, List.mem_flatMap, gateRequests, portRequests, List.mem_cons]
  refine ⟨?_, ?_⟩
  · rintro (⟨m, member, rfl | exceeded⟩ | ⟨b, member, rfl | rfl | exceeded⟩)
    · exact .inl ⟨m, member, rfl⟩
    · exact .inr (.inr (.inr (.inl ⟨m, member, exceeded⟩)))
    · exact .inr (.inl ⟨b, member, rfl⟩)
    · exact .inr (.inr (.inl ⟨b, member, rfl⟩))
    · exact .inr (.inr (.inr (.inr ⟨b, member, exceeded⟩)))
  · rintro (⟨m, member, rfl⟩ | ⟨b, member, rfl⟩ | ⟨b, member, rfl⟩ | ⟨m, member, exceeded⟩ |
      ⟨b, member, exceeded⟩)
    · exact .inl ⟨m, member, .inl rfl⟩
    · exact .inr ⟨b, member, .inl rfl⟩
    · exact .inr ⟨b, member, .inr (.inl rfl)⟩
    · exact .inl ⟨m, member, .inr exceeded⟩
    · exact .inr ⟨b, member, .inr (.inr exceeded)⟩

end PacketGenerator

namespace Configuration

/-- The app ids given to stream gates and ports. -/
def appIds (cfg : Configuration) : List U8 :=
  (cfg.psfp.appIdMappings.getD []).map (·.appId) ++ (cfg.tas.batchMappings.getD []).map (·.appId)

namespace Prepared

open PacketGenerator

variable {cfg out : Configuration} {apps : List AppIDMapping} {batches : List BatchIDMapping}

theorem appIds_toNat (prepared : Prepared cfg out apps batches) :
    out.appIds.map BitVec.toNat = List.range' 1 (apps.length + batches.length) := by
  unfold appIds
  rw [prepared.appIdMappings_eq, prepared.batchMappings_eq, ← prepared.app_ids, List.map_append,
    List.map_map, List.map_map]
  rfl

/-- The applications of the packet generator, with their periods. -/
theorem generators_configure (prepared : Prepared cfg out apps batches) {generators : List Request}
    (run : activateTrafficGenApplications out = .ok generators) {appId : U8} {period : U64}
    (mapped : (appId, period) ∈ apps.map (fun m => (m.appId, m.hyperperiodDuration)) ++
      batches.map (fun b => (b.appId, b.hyperperiodDuration))) :
    Configures generators .appCfg .appId appId.toNat [(.timerNanosec, period.toNat)] := by
  rcases Fallible.bind_eq_ok.mp run with ⟨batches', batchesRun, run⟩
  rcases Fallible.bind_eq_ok.mp run with ⟨batchCountCfg, _, run⟩
  rcases Fallible.bind_eq_ok.mp run with ⟨apps', appsRun, run⟩
  cases prepared.batchMappings_eq.symm.trans (unwrap_eq_ok.mp batchesRun)
  cases prepared.appIdMappings_eq.symm.trans (unwrap_eq_ok.mp appsRun)
  have generators_eq : generators = tasControlRequest batchCountCfg ::
      (apps.map (fun m => (m.appId, m.hyperperiodDuration)) ++
        batches.map fun b => (b.appId, b.hyperperiodDuration)).map fun app =>
          hyperperiodRequest app.1 app.2 := by
    cases run
    simp [Function.comp_def]
  have ids : (apps.map (fun m => (m.appId, m.hyperperiodDuration)) ++
      batches.map fun b => (b.appId, b.hyperperiodDuration)).map (fun app => app.1.toNat) =
        List.range' 1 (apps.length + batches.length) := by
    rw [← prepared.app_ids]
    simp [Function.comp_def]
  rw [generators_eq]
  refine Configures.of_distinct (fun app : U8 × U64 => hyperperiodRequest app.1 app.2)
    (fun app => app.1.toNat) (ids ▸ List.nodup_range') mapped
    (List.mem_cons_of_mem _ (List.mem_map_of_mem mapped)) rfl (fun _ => rfl) ?_ ?_
  · intro r member _ hasKey
    rcases List.mem_cons.mp member with rfl | later
    · -- the application of the control traffic has id 0
      have zero : appId.toNat = 0 :=
        (MatchValue.exact.inj (Option.some.inj hasKey)).symm
      have inRange : appId.toNat ∈ List.range' 1 (apps.length + batches.length) := by
        rw [← ids]
        exact List.mem_map_of_mem (f := fun app : U8 × U64 => app.1.toNat) mapped
      rw [zero] at inRange
      exact absurd (List.mem_range'_1.mp inRange).1 (by omega)
    · rcases List.mem_map.mp later with ⟨app, appMember, rfl⟩
      exact ⟨app, appMember, rfl⟩
  · exact List.forall_mem_cons.mpr ⟨rfl, nofun⟩

theorem appIds_distinct (prepared : Prepared cfg out apps batches) :
    (apps.map fun m => m.appId.toNat).Nodup ∧ (batches.map fun b => b.appId.toNat).Nodup := by
  have all : (apps.map (fun m => m.appId.toNat) ++ batches.map fun b => b.appId.toNat).Nodup := by
    rw [prepared.app_ids]
    exact List.nodup_range'
  exact ⟨all.of_append_left, all.of_append_right⟩

/-- `app_id_stream_gate` -/
theorem gates_configure (prepared : Prepared cfg out apps batches) {m : AppIDMapping}
    (member : m ∈ apps) :
    Configures (apps.flatMap gateRequests ++ batches.flatMap portRequests) .appIdStreamGate
      .timerAppId m.appId.toNat [(.streamGateId, m.streamGateId.toNat)] := by
  refine Configures.of_distinct appIdStreamGateRequest (fun m => m.appId.toNat)
    prepared.appIds_distinct.1 member (mem_configureAppIds.mpr (.inl ⟨m, member, rfl⟩)) rfl
    (fun _ => rfl) ?_ ?_
  · intro r entry table_eq _
    rcases mem_configureAppIds.mp entry with found | ⟨_, _, rfl⟩ | ⟨_, _, rfl⟩ | ⟨_, _, exceeded⟩ |
      ⟨_, _, exceeded⟩
    · exact found
    · cases table_eq
    · cases table_eq
    · cases table_eq.symm.trans (exceeded_table exceeded).1
    · cases table_eq.symm.trans (exceeded_table exceeded).1
  · exact List.forall_mem_cons.mpr ⟨rfl, nofun⟩

/-- `app_id_tas` -/
theorem ports_configure (prepared : Prepared cfg out apps batches) {b : BatchIDMapping}
    (member : b ∈ batches) :
    Configures (apps.flatMap gateRequests ++ batches.flatMap portRequests) .appIdTas .timerAppId
      b.appId.toNat
      [(.port, b.egressDevPort.toNat), (.duration, b.hyperperiodDuration.toNat)] := by
  refine Configures.of_distinct appIdTasRequest (fun b => b.appId.toNat)
    prepared.appIds_distinct.2 member (mem_configureAppIds.mpr (.inr (.inl ⟨b, member, rfl⟩))) rfl
    (fun _ => rfl) ?_ ?_
  · intro r entry table_eq _
    rcases mem_configureAppIds.mp entry with ⟨_, _, rfl⟩ | found | ⟨_, _, rfl⟩ | ⟨_, _, exceeded⟩ |
      ⟨_, _, exceeded⟩
    · cases table_eq
    · exact found
    · cases table_eq
    · cases table_eq.symm.trans (exceeded_table exceeded).1
    · cases table_eq.symm.trans (exceeded_table exceeded).1
  · exact List.forall_mem_cons.mpr ⟨rfl, List.forall_mem_cons.mpr ⟨rfl, nofun⟩⟩

/-- `batch_id_to_port` -/
theorem batches_configure (prepared : Prepared cfg out apps batches) {b : BatchIDMapping}
    (member : b ∈ batches) :
    Configures (apps.flatMap gateRequests ++ batches.flatMap portRequests) .batchIdToPort
      .timerBatchId b.batchId.toNat
      [(.port, b.egressDevPort.toNat), (.hyperperiod, b.hyperperiodDuration.toNat)] := by
  refine Configures.of_distinct batchIdToPortRequest (fun b => b.batchId.toNat)
    (prepared.batch_ids ▸ List.nodup_range) member
    (mem_configureAppIds.mpr (.inr (.inr (.inl ⟨b, member, rfl⟩)))) rfl (fun _ => rfl) ?_ ?_
  · intro r entry table_eq _
    rcases mem_configureAppIds.mp entry with ⟨_, _, rfl⟩ | ⟨_, _, rfl⟩ | found | ⟨_, _, exceeded⟩ |
      ⟨_, _, exceeded⟩
    · cases table_eq
    · cases table_eq
    · exact found
    · cases table_eq.symm.trans (exceeded_table exceeded).1
    · cases table_eq.symm.trans (exceeded_table exceeded).1
  · exact List.forall_mem_cons.mpr ⟨rfl, List.forall_mem_cons.mpr ⟨rfl, nofun⟩⟩

/-- The exceeded-detection sets of the apps and the batches. -/
theorem exceeded_installed {hyperperiod : U64}
    (mapped : (∃ m ∈ apps, m.hyperperiodDuration = hyperperiod) ∨
      ∃ b ∈ batches, b.hyperperiodDuration = hyperperiod) :
    ExceededInstalled (apps.flatMap gateRequests ++ batches.flatMap portRequests) hyperperiod := by
  intro r member
  refine ⟨mem_configureAppIds.mpr (.inr (.inr (.inr ?_))), (exceeded_table member).2⟩
  rcases mapped with ⟨m, mMember, rfl⟩ | ⟨b, bMember, rfl⟩
  · exact .inl ⟨m, mMember, member⟩
  · exact .inr ⟨b, bMember, member⟩

/-! ## Stream entries -/

theorem streamGate_eq (prepared : Prepared cfg out apps batches) (s : Stream) :
    out.streamGate s = cfg.streamGate s := by
  unfold streamGate findGate findHandle
  rw [prepared.psfp_eq]

/-- The entries of the streams on a gate carry the period of the gate's schedule. -/
theorem streams_hyperperiod (prepared : Prepared cfg out apps batches)
    (gateIds : (cfg.psfp.streamGates.map (·.streamGateId)).Nodup)
    (resolved : ∀ s ∈ cfg.psfp.streams, cfg.Resolved s)
    {macFromStr : String → Option (List U8)} {requests : List Request}
    (run : out.configureStreamIdentification macFromStr = .ok requests) {gate : StreamGate}
    (gateMember : gate ∈ cfg.psfp.streamGates) {schedule : StreamGateControlList}
    (found : cfg.findSchedule gate.schedule = some schedule) {r : Request} (member : r ∈ requests)
    (onGate : r.data? .streamGateId = some gate.streamGateId.toNat) :
    r.data? .hyperperiod = some schedule.period.toNat := by
  rcases configureStreamIdentification_mem run member with ⟨s, streamMember, isEntry⟩
  rw [prepared.psfp_eq] at streamMember
  have same : (cfg.streamGate s).streamGateId = gate.streamGateId := by
    rw [isEntry.gateId, prepared.streamGate_eq] at onGate
    exact BitVec.eq_of_toNat_eq (Option.some.inj onGate)
  -- gate ids are distinct, so it is the gate of the stream
  have ofStream : cfg.streamGate s ∈ cfg.psfp.streamGates :=
    List.mem_of_find?_eq_some (resolved s streamMember).streamGate_id
  have gate_eq : cfg.streamGate s = gate :=
    List.inj_on_of_nodup_map gateIds ofStream gateMember same
  rcases isEntry.hyperperiod with ⟨schedule', found', carries⟩
  rw [prepared.streamGate_eq, gate_eq, prepared.findSchedule_eq, found] at found'
  rw [Option.some.inj found']
  exact carries

/-! ## The tables of a port -/

/-- The batch mapping of a port mapping, and its GCL with guard bands. -/
theorem exists_batchMapping (prepared : Prepared cfg out apps batches)
    (ports : (cfg.tas.gclToPortMapping.map (·.port)).Nodup)
    (names : (cfg.tas.gcls.map (·.name)).Nodup) {mapping : GCLToPortMapping}
    (mapped : mapping ∈ cfg.tas.gclToPortMapping) {gcl : GateControlList}
    (member : gcl ∈ cfg.tas.gcls) (named : gcl.name = mapping.gcl) :
    ∃ guarded, gcl.insertGuardBands = .ok guarded ∧ ∃ b ∈ batches,
      b.egressDevPort = mapping.port ∧ b.hyperperiodDuration = guarded.period.setWidth 64 ∧
        out.batchId? mapping.port = some b.batchId := by
  rcases KeyedList.exists_related prepared.guarded member with ⟨guarded, guardedMember, run⟩
  rcases KeyedList.exists_related prepared.batches_ports mapped with
    ⟨b, bMember, port_eq, g, found, duration⟩
  have name_eq := GateControlList.insertGuardBands_name run
  have found' := prepared.findGcl_eq_some names guardedMember
  rw [← name_eq, named, found] at found'
  rw [Option.some.inj found'] at duration
  refine ⟨guarded, run, b, bMember, port_eq, duration, ?_⟩
  have batchPorts : (batches.map (·.egressDevPort)).Nodup := by
    have same : cfg.tas.gclToPortMapping.map (·.port) = batches.map (·.egressDevPort) :=
      KeyedList.map_key_forall₂ prepared.batches_ports fun _ _ isBatch => isBatch.1.symm
    exact same ▸ ports
  exact prepared.batchId?_eq_some.mpr
    ⟨b, (KeyedList.find?_eq_some_iff batchPorts).mpr ⟨bMember, port_eq⟩, rfl⟩

end Prepared

/-- What the tables say about a stream gate agrees on a period: the application of the packet
generator, the app's entry, the streams on the gate, and a set of exceeded-detection entries. -/
structure GateAgrees (macFromStr : String → Option (List U8)) (out : Configuration)
    (generators entries : List Request) (gate : StreamGate) (period : U64) : Prop where
  app : ∃ appId ∈ out.appIds,
    Configures generators .appCfg .appId appId.toNat [(.timerNanosec, period.toNat)] ∧
      Configures entries .appIdStreamGate .timerAppId appId.toNat
        [(.streamGateId, gate.streamGateId.toNat)]
  streams : ∀ requests, out.configureStreamIdentification macFromStr = .ok requests →
    ∀ r ∈ requests, r.data? .streamGateId = some gate.streamGateId.toNat →
      r.data? .hyperperiod = some period.toNat
  exceeded : ExceededInstalled entries period

/-- What the tables say about a port agrees on a period, and the entries written for the port's GCL
carry the batch id that is mapped to the port. -/
structure PortAgrees (switch : Switch) (out : Configuration) (generators entries : List Request)
    (mapping : GCLToPortMapping) (period : U64) : Prop where
  app : ∃ appId ∈ out.appIds,
    Configures generators .appCfg .appId appId.toNat [(.timerNanosec, period.toNat)] ∧
      Configures entries .appIdTas .timerAppId appId.toNat
        [(.port, mapping.port.toNat), (.duration, period.toNat)]
  batch : ∃ batchId : U8,
    Configures entries .batchIdToPort .timerBatchId batchId.toNat
        [(.port, mapping.port.toNat), (.hyperperiod, period.toNat)] ∧
      ∀ es, TAS.mappingEntries switch out mapping = .ok es →
        ∀ r ∈ es, r.table = .gateControlList ∧
          r.key? .timerBatchId = some (.exact batchId.toNat)
  exceeded : ExceededInstalled entries period

end Configuration

/-- Every entry of an iteration over the port mappings carries the batch id of the port. -/
theorem TAS.mappingEntries_batchId {switch : Switch} {cfg : Configuration}
    {mapping : GCLToPortMapping} {es : List Request} {batchId : U8} {r : Request}
    (run : mappingEntries switch cfg mapping = .ok es)
    (batch : cfg.batchId? mapping.port = some batchId) (member : r ∈ es) :
    r.table = .gateControlList ∧ r.key? .timerBatchId = some (.exact batchId.toNat) := by
  rcases mappingEntries_eq_ok run with ⟨gcl, batchId', _, batch', run⟩
  cases batch.symm.trans batch'
  rcases gclEntries_mem run member with ⟨_, _, _, _, rfl⟩
  exact ⟨rfl, rfl⟩

namespace Configuration

theorem Prepared.configureAppIds_eq {cfg out : Configuration} {apps : List AppIDMapping}
    {batches : List BatchIDMapping} (prepared : Prepared cfg out apps batches) :
    PacketGenerator.configureAppIds out =
      .ok (apps.flatMap PacketGenerator.gateRequests ++
        batches.flatMap PacketGenerator.portRequests) := by
  unfold PacketGenerator.configureAppIds
  simp only [prepared.appIdMappings_eq, prepared.batchMappings_eq, unwrap, Fallible.ok_bind]
  rfl

/-- There must be a port for the control traffic. -/
theorem Prepared.activateTrafficGenApplications_returns_iff {cfg out : Configuration}
    {apps : List AppIDMapping} {batches : List BatchIDMapping}
    (prepared : Prepared cfg out apps batches) :
    (∃ generators, PacketGenerator.activateTrafficGenApplications out = .ok generators) ↔
      cfg.tas.gclToPortMapping ≠ [] := by
  have few := prepared.few
  have lengths := prepared.batches_ports.length_eq
  have count : (BitVec.ofNat 16 batches.length).toNat = batches.length :=
    Nat.mod_eq_of_lt (by omega)
  have one : (1 : U16).toNat = 1 := rfl
  rw [← List.length_pos_iff, lengths]
  unfold PacketGenerator.activateTrafficGenApplications
  simp only [prepared.appIdMappings_eq, prepared.batchMappings_eq, unwrap, Fallible.ok_bind]
  refine ⟨?_, fun some => ?_⟩
  · intro h
    obtain ⟨generators, run⟩ := h
    obtain ⟨batchCountCfg, counted, _⟩ := Fallible.bind_eq_ok.mp run
    have sum := checkedSub_eq_ok.mp counted
    omega
  · obtain ⟨batchCountCfg, counted⟩ :=
      checkedSub_returns (a := BitVec.ofNat 16 batches.length) (b := 1) (by omega)
    rw [counted]
    exact ⟨_, rfl⟩

namespace Prepared

variable {cfg out : Configuration} {apps : List AppIDMapping} {batches : List BatchIDMapping}
  {generators : List Request}

theorem appIds_eq (prepared : Prepared cfg out apps batches) :
    out.appIds = apps.map (·.appId) ++ batches.map (·.appId) := by
  unfold appIds
  rw [prepared.appIdMappings_eq, prepared.batchMappings_eq]
  rfl

/-- The tables agree about every gate on the period of its schedule. -/
theorem gateAgrees (prepared : Prepared cfg out apps batches)
    (generated : PacketGenerator.activateTrafficGenApplications out = .ok generators)
    (gateIds : (cfg.psfp.streamGates.map (·.streamGateId)).Nodup)
    (resolved : ∀ s ∈ cfg.psfp.streams, cfg.Resolved s)
    (macFromStr : String → Option (List U8)) {gate : StreamGate}
    (member : gate ∈ cfg.psfp.streamGates) {schedule : StreamGateControlList}
    (found : cfg.findSchedule gate.schedule = some schedule) :
    GateAgrees macFromStr out generators
      (apps.flatMap PacketGenerator.gateRequests ++ batches.flatMap PacketGenerator.portRequests)
      gate schedule.period := by
  rcases KeyedList.exists_related prepared.apps_gates member with
    ⟨m, mMember, gate_eq, s, found', duration⟩
  cases found'.symm.trans found
  refine ⟨⟨m.appId, ?_, ?_, ?_⟩, fun requests streamRun r entry onGate => ?_, ?_⟩
  · rw [prepared.appIds_eq]
    exact List.mem_append_left _ (List.mem_map_of_mem mMember)
  · rw [← duration]
    exact prepared.generators_configure generated
      (List.mem_append_left _ (List.mem_map.mpr ⟨m, mMember, rfl⟩))
  · rw [← gate_eq]
    exact prepared.gates_configure mMember
  · exact prepared.streams_hyperperiod gateIds resolved streamRun member found entry onGate
  · exact exceeded_installed (.inl ⟨m, mMember, duration⟩)

/-- The tables agree about every port on the period of its GCL with guard bands. -/
theorem portAgrees (prepared : Prepared cfg out apps batches)
    (generated : PacketGenerator.activateTrafficGenApplications out = .ok generators)
    (ports : (cfg.tas.gclToPortMapping.map (·.port)).Nodup)
    (names : (cfg.tas.gcls.map (·.name)).Nodup) (switch : Switch) {mapping : GCLToPortMapping}
    (mapped : mapping ∈ cfg.tas.gclToPortMapping) {gcl : GateControlList}
    (member : gcl ∈ cfg.tas.gcls) (named : gcl.name = mapping.gcl) :
    ∃ guarded, gcl.insertGuardBands = .ok guarded ∧
      PortAgrees switch out generators
        (apps.flatMap PacketGenerator.gateRequests ++ batches.flatMap PacketGenerator.portRequests)
        mapping (guarded.period.setWidth 64) := by
  rcases prepared.exists_batchMapping ports names mapped member named with
    ⟨guarded, guardedRun, b, bMember, port_eq, duration, batch⟩
  refine ⟨guarded, guardedRun, ⟨b.appId, ?_, ?_, ?_⟩, ⟨b.batchId, ?_, ?_⟩, ?_⟩
  · rw [prepared.appIds_eq]
    exact List.mem_append_right _ (List.mem_map_of_mem bMember)
  · rw [← duration]
    exact prepared.generators_configure generated
      (List.mem_append_right _ (List.mem_map.mpr ⟨b, bMember, rfl⟩))
  · rw [← duration, ← port_eq]
    exact prepared.ports_configure bMember
  · rw [← duration, ← port_eq]
    exact prepared.batches_configure bMember
  · intro es entriesRun r entry
    exact TAS.mappingEntries_batchId entriesRun batch entry
  · exact exceeded_installed (.inr ⟨b, bMember, duration⟩)

end Prepared

/-- **One hyperperiod for every table.**  When `main.rs` has prepared a configuration with distinct
gates, schedules, GCLs and ports, with a port and at most 15 gates and ports, the app ids are
distinct numbers from 1 to 15, and what the tables say about a gate agrees on the period of the
gate's schedule, and about a port on the guarded period of the port's GCL. -/
theorem hyperperiods_agree {cfg out : Configuration} {app : AppState}
    (run : cfg.prepare = .ok (out, app))
    (gateIds : (cfg.psfp.streamGates.map (·.streamGateId)).Nodup)
    (schedules : (cfg.psfp.streamGateSchedules.map (·.name)).Nodup)
    (gcls : (cfg.tas.gcls.map (·.name)).Nodup)
    (ports : (cfg.tas.gclToPortMapping.map (·.port)).Nodup)
    (resolved : ∀ s ∈ cfg.psfp.streams, cfg.Resolved s)
    (mapped : cfg.tas.gclToPortMapping ≠ [])
    (few : cfg.psfp.streamGates.length + cfg.tas.gclToPortMapping.length ≤ 15)
    (macFromStr : String → Option (List U8)) (switch : Switch) :
    ∃ generators entries, PacketGenerator.activateTrafficGenApplications out = .ok generators ∧
      PacketGenerator.configureAppIds out = .ok entries ∧
      out.appIds.Nodup ∧ (∀ appId ∈ out.appIds, 1 ≤ appId.toNat ∧ appId.toNat ≤ 15) ∧
      (∀ gate ∈ cfg.psfp.streamGates, ∀ schedule ∈ cfg.psfp.streamGateSchedules,
        schedule.name = gate.schedule →
          GateAgrees macFromStr out generators entries gate schedule.period) ∧
      ∀ mapping ∈ cfg.tas.gclToPortMapping, ∀ gcl ∈ cfg.tas.gcls, gcl.name = mapping.gcl →
        ∃ guarded, gcl.insertGuardBands = .ok guarded ∧
          PortAgrees switch out generators entries mapping (guarded.period.setWidth 64) := by
  rcases prepare_eq_ok run with ⟨apps, batches, prepared, _⟩
  rcases prepared.activateTrafficGenApplications_returns_iff.mpr mapped with
    ⟨generators, generated⟩
  have lengths : apps.length + batches.length ≤ 15 := by
    rw [← prepared.apps_gates.length_eq, ← prepared.batches_ports.length_eq]
    exact few
  have ids := prepared.appIds_toNat
  refine ⟨generators, _, generated, prepared.configureAppIds_eq, ?_, ?_, ?_, ?_⟩
  · exact List.Nodup.of_map BitVec.toNat (ids ▸ List.nodup_range')
  · intro appId member
    have inRange : appId.toNat ∈ List.range' 1 (apps.length + batches.length) := by
      rw [← ids]
      exact List.mem_map_of_mem member
    have bounds := List.mem_range'_1.mp inRange
    exact ⟨bounds.1, by omega⟩
  · intro gate gateMember schedule scheduleMember named
    have found : cfg.findSchedule gate.schedule = some schedule :=
      (KeyedList.find?_eq_some_iff schedules).mpr ⟨scheduleMember, named⟩
    exact prepared.gateAgrees generated gateIds resolved macFromStr gateMember found
  · intro mapping mappingMember gcl gclMember named
    exact prepared.portAgrees generated ports gcls switch mappingMember gclMember named

/-- The sample configuration: port 133 and its GCL. -/
theorem hyperperiods_agree_sample :
    ∃ generators entries,
      PacketGenerator.activateTrafficGenApplications samplePrepared = .ok generators ∧
        ∃ guarded : GateControlList, guarded.period = 8 ∧
          PortAgrees .sample samplePrepared generators entries ⟨133, "tas"⟩
            (guarded.period.setWidth 64) := by
  have resolved : ∀ s ∈ sample.psfp.streams, sample.Resolved s := by
    intro s member
    cases List.mem_singleton.mp member
    exact ⟨_, List.mem_cons_self, rfl⟩
  rcases hyperperiods_agree prepare_sample (by decide) (by decide) (by decide) (by decide) resolved
    nofun (by decide) (fun _ => none) .sample with
    ⟨generators, entries, generated, _, _, _, _, ports⟩
  rcases ports _ List.mem_cons_self _ List.mem_cons_self rfl with ⟨guarded, guardedRun, agrees⟩
  refine ⟨generators, entries, generated, guarded, ?_, agrees⟩
  cases guardedRun
  rfl

end Configuration

end P4Tas.Controller
