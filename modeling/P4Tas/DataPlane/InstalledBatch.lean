import P4Tas.Controller.StartupBatch
import P4Tas.DataPlane.HyperperiodPosition
import P4Tas.DataPlane.PeriodRegisters

/-!
# The installed batch

The pipeline with the batch of the controller installed: which entries each of its tables has, and
which gate or port a generated packet is for.

* `batchEntries`: the entries, table by table;
* `Batch.role_endsGate_iff`, `Batch.role_endsPort_iff`: the hyperperiod packets, by their app ids.
-/

namespace P4Tas.DataPlane

open Controller Controller.Configuration

/-- The tables the batch writes. -/
def batchTables : List Table :=
  [.streamGateInstance, .gateControlList, .mappingTasControlRecirculationPort, .appIdStreamGate,
    .appIdTas, .batchIdToPort, .hyperperiodExceededDetection, .streamId, .flowMeterInstance,
    .underflowDetection]

/-- These tables have the entries of the requests. -/
def Installed (requests : List Request) (tables : Tables) : Prop :=
  ∀ table ∈ batchTables, tables.entries table = requests.filter fun r => r.table = table

theorem installed_self (requests : List Request) (precedence : Precedence) :
    Installed requests ⟨requests, precedence⟩ :=
  fun _ _ => rfl

/-- What the batch of a prepared configuration leaves in the tables. -/
structure Batch (macFromStr : String → Option (List U8)) (switch : Switch) (out : Configuration)
    (apps : List AppIDMapping) (batches : List BatchIDMapping) (app app' : AppState)
    (schedules gcls streams : List Request) (tables : Tables) : Prop where
  schedulesRun : StreamGateControlList.writeAllSchedules out app = .ok (schedules, app')
  gclsRun : TAS.configureTasQueueId switch out = .ok gcls
  streamsRun : out.configureStreamIdentification macFromStr = .ok streams
  streamGateInstance : tables.entries .streamGateInstance = schedules
  gateControlList : tables.entries .gateControlList = gcls
  recirculation : tables.entries .mappingTasControlRecirculationPort =
    TAS.configureTasControlRecirculation
  appIdStreamGate : tables.entries .appIdStreamGate =
    apps.map PacketGenerator.appIdStreamGateRequest
  appIdTas : tables.entries .appIdTas = batches.map PacketGenerator.appIdTasRequest
  batchIdToPort : tables.entries .batchIdToPort = batches.map PacketGenerator.batchIdToPortRequest
  exceeded : tables.entries .hyperperiodExceededDetection =
    (apps.map (·.hyperperiodDuration) ++ batches.map (·.hyperperiodDuration)).flatMap
      DeltaAdjustment.initHyperperiodExceededDetectionTable
  streamId : tables.entries .streamId = streams
  flowMeterInstance : tables.entries .flowMeterInstance = out.configureFlowMeter
  underflow : tables.entries .underflowDetection =
    Controller.DeltaAdjustment.initUnderflowDetectionTable

/-- A table with one exact key, whose entries are those of records with distinct ids, is a lookup by
the id. -/
theorem Tables.lookup_map {α : Type} {tables : Tables} {table : Table} {fields : Request.Fields}
    {request : α → Request} {key : Key} (id : α → Nat) {as : List α}
    (entries : tables.entries table = as.map request)
    (keys : ∀ a, (request a).matchKeys = [(key, .exact (id a))]) (ranked : key ≠ .matchPriority)
    (distinct : (as.map id).Nodup) :
    tables.lookup table fields = (as.find? fun a => id a == fields key).map request := by
  have accepts (a : α) : (request a).Matches fields ↔ id a = fields key := by
    unfold Request.Matches
    rw [keys a]
    simp [ranked, MatchValue.Matches, eq_comm]
  have hit_iff (r : Request) : r ∈ Request.hits fields (tables.entries table) ↔
      ∃ a ∈ as, id a = fields key ∧ request a = r := by
    rw [Request.mem_hits, entries, List.mem_map]
    refine ⟨fun h => ?_, fun h => ?_⟩
    · obtain ⟨⟨a, member, rfl⟩, accepted⟩ := h
      exact ⟨a, member, (accepts a).mp accepted, rfl⟩
    · obtain ⟨a, member, same, rfl⟩ := h
      exact ⟨⟨a, member, rfl⟩, (accepts a).mpr same⟩
  cases found : as.find? fun a => id a == fields key with
  | some a =>
    have member := List.mem_of_find?_eq_some found
    have same : id a = fields key := by simpa using List.find?_some found
    have only (r : Request) (hit : r ∈ Request.hits fields (tables.entries table)) :
        r = request a := by
      obtain ⟨a', member', same', rfl⟩ := (hit_iff r).mp hit
      rw [List.inj_on_of_nodup_map distinct member' member (same'.trans same.symm)]
    rw [Option.map_some, Tables.lookup_eq_some_iff fun s hit s' hit' => (only s hit).trans
      (only s' hit').symm]
    exact (hit_iff _).mpr ⟨a, member, same, rfl⟩
  | none =>
    rw [Option.map_none, Tables.lookup_eq_none, List.eq_nil_iff_forall_not_mem]
    intro r hit
    obtain ⟨a, member, same, _⟩ := (hit_iff r).mp hit
    exact absurd same (by simpa using List.find?_eq_none.mp found a member)

/-! ## Positions -/

/-- The position in a hyperperiod `T` that began at `last`; a packet slightly earlier than the
recorded start is at 0. -/
def positionSince (T : Nat) (last now : BitVec 48) : Nat :=
  if 2 ^ 48 - 128 ≤ (now - last).toNat then 0 else min (now - last).toNat T

theorem positionSince_le (T : Nat) (last now : BitVec 48) : positionSince T last now ≤ T := by
  unfold positionSince
  split
  · exact Nat.zero_le T
  · exact Nat.min_le_right _ _

theorem Tsn.elapsed_eq (pkt : Packet) :
    Tsn.elapsed pkt = (pkt.igIntrMd.ingressMacTstamp - pkt.igMd.hyperperiodTs).toNat := by
  rw [Tsn.elapsed, BitVec.toNat_sub]

/-! ## Requests by table -/

section

variable {α : Type} {table : Table} {es es' : List Request} {ts : List Table}

theorem filter_ofTable (of : Request.OfTables [table] es) :
    (es.filter fun r => r.table = table) = es :=
  List.filter_eq_self.mpr fun r member => decide_eq_true (List.mem_singleton.mp (of r member))

theorem filter_ofOther (of : Request.OfTables ts es) (other : table ∉ ts) :
    (es.filter fun r => r.table = table) = [] := by
  refine List.filter_eq_nil_iff.mpr fun r member same => other ?_
  rw [← of_decide_eq_true same]
  exact of r member

theorem filter_append_left (of : Request.OfTables ts es') (other : table ∉ ts) :
    ((es ++ es').filter fun r => r.table = table) = es.filter fun r => r.table = table := by
  rw [List.filter_append, filter_ofOther of other, List.append_nil]

theorem filter_append_right (of : Request.OfTables ts es) (other : table ∉ ts) :
    ((es ++ es').filter fun r => r.table = table) = es'.filter fun r => r.table = table := by
  rw [List.filter_append, filter_ofOther of other, List.nil_append]

/-- Of a request for each element and a list of others, the table has the one or the others. -/
theorem filter_flatMap_cons (request : α → Request) (rest : α → List Request)
    (own : ∀ a, (request a).table = table) (others : ∀ a, Request.OfTables ts (rest a))
    (other : table ∉ ts) (as : List α) :
    ((as.flatMap fun a => request a :: rest a).filter fun r => r.table = table) =
      as.map request := by
  rw [List.filter_flatMap, List.map_eq_flatMap]
  refine List.flatMap_congr fun a _ => ?_
  rw [List.filter_cons, if_pos (decide_eq_true (own a)), filter_ofOther (others a) other]

theorem filter_flatMap_rest (table : Table) (request : α → Request) (rest : α → List Request)
    (own : ∀ a, (request a).table ≠ table) (as : List α) :
    ((as.flatMap fun a => request a :: rest a).filter fun r => r.table = table) =
      (as.flatMap rest).filter fun r => r.table = table := by
  rw [List.filter_flatMap, List.filter_flatMap]
  refine List.flatMap_congr fun a _ => ?_
  rw [List.filter_cons, if_neg (by simpa using own a)]

end

section

open PacketGenerator

variable (apps : List AppIDMapping) (batches : List BatchIDMapping)

theorem exceeded_ofTable (hyperperiod : U64) :
    Request.OfTables [.hyperperiodExceededDetection]
      (Controller.DeltaAdjustment.initHyperperiodExceededDetectionTable hyperperiod) :=
  fun _ member => List.mem_singleton.mpr (exceeded_table member).1

theorem gateRequests_ofTables (as : List AppIDMapping) :
    Request.OfTables [.appIdStreamGate, .hyperperiodExceededDetection]
      (as.flatMap gateRequests) := by
  intro r member
  obtain ⟨m, _, member⟩ := List.mem_flatMap.mp member
  rcases List.mem_cons.mp member with rfl | later
  · exact List.mem_cons_self
  · exact List.mem_cons_of_mem _ (exceeded_ofTable _ r later)

theorem portRequests_ofTables (bs : List BatchIDMapping) :
    Request.OfTables [.appIdTas, .batchIdToPort, .hyperperiodExceededDetection]
      (bs.flatMap portRequests) := by
  intro r member
  obtain ⟨b, _, member⟩ := List.mem_flatMap.mp member
  rcases List.mem_cons.mp member with rfl | later
  · exact List.mem_cons_self
  · rcases List.mem_cons.mp later with rfl | later
    · exact List.mem_cons_of_mem _ List.mem_cons_self
    · exact List.mem_cons_of_mem _ (List.mem_cons_of_mem _ (exceeded_ofTable _ r later))

theorem appIds_appIdStreamGate :
    ((apps.flatMap gateRequests ++ batches.flatMap portRequests).filter fun r =>
      r.table = .appIdStreamGate) = apps.map appIdStreamGateRequest := by
  rw [List.filter_append, filter_ofOther (portRequests_ofTables batches) (by decide),
    List.append_nil]
  exact filter_flatMap_cons appIdStreamGateRequest _ (fun _ => rfl)
    (fun m => exceeded_ofTable m.hyperperiodDuration) (by decide) apps

/-- The requests of a port but the first. -/
def laterRequests (b : BatchIDMapping) : List Request :=
  batchIdToPortRequest b ::
    Controller.DeltaAdjustment.initHyperperiodExceededDetectionTable b.hyperperiodDuration

theorem laterRequests_ofTables (b : BatchIDMapping) :
    Request.OfTables [.batchIdToPort, .hyperperiodExceededDetection] (laterRequests b) := by
  intro r member
  rcases List.mem_cons.mp member with rfl | later
  · exact List.mem_cons_self
  · exact List.mem_cons_of_mem _ (exceeded_ofTable _ r later)

theorem appIds_appIdTas :
    ((apps.flatMap gateRequests ++ batches.flatMap portRequests).filter fun r =>
      r.table = .appIdTas) = batches.map appIdTasRequest := by
  rw [List.filter_append, filter_ofOther (gateRequests_ofTables apps) (by decide),
    List.nil_append]
  exact filter_flatMap_cons appIdTasRequest laterRequests (fun _ => rfl) laterRequests_ofTables
    (by decide) batches

theorem appIds_batchIdToPort :
    ((apps.flatMap gateRequests ++ batches.flatMap portRequests).filter fun r =>
      r.table = .batchIdToPort) = batches.map batchIdToPortRequest := by
  rw [List.filter_append, filter_ofOther (gateRequests_ofTables apps) (by decide),
    List.nil_append]
  refine (filter_flatMap_rest .batchIdToPort appIdTasRequest laterRequests (fun _ => nofun)
    batches).trans ?_
  exact filter_flatMap_cons batchIdToPortRequest _ (fun _ => rfl)
    (fun b => exceeded_ofTable b.hyperperiodDuration) (by decide) batches

theorem exceeded_flatMap {α : Type} (duration : α → U64) (as : List α) :
    ((as.flatMap fun a => Controller.DeltaAdjustment.initHyperperiodExceededDetectionTable
        (duration a)).filter fun r => r.table = .hyperperiodExceededDetection) =
      (as.map duration).flatMap
        Controller.DeltaAdjustment.initHyperperiodExceededDetectionTable := by
  rw [List.filter_flatMap, List.flatMap_map]
  exact List.flatMap_congr fun a _ => filter_ofTable (exceeded_ofTable (duration a))

theorem appIds_exceeded :
    ((apps.flatMap gateRequests ++ batches.flatMap portRequests).filter fun r =>
      r.table = .hyperperiodExceededDetection) =
      (apps.map (·.hyperperiodDuration) ++ batches.map (·.hyperperiodDuration)).flatMap
        Controller.DeltaAdjustment.initHyperperiodExceededDetectionTable := by
  rw [List.filter_append, List.flatMap_append]
  refine congrArg₂ (· ++ ·) ?_ ?_
  · refine (filter_flatMap_rest .hyperperiodExceededDetection appIdStreamGateRequest _
      (fun _ => nofun) apps).trans ?_
    exact exceeded_flatMap (·.hyperperiodDuration) apps
  · refine (filter_flatMap_rest .hyperperiodExceededDetection appIdTasRequest laterRequests
      (fun _ => nofun) batches).trans ?_
    refine (filter_flatMap_rest .hyperperiodExceededDetection batchIdToPortRequest _
      (fun _ => nofun) batches).trans ?_
    exact exceeded_flatMap (·.hyperperiodDuration) batches

end

theorem configureTasQueueId_ofTable {switch : Switch} {out : Configuration}
    {gcls : List Request} (run : TAS.configureTasQueueId switch out = .ok gcls) :
    Request.OfTables [.gateControlList] gcls := by
  intro r member
  obtain ⟨mapping, _, es, mappingRun, member⟩ := (Fallible.mem_concatMap run).mp member
  obtain ⟨gcl, batchId, _, _, gclRun⟩ := TAS.mappingEntries_eq_ok mappingRun
  obtain ⟨_, _, _, _, rfl⟩ := TAS.gclEntries_mem gclRun member
  exact List.mem_cons_self

theorem configureStreamIdentification_ofTable {macFromStr : String → Option (List U8)}
    {out : Configuration} {streams : List Request}
    (run : out.configureStreamIdentification macFromStr = .ok streams) :
    Request.OfTables [.streamId] streams := by
  intro r member
  obtain ⟨_, _, entry⟩ := configureStreamIdentification_mem run member
  exact List.mem_singleton.mpr entry.table_eq

variable {macFromStr : String → Option (List U8)} {switch : Switch} {cfg out : Configuration}
  {apps : List AppIDMapping} {batches : List BatchIDMapping} {app : AppState}
  {requests : List Request}

/-- The parts of the batch, by their tables. -/
structure Parts (macFromStr : String → Option (List U8)) (switch : Switch) (out : Configuration)
    (apps : List AppIDMapping) (batches : List BatchIDMapping) (app app' : AppState)
    (schedules gcls streams requests : List Request) : Prop where
  schedulesRun : StreamGateControlList.writeAllSchedules out app = .ok (schedules, app')
  gclsRun : TAS.configureTasQueueId switch out = .ok gcls
  streamsRun : out.configureStreamIdentification macFromStr = .ok streams
  requests_eq : requests = schedules ++ (gcls ++ (TAS.configureTasControlRecirculation ++
    ((apps.flatMap PacketGenerator.gateRequests ++ batches.flatMap PacketGenerator.portRequests) ++
      (streams ++ (out.configureFlowMeter ++
        Controller.DeltaAdjustment.initUnderflowDetectionTable)))))
  schedules_of : Request.OfTables [.streamGateInstance] schedules

theorem batchParts (prepared : Prepared cfg out apps batches)
    (run : tableRequests macFromStr switch out app = .ok requests) :
    ∃ app' schedules gcls streams,
      Parts macFromStr switch out apps batches app app' schedules gcls streams requests := by
  rcases Fallible.bind_eq_ok.mp run with ⟨⟨schedules, app'⟩, schedulesRun, run⟩
  rcases Fallible.bind_eq_ok.mp run with ⟨gcls, gclsRun, run⟩
  rcases Fallible.bind_eq_ok.mp run with ⟨appIds, appIdsRun, run⟩
  rcases Fallible.bind_eq_ok.mp run with ⟨streams, streamsRun, run⟩
  cases run
  cases prepared.configureAppIds_eq.symm.trans appIdsRun
  obtain ⟨_, identifiers, numbered⟩ :=
    StreamGateControlList.writeAllSchedules_eq_ok prepared.appIdMappings_eq schedulesRun
  exact ⟨app', schedules, gcls, streams, schedulesRun, gclsRun, streamsRun, rfl, numbered.table⟩

theorem flowMeters_ofTable (out : Configuration) :
    Request.OfTables [.flowMeterInstance] out.configureFlowMeter :=
  Request.OfTables.map flowMeterRequest (fun _ => rfl) _

/-- The batch is for the tables it writes. -/
theorem tableRequests_ofTables (prepared : Prepared cfg out apps batches)
    (run : tableRequests macFromStr switch out app = .ok requests) :
    Request.OfTables batchTables requests := by
  obtain ⟨app', schedules, gcls, streams, parts⟩ := batchParts prepared run
  have of := parts.schedules_of.append ((configureTasQueueId_ofTable parts.gclsRun).append
    (TAS.configureTasControlRecirculation_noDuplicates.1.append
      (((gateRequests_ofTables apps).append (portRequests_ofTables batches)).append
        ((configureStreamIdentification_ofTable parts.streamsRun).append
          ((flowMeters_ofTable out).append
            Controller.DeltaAdjustment.initUnderflowDetectionTable_noDuplicates.1)))))
  rw [parts.requests_eq]
  intro r member
  have listed := of r member
  generalize r.table = table at listed ⊢
  revert listed
  revert table
  decide

/-- The runs that make up the batch, and the entries in all tables it is installed in. -/
theorem batchEntries (prepared : Prepared cfg out apps batches)
    (run : tableRequests macFromStr switch out app = .ok requests) :
    ∃ app' schedules gcls streams, ∀ tables, Installed requests tables →
      Batch macFromStr switch out apps batches app app' schedules gcls streams tables := by
  obtain ⟨app', schedules, gcls, streams, schedulesRun, gclsRun, streamsRun, rfl, ofSchedules⟩ :=
    batchParts prepared run
  have ofGcls := configureTasQueueId_ofTable gclsRun
  have ofStreams := configureStreamIdentification_ofTable streamsRun
  have ofRecirculation := TAS.configureTasControlRecirculation_noDuplicates.1
  have ofMeters := flowMeters_ofTable out
  have ofUnderflow := Controller.DeltaAdjustment.initUnderflowDetectionTable_noDuplicates.1
  have ofAppIds := (gateRequests_ofTables apps).append (portRequests_ofTables batches)
  have rest₁ := ofMeters.append ofUnderflow
  have rest₂ := ofStreams.append rest₁
  have rest₃ := ofAppIds.append rest₂
  have rest₄ := ofRecirculation.append rest₃
  have rest₅ := ofGcls.append rest₄
  refine ⟨app', schedules, gcls, streams, fun tables installed => ?_⟩
  -- the parts are cut off from the left
  have fromAppIds (table : Table) (member : table ∈ batchTables)
      (other : table ∉ [Table.streamGateInstance, .gateControlList,
        .mappingTasControlRecirculationPort]) : tables.entries table =
      (apps.flatMap PacketGenerator.gateRequests ++ batches.flatMap PacketGenerator.portRequests ++
        (streams ++ (out.configureFlowMeter ++
          Controller.DeltaAdjustment.initUnderflowDetectionTable))).filter
            fun r => r.table = table := by
    simp only [List.mem_cons, List.not_mem_nil, or_false, not_or] at other
    obtain ⟨other₁, other₂, other₃⟩ := other
    rw [installed table member, filter_append_right ofSchedules (by simpa using other₁),
      filter_append_right ofGcls (by simpa using other₂),
      filter_append_right ofRecirculation (by simpa using other₃)]
  have fromStreams (table : Table) (member : table ∈ batchTables)
      (other : table ∉ [Table.streamGateInstance, .gateControlList,
        .mappingTasControlRecirculationPort])
      (other' : table ∉ [Table.appIdStreamGate, .hyperperiodExceededDetection] ++
        [Table.appIdTas, .batchIdToPort, .hyperperiodExceededDetection]) :
      tables.entries table = (streams ++ (out.configureFlowMeter ++
        Controller.DeltaAdjustment.initUnderflowDetectionTable)).filter
          fun r => r.table = table := by
    rw [fromAppIds table member other, filter_append_right ofAppIds other']
  refine ⟨schedulesRun, gclsRun, streamsRun, ?_, ?_, ?_, ?_, ?_, ?_, ?_, ?_, ?_, ?_⟩
  · rw [installed _ (by decide), filter_append_left rest₅ (by decide), filter_ofTable ofSchedules]
  · rw [installed _ (by decide), filter_append_right ofSchedules (by decide),
      filter_append_left rest₄ (by decide), filter_ofTable ofGcls]
  · rw [installed _ (by decide), filter_append_right ofSchedules (by decide),
      filter_append_right ofGcls (by decide), filter_append_left rest₃ (by decide),
      filter_ofTable ofRecirculation]
  · rw [fromAppIds _ (by decide) (by decide), filter_append_left rest₂ (by decide),
      appIds_appIdStreamGate]
  · rw [fromAppIds _ (by decide) (by decide), filter_append_left rest₂ (by decide),
      appIds_appIdTas]
  · rw [fromAppIds _ (by decide) (by decide), filter_append_left rest₂ (by decide),
      appIds_batchIdToPort]
  · rw [fromAppIds _ (by decide) (by decide), filter_append_left rest₂ (by decide),
      appIds_exceeded]
  · rw [fromStreams _ (by decide) (by decide) (by decide), filter_append_left rest₁ (by decide),
      filter_ofTable ofStreams]
  · rw [fromStreams _ (by decide) (by decide) (by decide),
      filter_append_right ofStreams (by decide), filter_append_left ofUnderflow (by decide),
      filter_ofTable ofMeters]
  · rw [fromStreams _ (by decide) (by decide) (by decide),
      filter_append_right ofStreams (by decide), filter_append_right ofMeters (by decide),
      filter_ofTable ofUnderflow]

/-! ## Generated packets -/

namespace Batch

open Tsn

variable {app' : AppState} {schedules gcls streams : List Request} {tables : Tables}
  {frame : Tsn.Frame}

theorem appIds_apart (prepared : Prepared cfg out apps batches) {m : AppIDMapping}
    {b : BatchIDMapping} (left : m ∈ apps) (right : b ∈ batches) :
    m.appId.toNat ≠ b.appId.toNat := by
  have all : (apps.map (fun m => m.appId.toNat) ++ batches.map fun b => b.appId.toNat).Nodup := by
    rw [prepared.app_ids]
    exact List.nodup_range'
  exact (List.nodup_append.mp all).2.2 _ (List.mem_map_of_mem left) _ (List.mem_map_of_mem right)

theorem appId_ne_zero (prepared : Prepared cfg out apps batches) {n : Nat}
    (used : n ∈ apps.map (fun m => m.appId.toNat) ++ batches.map fun b => b.appId.toNat) :
    n ≠ 0 := by
  rw [prepared.app_ids] at used
  have positive := (List.mem_range'_1.mp used).1
  omega

theorem lookup_appIdStreamGate (prepared : Prepared cfg out apps batches)
    (batch : Batch macFromStr switch out apps batches app app' schedules gcls streams tables)
    (fields : Request.Fields) :
    tables.lookup .appIdStreamGate fields =
      (apps.find? fun m => m.appId.toNat == fields .timerAppId).map
        PacketGenerator.appIdStreamGateRequest :=
  Tables.lookup_map (fun m : AppIDMapping => m.appId.toNat) batch.appIdStreamGate (fun _ => rfl)
    nofun prepared.appIds_distinct.1

theorem lookup_appIdTas (prepared : Prepared cfg out apps batches)
    (batch : Batch macFromStr switch out apps batches app app' schedules gcls streams tables)
    (fields : Request.Fields) :
    tables.lookup .appIdTas fields =
      (batches.find? fun b => b.appId.toNat == fields .timerAppId).map
        PacketGenerator.appIdTasRequest :=
  Tables.lookup_map (fun b : BatchIDMapping => b.appId.toNat) batch.appIdTas (fun _ => rfl)
    nofun prepared.appIds_distinct.2

theorem lookup_batchIdToPort (prepared : Prepared cfg out apps batches)
    (batch : Batch macFromStr switch out apps batches app app' schedules gcls streams tables)
    (fields : Request.Fields) :
    tables.lookup .batchIdToPort fields =
      (batches.find? fun b => b.batchId.toNat == fields .timerBatchId).map
        PacketGenerator.batchIdToPortRequest :=
  Tables.lookup_map (fun b : BatchIDMapping => b.batchId.toNat) batch.batchIdToPort
    (fun _ => rfl) nofun (prepared.batch_ids ▸ List.nodup_range)

theorem find?_batch (prepared : Prepared cfg out apps batches) {b : BatchIDMapping}
    (member : b ∈ batches) {n : Nat} (same : b.appId.toNat = n) :
    batches.find? (fun b => b.appId.toNat == n) = some b :=
  (KeyedList.find?_eq_some_iff prepared.appIds_distinct.2).mpr ⟨member, same⟩

/-- The hyperperiod packets of a gate are those of its application. -/
theorem role_endsGate_iff (prepared : Prepared cfg out apps batches)
    (batch : Batch macFromStr switch out apps batches app app' schedules gcls streams
      frame.tables) {gate : BitVec 16} :
    frame.role = .endsGate gate ↔ ∃ timer m, frame.pkt.hdr.timer = some timer ∧ m ∈ apps ∧
      m.appId.toNat = timer.appId.toNat ∧ gate = m.streamGateId.setWidth 16 := by
  have key {timer : Timer} (generated : frame.pkt.hdr.timer = some timer) :
      frame.pkt.fields .timerAppId = timer.appId.toNat := by
    unfold Packet.fields
    rw [generated]
    rfl
  refine ⟨fun role => ?_, fun h => ?_⟩
  · obtain ⟨timer, r, generated, _, found, rfl⟩ := role_endsGate role
    rw [batch.lookup_appIdStreamGate prepared] at found
    obtain ⟨m, foundM, rfl⟩ := Option.map_eq_some_iff.mp found
    obtain ⟨member, same⟩ := KeyedList.mem_of_find? foundM
    exact ⟨timer, m, generated, member, same.trans (key generated), rfl⟩
  · obtain ⟨timer, m, generated, member, same, rfl⟩ := h
    have nonzero : timer.appId ≠ 0 := by
      intro zero
      refine appId_ne_zero prepared (List.mem_append_left _ (List.mem_map_of_mem member)) ?_
      rw [same, zero]
      rfl
    have first : apps.find? (fun m => m.appId.toNat == timer.appId.toNat) = some m :=
      (KeyedList.find?_eq_some_iff prepared.appIds_distinct.1).mpr ⟨member, same⟩
    have found : frame.tables.lookup .appIdStreamGate frame.pkt.fields =
        some (PacketGenerator.appIdStreamGateRequest m) := by
      rw [batch.lookup_appIdStreamGate prepared, key generated, first]
      rfl
    unfold Frame.role
    rw [generated]
    dsimp only
    rw [if_pos nonzero, found]
    rfl

/-- The hyperperiod packets of a port are those of its application. -/
theorem role_endsPort_iff (prepared : Prepared cfg out apps batches)
    (batch : Batch macFromStr switch out apps batches app app' schedules gcls streams
      frame.tables) {port : BitVec 9} :
    frame.role = .endsPort port ↔ ∃ timer b, frame.pkt.hdr.timer = some timer ∧ b ∈ batches ∧
      b.appId.toNat = timer.appId.toNat ∧ port = b.egressDevPort.setWidth 9 := by
  have key {timer : Timer} (generated : frame.pkt.hdr.timer = some timer) :
      frame.pkt.fields .timerAppId = timer.appId.toNat := by
    unfold Packet.fields
    rw [generated]
    rfl
  refine ⟨fun role => ?_, fun h => ?_⟩
  · obtain ⟨timer, r, generated, _, _, found, rfl⟩ := role_endsPort role
    rw [batch.lookup_appIdTas prepared] at found
    obtain ⟨b, foundB, rfl⟩ := Option.map_eq_some_iff.mp found
    obtain ⟨member, same⟩ := KeyedList.mem_of_find? foundB
    exact ⟨timer, b, generated, member, same.trans (key generated), BitVec.ofNat_toNat _ _⟩
  · obtain ⟨timer, b, generated, member, same, rfl⟩ := h
    have nonzero : timer.appId ≠ 0 := by
      intro zero
      refine appId_ne_zero prepared (List.mem_append_right _ (List.mem_map_of_mem member)) ?_
      rw [same, zero]
      rfl
    have missed : frame.tables.lookup .appIdStreamGate frame.pkt.fields = none := by
      rw [batch.lookup_appIdStreamGate prepared, Option.map_eq_none_iff, List.find?_eq_none]
      intro m memberM equal
      refine appIds_apart prepared memberM member ?_
      rw [eq_of_beq equal, key generated, same]
    have found : frame.tables.lookup .appIdTas frame.pkt.fields =
        some (PacketGenerator.appIdTasRequest b) := by
      rw [batch.lookup_appIdTas prepared,
        find?_batch prepared member (same.trans (key generated).symm)]
      rfl
    unfold Frame.role
    rw [generated]
    dsimp only
    rw [if_pos nonzero, missed, found]
    exact congrArg Role.endsPort (BitVec.ofNat_toNat _ _)

theorem portInRange (prepared : Prepared cfg out apps batches)
    (batch : Batch macFromStr switch out apps batches app app' schedules gcls streams
      frame.tables) : frame.PortInRange := by
  intro port role
  obtain ⟨_, b, _, _, _, rfl⟩ := (batch.role_endsPort_iff prepared).mp role
  rw [BitVec.toNat_setWidth_of_le (by decide)]
  exact b.egressDevPort.isLt

end Batch

end P4Tas.DataPlane
