import P4Tas.Controller.SwitchState
import P4Tas.DataPlane.ScheduledQueues
import P4Tas.DataPlane.ScheduledStreams

/-!
# Starting the controller again

What startup makes of a switch that was used before, whatever its state.

* `broughtUp_batch`, `broughtUp_registers`, `broughtUp_apps`: its tables, its registers and its
  packet generator;
* `restart_establishes`: the state that the runs of the pipeline are started from;
* `afc_covers`: the queues that are commanded are under flow control;
* `blocked_across_restarts`: what startup does not clear.
-/

namespace P4Tas.DataPlane

open Controller Controller.Configuration

variable {macFromStr : String → Option (List U8)} {switch : Switch} {cfg out : Configuration}
  {app : AppState} {devPort : U32 → U32 → Option U32} {driver : Driver} {s s' : SwitchState}
  {forwarding generators batch : List Request} {afc : List Update}

/-! ## Tables -/

theorem forwarding_ofTable (run : forwardingRequests devPort = .ok forwarding) :
    Request.OfTables [.layer2Forwarding] forwarding := by
  obtain ⟨forwards, forwardsRun, same⟩ := Fallible.bind_eq_ok.mp run
  cases same
  intro r member
  rcases List.mem_append.mp member with old | new
  · obtain ⟨entry, _, requested⟩ :=
      KeyedList.exists_related (Fallible.mapM_eq_ok.mp forwardsRun).flip old
    obtain ⟨port, _, same⟩ := Fallible.bind_eq_ok.mp requested
    cases same
    exact List.mem_cons_self
  · rw [List.mem_singleton.mp new]
    exact List.mem_cons_self

theorem populatePtpTable_ofTables :
    Request.OfTables [.ingressPtp, .egressPtp] Ptp.populatePtpTable := by
  unfold Request.OfTables Ptp.populatePtpTable
  decide

theorem broughtUp_installed (forwarding generators batch : List Request) (afc : List Update)
    (s : SwitchState) : (broughtUp forwarding generators batch afc s).installed =
      s.installed.filter (fun r => Clearable.table r.table ∉ startupTables ++
        PacketGenerator.hyperperiodRegisters) ++
        (forwarding ++ (batch ++ Ptp.populatePtpTable)) := by
  unfold broughtUp SwitchState.write
  dsimp only
  rw [(SwitchState.foldl_update_kept _ _).1, (SwitchState.foldl_update_kept _ _).1,
    (SwitchState.foldl_update_kept _ _).1, SwitchState.foldl_clear_installed,
    (SwitchState.foldl_update_kept _ _).1, SwitchState.foldl_clear_installed, List.filter_filter]
  congr 1
  refine List.filter_congr fun r _ => ?_
  simp [List.mem_append, Bool.and_comm]

/-- A table that is cleared has the entries that are written then, and no others. -/
theorem broughtUp_entries (forwarding generators batch : List Request) (afc : List Update)
    (s : SwitchState) (precedence : Precedence) {table : Table}
    (cleared : Clearable.table table ∈ startupTables) :
    Tables.entries ⟨(broughtUp forwarding generators batch afc s).installed, precedence⟩ table =
      (forwarding ++ (batch ++ Ptp.populatePtpTable)).filter fun r => r.table = table := by
  have none : (s.installed.filter fun r => Clearable.table r.table ∉ startupTables ++
      PacketGenerator.hyperperiodRegisters).filter (fun r => r.table = table) = [] := by
    refine List.filter_eq_nil_iff.mpr fun r kept same => ?_
    have left := of_decide_eq_true (List.mem_filter.mp kept).2
    rw [of_decide_eq_true same] at left
    exact left (List.mem_append_left _ cleared)
  unfold Tables.entries
  dsimp only
  rw [broughtUp_installed, List.filter_append, none, List.nil_append]

/-- The batch is installed, and nothing is left of an earlier one. -/
theorem broughtUp_batch (run : forwardingRequests devPort = .ok forwarding)
    (generators : List Request) (afc : List Update) (s : SwitchState) (precedence : Precedence) :
    Installed batch ⟨(broughtUp forwarding generators batch afc s).installed, precedence⟩ := by
  intro table member
  have cleared : Clearable.table table ∈ startupTables := by
    revert table
    decide
  have others : table ∉ [Table.layer2Forwarding] ∧ table ∉ [Table.ingressPtp, .egressPtp] := by
    revert table
    decide
  rw [broughtUp_entries _ _ _ _ _ _ cleared,
    filter_append_right (forwarding_ofTable run) others.1,
    filter_append_left populatePtpTable_ofTables others.2]

theorem broughtUp_forwarding (run : forwardingRequests devPort = .ok forwarding)
    (ofBatch : Request.OfTables batchTables batch) (generators : List Request)
    (afc : List Update) (s : SwitchState) (precedence : Precedence) :
    Tables.entries ⟨(broughtUp forwarding generators batch afc s).installed, precedence⟩
      .layer2Forwarding = forwarding := by
  rw [broughtUp_entries _ _ _ _ _ _ (by decide),
    filter_append_left (ofBatch.append populatePtpTable_ofTables) (by decide),
    filter_ofTable (forwarding_ofTable run)]

theorem broughtUp_populated (run : forwardingRequests devPort = .ok forwarding)
    (ofBatch : Request.OfTables batchTables batch) (generators : List Request)
    (afc : List Update) (s : SwitchState) (precedence : Precedence) :
    Ptp.Populated ⟨(broughtUp forwarding generators batch afc s).installed, precedence⟩ := by
  intro r ptp
  have here : r.table ∈ [Table.ingressPtp, .egressPtp] := by simpa using ptp
  have cleared : Clearable.table r.table ∈ startupTables := by
    generalize r.table = table at here ⊢
    revert table
    decide
  have others : r.table ∉ [Table.layer2Forwarding] ∧ r.table ∉ batchTables := by
    generalize r.table = table at here ⊢
    revert table
    decide
  have entries := broughtUp_entries forwarding generators batch afc s precedence cleared
  rw [filter_append_right (forwarding_ofTable run) others.1,
    filter_append_right ofBatch others.2] at entries
  have member : r ∈ (broughtUp forwarding generators batch afc s).installed ↔
      r ∈ Tables.entries ⟨(broughtUp forwarding generators batch afc s).installed, precedence⟩
        r.table := by
    unfold Tables.entries
    simp
  rw [member, entries]
  simp

/-! ## Registers -/

/-- The registers that are not blocking bits or octet counters are cleared, and those are kept. -/
theorem broughtUp_registers (forwarding generators batch : List Request) (afc : List Update)
    (s : SwitchState) :
    (broughtUp forwarding generators batch afc s).ingress =
        { lowerLastTs := fun _ => 0
          higherLastTs := fun _ => 0
          hyperperiodDone := fun _ => 0
          periodCount := fun _ => 0
          tasLowerLastTs := fun _ => 0
          tasHigherLastTs := fun _ => 0
          nextTimeSeriesIndexTasDiff := fun _ => 0
          tasHyperperiodDiff := fun _ => 0
          streamGate := s.ingress.streamGate
          regMeterBlocked := s.ingress.regMeterBlocked } ∧
      (broughtUp forwarding generators batch afc s).egress = .initial := by
  unfold broughtUp SwitchState.write
  dsimp only
  refine ⟨?_, ?_⟩
  · rw [(SwitchState.foldl_update_kept _ _).2.1, (SwitchState.foldl_update_kept _ _).2.1,
      (SwitchState.foldl_update_kept _ _).2.1]
    unfold PacketGenerator.hyperperiodRegisters
    simp only [List.foldl_cons, List.foldl_nil, SwitchState.clear]
    rw [(SwitchState.foldl_update_kept _ _).2.1]
    rfl
  · rw [(SwitchState.foldl_update_kept _ _).2.2, (SwitchState.foldl_update_kept _ _).2.2,
      (SwitchState.foldl_update_kept _ _).2.2]
    unfold PacketGenerator.hyperperiodRegisters
    simp only [List.foldl_cons, List.foldl_nil, SwitchState.clear]
    rw [(SwitchState.foldl_update_kept _ _).2.2]
    rfl

theorem broughtUp_cleared (forwarding generators batch : List Request) (afc : List Update)
    (s : SwitchState) : Tsn.Cleared (broughtUp forwarding generators batch afc s).ingress := by
  rw [(broughtUp_registers forwarding generators batch afc s).1]
  exact ⟨fun _ => rfl, fun _ => rfl, fun _ => rfl, fun _ => rfl, fun _ => rfl, fun _ => rfl⟩

theorem broughtUp_recorded (forwarding generators batch : List Request) (afc : List Update)
    (s : SwitchState) : Tsn.Recorded [] (broughtUp forwarding generators batch afc s).ingress := by
  rw [(broughtUp_registers forwarding generators batch afc s).1]
  refine ⟨rfl, fun _ before frame after port split => ?_, fun _ _ _ => rfl⟩
  exact absurd split.symm (by simp)

/-! ## The packet generator -/

/-- The flow control updates are of queues only. -/
theorem configureAfcPorts_xoff (run : Controller.TAS.configureAfcPorts switch out = .ok afc)
    {u : Update} (member : u ∈ afc) : ∃ pipe pgId pgQueue, u = .xoff pipe pgId pgQueue := by
  obtain ⟨mapping, _, us, portRun, member⟩ := (Fallible.mem_concatMap run).mp member
  obtain ⟨portCfg, _, portRun⟩ := Fallible.bind_eq_ok.mp portRun
  obtain ⟨qid, _, queueRun⟩ :=
    KeyedList.exists_related (Fallible.mapM_eq_ok.mp portRun).flip member
  obtain ⟨egressQid, _, queueRun⟩ := Fallible.bind_eq_ok.mp queueRun
  obtain ⟨pgQueue, _, same⟩ := Fallible.bind_eq_ok.mp queueRun
  cases same
  exact ⟨_, _, _, rfl⟩

theorem configureAfcPipes_enable {u : Update} (member : u ∈ Controller.TAS.configureAfcPipes) :
    ∃ pipe, u = .advancedFlowControlEnable pipe := by
  obtain ⟨pipe, _, rfl⟩ := List.mem_map.mp member
  exact ⟨pipe, rfl⟩

/-- Every application is disabled by the reset. -/
theorem reset_apps {id : Nat} (inRange : id < 16) (s : SwitchState) :
    ((PacketGenerator.resetUpdates.foldl SwitchState.update s).apps id).appEnable = false := by
  have updates {u : Update} (member : u ∈ PacketGenerator.resetUpdates) :
      (∃ x, u = .appCfg (PacketGenerator.disableRequest x)) ∨
        ∃ devPort, u = .pktgenEnable devPort false := by
    rcases List.mem_append.mp member with disables | off
    · obtain ⟨x, _, rfl⟩ := List.mem_map.mp disables
      exact .inl ⟨x, rfl⟩
    · obtain ⟨devPort, _, rfl⟩ := List.mem_map.mp off
      exact .inr ⟨devPort, rfl⟩
  refine SwitchState.foldl_update_apps (P := fun a => a.appEnable = false)
    (fun r member _ a => ?_) (.inr ⟨.appCfg (PacketGenerator.disableRequest id), ?_, _, rfl, rfl⟩)
  · rcases updates member with ⟨x, same⟩ | ⟨devPort, same⟩
    · cases same
      rfl
    · cases same
  · exact List.mem_append_left _ (List.mem_map_of_mem (List.mem_range.mpr inRange))

/-- What holds of an application after the applications are reset and activated. -/
theorem broughtUp_apps {P : App → Prop} {id : Nat} (forwarding batch : List Request)
    (afcRun : Controller.TAS.configureAfcPorts switch out = .ok afc) (s : SwitchState)
    (gives : ∀ r ∈ generators, SwitchState.appIdOf r = id → ∀ a, P (SwitchState.configure r a))
    (start : (id < 16 ∧ ∀ a : App, a.appEnable = false → P a) ∨
      ∃ r ∈ generators, SwitchState.appIdOf r = id) :
    P ((broughtUp forwarding generators batch afc s).apps id) := by
  unfold broughtUp SwitchState.write
  dsimp only
  -- the calls for the flow control come last
  refine SwitchState.foldl_update_apps (fun r member => ?_) (.inl ?_)
  · obtain ⟨_, _, _, other⟩ := configureAfcPorts_xoff afcRun member
    cases other
  refine SwitchState.foldl_update_apps (fun r member => ?_) (.inl ?_)
  · obtain ⟨_, other⟩ := configureAfcPipes_enable member
    cases other
  have here (r : Request) (member : Update.appCfg r ∈ generators.map Update.appCfg) :
      r ∈ generators := by
    obtain ⟨r', member', same⟩ := List.mem_map.mp member
    cases same
    exact member'
  refine SwitchState.foldl_update_apps (fun r member => gives r (here r member)) ?_
  rcases start with ⟨inRange, disabled⟩ | ⟨r, member, same⟩
  · refine .inl (disabled _ ?_)
    rw [(SwitchState.foldl_clear_kept _ _).1]
    exact reset_apps inRange _
  · exact .inr ⟨.appCfg r, List.mem_map_of_mem member, r, rfl, same⟩

/-- The ids of the applications for hyperperiod packets, with the periods. -/
def applications (apps : List AppIDMapping) (batches : List BatchIDMapping) : List (U8 × U64) :=
  apps.map (fun m => (m.appId, m.hyperperiodDuration)) ++
    batches.map fun b => (b.appId, b.hyperperiodDuration)

variable {apps : List AppIDMapping} {batches : List BatchIDMapping}

theorem applications_ids (prepared : Prepared cfg out apps batches) :
    (applications apps batches).map (fun a => a.1.toNat) =
      List.range' 1 (apps.length + batches.length) := by
  rw [← prepared.app_ids]
  simp [applications, Function.comp_def]

theorem generators_eq (prepared : Prepared cfg out apps batches)
    (run : PacketGenerator.activateTrafficGenApplications out = .ok generators) :
    ∃ batchCountCfg, generators = PacketGenerator.tasControlRequest batchCountCfg ::
      (applications apps batches).map fun a => PacketGenerator.hyperperiodRequest a.1 a.2 := by
  obtain ⟨batches', batchesRun, run⟩ := Fallible.bind_eq_ok.mp run
  obtain ⟨batchCountCfg, _, run⟩ := Fallible.bind_eq_ok.mp run
  obtain ⟨apps', appsRun, run⟩ := Fallible.bind_eq_ok.mp run
  cases prepared.batchMappings_eq.symm.trans (unwrap_eq_ok.mp batchesRun)
  cases prepared.appIdMappings_eq.symm.trans (unwrap_eq_ok.mp appsRun)
  cases run
  exact ⟨batchCountCfg, by simp [applications, Function.comp_def]⟩

/-- The applications after startup: the control traffic is generated all the time, the hyperperiod
packets of a gate or a port once in its period, and nothing else. -/
structure Generates (apps : List AppIDMapping) (batches : List BatchIDMapping)
    (s : SwitchState) : Prop where
  control : s.apps 0 = ⟨true, 1⟩
  hyperperiods : ∀ a ∈ applications apps batches, s.apps a.1.toNat = ⟨true, a.2.toNat⟩
  others : ∀ id < 16, apps.length + batches.length < id → (s.apps id).appEnable = false

theorem broughtUp_generates (prepared : Prepared cfg out apps batches)
    (forwarding batch : List Request)
    (run : PacketGenerator.activateTrafficGenApplications out = .ok generators)
    (afcRun : Controller.TAS.configureAfcPorts switch out = .ok afc) (s : SwitchState) :
    Generates apps batches (broughtUp forwarding generators batch afc s) := by
  obtain ⟨batchCountCfg, generators_eq⟩ := generators_eq prepared run
  have ids := applications_ids prepared
  have distinct : ((applications apps batches).map fun a => a.1.toNat).Nodup := by
    rw [ids]
    exact List.nodup_range'
  have bounds {a : U8 × U64} (member : a ∈ applications apps batches) :
      1 ≤ a.1.toNat ∧ a.1.toNat ≤ apps.length + batches.length := by
    have inRange := List.mem_map_of_mem (f := fun a : U8 × U64 => a.1.toNat) member
    rw [ids] at inRange
    have bounds := List.mem_range'_1.mp inRange
    omega
  -- the requests for one id
  have only {r : Request} (member : r ∈ generators) :
      (SwitchState.appIdOf r = 0 ∧ r = PacketGenerator.tasControlRequest batchCountCfg) ∨
        ∃ a ∈ applications apps batches, SwitchState.appIdOf r = a.1.toNat ∧
          r = PacketGenerator.hyperperiodRequest a.1 a.2 := by
    rw [generators_eq] at member
    rcases List.mem_cons.mp member with rfl | later
    · exact .inl ⟨rfl, rfl⟩
    · obtain ⟨a, mapped, rfl⟩ := List.mem_map.mp later
      exact .inr ⟨a, mapped, rfl, rfl⟩
  refine ⟨?_, fun a mapped => ?_, fun id inRange above => ?_⟩
  · refine broughtUp_apps (P := fun app => app = ⟨true, 1⟩) forwarding batch afcRun s
      (fun r member zero app => ?_)
      (.inr ⟨PacketGenerator.tasControlRequest batchCountCfg, ?_, rfl⟩)
    · rcases only member with ⟨_, rfl⟩ | ⟨a, mapped, same, _⟩
      · rfl
      · have inRange := bounds mapped
        omega
    · rw [generators_eq]
      exact List.mem_cons_self
  · refine broughtUp_apps (P := fun app => app = ⟨true, a.2.toNat⟩) forwarding batch afcRun s
      (fun r member own app => ?_)
      (.inr ⟨PacketGenerator.hyperperiodRequest a.1 a.2, ?_, rfl⟩)
    · rcases only member with ⟨zero, _⟩ | ⟨a', mapped', same, rfl⟩
      · have inRange := bounds mapped
        omega
      · rw [List.inj_on_of_nodup_map distinct mapped' mapped (same.symm.trans own)]
        rfl
    · rw [generators_eq]
      exact List.mem_cons_of_mem _ (List.mem_map_of_mem mapped)
  · refine broughtUp_apps (P := fun app => app.appEnable = false) forwarding batch afcRun s
      (fun r member own app => ?_) (.inl ⟨inRange, fun app disabled => disabled⟩)
    rcases only member with ⟨zero, _⟩ | ⟨a, mapped, same, _⟩
    · omega
    · have inRange := bounds mapped
      omega

/-- No pipe generates before `enable_pkt_gen`. -/
theorem broughtUp_pktgenEnable {devPort : U16} (forwarding generators batch : List Request)
    (afcRun : Controller.TAS.configureAfcPorts switch out = .ok afc) (s : SwitchState)
    (ofPipe : devPort ∈ TG_PIPE_PORTS_TF2) :
    (broughtUp forwarding generators batch afc s).pktgenEnable devPort = false := by
  unfold broughtUp SwitchState.write
  dsimp only
  refine SwitchState.foldl_update_pktgenEnable (fun member => ?_) (.inl ?_)
  · obtain ⟨_, _, _, other⟩ := configureAfcPorts_xoff afcRun member
    cases other
  refine SwitchState.foldl_update_pktgenEnable (fun member => ?_) (.inl ?_)
  · obtain ⟨_, other⟩ := configureAfcPipes_enable member
    cases other
  refine SwitchState.foldl_update_pktgenEnable (fun member => ?_) (.inl ?_)
  · obtain ⟨_, _, other⟩ := List.mem_map.mp member
    cases other
  rw [(SwitchState.foldl_clear_kept _ _).2.1]
  refine SwitchState.foldl_update_pktgenEnable (fun member => ?_) (.inr ⟨_, ?_, rfl⟩)
  · rcases List.mem_append.mp member with disables | off
    · obtain ⟨_, _, other⟩ := List.mem_map.mp disables
      cases other
    · obtain ⟨_, _, other⟩ := List.mem_map.mp off
      cases other
  · exact List.mem_append_right _ (List.mem_map_of_mem ofPipe)

/-! ## The state after a restart -/

/-- What a restart leaves: nothing of the earlier run but the blocking registers. -/
structure Established (forwarding batch : List Request) (apps : List AppIDMapping)
    (batches : List BatchIDMapping) (s s' : SwitchState) : Prop where
  installed : ∀ precedence, Installed batch ⟨s'.installed, precedence⟩
  forwards : ∀ precedence, Tables.entries ⟨s'.installed, precedence⟩ .layer2Forwarding = forwarding
  populated : ∀ precedence, Ptp.Populated ⟨s'.installed, precedence⟩
  cleared : Tsn.Cleared s'.ingress
  recorded : Tsn.Recorded [] s'.ingress
  egress : s'.egress = .initial
  streamGate : s'.ingress.streamGate = s.ingress.streamGate
  regMeterBlocked : s'.ingress.regMeterBlocked = s.ingress.regMeterBlocked
  generates : Generates apps batches s'
  off : ∀ devPort ∈ TG_PIPE_PORTS_TF2, s'.pktgenEnable devPort = false

/-- **A restart, whatever ran before it.**  The tables have the entries of the configuration, of the
forwarding rules and for PTP, and none of an earlier run, the period registers and those of the
egress control are those of a switch that has seen no packet, the applications are those of the
configuration, and no pipe generates yet.  The blocking bits and the octet counters are what they
were. -/
theorem restart_establishes (documented : driver.Documented)
    (restarted : Controller.run driver macFromStr switch devPort cfg s = .ok (some s')) :
    ∃ out app forwarding batch apps batches, cfg.prepare = .ok (out, app) ∧
      forwardingRequests devPort = .ok forwarding ∧
      tableRequests macFromStr switch out app = .ok batch ∧ Prepared cfg out apps batches ∧
      Established forwarding batch apps batches s s' := by
  obtain ⟨out, app, forwarding, generators, batch, afc, run⟩ := run_eq_ok documented restarted
  obtain ⟨apps, batches, prepared, _⟩ := prepare_eq_ok run.prepare
  refine ⟨out, app, forwarding, batch, apps, batches, run.prepare, run.forwardingRun,
    run.batchRun, prepared, ?_⟩
  have ofBatch := tableRequests_ofTables prepared run.batchRun
  have registers := broughtUp_registers forwarding generators batch afc s
  rw [run.state]
  exact {
    installed := broughtUp_batch run.forwardingRun generators afc s
    forwards := broughtUp_forwarding run.forwardingRun ofBatch generators afc s
    populated := broughtUp_populated run.forwardingRun ofBatch generators afc s
    cleared := broughtUp_cleared forwarding generators batch afc s
    recorded := broughtUp_recorded forwarding generators batch afc s
    egress := registers.2
    streamGate := by rw [registers.1]
    regMeterBlocked := by rw [registers.1]
    generates := broughtUp_generates prepared forwarding batch run.generatorsRun run.afcRun s
    off := fun devPort => broughtUp_pktgenEnable forwarding generators batch run.afcRun s }

/-- What a start leaves for the control of the ingress pipeline. -/
theorem started_batch (documented : driver.Documented)
    (restarted : Controller.run driver macFromStr switch devPort cfg s = .ok (some s'))
    (precedence : Precedence) :
    ∃ out apps batches app app' schedules gcls streams, Prepared cfg out apps batches ∧
      app.uniqueIntervalIdentifier = 0 ∧
      Batch macFromStr switch out apps batches app app' schedules gcls streams
        ⟨s'.installed, precedence⟩ ∧
      Tsn.Cleared s'.ingress ∧ s'.ingress.streamGate = s.ingress.streamGate ∧
        s'.ingress.regMeterBlocked = s.ingress.regMeterBlocked := by
  obtain ⟨out, app, forwarding, generators, requests, afc, start⟩ := run_eq_ok documented restarted
  obtain ⟨apps, batches, prepared, first⟩ := prepare_eq_ok start.prepare
  obtain ⟨app', schedules, gcls, streams, entries⟩ := batchEntries prepared start.batchRun
  have registers := broughtUp_registers forwarding generators requests afc s
  refine ⟨out, apps, batches, app, app', schedules, gcls, streams, prepared, first,
    entries _ (start.state ▸ broughtUp_batch start.forwardingRun generators afc s precedence), ?_⟩
  rw [start.state]
  refine ⟨broughtUp_cleared forwarding generators requests afc s, ?_, ?_⟩
  · rw [registers.1]
  · rw [registers.1]

/-! ## Flow control -/

/-- The port groups and the queues the switch answers with fit the fields of a word. -/
def AnswersFit (switch : Switch) : Prop :=
  ∀ port portCfg, switch.portCfg port = some portCfg →
    portCfg.pgId.toNat < 16 ∧ ∀ pgQueue ∈ portCfg.egressQidQueues, pgQueue.toNat < 128

/-- An entry of the gate control list carries the word for its queue. -/
theorem gcls_word {gcls : List Request} {r : Request}
    (run : Controller.TAS.configureTasQueueId switch out = .ok gcls) (member : r ∈ gcls) :
    ∃ mapping ∈ out.tas.gclToPortMapping, ∃ qId pipeId batchId action, ∃ state : U8, ∃ word e,
      Controller.TAS.getAfcValue switch qId (mapping.port >>> 7) mapping.port
          (state.setWidth 16) = .ok word ∧
        r = Controller.TAS.gateControlRequest pipeId qId batchId action word e := by
  obtain ⟨mapping, mapped, es, mappingRun, member⟩ := (Fallible.mem_concatMap run).mp member
  obtain ⟨gcl, batchId, _, _, gclRun⟩ := Controller.TAS.mappingEntries_eq_ok mappingRun
  obtain ⟨t, _, fs, sliceRun, member⟩ := (Fallible.mem_concatMap gclRun).mp member
  obtain ⟨queue, _, gs, queueRun, member⟩ := (Fallible.mem_concatMap sliceRun).mp member
  obtain ⟨word, entries, wordRun, _, rfl⟩ := Controller.TAS.queueEntries_eq_ok queueRun
  obtain ⟨e, _, rfl⟩ := List.mem_map.mp member
  exact ⟨mapping, mapped, queue.1, _, batchId, _, _, word, e, wordRun, rfl⟩

/-- The queues of a mapped port are put under flow control. -/
theorem mem_configureAfcPorts (run : Controller.TAS.configureAfcPorts switch out = .ok afc)
    {mapping : GCLToPortMapping} (mapped : mapping ∈ out.tas.gclToPortMapping) {qId : Nat}
    (queue : qId < 8) {portCfg : PortCfg} {egressQid pgQueue : U32}
    (reply : switch.portCfg mapping.port = some portCfg)
    (ingress : portCfg.ingressQidMap[qId]? = some egressQid)
    (egress : portCfg.egressQidQueues[egressQid.toNat]? = some pgQueue) :
    Update.xoff (mapping.port.setWidth 32 >>> 7) portCfg.pgId pgQueue ∈ afc := by
  obtain ⟨us, portRun⟩ := (Fallible.concatMap_eq_ok.mp run).1 mapping mapped
  refine (Fallible.mem_concatMap run).mpr ⟨mapping, mapped, us, portRun, ?_⟩
  obtain ⟨portCfg', reply', queuesRun⟩ := Fallible.bind_eq_ok.mp portRun
  cases (unwrap_eq_ok.mp reply').symm.trans reply
  obtain ⟨u, member, queueRun⟩ :=
    KeyedList.exists_related (Fallible.mapM_eq_ok.mp queuesRun) (List.mem_range.mpr queue)
  unfold Controller.TAS.afcQueue index at queueRun
  rw [ingress, Fallible.ok_bind, egress, Fallible.ok_bind] at queueRun
  cases queueRun
  exact member

theorem eq_some_of_index {values : List U32} {i : Nat} {value : U32}
    (run : index values i = .ok value) : values[i]? = some value := by
  unfold index at run
  split at run
  · rename_i found
    rw [found, Except.ok.inj run]
  · cases run

/-- The word of a queue, as the switch reads it, and the answers it was made of. -/
theorem getAfcValue_tells {port qId state : U8} {word : U32} (fit : AnswersFit switch)
    (run : Controller.TAS.getAfcValue switch qId (port >>> 7) port (state.setWidth 16) = .ok word) :
    ∃ (portCfg : PortCfg) (egressQid pgQueue : U32), switch.portCfg port = some portCfg ∧
      portCfg.ingressQidMap[qId.toNat]? = some egressQid ∧
      portCfg.egressQidQueues[egressQid.toNat]? = some pgQueue ∧
      (AdvFlowCtl.bits.symm word).qfc = 1 ∧
      (AdvFlowCtl.bits.symm word).tmPipeId.setWidth 32 = port.setWidth 32 >>> 7 ∧
      (AdvFlowCtl.bits.symm word).tmMacId.setWidth 32 = portCfg.pgId ∧
      (AdvFlowCtl.bits.symm word).tmMacQid.setWidth 32 = pgQueue := by
  obtain ⟨portCfg, reply, run⟩ := Fallible.bind_eq_ok.mp run
  obtain ⟨egressQid, ingress, run⟩ := Fallible.bind_eq_ok.mp run
  obtain ⟨pgQueue, egress, run⟩ := Fallible.bind_eq_ok.mp run
  cases run
  have reply := unwrap_eq_ok.mp reply
  have ingress := eq_some_of_index ingress
  have egress := eq_some_of_index egress
  obtain ⟨group, queues⟩ := fit port portCfg reply
  have queue := queues pgQueue (List.mem_of_getElem? egress)
  have pipe : (port >>> 7).toNat < 4 := shiftRight_lt port
  have groupSame : (portCfg.pgId.setWidth 8).toNat = portCfg.pgId.toNat := by
    rw [BitVec.toNat_setWidth, Nat.mod_eq_of_lt (by omega)]
  have queueSame : (pgQueue.setWidth 8).toNat = pgQueue.toNat := by
    rw [BitVec.toNat_setWidth, Nat.mod_eq_of_lt (by omega)]
  have credit : (state.setWidth 16 : U16).toNat < 2 ^ 15 := by
    have bound := state.isLt
    rw [BitVec.toNat_setWidth_of_le (by decide)]
    omega
  have inRange : AdvancedFlowControl.InRange (port >>> 7) (portCfg.pgId.setWidth 8)
      (pgQueue.setWidth 8) (state.setWidth 16) :=
    ⟨pipe, by omega, by omega, credit⟩
  have tells := AdvancedFlowControl.new_layout inRange
  refine ⟨portCfg, egressQid, pgQueue, reply, ingress, egress, tells.qfc, ?_, ?_, ?_⟩
  · refine BitVec.eq_of_toNat_eq ?_
    rw [BitVec.toNat_setWidth_of_le (by decide), tells.tmPipeId, BitVec.toNat_ushiftRight,
      BitVec.toNat_ushiftRight, BitVec.toNat_setWidth_of_le (by decide)]
  · refine BitVec.eq_of_toNat_eq ?_
    rw [BitVec.toNat_setWidth_of_le (by decide), tells.tmMacId, groupSame]
  · refine BitVec.eq_of_toNat_eq ?_
    rw [BitVec.toNat_setWidth_of_le (by decide), tells.tmMacQid, queueSame]

theorem broughtUp_xoff {pipe pgId pgQueue : U32} (forwarding generators batch : List Request)
    (s : SwitchState) (member : Update.xoff pipe pgId pgQueue ∈ afc) :
    (broughtUp forwarding generators batch afc s).xoff pipe pgId pgQueue = true :=
  SwitchState.foldl_update_xoff member

/-- **The queues that are commanded are under flow control.**  The word of every installed entry of
the gate control list is a command, and for the queues of the priorities the queue it addresses is
one that startup has set to `XOFF`. -/
theorem afc_covers (documented : driver.Documented) (fit : AnswersFit switch)
    (restarted : Controller.run driver macFromStr switch devPort cfg s = .ok (some s'))
    {r : Request} (member : r ∈ s'.installed) (table : r.table = .gateControlList) :
    (AdvFlowCtl.bits.symm (param r .afc 32)).qfc = 1 ∧
      ∀ qId < 8, r.key? .timerPacketId = some (.exact qId) →
        s'.xoff ((AdvFlowCtl.bits.symm (param r .afc 32)).tmPipeId.setWidth 32)
          ((AdvFlowCtl.bits.symm (param r .afc 32)).tmMacId.setWidth 32)
          ((AdvFlowCtl.bits.symm (param r .afc 32)).tmMacQid.setWidth 32) = true := by
  obtain ⟨out, app, forwarding, generators, batch, afc, run⟩ := run_eq_ok documented restarted
  obtain ⟨apps, batches, prepared, _⟩ := prepare_eq_ok run.prepare
  obtain ⟨app', schedules, gcls, streams, entries⟩ := batchEntries prepared run.batchRun
  have there := entries ⟨s'.installed, .first⟩
    (run.state ▸ broughtUp_batch run.forwardingRun generators afc s .first)
  have written : r ∈ gcls := by
    rw [← there.gateControlList]
    exact List.mem_filter.mpr ⟨member, decide_eq_true table⟩
  obtain ⟨mapping, mapped, qId', pipeId, batchId, action, state, word, e, wordRun, rfl⟩ :=
    gcls_word there.gclsRun written
  obtain ⟨portCfg, egressQid, pgQueue, reply, ingress, egress, qfc, pipe, group, queue⟩ :=
    getAfcValue_tells fit wordRun
  have carried : param (Controller.TAS.gateControlRequest pipeId qId' batchId action word e)
      .afc 32 = word :=
    (BitVec.ofNat_toNat 32 word).trans (BitVec.setWidth_eq word)
  rw [carried]
  refine ⟨qfc, fun qId priority key => ?_⟩
  have same : qId'.toNat = qId := MatchValue.exact.inj (Option.some.inj key)
  rw [pipe, group, queue, run.state]
  exact broughtUp_xoff forwarding generators batch s (mem_configureAfcPorts run.afcRun mapped
    (same ▸ priority) reply ingress egress)

/-! ## Blocking -/

/-- What happens to the switch: a frame passes through the ingress control, or the controller is
started again. -/
inductive SwitchEvent
  | frame (event : Tsn.Frame × Tsn.Result)
  | restart (cfg : Configuration)

/-- A frame finds the tables that are installed.  The egress control is left open: it does not touch
the registers of the ingress. -/
def SwitchStep (target : Target) (s : SwitchState) : SwitchEvent → SwitchState → Prop
  | .frame event, s' =>
    (∃ precedence, event.1.tables = ⟨s.installed, precedence⟩) ∧
      Tsn.step target s.ingress event s'.ingress ∧
      s' = { s with ingress := s'.ingress, egress := s'.egress }
  | .restart cfg, s' =>
    ∃ driver macFromStr switch devPort, Driver.Documented driver ∧
      Controller.run driver macFromStr switch devPort cfg s = .ok (some s')

variable {target : Target} {event : SwitchEvent} {gate : BitVec 12} {m : BitVec 16}

/-- A step passes a frame, or keeps the blocking registers. -/
theorem switchStep_cases (taken : SwitchStep target s event s') :
    (∃ e, event = .frame e ∧ Tsn.step target s.ingress e s'.ingress) ∨
      s'.ingress.streamGate = s.ingress.streamGate ∧
        s'.ingress.regMeterBlocked = s.ingress.regMeterBlocked := by
  cases event with
  | frame e => exact .inl ⟨e, rfl, taken.2.1⟩
  | restart cfg =>
    obtain ⟨driver, macFromStr, switch, devPort, documented, restarted⟩ := taken
    obtain ⟨_, _, _, _, _, _, run⟩ := run_eq_ok documented restarted
    rw [run.state, (broughtUp_registers _ _ _ _ s).1]
    exact .inr ⟨rfl, rfl⟩

theorem switchStep_gateBlocks (blocked : StreamGate.Blocks target s.ingress.streamGate gate)
    (taken : SwitchStep target s event s') :
    StreamGate.Blocks target s'.ingress.streamGate gate := by
  rcases switchStep_cases taken with ⟨_, _, step⟩ | ⟨same, _⟩
  · exact Tsn.step_gateBlocks step blocked
  · rw [same]
    exact blocked

theorem switchStep_meterBlocks (blocked : FlowMeter.Blocks target s.ingress.regMeterBlocked m)
    (taken : SwitchStep target s event s') :
    FlowMeter.Blocks target s'.ingress.regMeterBlocked m := by
  rcases switchStep_cases taken with ⟨_, _, step⟩ | ⟨_, same⟩
  · exact Tsn.step_meterBlocks step blocked
  · rw [same]
    exact blocked

/-- **Blocking outlives the controller.**  Once the control has blocked a gate, it drops every later
frame of a stream of the gate that has a `gate_closed` flag, and once it has blocked a meter, every
later frame of the meter, however often the controller is started again in between, with whatever
configurations. -/
theorem blocked_across_restarts {start last : SwitchState} {before middle after : List SwitchEvent}
    {first later : Tsn.Frame × Tsn.Result}
    (run : Transition.Run (SwitchStep target) start
      (before ++ .frame first :: middle ++ .frame later :: after) last) :
    (∀ gate r, first.2.BlocksGate gate → later.1.stream? = some r →
      param r .streamGateId 12 = gate →
      (flag r .gateClosedDueToInvalidRxEnable ||
        flag r .gateClosedDueToOctetsExceededEnable) = true → later.2.Dropped) ∧
    ∀ m, first.2.BlocksMeter m → later.1.meter? = some m → later.2.Dropped := by
  refine ⟨fun gate r executed stream gate_eq enabled => ?_, fun m executed identified => ?_⟩
  · obtain ⟨t, t', blocked, taken⟩ := run.eventually_always
      (I := fun s => StreamGate.Blocks target s.ingress.streamGate gate)
      (fun _ _ taken => (Tsn.step_blocksGate taken.2.1 executed).blocks)
      (fun _ _ _ _ blocked taken => switchStep_gateBlocks blocked taken)
    exact Tsn.step_gateDropped taken.2.1 blocked stream gate_eq enabled
  · obtain ⟨t, t', blocked, taken⟩ := run.eventually_always
      (I := fun s => FlowMeter.Blocks target s.ingress.regMeterBlocked m)
      (fun _ _ taken => Tsn.step_blocksMeter taken.2.1 executed)
      (fun _ _ _ _ blocked taken => switchStep_meterBlocks blocked taken)
    exact Tsn.step_meterDropped taken.2.1 blocked identified

/-! ### Restarts of a used switch -/

/-- A driver whose calls succeed. -/
def directDriver : Driver where
  clearTables names s := some (names.foldl SwitchState.clear s)
  updateTableEntries updates s := some (updates.foldl SwitchState.update s)
  writeTableEntries requests s := some (s.write requests)

theorem directDriver_documented : directDriver.Documented where
  clear := fun _ _ _ cleared => (Option.some.inj cleared).symm
  update := fun _ _ _ updated => (Option.some.inj updated).symm
  write := fun _ _ _ written => (Option.some.inj written).symm

theorem bringUp_direct (forwarding generators batch : List Request) (afc : List Update)
    (s : SwitchState) : bringUp directDriver forwarding generators batch afc s =
      some (broughtUp forwarding generators batch afc s) :=
  rfl

/-- A switch with eight queues for every port. -/
def eightQueues : Switch where
  portCfg _ := some
    { pgId := 1, ingressQidMap := [0, 1, 2, 3, 4, 5, 6, 7],
      egressQidQueues := [8, 9, 10, 11, 12, 13, 14, 15] }

theorem eightQueues_fit : AnswersFit eightQueues := by
  intro port portCfg reply
  cases reply
  refine ⟨by decide, fun pgQueue member => ?_⟩
  simp only [List.mem_cons, List.not_mem_nil, or_false] at member
  rcases member with rfl | rfl | rfl | rfl | rfl | rfl | rfl | rfl <;> decide

def restartRequests : List Request :=
  Fallible.output (tableRequests sampleMacFromStr eightQueues closingPrepared ⟨3, 0⟩)

theorem restartRequests_run :
    tableRequests sampleMacFromStr eightQueues closingPrepared ⟨3, 0⟩ = .ok restartRequests := by
  have returns : ∃ requests,
      tableRequests sampleMacFromStr eightQueues closingPrepared ⟨3, 0⟩ = .ok requests :=
    Fallible.exists_of_isOk (by decide +kernel)
  obtain ⟨requests, run⟩ := returns
  unfold restartRequests
  rw [run, Fallible.output_ok]

/-- Startup with the driver that does at once what is asked of it. -/
theorem run_direct (forwardingRun : forwardingRequests devPort = .ok forwarding)
    (prepare : cfg.prepare = .ok (out, app))
    (generatorsRun : PacketGenerator.activateTrafficGenApplications out = .ok generators)
    (afcRun : Controller.TAS.configureAfcPorts switch out = .ok afc)
    (batchRun : tableRequests macFromStr switch out app = .ok batch) (s : SwitchState) :
    Controller.run directDriver macFromStr switch devPort cfg s =
      .ok (some (broughtUp forwarding generators batch afc s)) := by
  unfold Controller.run
  rw [forwardingRun, Fallible.ok_bind, prepare, Fallible.ok_bind]
  dsimp only
  rw [generatorsRun, Fallible.ok_bind, afcRun, Fallible.ok_bind, batchRun, Fallible.ok_bind,
    bringUp_direct]
  rfl

/-- Every state can be restarted from. -/
theorem restart_returns (s : SwitchState) : ∃ s',
    Controller.run directDriver sampleMacFromStr eightQueues (fun port _ => some port)
      closingSample s = .ok (some s') := by
  obtain ⟨forwarding, forwardingRun⟩ :
      ∃ forwarding, forwardingRequests (fun port _ => some port) = .ok forwarding :=
    Fallible.exists_of_isOk (by decide +kernel)
  obtain ⟨generators, generatorsRun⟩ : ∃ generators,
      PacketGenerator.activateTrafficGenApplications closingPrepared = .ok generators :=
    Fallible.exists_of_isOk (by decide +kernel)
  obtain ⟨afc, afcRun⟩ :
      ∃ afc, Controller.TAS.configureAfcPorts eightQueues closingPrepared = .ok afc :=
    Fallible.exists_of_isOk (by decide +kernel)
  exact ⟨_, run_direct forwardingRun prepare_closingSample generatorsRun afcRun
    restartRequests_run s⟩

/-- A switch on which the sample configuration has run before. -/
def usedSwitch : SwitchState where
  installed := restartRequests
  ingress := { Tsn.sampleRegisters with lowerLastTs := fun _ => 7, hyperperiodDone := fun _ => 1 }
  egress := { TAS.Registers.initial with queueState := fun _ => 1 }
  apps := fun _ => ⟨true, 3⟩
  pktgenEnable := fun _ => true
  advancedFlowControlEnable := fun _ => false
  xoff := fun _ _ _ => false

theorem restart_establishes_sample : ∃ s' forwarding apps batches,
    Controller.run directDriver sampleMacFromStr eightQueues (fun port _ => some port)
        closingSample usedSwitch = .ok (some s') ∧
      Established forwarding restartRequests apps batches usedSwitch s' := by
  obtain ⟨s', restarted⟩ := restart_returns usedSwitch
  obtain ⟨out, app, forwarding, batch, apps, batches, prepare, _, batchRun, _, established⟩ :=
    restart_establishes directDriver_documented restarted
  obtain ⟨rfl, rfl⟩ := Prod.mk.inj (Except.ok.inj (prepare_closingSample.symm.trans prepare))
  have same : restartRequests = batch :=
    Except.ok.inj (restartRequests_run.symm.trans batchRun)
  rw [same]
  exact ⟨s', forwarding, apps, batches, restarted, established⟩

/-- The tables after the restart. -/
theorem restart_installed (precedence : Precedence)
    (restarted : Controller.run directDriver sampleMacFromStr eightQueues (fun port _ => some port)
      closingSample s = .ok (some s')) : Installed restartRequests ⟨s'.installed, precedence⟩ := by
  obtain ⟨out, app, forwarding, generators, batch, afc, run⟩ :=
    run_eq_ok directDriver_documented restarted
  obtain ⟨rfl, rfl⟩ := Prod.mk.inj (Except.ok.inj (prepare_closingSample.symm.trans run.prepare))
  have same : restartRequests = batch :=
    Except.ok.inj (restartRequests_run.symm.trans run.batchRun)
  rw [same, run.state]
  exact broughtUp_batch run.forwardingRun generators afc s precedence

/-- An entry for the queue 3. -/
theorem restartRequests_queue : (restartRequests.any fun r => decide (r.table = .gateControlList ∧
    r.key? .timerPacketId = some (.exact 3))) = true := by
  decide +kernel

theorem afc_covers_sample : ∃ (s' : SwitchState) (r : Request), r ∈ s'.installed ∧
    r.table = .gateControlList ∧ r.key? .timerPacketId = some (.exact 3) ∧
      (AdvFlowCtl.bits.symm (param r .afc 32)).qfc = 1 ∧
      s'.xoff ((AdvFlowCtl.bits.symm (param r .afc 32)).tmPipeId.setWidth 32)
        ((AdvFlowCtl.bits.symm (param r .afc 32)).tmMacId.setWidth 32)
        ((AdvFlowCtl.bits.symm (param r .afc 32)).tmMacQid.setWidth 32) = true := by
  obtain ⟨s', restarted⟩ := restart_returns usedSwitch
  obtain ⟨r, requested, found⟩ := List.any_eq_true.mp restartRequests_queue
  obtain ⟨table, key⟩ := of_decide_eq_true found
  have entry : r ∈ Tables.entries ⟨s'.installed, .first⟩ .gateControlList := by
    rw [restart_installed .first restarted _ (by decide)]
    exact List.mem_filter.mpr ⟨requested, decide_eq_true table⟩
  have member : r ∈ s'.installed := (List.mem_filter.mp entry).1
  have covers := afc_covers directDriver_documented eightQueues_fit restarted member table
  exact ⟨s', r, member, table, key, covers.1, covers.2 3 (by decide) key⟩

/-- A frame of the stream, under these tables. -/
def frameUnder (installed : List Request) (ts : BitVec 48) : Tsn.Frame :=
  { streamFrame ts with tables := ⟨installed, .first⟩ }

/-- The stream of the frame after the restart. -/
theorem frameUnder_stream {installed : List Request} (ts : BitVec 48)
    (same : Installed restartRequests ⟨installed, .first⟩) :
    (frameUnder installed ts).stream? = (frameUnder restartRequests 0).stream? := by
  have entries : Tables.entries ⟨installed, .first⟩ .streamId =
      Tables.entries ⟨restartRequests, .first⟩ .streamId :=
    (same .streamId (by decide)).trans
      (installed_self restartRequests .first .streamId (by decide)).symm
  have start : (frameUnder installed ts).stream? = (frameUnder installed 0).stream? := rfl
  rw [start]
  unfold Tsn.Frame.stream? frameUnder Tables.lookup
  dsimp only
  rw [entries]

/-- The state after a frame. -/
def afterFrame (s : SwitchState) (ts : BitVec 48) : SwitchState :=
  { s with ingress := ((frameUnder s.installed ts).pass s.ingress).registers }

theorem afterFrame_step (s : SwitchState) (ts : BitVec 48) :
    SwitchStep .strict s
      (.frame (frameUnder s.installed ts, (frameUnder s.installed ts).pass s.ingress))
      (afterFrame s ts) :=
  ⟨⟨.first, rfl⟩, ⟨rfl, rfl⟩, rfl⟩

/-- The frame arrives while the gate is closed, and blocks it. -/
theorem usedSwitch_blocks :
    ((frameUnder usedSwitch.installed 20).pass usedSwitch.ingress).BlocksGate 1 :=
  ⟨by decide +kernel, by decide +kernel⟩

/-- The gate is blocked, the controller is started again, and a frame that would pass on a fresh
switch is dropped. -/
theorem blocked_across_restarts_sample :
    ¬ ((frameUnder restartRequests 2).pass Tsn.sampleRegisters).Dropped ∧
      ∃ s', Controller.run directDriver sampleMacFromStr eightQueues (fun port _ => some port)
          closingSample (afterFrame usedSwitch 20) = .ok (some s') ∧
        ((frameUnder s'.installed 2).pass s'.ingress).Dropped := by
  have passes : ¬ ((frameUnder restartRequests 2).pass Tsn.sampleRegisters).Dropped := by
    unfold Tsn.Result.Dropped
    decide +kernel
  have flags : ((frameUnder restartRequests 0).stream?.map fun r => (param r .streamGateId 12,
      flag r .gateClosedDueToInvalidRxEnable || flag r .gateClosedDueToOctetsExceededEnable)) =
        some (1, true) := by
    decide +kernel
  obtain ⟨r, identified, own⟩ := Option.map_eq_some_iff.mp flags
  obtain ⟨gate_eq, enabled⟩ := Prod.mk.inj own
  obtain ⟨s', restarted⟩ := restart_returns (afterFrame usedSwitch 20)
  refine ⟨passes, s', restarted, ?_⟩
  have again : SwitchStep .strict (afterFrame usedSwitch 20) (.restart closingSample) s' :=
    ⟨_, _, _, _, directDriver_documented, restarted⟩
  have run : Transition.Run (SwitchStep .strict) usedSwitch
      ([] ++ .frame (frameUnder usedSwitch.installed 20,
          (frameUnder usedSwitch.installed 20).pass usedSwitch.ingress) ::
        [.restart closingSample] ++
        .frame (frameUnder s'.installed 2, (frameUnder s'.installed 2).pass s'.ingress) :: [])
      (afterFrame s' 2) :=
    .cons (afterFrame_step usedSwitch 20) (.cons again (.cons (afterFrame_step s' 2) (.nil _)))
  exact (blocked_across_restarts run).1 1 r usedSwitch_blocks
    ((frameUnder_stream 2 (restart_installed .first restarted)).trans identified) gate_eq enabled

end P4Tas.DataPlane
