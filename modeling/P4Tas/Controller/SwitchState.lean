import P4Tas.Controller.Startup
import P4Tas.DataPlane.Tas
import P4Tas.DataPlane.Tsn
import P4Tas.Lib.History
import P4Tas.Ptp.PopulatePtpTable

/-!
# The switch under the controller

The state of the switch as far as startup changes it, and the calls of the driver that `run`,
`packet_generator.rs` and `tas.rs` make.  The driver is not part of the repository: it is a
parameter, and `Documented` says what it does when a call succeeds.

* `bringUp`, `run`: the calls, in their order, and what they are made with;
* `run_eq_ok`: the state they lead to.
-/

namespace P4Tas.Controller

open P4Tas.DataPlane

/-! ## State -/

/-- An application of the packet generator. -/
structure App where
  appEnable : Bool
  timerNanosec : Nat

structure SwitchState where
  installed : List Request
  ingress : Tsn.Registers
  egress : TAS.Registers
  /-- The applications, by their ids. -/
  apps : Nat → App
  /-- `pktgen_enable` of a port. -/
  pktgenEnable : U16 → Bool
  /-- `advanced_flow_control_enable` of a pipe. -/
  advancedFlowControlEnable : Nat → Bool
  /-- `advanced_flow_control` of a queue is `"XOFF"`: of a pipe, a port group and its queue. -/
  xoff : U32 → U32 → U32 → Bool

/-- What `clear_tables` is called with: tables, and registers. -/
inductive Clearable
  | table (t : Table)
  /-- `ingress.tsn_c.tas_hyperperiod_diff` -/
  | tasHyperperiodDiff
  /-- `ingress.tsn_c.next_time_series_index_tas_diff` -/
  | nextTimeSeriesIndexTasDiff
  /-- `ingress.tsn_c.lower_last_ts` -/
  | lowerLastTs
  /-- `ingress.tsn_c.higher_last_ts` -/
  | higherLastTs
  /-- `ingress.tsn_c.tas_lower_last_ts` -/
  | tasLowerLastTs
  /-- `ingress.tsn_c.tas_higher_last_ts` -/
  | tasHigherLastTs
  /-- `ingress.tsn_c.hyperperiod_done` -/
  | hyperperiodDone
  /-- `ingress.tsn_c.period_count` -/
  | periodCount
  /-- `egress.tas_c.queue_state` -/
  | queueState
  /-- `egress.tas_c.lower_last_ts` -/
  | egressLowerLastTs
  /-- `egress.tas_c.reg_ts_dequeue_diff` -/
  | regTsDequeueDiff
  /-- `egress.tas_c.reg_dequeue_ts_measurement` -/
  | regDequeueTsMeasurement
  /-- `egress.tas_c.next_time_series_index` -/
  | nextTimeSeriesIndex
  deriving DecidableEq, Repr

/-- The requests of `update_table_entries`, for tables whose entries always exist. -/
inductive Update
  /-- `tf2.pktgen.app_cfg` -/
  | appCfg (r : Request)
  /-- `pktgen_enable` of `PORT_CFG_TF2` -/
  | pktgenEnable (devPort : U16) (enable : Bool)
  /-- `advanced_flow_control_enable` of `tf2.tm.pipe.sched_cfg` -/
  | advancedFlowControlEnable (pipe : Nat)
  /-- `"XOFF"` in `tf2.tm.queue.sched_cfg` -/
  | xoff (pipe pgId pgQueue : U32)

namespace SwitchState

def clear (s : SwitchState) : Clearable → SwitchState
  | .table t => { s with installed := s.installed.filter fun r => r.table ≠ t }
  | .tasHyperperiodDiff => { s with ingress := { s.ingress with tasHyperperiodDiff := fun _ => 0 } }
  | .nextTimeSeriesIndexTasDiff =>
    { s with ingress := { s.ingress with nextTimeSeriesIndexTasDiff := fun _ => 0 } }
  | .lowerLastTs => { s with ingress := { s.ingress with lowerLastTs := fun _ => 0 } }
  | .higherLastTs => { s with ingress := { s.ingress with higherLastTs := fun _ => 0 } }
  | .tasLowerLastTs => { s with ingress := { s.ingress with tasLowerLastTs := fun _ => 0 } }
  | .tasHigherLastTs => { s with ingress := { s.ingress with tasHigherLastTs := fun _ => 0 } }
  | .hyperperiodDone => { s with ingress := { s.ingress with hyperperiodDone := fun _ => 0 } }
  | .periodCount => { s with ingress := { s.ingress with periodCount := fun _ => 0 } }
  | .queueState => { s with egress := { s.egress with queueState := fun _ => 0 } }
  | .egressLowerLastTs => { s with egress := { s.egress with lowerLastTs := fun _ => 0 } }
  | .regTsDequeueDiff => { s with egress := { s.egress with regTsDequeueDiff := fun _ => 0 } }
  | .regDequeueTsMeasurement =>
    { s with egress := { s.egress with regDequeueTsMeasurement := fun _ => 0 } }
  | .nextTimeSeriesIndex => { s with egress := { s.egress with nextTimeSeriesIndex := fun _ => 0 } }

/-- The application of a request. -/
def appIdOf (r : Request) : Nat :=
  match r.key? .appId with
  | some (.exact id) => id
  | _ => 0

/-- The application after a request, which keeps what it does not name. -/
def configure (r : Request) (a : App) : App where
  appEnable := ((r.data? .appEnable).map fun value => value != 0).getD a.appEnable
  timerNanosec := (r.data? .timerNanosec).getD a.timerNanosec

def update (s : SwitchState) : Update → SwitchState
  | .appCfg r =>
    { s with apps := Function.update s.apps (appIdOf r) (configure r (s.apps (appIdOf r))) }
  | .pktgenEnable devPort enable =>
    { s with pktgenEnable := Function.update s.pktgenEnable devPort enable }
  | .advancedFlowControlEnable pipe =>
    { s with advancedFlowControlEnable :=
        Function.update s.advancedFlowControlEnable pipe true }
  | .xoff pipe pgId pgQueue =>
    { s with xoff := fun pipe' pgId' pgQueue' =>
        (pipe' = pipe ∧ pgId' = pgId ∧ pgQueue' = pgQueue) || s.xoff pipe' pgId' pgQueue' }

def write (s : SwitchState) (requests : List Request) : SwitchState :=
  { s with installed := s.installed ++ requests }

end SwitchState

/-- The calls of the driver, which may fail. -/
structure Driver where
  clearTables : List Clearable → SwitchState → Option SwitchState
  updateTableEntries : List Update → SwitchState → Option SwitchState
  writeTableEntries : List Request → SwitchState → Option SwitchState

/-- What a call does that succeeds. -/
structure Driver.Documented (driver : Driver) : Prop where
  clear : ∀ names s s', driver.clearTables names s = some s' → s' = names.foldl SwitchState.clear s
  update : ∀ updates s s', driver.updateTableEntries updates s = some s' →
    s' = updates.foldl SwitchState.update s
  write : ∀ requests s s', driver.writeTableEntries requests s = some s' → s' = s.write requests

/-! ## Startup -/

/-- The list at the start of `run`. -/
def startupTables : List Clearable :=
  [.table .layer2Forwarding, .table .ingressPtp, .table .egressPtp, .table .appIdTas,
    .table .batchIdToPort, .table .streamId, .table .streamGateInstance,
    .table .underflowDetection, .table .hyperperiodExceededDetection, .table .appIdStreamGate,
    .table .flowMeterInstance, .table .mappingTasControlRecirculationPort, .tasHyperperiodDiff,
    .nextTimeSeriesIndexTasDiff, .table .gateControlList, .queueState, .egressLowerLastTs,
    .regTsDequeueDiff, .regDequeueTsMeasurement, .nextTimeSeriesIndex]

namespace PacketGenerator

/-- The request of `reset_packet_generator` for an application. -/
def disableRequest (appId : Nat) : Request where
  table := .appCfg
  matchKeys := [(.appId, .exact appId)]
  action := .triggerTimerPeriodic
  actionData := [(.appEnable, 0)]

def resetUpdates : List Update :=
  (List.range 16).map (fun x => .appCfg (disableRequest x)) ++
    TG_PIPE_PORTS_TF2.map fun x => .pktgenEnable x false

/-- The registers `reset_packet_generator` clears. -/
def hyperperiodRegisters : List Clearable :=
  [.lowerLastTs, .higherLastTs, .tasLowerLastTs, .tasHigherLastTs, .hyperperiodDone, .periodCount]

def resetPacketGenerator (driver : Driver) (s : SwitchState) : Option SwitchState := do
  let s ← driver.updateTableEntries resetUpdates s
  driver.clearTables hyperperiodRegisters s

def enablePktGen (driver : Driver) (s : SwitchState) : Option SwitchState :=
  driver.updateTableEntries (TG_PIPE_PORTS_TF2.map fun x => .pktgenEnable x true) s

end PacketGenerator

namespace TAS

def configureAfcPipes : List Update :=
  (List.range 4).map .advancedFlowControlEnable

/-- The body of the loop over the queues of a port. -/
def afcQueue (port : U8) (portCfg : PortCfg) (qid : Nat) : Rust Update := do
  let egressQid ← index portCfg.ingressQidMap qid
  let pgQueue ← index portCfg.egressQidQueues egressQid.toNat
  return .xoff (port.setWidth 32 >>> 7) portCfg.pgId pgQueue

/-- The body of the loop over the port mappings. -/
def afcPort (switch : Switch) (mapping : GCLToPortMapping) : Rust (List Update) := do
  let portCfg ← unwrap (switch.portCfg mapping.port)
  (List.range 8).mapM (afcQueue mapping.port portCfg)

def configureAfcPorts (switch : Switch) (cfg : Configuration) : Rust (List Update) :=
  Fallible.concatMap (afcPort switch) cfg.tas.gclToPortMapping

end TAS

/-- The destination address, the port and its channel of a forwarding rule. -/
structure L2ForwardingEntry where
  ethDst : Nat
  egressPort : U32
  egressChannel : U32

def l2Forwarding : List L2ForwardingEntry :=
  [⟨0x81E79DE3AD40, 5, 0⟩, ⟨0x81E79DE3AD41, 6, 0⟩, ⟨0x81E79DE3AD42, 7, 0⟩, ⟨0x81E79DE3AD43, 4, 0⟩,
    ⟨0x81E79DE3AD48, 3, 0⟩, ⟨0x217FA2A9E1C9, 1, 0⟩, ⟨0x98039B84AA8E, 9, 0⟩]

/-- `devPort` is the answer of the port manager. -/
def forwardRequest (devPort : U32 → U32 → Option U32) (entry : L2ForwardingEntry) :
    Rust Request := do
  let port ← unwrap (devPort entry.egressPort entry.egressChannel)
  return {
    table := .layer2Forwarding
    matchKeys := [(.ethernetDstAddr, .exact entry.ethDst)]
    action := .forward
    actionData := [(.port, port.toNat)] }

def multicastRequest : Request where
  table := .layer2Forwarding
  matchKeys := [(.ethernetDstAddr, .exact 0x011B19000000)]
  action := .multicastForward
  actionData := [(.mcid, 100)]

def forwardingRequests (devPort : U32 → U32 → Option U32) : Rust (List Request) := do
  let forwards ← l2Forwarding.mapM (forwardRequest devPort)
  return forwards ++ [multicastRequest]

/-- The calls of `run` that change the switch, with what it computed from the configuration. -/
def bringUp (driver : Driver) (forwarding generators batch : List Request) (afc : List Update)
    (s : SwitchState) : Option SwitchState := do
  let s ← driver.clearTables startupTables s
  let s ← PacketGenerator.resetPacketGenerator driver s
  let s ← driver.updateTableEntries (generators.map .appCfg) s
  let s ← driver.updateTableEntries TAS.configureAfcPipes s
  let s ← driver.updateTableEntries afc s
  driver.writeTableEntries (forwarding ++ (batch ++ Ptp.populatePtpTable)) s

/-- What `run` does to the switch where none of its unwraps and lookups panics, `none` where a call
of the driver fails.  It computes the requests in between the calls, and no frame arrives
meanwhile. -/
def run (driver : Driver) (macFromStr : String → Option (List U8)) (switch : Switch)
    (devPort : U32 → U32 → Option U32) (cfg : Configuration) (s : SwitchState) :
    Rust (Option SwitchState) := do
  let forwarding ← forwardingRequests devPort
  let (out, appState) ← cfg.prepare
  let generators ← PacketGenerator.activateTrafficGenApplications out
  let afc ← TAS.configureAfcPorts switch out
  let batch ← tableRequests macFromStr switch out appState
  return bringUp driver forwarding generators batch afc s

/-! ## What the calls change -/

variable {s s' : SwitchState}

namespace SwitchState

/-- Clearing removes the entries of the tables it names. -/
theorem foldl_clear_installed (names : List Clearable) (s : SwitchState) :
    (names.foldl clear s).installed =
      s.installed.filter fun r => Clearable.table r.table ∉ names := by
  induction names generalizing s with
  | nil => simp
  | cons name names ih =>
    have one : (clear s name).installed =
        s.installed.filter fun r => Clearable.table r.table ≠ name := by
      cases name with
      | table t =>
        unfold clear
        dsimp only
        refine List.filter_congr fun r _ => ?_
        simp
      | _ => simp [clear]
    rw [List.foldl_cons, ih, one, List.filter_filter]
    refine List.filter_congr fun r _ => ?_
    simp [Bool.and_comm]

/-- An update leaves the tables and the registers alone. -/
theorem foldl_update_kept (updates : List Update) (s : SwitchState) :
    (updates.foldl update s).installed = s.installed ∧
      (updates.foldl update s).ingress = s.ingress ∧
      (updates.foldl update s).egress = s.egress := by
  induction updates generalizing s with
  | nil => exact ⟨rfl, rfl, rfl⟩
  | cons u updates ih =>
    obtain ⟨installed, ingress, egress⟩ := ih (s.update u)
    cases u with
    | appCfg r => exact ⟨installed, ingress, egress⟩
    | pktgenEnable devPort enable => exact ⟨installed, ingress, egress⟩
    | advancedFlowControlEnable pipe => exact ⟨installed, ingress, egress⟩
    | xoff pipe pgId pgQueue => exact ⟨installed, ingress, egress⟩

/-- Clearing leaves the configuration of the hardware alone. -/
theorem foldl_clear_kept (names : List Clearable) (s : SwitchState) :
    (names.foldl clear s).apps = s.apps ∧
      (names.foldl clear s).pktgenEnable = s.pktgenEnable ∧
      (names.foldl clear s).xoff = s.xoff := by
  induction names generalizing s with
  | nil => exact ⟨rfl, rfl, rfl⟩
  | cons name names ih =>
    obtain ⟨apps, pktgenEnable, xoff⟩ := ih (s.clear name)
    cases name <;> exact ⟨apps, pktgenEnable, xoff⟩

theorem update_apps_self (s : SwitchState) (r : Request) :
    (s.update (.appCfg r)).apps (appIdOf r) = configure r (s.apps (appIdOf r)) :=
  Function.update_self (appIdOf r) _ s.apps

theorem update_apps_of_ne {r : Request} {id : Nat} (differ : appIdOf r ≠ id) (s : SwitchState) :
    (s.update (.appCfg r)).apps id = s.apps id :=
  Function.update_of_ne differ.symm _ s.apps

/-- An application has a property after updates that all give it, if there is one or it had it
before. -/
theorem foldl_update_apps {P : App → Prop} {id : Nat} {updates : List Update} {s : SwitchState}
    (gives : ∀ r, Update.appCfg r ∈ updates → appIdOf r = id → ∀ a, P (configure r a))
    (start : P (s.apps id) ∨ ∃ u ∈ updates, ∃ r, u = .appCfg r ∧ appIdOf r = id) :
    P ((updates.foldl update s).apps id) := by
  refine History.foldl_establishes (Q := fun s : SwitchState => P (s.apps id))
    (fun s u member holds => ?_) (fun s u member sets => ?_) start
  · cases u with
    | appCfg r =>
      rcases Decidable.em (appIdOf r = id) with rfl | differ
      · rw [update_apps_self]
        exact gives r member rfl _
      · rw [update_apps_of_ne differ]
        exact holds
    | pktgenEnable devPort enable => exact holds
    | advancedFlowControlEnable pipe => exact holds
    | xoff pipe pgId pgQueue => exact holds
  · obtain ⟨r, rfl, rfl⟩ := sets
    rw [update_apps_self]
    exact gives r member rfl _

/-- A port of the packet generator is off after updates that all turn it off. -/
theorem foldl_update_pktgenEnable {devPort : U16} {updates : List Update} {s : SwitchState}
    (off : Update.pktgenEnable devPort true ∉ updates)
    (start : s.pktgenEnable devPort = false ∨ ∃ u ∈ updates, u = .pktgenEnable devPort false) :
    (updates.foldl update s).pktgenEnable devPort = false := by
  refine History.foldl_establishes (Q := fun s : SwitchState => s.pktgenEnable devPort = false)
    (fun s u member holds => ?_) (fun s u member sets => ?_) start
  · cases u with
    | appCfg r => exact holds
    | pktgenEnable devPort' enable =>
      rcases Decidable.em (devPort' = devPort) with rfl | differ
      · refine (Function.update_self devPort' enable s.pktgenEnable).trans ?_
        exact Bool.eq_false_iff.mpr fun on => off (on ▸ member)
      · exact (Function.update_of_ne (Ne.symm differ) enable s.pktgenEnable).trans holds
    | advancedFlowControlEnable pipe => exact holds
    | xoff pipe pgId pgQueue => exact holds
  · rw [sets]
    exact Function.update_self devPort false s.pktgenEnable

/-- A queue is under flow control after an update that puts it there. -/
theorem foldl_update_xoff {pipe pgId pgQueue : U32} {updates : List Update} {s : SwitchState}
    (member : Update.xoff pipe pgId pgQueue ∈ updates) :
    (updates.foldl update s).xoff pipe pgId pgQueue = true := by
  refine History.foldl_establishes (Q := fun s : SwitchState => s.xoff pipe pgId pgQueue = true)
    (fun s u _ holds => ?_) (fun s u _ sets => ?_) (.inr ⟨_, member, rfl⟩)
  · cases u with
    | appCfg r => exact holds
    | pktgenEnable devPort enable => exact holds
    | advancedFlowControlEnable pipe' => exact holds
    | xoff pipe' pgId' pgQueue' => simp [update, holds]
  · rw [← sets]
    simp [update]

end SwitchState

/-- The state after all calls. -/
def broughtUp (forwarding generators batch : List Request) (afc : List Update) (s : SwitchState) :
    SwitchState :=
  let s := startupTables.foldl SwitchState.clear s
  let s := PacketGenerator.resetUpdates.foldl SwitchState.update s
  let s := PacketGenerator.hyperperiodRegisters.foldl SwitchState.clear s
  let s := (generators.map Update.appCfg).foldl SwitchState.update s
  let s := TAS.configureAfcPipes.foldl SwitchState.update s
  let s := afc.foldl SwitchState.update s
  s.write (forwarding ++ (batch ++ Ptp.populatePtpTable))

theorem bringUp_eq_some {driver : Driver} (documented : driver.Documented)
    {forwarding generators batch : List Request} {afc : List Update}
    (run : bringUp driver forwarding generators batch afc s = some s') :
    s' = broughtUp forwarding generators batch afc s := by
  obtain ⟨s₁, cleared, run⟩ := Option.bind_eq_some_iff.mp run
  obtain ⟨s₃, reset, run⟩ := Option.bind_eq_some_iff.mp run
  obtain ⟨s₂, disabled, reset⟩ := Option.bind_eq_some_iff.mp reset
  obtain ⟨s₄, activated, run⟩ := Option.bind_eq_some_iff.mp run
  obtain ⟨s₅, pipes, run⟩ := Option.bind_eq_some_iff.mp run
  obtain ⟨s₆, ports, run⟩ := Option.bind_eq_some_iff.mp run
  rw [documented.write _ _ _ run, documented.update _ _ _ ports, documented.update _ _ _ pipes,
    documented.update _ _ _ activated, documented.clear _ _ _ reset,
    documented.update _ _ _ disabled, documented.clear _ _ _ cleared]
  rfl

/-- What the state is made of. -/
structure Restarted (macFromStr : String → Option (List U8)) (switch : Switch)
    (devPort : U32 → U32 → Option U32) (cfg out : Configuration) (app : AppState)
    (forwarding generators batch : List Request) (afc : List Update) (s s' : SwitchState) :
    Prop where
  forwardingRun : forwardingRequests devPort = .ok forwarding
  prepare : cfg.prepare = .ok (out, app)
  generatorsRun : PacketGenerator.activateTrafficGenApplications out = .ok generators
  afcRun : TAS.configureAfcPorts switch out = .ok afc
  batchRun : tableRequests macFromStr switch out app = .ok batch
  state : s' = broughtUp forwarding generators batch afc s

theorem run_eq_ok {driver : Driver} {macFromStr : String → Option (List U8)} {switch : Switch}
    {devPort : U32 → U32 → Option U32} {cfg : Configuration} (documented : driver.Documented)
    (restarted : run driver macFromStr switch devPort cfg s = .ok (some s')) :
    ∃ out app forwarding generators batch afc,
      Restarted macFromStr switch devPort cfg out app forwarding generators batch afc s s' := by
  obtain ⟨forwarding, forwardingRun, rest⟩ := Fallible.bind_eq_ok.mp restarted
  obtain ⟨⟨out, app⟩, prepare, rest⟩ := Fallible.bind_eq_ok.mp rest
  obtain ⟨generators, generatorsRun, rest⟩ := Fallible.bind_eq_ok.mp rest
  obtain ⟨afc, afcRun, rest⟩ := Fallible.bind_eq_ok.mp rest
  obtain ⟨batch, batchRun, rest⟩ := Fallible.bind_eq_ok.mp rest
  exact ⟨out, app, forwarding, generators, batch, afc, forwardingRun, prepare, generatorsRun,
    afcRun, batchRun, bringUp_eq_some documented (Except.ok.inj rest)⟩

end P4Tas.Controller
