import P4Tas.Controller.DeltaAdjustment
import P4Tas.Controller.Prepare

/-!
# The packet generator's entries

`packet_generator.rs`: the applications of the packet generator, one for the TAS control traffic and
one for the hyperperiod packets of each stream gate and of each port, and the entries that tell the
switch which gate or port an application or a batch belongs to.

`Configures` states what a list of requests says about one key value of a table.
-/

namespace P4Tas.Controller

/-- Some request of the table has the key value, and all that have it carry the data. -/
def Configures (requests : List Request) (table : Table) (key : Key) (value : Nat)
    (data : List (Param × Nat)) : Prop :=
  (∃ r ∈ requests, r.table = table ∧ r.key? key = some (.exact value)) ∧
    ∀ r ∈ requests, r.table = table → r.key? key = some (.exact value) →
      ∀ d ∈ data, r.data? d.1 = some d.2

namespace PacketGenerator

/-- The port the packets are generated on. -/
def sourcePort : U16 :=
  TG_PIPE_PORTS_TF2.head nofun

/-- The request for one application; `batch` is the part that sets batches and packets. -/
def appCfgRequest (appId : U8) (timerNanosec : Nat) (batch : List (Param × Nat)) : Request where
  table := .appCfg
  matchKeys := [(.appId, .exact appId.toNat)]
  action := .triggerTimerPeriodic
  actionData := [(.appEnable, 1), (.pktLen, 64), (.timerNanosec, timerNanosec)] ++ batch ++
    [(.pipeLocalSourcePort, sourcePort.toNat), (.pktBufferOffset, 0),
     (.assignedChnlId, sourcePort.toNat)]

/-- The control traffic has one batch for each port, of eight packets. -/
def tasControlRequest (batchCountCfg : U16) : Request :=
  appCfgRequest APP_ID_TAS_CONTROL 1
    [(.batchCountCfg, batchCountCfg.toNat), (.packetsPerBatchCfg, 7)]

def hyperperiodRequest (appId : U8) (hyperperiodDuration : U64) : Request :=
  appCfgRequest appId hyperperiodDuration.toNat [(.packetsPerBatchCfg, 0)]

def activateTrafficGenApplications (cfg : Configuration) : Rust (List Request) := do
  let batchMappings ← unwrap cfg.tas.batchMappings
  let batchCountCfg ← checkedSub (BitVec.ofNat 16 batchMappings.length) 1
  let appIdMappings ← unwrap cfg.psfp.appIdMappings
  return tasControlRequest batchCountCfg ::
    appIdMappings.map (fun m => hyperperiodRequest m.appId m.hyperperiodDuration) ++
    batchMappings.map (fun b => hyperperiodRequest b.appId b.hyperperiodDuration)

def appIdStreamGateRequest (m : AppIDMapping) : Request where
  table := .appIdStreamGate
  matchKeys := [(.timerAppId, .exact m.appId.toNat)]
  action := .assignAppIdStreamGate
  actionData := [(.streamGateId, m.streamGateId.toNat)]

def appIdTasRequest (b : BatchIDMapping) : Request where
  table := .appIdTas
  matchKeys := [(.timerAppId, .exact b.appId.toNat)]
  action := .assignAppIdTasPort
  actionData := [(.port, b.egressDevPort.toNat), (.duration, b.hyperperiodDuration.toNat)]

def batchIdToPortRequest (b : BatchIDMapping) : Request where
  table := .batchIdToPort
  matchKeys := [(.timerBatchId, .exact b.batchId.toNat)]
  action := .assignBatchIdTasPort
  actionData := [(.port, b.egressDevPort.toNat), (.hyperperiod, b.hyperperiodDuration.toNat)]

/-- The body of the loop over the app mappings. -/
def gateRequests (m : AppIDMapping) : List Request :=
  appIdStreamGateRequest m ::
    DeltaAdjustment.initHyperperiodExceededDetectionTable m.hyperperiodDuration

/-- The body of the loop over the batch mappings. -/
def portRequests (b : BatchIDMapping) : List Request :=
  appIdTasRequest b :: batchIdToPortRequest b ::
    DeltaAdjustment.initHyperperiodExceededDetectionTable b.hyperperiodDuration

def configureAppIds (cfg : Configuration) : Rust (List Request) := do
  let appIdMappings ← unwrap cfg.psfp.appIdMappings
  let batchMappings ← unwrap cfg.tas.batchMappings
  return appIdMappings.flatMap gateRequests ++ batchMappings.flatMap portRequests

end PacketGenerator

end P4Tas.Controller
