import P4Tas.DataPlane.Register
import P4Tas.DataPlane.Table

/-!
# The gates of the queues

`TAS.p4`, which runs in the egress pipeline.  A TAS control packet opens or closes the queue whose
id it carries, and every other packet measures how long after the opening it was dequeued.  Counters
are left out.
-/

namespace P4Tas.DataPlane

structure EgressHeaders where
  timer : Option Timer
  gclTime : Option GclTime
  eth8021q : Eth8021q
  deriving DecidableEq, Repr, Inhabited

structure EgressMetadata where
  newQueueState : BitVec 8
  deqTstamp : BitVec 32
  timeSeriesIndex : BitVec 32
  deriving DecidableEq, Repr, Inhabited

/-- `egress_intrinsic_metadata_t` -/
structure EgressIntrinsicMetadata where
  enqTstamp : BitVec 32
  deqTimedelta : BitVec 32
  deriving DecidableEq, Repr, Inhabited

/-- `egress_intrinsic_metadata_for_deparser_t` -/
structure EgressDprsrMetadata where
  advFlowCtl : BitVec 32
  dropCtl : BitVec 3
  deriving DecidableEq, Repr, Inhabited

/-- A packet in the egress pipeline; `globalTstamp` is of the metadata from the parser. -/
structure EgressPacket where
  hdr : EgressHeaders
  egMd : EgressMetadata
  egIntrMd : EgressIntrinsicMetadata
  egDprsrMd : EgressDprsrMetadata
  globalTstamp : BitVec 48
  deriving DecidableEq, Repr, Inhabited

namespace EgressPacket

/-- The fields of the packet that are keys of egress tables. -/
def fields (pkt : EgressPacket) : Request.Fields
  | .timerAppId => (pkt.hdr.timer.map (·.appId.toNat)).getD 0
  | .timerPipeId => (pkt.hdr.timer.map (·.pipeId.toNat)).getD 0
  | .timerPacketId => (pkt.hdr.timer.map (·.packetId.toNat)).getD 0
  | .timerBatchId => (pkt.hdr.timer.map (·.batchId.toNat)).getD 0
  | .gclTimeDiffTs => (pkt.hdr.gclTime.map (·.diffTs.toNat)).getD 0
  | _ => 0

end EgressPacket

namespace TAS

structure Registers where
  queueState : Register 8
  lowerLastTs : Register 32
  regTsDequeueDiff : Register 32
  regDequeueTsMeasurement : Register 8
  nextTimeSeriesIndex : Register 32

/-- The initial contents of the registers. -/
def Registers.initial : Registers where
  queueState := fun _ => 0
  lowerLastTs := fun _ => 0
  regTsDequeueDiff := fun _ => 0
  regDequeueTsMeasurement := fun _ => 0
  nextTimeSeriesIndex := fun _ => 0

/-- What the control leaves behind, and its local variables. -/
structure Result where
  registers : Registers
  pkt : EgressPacket
  previousQueueStateTs : BitVec 32
  diffDequeueTs : BitVec 32
  doDequeueTsMeasurement : BitVec 8

def openQueue (r : Request) (pkt : EgressPacket) : EgressPacket :=
  { pkt with
    egDprsrMd := { pkt.egDprsrMd with advFlowCtl := param r .afc 32 }
    egMd := { pkt.egMd with newQueueState := 1 } }

def closeQueue (r : Request) (pkt : EgressPacket) : EgressPacket :=
  { pkt with
    egDprsrMd := { pkt.egDprsrMd with advFlowCtl := param r .afc 32 }
    egMd := { pkt.egMd with newQueueState := 0 } }

/-- `gate_control_list.apply()`; a missed time slot leaves the packet as it is. -/
def gateControlList (tables : Tables) (pkt : EgressPacket) : EgressPacket :=
  match tables.lookup .gateControlList pkt.fields with
  | some r =>
    match r.action with
    | .openQueue => openQueue r pkt
    | .closeQueue => closeQueue r pkt
    | _ => pkt
  | none => pkt

/-- Sets the queue state, and reads whether it changed. -/
def readAndSetQueueState (pkt : EgressPacket) (value : BitVec 8) : BitVec 8 × Bool :=
  (pkt.egMd.newQueueState, decide (value ≠ pkt.egMd.newQueueState))

def readAndDeactivateDequeueMeasurement (value : BitVec 8) : BitVec 8 × BitVec 8 :=
  (0, value)

def getAndIncrementNextTimeSeriesIndex (value : BitVec 32) : BitVec 32 × BitVec 32 :=
  (value + 1, value)

def calculateDequeueTimestamp (pkt : EgressPacket) : EgressPacket :=
  { pkt with egMd := { pkt.egMd with
      deqTstamp := pkt.egIntrMd.enqTstamp + pkt.egIntrMd.deqTimedelta } }

/-- The packet is a TAS control packet. -/
def Control (pkt : EgressPacket) : Prop :=
  ∃ timer, pkt.hdr.timer = some timer ∧ timer.appId = 0

instance (pkt : EgressPacket) : Decidable (Control pkt) :=
  match parsed : pkt.hdr.timer with
  | some timer => decidable_of_iff (timer.appId = 0) (by
      unfold Control
      simp [parsed])
  | none => .isFalse (by
      unfold Control
      simp [parsed])

/-- The branch for TAS control packets. -/
def applyControl (target : Target) (tables : Tables) (registers : Registers)
    (pkt : EgressPacket) : Result :=
  let pkt := gateControlList tables pkt
  let (queueState, changed) :=
    target.execute 256 registers.queueState 0 (readAndSetQueueState pkt)
  let registers := { registers with queueState }
  let registers :=
    if changed then
      if pkt.egMd.newQueueState = 1 then
        { registers with
          lowerLastTs := target.write 256 registers.lowerLastTs 0 fun _ =>
            pkt.globalTstamp.setWidth 32
          regDequeueTsMeasurement :=
            target.write 256 registers.regDequeueTsMeasurement 0 fun _ => 1 }
      else
        registers
    else
      registers
  { registers
    pkt := { pkt with egDprsrMd := { pkt.egDprsrMd with dropCtl := 3 } }
    previousQueueStateTs := 0
    diffDequeueTs := 0
    doDequeueTsMeasurement := 0 }

/-- Stores the difference as the next element of the time series. -/
def storeDiff (target : Target) (registers : Registers) (pkt : EgressPacket)
    (diffDequeueTs : BitVec 32) : Registers × EgressPacket :=
  let (nextTimeSeriesIndex, timeSeriesIndex) :=
    target.execute 256 registers.nextTimeSeriesIndex 0 getAndIncrementNextTimeSeriesIndex
  ({ registers with
      nextTimeSeriesIndex
      regTsDequeueDiff := target.write 90000 registers.regTsDequeueDiff timeSeriesIndex.toNat
        fun _ => diffDequeueTs },
    { pkt with egMd := { pkt.egMd with timeSeriesIndex } })

/-- The branch for the other packets. -/
def applyData (target : Target) (registers : Registers) (pkt : EgressPacket) : Result :=
  let pkt := calculateDequeueTimestamp pkt
  let pcp := pkt.hdr.eth8021q.pcp
  let previousQueueStateTs := target.read 256 registers.lowerLastTs pcp.toNat
  let diffDequeueTs := pkt.egMd.deqTstamp - previousQueueStateTs
  let (regDequeueTsMeasurement, doDequeueTsMeasurement) :=
    target.execute 256 registers.regDequeueTsMeasurement pcp.toNat
      readAndDeactivateDequeueMeasurement
  let registers := { registers with regDequeueTsMeasurement }
  let (registers, pkt) :=
    if doDequeueTsMeasurement = 1 ∧ pcp = 0 then
      storeDiff target registers pkt diffDequeueTs
    else
      (registers, pkt)
  { registers, pkt, previousQueueStateTs, diffDequeueTs, doDequeueTsMeasurement }

def apply (target : Target) (tables : Tables) (registers : Registers) (pkt : EgressPacket) :
    Result :=
  if Control pkt then
    applyControl target tables registers pkt
  else
    applyData target registers pkt

end TAS

end P4Tas.DataPlane
