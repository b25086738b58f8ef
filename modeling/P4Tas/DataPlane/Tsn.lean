import P4Tas.DataPlane.DeltaAdjustment
import P4Tas.DataPlane.FlowMeter
import P4Tas.DataPlane.StreamGate
import P4Tas.DataPlane.StreamIdentification

/-!
# The TSN control

`TSN.p4`: hyperperiod packets update the registers that hold the last timestamps; TAS control
packets and frames of streams read them, find their position in the hyperperiod, and the frames pass
the stream gate and the flow meter.
-/

namespace P4Tas.DataPlane

namespace Tsn

structure Registers where
  lowerLastTs : Register 32
  higherLastTs : Register 16
  hyperperiodDone : Register 1
  periodCount : Register 32
  tasLowerLastTs : Register 32
  tasHigherLastTs : Register 16
  nextTimeSeriesIndexTasDiff : Register 32
  tasHyperperiodDiff : Register 32
  streamGate : StreamGate.Registers
  regMeterBlocked : FlowMeter.Registers

/-- What the control leaves behind, and which of the blocking register actions it executed. -/
structure Result where
  registers : Registers
  pkt : Packet
  blockGate : Bool
  blockMeter : Bool

/-! ## Hyperperiod packets -/

def lowerTstamp (pkt : Packet) : BitVec 32 :=
  pkt.igIntrMd.ingressMacTstamp.setWidth 32

def higherTstamp (pkt : Packet) : BitVec 16 :=
  (pkt.igIntrMd.ingressMacTstamp >>> 32).setWidth 16

def assignAppIdStreamGate (r : Request) (pkt : Packet) : Packet :=
  { pkt with igMd := { pkt.igMd with hyperperiod := { pkt.igMd.hyperperiod with
      streamGateId := param r .streamGateId 16 } } }

def assignAppIdTasPort (r : Request) (pkt : Packet) : Packet :=
  { pkt with igMd := { pkt.igMd with hyperperiod := { pkt.igMd.hyperperiod with
      tasPort := param r .port 9
      duration := param r .duration 64 } } }

def assignBatchIdTasPort (r : Request) (pkt : Packet) : Packet :=
  { pkt with igMd := { pkt.igMd with hyperperiod := { pkt.igMd.hyperperiod with
      tasPort := param r .port 9
      duration := param r .hyperperiod 64 } } }

/-- The hyperperiod packet of a stream gate. -/
def finishGatePeriod (target : Target) (registers : Registers) (pkt : Packet) :
    Registers × Packet :=
  let gate := pkt.igMd.hyperperiod.streamGateId.toNat
  let (hyperperiodDone, isHyperperiodDone) :=
    target.execute 256 registers.hyperperiodDone gate fun value => (1, value)
  let registers := { registers with
    lowerLastTs := target.write 256 registers.lowerLastTs gate fun _ => lowerTstamp pkt
    higherLastTs := target.write 256 registers.higherLastTs gate fun _ => higherTstamp pkt
    hyperperiodDone
    periodCount := target.write 256 registers.periodCount gate fun value => value + 1 }
  if isHyperperiodDone = 0 then
    (registers, { pkt with igDprsrMd := { pkt.igDprsrMd with digestType := 6 } })
  else
    (registers, pkt)

/-- The hyperperiod packet of a port. -/
def finishPortPeriod (target : Target) (registers : Registers) (pkt : Packet) :
    Registers × Packet :=
  let port := pkt.igMd.hyperperiod.tasPort.toNat
  let (tasLowerLastTs, lower) :=
    target.execute 256 registers.tasLowerLastTs port fun value => (lowerTstamp pkt, value)
  let (tasHigherLastTs, higher) :=
    target.execute 256 registers.tasHigherLastTs port fun value => (higherTstamp pkt, value)
  let previousTasTs : BitVec 64 := (higher ++ lower).setWidth 64
  let tasDiff : BitVec 64 := pkt.igIntrMd.ingressMacTstamp.setWidth 64 - previousTasTs
  let (nextTimeSeriesIndexTasDiff, timeSeriesIndexTasDiff) :=
    target.execute 256 registers.nextTimeSeriesIndexTasDiff 0 fun value => (value + 1, value)
  let pkt := { pkt with igMd := { pkt.igMd with
    hyperperiod := { pkt.igMd.hyperperiod with tasDiff := tasDiff.setWidth 32 }
    timeSeriesIndexTasDiff } }
  ({ registers with
      tasLowerLastTs
      tasHigherLastTs
      nextTimeSeriesIndexTasDiff
      tasHyperperiodDiff := target.write 16000 registers.tasHyperperiodDiff
        timeSeriesIndexTasDiff.toNat fun _ => pkt.igMd.hyperperiod.tasDiff },
    pkt)

def hyperperiodPacket (target : Target) (tables : Tables) (registers : Registers) (pkt : Packet) :
    Result :=
  let (registers, pkt) :=
    match tables.lookup .appIdStreamGate pkt.fields with
    | some r => finishGatePeriod target registers (assignAppIdStreamGate r pkt)
    | none =>
      match tables.lookup .appIdTas pkt.fields with
      | some r => finishPortPeriod target registers (assignAppIdTasPort r pkt)
      | none => (registers, pkt)
  { registers, pkt := pkt.drop, blockGate := false, blockMeter := false }

/-! ## The position in the hyperperiod -/

def setHyperperiodTs (hyperperiodTs : BitVec 48) (pkt : Packet) : Packet :=
  { pkt with igMd := { pkt.igMd with hyperperiodTs } }

/-- The last timestamp of the port of a TAS control packet. -/
def readPortTs (target : Target) (tables : Tables) (registers : Registers) (pkt : Packet) :
    Packet :=
  let pkt :=
    match tables.lookup .batchIdToPort pkt.fields with
    | some r => assignBatchIdTasPort r pkt
    | none => pkt
  let port := pkt.igMd.hyperperiod.tasPort.toNat
  setHyperperiodTs
    (target.read 256 registers.tasHigherLastTs port ++
      target.read 256 registers.tasLowerLastTs port) pkt

/-- The last timestamp of the gate of a frame. -/
def readGateTs (target : Target) (tables : Tables) (registers : Registers) (pkt : Packet) :
    Packet :=
  let pkt := StreamIdentification.apply tables pkt
  let gate := pkt.igMd.streamFilter.streamGateId.toNat
  setHyperperiodTs
    (target.read 256 registers.higherLastTs gate ++ target.read 256 registers.lowerLastTs gate) pkt

def calcDiffTs (pkt : Packet) : Packet :=
  pkt.setDiffTs (pkt.igIntrMd.ingressMacTstamp - pkt.igMd.hyperperiodTs)

@[simp] theorem calcDiffTs_diffTs (pkt : Packet) :
    (calcDiffTs pkt).igMd.diffTs = pkt.igIntrMd.ingressMacTstamp - pkt.igMd.hyperperiodTs :=
  rfl

@[simp] theorem calcDiffTs_hyperperiodTs (pkt : Packet) :
    (calcDiffTs pkt).igMd.hyperperiodTs = pkt.igMd.hyperperiodTs :=
  rfl

@[simp] theorem calcDiffTs_hyperperiod (pkt : Packet) :
    (calcDiffTs pkt).igMd.hyperperiod = pkt.igMd.hyperperiod :=
  rfl

@[simp] theorem calcDiffTs_igIntrMd (pkt : Packet) : (calcDiffTs pkt).igIntrMd = pkt.igIntrMd :=
  rfl

/-! ## The control -/

/-- What a TAS control packet carries to the egress. -/
def finishControlPacket (tables : Tables) (pkt : Packet) : Packet :=
  let pkt := { pkt with hdr := { pkt.hdr with
    gclTime := some { diffTs := pkt.igMd.diffTs.setWidth 64 } } }
  match tables.lookup .mappingTasControlRecirculationPort pkt.fields with
  | some r => { pkt with igTmMd := { pkt.igTmMd with ucastEgressPort := param r .recircPort 9 } }
  | none => pkt

/-- The stream gate, the flow meter and the drop of a frame. -/
def finishFrame (target : Target) (tables : Tables) (meter : MeterColor → BitVec 2)
    (registers : Registers) (pkt : Packet) : Result :=
  let gate := StreamGate.apply target tables registers.streamGate pkt
  let flow := FlowMeter.apply target tables meter registers.regMeterBlocked gate.pkt
  { registers :=
      { registers with streamGate := gate.registers, regMeterBlocked := flow.regMeterBlocked }
    pkt :=
      if flow.pkt.igMd.toBeDropped = 1 then
        { flow.pkt with igDprsrMd := { flow.pkt.igDprsrMd with dropCtl := 3 } }
      else
        flow.pkt
    blockGate := gate.blockGate
    blockMeter := flow.blockMeter }

def apply (target : Target) (tables : Tables) (meter : MeterColor → BitVec 2)
    (registers : Registers) (pkt : Packet) : Result :=
  match pkt.hdr.timer with
  | some timer =>
    if timer.appId ≠ 0 then
      hyperperiodPacket target tables registers pkt
    else
      let pkt := readPortTs target tables registers pkt
      let pkt := DeltaAdjustment.apply tables (calcDiffTs pkt)
      { registers, pkt := finishControlPacket tables pkt, blockGate := false, blockMeter := false }
  | none =>
    let pkt := readGateTs target tables registers pkt
    let pkt := DeltaAdjustment.apply tables (calcDiffTs pkt)
    finishFrame target tables meter registers pkt

end Tsn

end P4Tas.DataPlane
