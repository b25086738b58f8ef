import P4Tas.DataPlane.Register
import P4Tas.DataPlane.Table

/-!
# The stream gate

`StreamGate.p4`.  Counters are left out, since no control reads them.
-/

namespace P4Tas.DataPlane

namespace StreamGate

structure Registers where
  regGateBlocked : Register 1
  stateResetOctets : Register 32
  firstSduPerInterval : Register 32
  octetsPerInterval : Register 32

/-- What the control leaves behind, and whether it executed `block_gate`. -/
structure Result where
  registers : Registers
  pkt : Packet
  blockGate : Bool

def setGateAndIpv (r : Request) (pkt : Packet) : Packet :=
  { pkt with igMd := { pkt.igMd with streamGate := { pkt.igMd.streamGate with
      psfpGateEnabled := param r .gateState 1
      ipv := param r .ipv 4
      maxOctetsInterval := param r .maxOctetsInterval 32
      intervalIdentifier := param r .intervalIdentifier 12 } } }

def missedTimeSlice (pkt : Packet) : Packet :=
  { pkt.drop with igDprsrMd := { pkt.igDprsrMd with digestType := 1 } }

/-- `stream_gate_instance.apply()`, with the packet after the action and whether it was a miss. -/
def streamGateInstance (tables : Tables) (pkt : Packet) : Packet × Bool :=
  match tables.lookup .streamGateInstance pkt.fields with
  | some r => (setGateAndIpv r pkt, false)
  | none => (missedTimeSlice pkt, true)

/-- `block_gate.execute(ig_md.stream_filter.stream_gate_id)` -/
def blockGate (target : Target) (registers : Registers) (pkt : Packet) : Result :=
  let gate := pkt.igMd.streamFilter.streamGateId.toNat
  { registers := { registers with
      regGateBlocked := target.write 2048 registers.regGateBlocked gate fun _ => 1 }
    pkt
    blockGate := target.executes 2048 gate }

def setResetOctetsFlag (pkt : Packet) (periodId : BitVec 32) : BitVec 32 × Bool :=
  if pkt.hdr.recirc.periodCount ≠ periodId then
    (pkt.hdr.recirc.periodCount, true)
  else
    (periodId, false)

def decrementOctets (pkt : Packet) (remainingOctets : BitVec 32) : BitVec 32 × BitVec 32 :=
  if remainingOctets > pkt.hdr.recirc.pktLen.setWidth 32 then
    (remainingOctets - pkt.hdr.recirc.pktLen.setWidth 32,
      remainingOctets - pkt.hdr.recirc.pktLen.setWidth 32)
  else
    (remainingOctets, 0)

def getFirstSdu (pkt : Packet) (firstSdu : BitVec 32) : BitVec 32 × BitVec 1 :=
  if pkt.igMd.streamGate.remainingOctets ≥ firstSdu then (firstSdu, 0) else (firstSdu, 1)

/-- The branch for `gate_closed_due_to_octets_exceeded_enable`. -/
def checkOctets (target : Target) (registers : Registers) (pkt : Packet) : Registers × Packet :=
  let interval := pkt.igMd.streamGate.intervalIdentifier.toNat
  let (stateResetOctets, resetOctets) :=
    target.execute 2048 registers.stateResetOctets interval (setResetOctetsFlag pkt)
  let registers := { registers with stateResetOctets }
  let pkt := { pkt with igMd := { pkt.igMd with
    streamGate := { pkt.igMd.streamGate with resetOctets } } }
  if resetOctets then
    ({ registers with
        octetsPerInterval := target.write 2048 registers.octetsPerInterval interval fun _ =>
          pkt.igMd.streamGate.maxOctetsInterval
        firstSduPerInterval := target.write 2048 registers.firstSduPerInterval interval fun _ =>
          pkt.hdr.recirc.pktLen.setWidth 32 },
      pkt)
  else
    let (octetsPerInterval, remainingOctets) :=
      target.execute 2048 registers.octetsPerInterval interval (decrementOctets pkt)
    let pkt := { pkt with igMd := { pkt.igMd with
      streamGate := { pkt.igMd.streamGate with remainingOctets } } }
    let (firstSduPerInterval, toBeDropped) :=
      target.execute 2048 registers.firstSduPerInterval interval (getFirstSdu pkt)
    ({ registers with octetsPerInterval, firstSduPerInterval },
      { pkt with igMd := { pkt.igMd with toBeDropped } })

/-! ### The steps of the octet check -/

def flagPeriod (pkt : Packet) (resetOctets : Bool) : Packet :=
  { pkt with igMd := { pkt.igMd with
      streamGate := { pkt.igMd.streamGate with resetOctets } } }

/-- The first frame of a period sets the octets that remain, and its own size. -/
def beginPeriod (target : Target) (registers : Registers) (pkt : Packet) : Registers × Packet :=
  let interval := pkt.igMd.streamGate.intervalIdentifier.toNat
  ({ registers with
      octetsPerInterval := target.write 2048 registers.octetsPerInterval interval fun _ =>
        pkt.igMd.streamGate.maxOctetsInterval
      firstSduPerInterval := target.write 2048 registers.firstSduPerInterval interval fun _ =>
        pkt.hdr.recirc.pktLen.setWidth 32 },
    pkt)

def keepRemaining (pkt : Packet) (remainingOctets : BitVec 32) : Packet :=
  { pkt with igMd := { pkt.igMd with
      streamGate := { pkt.igMd.streamGate with remainingOctets } } }

/-- The other frames take their size off, and are dropped when too little remains. -/
def countOctets (target : Target) (registers : Registers) (pkt : Packet) : Registers × Packet :=
  let interval := pkt.igMd.streamGate.intervalIdentifier.toNat
  let octets := target.execute 2048 registers.octetsPerInterval interval (decrementOctets pkt)
  let sdu := target.execute 2048 registers.firstSduPerInterval interval
    (getFirstSdu (keepRemaining pkt octets.2))
  ({ registers with octetsPerInterval := octets.1, firstSduPerInterval := sdu.1 },
    { keepRemaining pkt octets.2 with igMd := { (keepRemaining pkt octets.2).igMd with
        toBeDropped := sdu.2 } })

theorem checkOctets_steps (target : Target) (registers : Registers) (pkt : Packet) :
    checkOctets target registers pkt =
      let period := target.execute 2048 registers.stateResetOctets
        pkt.igMd.streamGate.intervalIdentifier.toNat (setResetOctetsFlag pkt)
      let registers := { registers with stateResetOctets := period.1 }
      if period.2 then
        beginPeriod target registers (flagPeriod pkt period.2)
      else
        countOctets target registers (flagPeriod pkt period.2) :=
  rfl

/-- The branches on the gate state. -/
def passGate (target : Target) (registers : Registers) (pkt : Packet) : Result :=
  if pkt.igMd.toBeDropped = 1 then
    blockGate target registers pkt
  else if pkt.igMd.streamGate.psfpGateEnabled = 0 then
    if pkt.igMd.streamGate.gateClosedDueToInvalidRxEnable then
      blockGate target registers pkt.drop
    else
      { registers, pkt := pkt.drop, blockGate := false }
  else
    let gateClosed :=
      target.read 2048 registers.regGateBlocked pkt.igMd.streamFilter.streamGateId.toNat
    let pkt := { pkt with igMd := { pkt.igMd with
      streamGate := { pkt.igMd.streamGate with gateClosed } } }
    if (pkt.igMd.streamGate.gateClosedDueToInvalidRxEnable ||
        pkt.igMd.streamGate.gateClosedDueToOctetsExceededEnable) ∧ gateClosed = 1 then
      { registers, pkt := pkt.drop, blockGate := false }
    else
      { registers, pkt, blockGate := false }

/-- The queue is the internal priority, or the PCP where that is 8. -/
def setQid (pkt : Packet) : Packet :=
  { pkt with igTmMd := { pkt.igTmMd with
      qid :=
        if pkt.igMd.streamGate.ipv = 8 then
          pkt.hdr.eth8021q.pcp.setWidth 7
        else
          pkt.igMd.streamGate.ipv.setWidth 7 } }

def apply (target : Target) (tables : Tables) (registers : Registers) (pkt : Packet) : Result :=
  if pkt.igMd.toBeDropped = 0 then
    let (pkt, miss) := streamGateInstance tables pkt
    if miss then
      if pkt.igMd.streamGate.gateClosedDueToInvalidRxEnable then
        blockGate target registers pkt
      else
        { registers, pkt, blockGate := false }
    else
      let (registers, pkt) :=
        if pkt.igMd.streamGate.gateClosedDueToOctetsExceededEnable then
          checkOctets target registers pkt
        else
          (registers, pkt)
      let result := passGate target registers pkt
      { result with pkt := setQid result.pkt }
  else
    { registers, pkt, blockGate := false }

end StreamGate

end P4Tas.DataPlane
