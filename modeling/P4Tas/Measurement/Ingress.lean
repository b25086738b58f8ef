import P4Tas.DataPlane.Register

/-!
# The measurement switch

`ingress.p4`, `TimestampRegister.p4` and `TimestampSeriesRegister.p4` of the measurement program.
For each queue there are two series of timestamps: those of its first packets after another queue
was active, and those of the last packets before the next queue is.  Counters are left out.
-/

namespace P4Tas.Measurement

open DataPlane

/-! ## Timestamp registers -/

/-- The two registers of a timestamp control. -/
structure Timestamps where
  lowerLastTsSeries : Register 32
  higherLastTsSeries : Register 16

namespace Timestamps

/-- The initial contents. -/
def zero : Timestamps where
  lowerLastTsSeries := fun _ => 0
  higherLastTsSeries := fun _ => 0

/-- The timestamp in a cell. -/
def value (ts : Timestamps) (i : Nat) : BitVec 48 :=
  ts.higherLastTsSeries i ++ ts.lowerLastTsSeries i

end Timestamps

/-- `new_timestamp[31:0]` -/
def lower (ts : BitVec 48) : BitVec 32 :=
  ts.extractLsb' 0 32

/-- `new_timestamp[47:32]` -/
def higher (ts : BitVec 48) : BitVec 16 :=
  ts.extractLsb' 32 16

/-- `TimestampRegister.apply`, with `last_timestamp`. -/
def timestampRegister (target : Target) (registers : Timestamps) (newTimestamp : BitVec 48) :
    Timestamps × BitVec 48 :=
  let (lowerLastTsSeries, lowerLast) := target.execute 4096 registers.lowerLastTsSeries 0
    fun value => (lower newTimestamp, value)
  let (higherLastTsSeries, higherLast) := target.execute 4096 registers.higherLastTsSeries 0
    fun value => (higher newTimestamp, value)
  ({ lowerLastTsSeries, higherLastTsSeries }, higherLast ++ lowerLast)

/-- `TimestampSeriesRegister.apply` -/
def timestampSeriesRegister (target : Target) (registers : Timestamps) (newTimestamp : BitVec 48)
    (timeSeriesIndex : BitVec 32) : Timestamps where
  lowerLastTsSeries := target.write 4096 registers.lowerLastTsSeries timeSeriesIndex.toNat
    fun _ => lower newTimestamp
  higherLastTsSeries := target.write 4096 registers.higherLastTsSeries timeSeriesIndex.toNat
    fun _ => higher newTimestamp

/-! ## The control -/

/-- What the control uses of a packet. -/
structure Packet where
  pcp : BitVec 3
  ingressMacTstamp : BitVec 48
  deriving DecidableEq, Repr

/-- The registers, the series by the queue in their name. -/
structure Registers where
  lastQueueActive : Register 8
  nextTimeSeriesIndex : Register 32
  tsLastPacket : Timestamps
  tsSeriesFirstPacket : BitVec 3 → Timestamps
  tsSeriesLastPacket : BitVec 3 → Timestamps

/-- The initial contents of the registers. -/
def Registers.initial : Registers where
  lastQueueActive := fun _ => 0
  nextTimeSeriesIndex := fun _ => 0
  tsLastPacket := .zero
  tsSeriesFirstPacket := fun _ => .zero
  tsSeriesLastPacket := fun _ => .zero

/-- Sets the active queue, and reads whether it changed. -/
def readAndSetQueueState (newActiveQueue value : BitVec 8) : BitVec 8 × Bool :=
  (newActiveQueue, decide (value ≠ newActiveQueue))

def getAndIncrementNextTimeSeriesIndex (value : BitVec 32) : BitVec 32 × BitVec 32 :=
  (value + 1, value)

/-- The branches on the PCP: a packet of queue `pcp` is written to the first packets of that queue,
and the previous packet to the last packets of the queue before it, which for queue 0 is queue 7. -/
def writeSeries (target : Target) (registers : Registers) (pkt : Packet)
    (previousTimestamp : BitVec 48) (timeSeriesIndex : BitVec 32) : Registers :=
  { registers with
    tsSeriesFirstPacket := Function.update registers.tsSeriesFirstPacket pkt.pcp
      (timestampSeriesRegister target (registers.tsSeriesFirstPacket pkt.pcp)
        pkt.ingressMacTstamp timeSeriesIndex)
    tsSeriesLastPacket := Function.update registers.tsSeriesLastPacket (pkt.pcp - 1)
      (timestampSeriesRegister target (registers.tsSeriesLastPacket (pkt.pcp - 1))
        previousTimestamp timeSeriesIndex) }

def apply (target : Target) (registers : Registers) (pkt : Packet) : Registers :=
  let (lastQueueActive, activeQueueHasChanged) :=
    target.execute 256 registers.lastQueueActive 0 (readAndSetQueueState (pkt.pcp.setWidth 8))
  let (tsLastPacket, previousTimestamp) :=
    timestampRegister target registers.tsLastPacket pkt.ingressMacTstamp
  let registers := { registers with lastQueueActive, tsLastPacket }
  if activeQueueHasChanged then
    let (nextTimeSeriesIndex, timeSeriesIndex) := target.execute 256 registers.nextTimeSeriesIndex
      pkt.pcp.toNat getAndIncrementNextTimeSeriesIndex
    writeSeries target { registers with nextTimeSeriesIndex } pkt previousTimestamp timeSeriesIndex
  else
    registers

/-- The registers after a sequence of packets. -/
def measure (target : Target) (registers : Registers) (pkts : List Packet) : Registers :=
  pkts.foldl (apply target) registers

/-! ## What is written is read -/

theorem higher_append_lower (ts : BitVec 48) : higher ts ++ lower ts = ts := by
  unfold higher lower
  ext i inside
  simp only [BitVec.getElem_append, BitVec.getElem_extractLsb']
  split
  · rw [Nat.zero_add, BitVec.getLsbD_eq_getElem inside]
  · rename_i high
    rw [show 32 + (i - 32) = i by omega, BitVec.getLsbD_eq_getElem inside]

theorem timestampRegister_eq (target : Target) (registers : Timestamps)
    (newTimestamp : BitVec 48) :
    (timestampRegister target registers newTimestamp).1.value 0 = newTimestamp ∧
      (timestampRegister target registers newTimestamp).2 = registers.value 0 := by
  have selects := target.inRange 4096 0 (by decide)
  unfold timestampRegister
  rw [Target.execute_cell selects, Target.execute_cell selects]
  refine ⟨?_, rfl⟩
  unfold Timestamps.value
  dsimp only
  rw [Function.update_self, Function.update_self, higher_append_lower]

theorem timestampSeriesRegister_value (target : Target) (registers : Timestamps)
    (newTimestamp : BitVec 48) {timeSeriesIndex : BitVec 32} (inside : timeSeriesIndex.toNat < 4096)
    (i : Nat) :
    (timestampSeriesRegister target registers newTimestamp timeSeriesIndex).value i =
      if i = timeSeriesIndex.toNat then newTimestamp else registers.value i := by
  unfold timestampSeriesRegister Timestamps.value
  dsimp only
  rw [Target.write_cell (target.inRange 4096 _ inside),
    Target.write_cell (target.inRange 4096 _ inside)]
  split
  · rename_i same
    rw [same, Function.update_self, Function.update_self, higher_append_lower]
  · rename_i other
    rw [Function.update_of_ne other, Function.update_of_ne other]

end P4Tas.Measurement
