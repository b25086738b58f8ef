import P4Tas.Controller.StreamRequests
import P4Tas.DataPlane.Tsn
import P4Tas.Lib.Transition

/-!
# Permanent blocking

A gate or a flow meter that was blocked once drops every later frame, on whatever path the frame
takes: the paths that do not read the blocked bit drop the frame for another reason, and nothing
after them takes the drop back.

* `StreamGate.Blocks`, `FlowMeter.Blocks`: the cell of the gate or meter holds a one;
* `StreamGate.apply_spec`, `FlowMeter.apply_spec`: a pass through the control preserves this, when
  it establishes it, and that it then drops;
* `Tsn.apply_frame`: what the control does to a frame, from its stream on;
* `Tsn.blocked_forever`: the same over runs of frames;
* `Tsn.uniformGates_configured`: what it asks of the tables holds of the controller's entries.
-/

namespace P4Tas.DataPlane

theorem eq_one_of_ne_zero {b : BitVec 1} (nonzero : b ≠ 0) : b = 1 := by
  rcases BitVec.eq_zero_or_eq_one b with zero | one
  · exact absurd zero nonzero
  · exact one

/-! ## The stream gate -/

namespace StreamGate

/-- The gate is blocked in the register. -/
def Blocks (target : Target) (registers : Registers) (gate : BitVec 12) : Prop :=
  ∃ c, target.cell 2048 gate.toNat = some c ∧ registers.regGateBlocked c = 1

/-- The packet belongs to the gate, and may block it for one of the two reasons. -/
structure Blockable (pkt : Packet) (gate : BitVec 12) : Prop where
  gate_eq : pkt.igMd.streamFilter.streamGateId = gate
  enabled : (pkt.igMd.streamGate.gateClosedDueToInvalidRxEnable ||
    pkt.igMd.streamGate.gateClosedDueToOctetsExceededEnable) = true

variable {target : Target} {tables : Tables} {registers : Registers} {pkt : Packet}
  {gate : BitVec 12}

theorem streamGateInstance_eq (tables : Tables) (pkt : Packet) :
    (∃ r, streamGateInstance tables pkt = (setGateAndIpv r pkt, false)) ∨
      streamGateInstance tables pkt = (missedTimeSlice pkt, true) := by
  unfold streamGateInstance
  cases tables.lookup .streamGateInstance pkt.fields with
  | some r => exact .inl ⟨r, rfl⟩
  | none => exact .inr rfl

/-- The octet check changes only its own registers and metadata, and the drop flag. -/
theorem checkOctets_eq (target : Target) (registers : Registers) (pkt : Packet) :
    (checkOctets target registers pkt).1.regGateBlocked = registers.regGateBlocked ∧
      ∃ resetOctets remainingOctets toBeDropped, (checkOctets target registers pkt).2 =
        { pkt with igMd := { pkt.igMd with
            toBeDropped
            streamGate := { pkt.igMd.streamGate with resetOctets, remainingOctets } } } := by
  unfold checkOctets
  dsimp only
  split
  · exact ⟨rfl, _, _, _, rfl⟩
  · exact ⟨rfl, _, _, _, rfl⟩

/-- Blocking a gate blocks it when the action is executed, and no other gate is unblocked. -/
theorem blockGate_blocks (executed : (blockGate target registers pkt).blockGate = true)
    (gate_eq : pkt.igMd.streamFilter.streamGateId = gate) :
    Blocks target (blockGate target registers pkt).registers gate := by
  unfold blockGate at executed
  obtain ⟨c, selects⟩ := Option.isSome_iff_exists.mp executed
  rw [gate_eq] at selects
  refine ⟨c, selects, ?_⟩
  unfold blockGate
  rw [gate_eq]
  exact Target.write_const_cell selects

theorem blockGate_keeps (blocked : Blocks target registers gate) :
    Blocks target (blockGate target registers pkt).registers gate := by
  obtain ⟨c, selects, holds⟩ := blocked
  exact ⟨c, selects, Target.write_const_keeps holds⟩

/-- The branches on the gate state, once the octets are checked. -/
theorem passGate_spec (target : Target) (registers : Registers) (pkt : Packet)
    (gate : BitVec 12) :
    (Blocks target registers gate → Blocks target (passGate target registers pkt).registers gate) ∧
      ((passGate target registers pkt).blockGate = true →
        pkt.igMd.streamFilter.streamGateId = gate →
          Blocks target (passGate target registers pkt).registers gate ∧
            (pkt.igMd.toBeDropped = 1 ∨
              pkt.igMd.streamGate.gateClosedDueToInvalidRxEnable = true)) ∧
      (Blockable pkt gate → Blocks target registers gate →
        (passGate target registers pkt).pkt.igMd.toBeDropped = 1) := by
  unfold passGate
  split
  · rename_i dropped
    exact ⟨blockGate_keeps,
      fun executed gate_eq => ⟨blockGate_blocks executed gate_eq, .inl dropped⟩,
      fun _ _ => dropped⟩
  · split
    · split
      · rename_i enabled
        exact ⟨blockGate_keeps,
          fun executed gate_eq => ⟨blockGate_blocks executed gate_eq, .inr enabled⟩, fun _ _ => rfl⟩
      · exact ⟨id, nofun, fun _ _ => rfl⟩
    · dsimp only
      split
      · exact ⟨id, nofun, fun _ _ => rfl⟩
      · rename_i notClosed
        refine ⟨id, nofun, fun blockable blocked => ?_⟩
        -- the blocked bit is read here
        obtain ⟨c, selects, holds⟩ := blocked
        rw [← blockable.gate_eq] at selects
        exact absurd ⟨blockable.enabled, (Target.read_cell selects).trans holds⟩ notClosed

/-- A pass through the stream gate keeps a blocked gate blocked, blocks a gate only for one of the
two reasons, and drops the packets of a blocked gate. -/
theorem apply_spec (target : Target) (tables : Tables) (registers : Registers) (pkt : Packet)
    (gate : BitVec 12) :
    (Blocks target registers gate →
        Blocks target (apply target tables registers pkt).registers gate) ∧
      ((apply target tables registers pkt).blockGate = true →
        pkt.igMd.streamFilter.streamGateId = gate →
          Blocks target (apply target tables registers pkt).registers gate ∧
            Blockable pkt gate) ∧
      ((pkt.igMd.toBeDropped = 1 ∨ Blockable pkt gate ∧ Blocks target registers gate) →
        (apply target tables registers pkt).pkt.igMd.toBeDropped = 1) := by
  unfold apply
  split
  · rename_i notDropped
    have fresh (h : pkt.igMd.toBeDropped = 1 ∨ Blockable pkt gate ∧ Blocks target registers gate) :
        Blockable pkt gate ∧ Blocks target registers gate := by
      rcases h with dropped | blocked
      · rw [notDropped] at dropped
        exact absurd dropped (by decide)
      · exact blocked
    rcases streamGateInstance_eq tables pkt with ⟨r, hit⟩ | miss
    · rw [hit]
      dsimp only
      rw [if_neg Bool.false_ne_true]
      split
      · rename_i octetsEnabled
        obtain ⟨registersEq, resetOctets, remainingOctets, toBeDropped, pktEq⟩ :=
          checkOctets_eq target registers (setGateAndIpv r pkt)
        have spec := passGate_spec target
          (checkOctets target registers (setGateAndIpv r pkt)).1
          (checkOctets target registers (setGateAndIpv r pkt)).2 gate
        have same : Blocks target (checkOctets target registers (setGateAndIpv r pkt)).1 gate ↔
            Blocks target registers gate := by
          unfold Blocks
          rw [registersEq]
        rw [same] at spec
        obtain ⟨keeps, blocks, drops⟩ := spec
        rw [pktEq] at keeps blocks drops ⊢
        refine ⟨keeps, fun executed gate_eq => ⟨(blocks executed gate_eq).1, gate_eq, ?_⟩,
          fun h => ?_⟩
        · have enabled : pkt.igMd.streamGate.gateClosedDueToOctetsExceededEnable = true :=
            octetsEnabled
          rw [enabled, Bool.or_true]
        · obtain ⟨blockable, blocked⟩ := fresh h
          exact drops ⟨blockable.gate_eq, blockable.enabled⟩ blocked
      · obtain ⟨keeps, blocks, drops⟩ :=
          passGate_spec target registers (setGateAndIpv r pkt) gate
        refine ⟨keeps, fun executed gate_eq => ⟨(blocks executed gate_eq).1, gate_eq, ?_⟩,
          fun h => ?_⟩
        · rcases (blocks executed gate_eq).2 with dropped | enabled
          · have : pkt.igMd.toBeDropped = 1 := dropped
            rw [notDropped] at this
            exact absurd this (by decide)
          · have enabledHere : pkt.igMd.streamGate.gateClosedDueToInvalidRxEnable = true := enabled
            rw [enabledHere, Bool.true_or]
        · obtain ⟨blockable, blocked⟩ := fresh h
          exact drops ⟨blockable.gate_eq, blockable.enabled⟩ blocked
    · rw [miss]
      dsimp only
      rw [if_pos rfl]
      split
      · rename_i enabled
        refine ⟨blockGate_keeps,
          fun executed gate_eq => ⟨blockGate_blocks executed gate_eq, gate_eq, ?_⟩, fun _ => rfl⟩
        have enabledHere : pkt.igMd.streamGate.gateClosedDueToInvalidRxEnable = true := enabled
        rw [enabledHere, Bool.true_or]
      · exact ⟨id, nofun, fun _ => rfl⟩
  · rename_i dropped
    exact ⟨id, nofun, fun _ => eq_one_of_ne_zero dropped⟩

end StreamGate

/-! ## The flow meter -/

namespace FlowMeter

/-- The meter is blocked in the register. -/
def Blocks (target : Target) (regMeterBlocked : Registers) (meter : BitVec 16) : Prop :=
  ∃ c, target.cell 2048 meter.toNat = some c ∧ regMeterBlocked c = 1

variable {target : Target} {regMeterBlocked : Registers} {pkt : Packet} {m : BitVec 16}

/-- The four colors. -/
theorem color_cases (color : BitVec 2) : (color = 1 ∨ color = 2) ∨ color = 3 ∨ color = 0 := by
  revert color
  decide

/-- Blocking a meter keeps a blocked one blocked. -/
theorem blockMeter_keeps {index : Nat} (blocked : Blocks target regMeterBlocked m) :
    Blocks target (target.write 2048 regMeterBlocked index fun _ => 1) m := by
  obtain ⟨c, selects, holds⟩ := blocked
  exact ⟨c, selects, Target.write_const_keeps holds⟩

/-- The color evaluation keeps a blocked meter blocked, blocks the packet's meter when it executes
`block_meter`, never takes a drop back, and drops the packets of a blocked meter. -/
theorem evaluateColor_spec (target : Target) (regMeterBlocked : Registers) (pkt : Packet)
    (m : BitVec 16) :
    (Blocks target regMeterBlocked m →
        Blocks target (evaluateColor target regMeterBlocked pkt).regMeterBlocked m) ∧
      ((evaluateColor target regMeterBlocked pkt).blockMeter = true →
        pkt.igMd.streamFilter.flowMeterInstanceId = m →
          Blocks target (evaluateColor target regMeterBlocked pkt).regMeterBlocked m) ∧
      ((pkt.igMd.toBeDropped = 1 ∨ pkt.igMd.streamFilter.flowMeterInstanceId = m ∧
          Blocks target regMeterBlocked m) →
        (evaluateColor target regMeterBlocked pkt).pkt.igMd.toBeDropped = 1) := by
  -- the bit of the packet's meter, wherever it is read
  have reads (meter_eq : pkt.igMd.streamFilter.flowMeterInstanceId = m)
      (blocked : Blocks target regMeterBlocked m) :
      target.read 2048 regMeterBlocked pkt.igMd.streamFilter.flowMeterInstanceId.toNat = 1 := by
    obtain ⟨c, selects, holds⟩ := blocked
    rw [← meter_eq] at selects
    exact (Target.read_cell selects).trans holds
  unfold evaluateColor
  dsimp only
  split
  · -- green and yellow by the meter: `drop_on_yellow`, or the bit
    split
    · exact ⟨id, nofun, fun _ => rfl⟩
    · rename_i notBlocked
      refine ⟨id, nofun, fun h => ?_⟩
      rcases h with dropped | ⟨meter_eq, blocked⟩
      · exact dropped
      · exact absurd (.inr (reads meter_eq blocked)) notBlocked
  · split
    · split
      · refine ⟨blockMeter_keeps, fun executed meter_eq => ?_, fun _ => rfl⟩
        obtain ⟨c, selects⟩ := Option.isSome_iff_exists.mp executed
        rw [meter_eq] at selects
        refine ⟨c, selects, ?_⟩
        rw [meter_eq]
        exact Target.write_const_cell selects
      · exact ⟨id, nofun, fun _ => rfl⟩
    · rename_i notYellow notRed
      split
      · rename_i green
        split
        · exact ⟨id, nofun, fun _ => rfl⟩
        · rename_i notBlocked
          refine ⟨id, nofun, fun h => ?_⟩
          rcases h with dropped | ⟨meter_eq, blocked⟩
          · exact dropped
          · exact absurd (reads meter_eq blocked) notBlocked
      · -- only a green packet that is dropped already is left
        rename_i notGreen
        refine ⟨id, nofun, fun _ => ?_⟩
        rcases color_cases pkt.igTmMd.packetColor with yellow | red | green
        · exact absurd yellow notYellow
        · exact absurd red notRed
        · exact eq_one_of_ne_zero fun fresh => notGreen ⟨green, fresh⟩

/-- The pre-color and the meter's answer leave the stream and the drop flag alone. -/
theorem flowMeterInstance_igMd (tables : Tables) (meter : MeterColor → BitVec 2) (pkt : Packet) :
    (flowMeterInstance tables meter pkt).igMd = pkt.igMd := by
  unfold flowMeterInstance
  cases tables.lookup .flowMeterInstance pkt.fields with
  | some r => rfl
  | none => rfl

/-- A pass through the flow meter. -/
theorem apply_spec (target : Target) (tables : Tables) (meter : MeterColor → BitVec 2)
    (regMeterBlocked : Registers) (pkt : Packet) (m : BitVec 16) :
    (Blocks target regMeterBlocked m →
        Blocks target (apply target tables meter regMeterBlocked pkt).regMeterBlocked m) ∧
      ((apply target tables meter regMeterBlocked pkt).blockMeter = true →
        pkt.igMd.streamFilter.flowMeterInstanceId = m →
          Blocks target (apply target tables meter regMeterBlocked pkt).regMeterBlocked m) ∧
      ((pkt.igMd.toBeDropped = 1 ∨ pkt.igMd.streamFilter.flowMeterInstanceId = m ∧
          Blocks target regMeterBlocked m) →
        (apply target tables meter regMeterBlocked pkt).pkt.igMd.toBeDropped = 1) := by
  unfold apply
  dsimp only
  split
  · have spec := evaluateColor_spec target regMeterBlocked
      (flowMeterInstance tables meter (preColoring pkt)) m
    rw [flowMeterInstance_igMd] at spec
    exact spec
  · exact evaluateColor_spec target regMeterBlocked (preColoring pkt) m

/-- The flow meter does not touch the stream of the packet. -/
theorem apply_streamFilter (target : Target) (tables : Tables) (meter : MeterColor → BitVec 2)
    (regMeterBlocked : Registers) (pkt : Packet) :
    (apply target tables meter regMeterBlocked pkt).pkt.igMd.streamFilter =
      pkt.igMd.streamFilter := by
  have evaluate (pkt : Packet) :
      (evaluateColor target regMeterBlocked pkt).pkt.igMd.streamFilter = pkt.igMd.streamFilter := by
    unfold evaluateColor
    dsimp only
    split
    · split <;> rfl
    · split
      · split <;> rfl
      · split
        · split <;> rfl
        · rfl
  unfold apply
  dsimp only
  rw [evaluate]
  split
  · rw [flowMeterInstance_igMd]
    rfl
  · rfl

end FlowMeter

namespace StreamGate

/-- The stream gate does not touch the stream of the packet. -/
theorem apply_streamFilter (target : Target) (tables : Tables) (registers : Registers)
    (pkt : Packet) :
    (apply target tables registers pkt).pkt.igMd.streamFilter = pkt.igMd.streamFilter := by
  have pass (registers : Registers) (pkt : Packet) :
      (passGate target registers pkt).pkt.igMd.streamFilter = pkt.igMd.streamFilter := by
    unfold passGate
    split
    · rfl
    · split
      · split <;> rfl
      · dsimp only
        split <;> rfl
  unfold apply
  split
  · rcases streamGateInstance_eq tables pkt with ⟨r, hit⟩ | miss
    · rw [hit]
      dsimp only
      rw [if_neg Bool.false_ne_true]
      split
      · obtain ⟨_, resetOctets, remainingOctets, toBeDropped, pktEq⟩ :=
          checkOctets_eq target registers (setGateAndIpv r pkt)
        refine (pass _ _).trans ?_
        rw [pktEq]
        rfl
      · exact pass registers (setGateAndIpv r pkt)
    · rw [miss]
      dsimp only
      rw [if_pos rfl]
      split <;> rfl
  · rfl

end StreamGate

/-! ## The control -/

namespace DeltaAdjustment

/-- The two fields the underflow branch changes, for any difference. -/
theorem calculateUnderflowTimestamp_eq (pkt : Packet) (difference : BitVec 48) :
    ∃ diffTs, calculateUnderflowTimestamp (setDifferenceMax pkt difference) =
      { pkt with igMd :=
        { pkt.igMd with diffTs, differenceMaxToHyperperiod := difference } } := by
  unfold calculateUnderflowTimestamp
  generalize (setDifferenceMax pkt difference).igMd.differenceMaxToHyperperiod +
    (setDifferenceMax pkt difference).igIntrMd.ingressMacTstamp = diffTs
  exact ⟨diffTs, rfl⟩

/-- The delta adjustment changes two fields of the metadata. -/
theorem apply_eq (tables : Tables) (pkt : Packet) :
    ∃ diffTs differenceMaxToHyperperiod, apply tables pkt =
      { pkt with igMd := { pkt.igMd with diffTs, differenceMaxToHyperperiod } } := by
  have exceeded (pkt : Packet) : ∃ diffTs, hyperperiodExceededDetection tables pkt =
      { pkt with igMd := { pkt.igMd with diffTs } } := by
    unfold hyperperiodExceededDetection
    cases tables.lookup .hyperperiodExceededDetection pkt.fields with
    | some r => exact ⟨_, rfl⟩
    | none => exact ⟨_, rfl⟩
  have underflow : ∃ diffTs miss, underflowDetection tables pkt =
      ({ pkt with igMd := { pkt.igMd with diffTs } }, miss) := by
    unfold underflowDetection
    cases tables.lookup .underflowDetection pkt.fields with
    | none => exact ⟨_, _, rfl⟩
    | some r =>
      dsimp only
      split
      · exact ⟨_, _, rfl⟩
      · exact ⟨_, _, rfl⟩
  obtain ⟨diffTs, miss, detected⟩ := underflow
  unfold apply
  rw [detected]
  dsimp only
  cases miss with
  | true =>
    rw [if_pos rfl]
    unfold handleUnderflow
    generalize MAXIMUM_48_BIT_TS - _ = difference
    obtain ⟨diffTs', calculated⟩ :=
      calculateUnderflowTimestamp_eq { pkt with igMd := { pkt.igMd with diffTs } } difference
    rw [calculated]
    obtain ⟨diffTs'', adjusted⟩ := exceeded { pkt with igMd := { pkt.igMd with
      diffTs := diffTs', differenceMaxToHyperperiod := difference } }
    exact ⟨diffTs'', difference, adjusted⟩
  | false =>
    rw [if_neg Bool.false_ne_true]
    obtain ⟨diffTs', adjusted⟩ := exceeded { pkt with igMd := { pkt.igMd with diffTs } }
    exact ⟨diffTs', _, adjusted⟩

end DeltaAdjustment

/-! ## Runs -/

namespace Tsn

/-- A frame or a generated packet as it enters the control, with the tables installed then and the
meter's answers; the metadata are still at their initial values. -/
structure Frame where
  tables : Tables
  meter : MeterColor → BitVec 2
  pkt : Packet
  fresh : pkt.igMd = default

namespace Frame

/-- The stream a frame is identified to. -/
def stream? (frame : Frame) : Option Request :=
  match frame.pkt.hdr.timer with
  | some _ => none
  | none => frame.tables.lookup .streamId frame.pkt.fields

def gate? (frame : Frame) : Option (BitVec 12) :=
  frame.stream?.map fun r => param r .streamGateId 12

def meter? (frame : Frame) : Option (BitVec 16) :=
  frame.stream?.map fun r => param r .flowMeterInstanceId 16

end Frame

/-- The control executed `block_gate` for the gate. -/
def Result.BlocksGate (result : Result) (gate : BitVec 12) : Prop :=
  result.blockGate = true ∧ result.pkt.igMd.streamFilter.streamGateId = gate

/-- The control executed `block_meter` for the meter. -/
def Result.BlocksMeter (result : Result) (m : BitVec 16) : Prop :=
  result.blockMeter = true ∧ result.pkt.igMd.streamFilter.flowMeterInstanceId = m

/-- The frame ends dropped. -/
def Result.Dropped (result : Result) : Prop :=
  result.pkt.igMd.toBeDropped = 1 ∧ result.pkt.igDprsrMd.dropCtl = 3

/-- A frame passes through the control. -/
def step (target : Target) (registers : Registers) (event : Frame × Result)
    (registers' : Registers) : Prop :=
  apply target event.1.tables event.1.meter registers event.1.pkt = event.2 ∧
    event.2.registers = registers'

/-- All streams of one gate carry the same `gate_closed` flags, in the tables of all frames. -/
def UniformGates (frames : List Frame) : Prop :=
  ∀ frame ∈ frames, ∀ frame' ∈ frames,
    ∀ r ∈ frame.tables.entries .streamId, ∀ r' ∈ frame'.tables.entries .streamId,
      param r .streamGateId 12 = param r' .streamGateId 12 →
        flag r .gateClosedDueToInvalidRxEnable = flag r' .gateClosedDueToInvalidRxEnable ∧
          flag r .gateClosedDueToOctetsExceededEnable = flag r' .gateClosedDueToOctetsExceededEnable

variable {target : Target} {tables : Tables} {meter : MeterColor → BitVec 2}
  {registers : Registers} {pkt : Packet}

/-- Every action of the table writes the same metadata. -/
theorem streamIdentification_igMd {r : Request}
    (found : tables.lookup .streamId pkt.fields = some r) :
    (StreamIdentification.apply tables pkt).igMd =
      (StreamIdentification.writeConfig r pkt).igMd := by
  unfold StreamIdentification.apply
  rw [found]
  dsimp only
  split
  · rfl
  · rfl

/-- Only identified frames may block a gate, by the flags of their stream. -/
theorem blockable_iff (frame : Frame) (noTimer : frame.pkt.hdr.timer = none) (gate : BitVec 12) :
    StreamGate.Blockable (StreamIdentification.apply frame.tables frame.pkt) gate ↔
      ∃ r, frame.stream? = some r ∧ param r .streamGateId 12 = gate ∧
        (flag r .gateClosedDueToInvalidRxEnable ||
          flag r .gateClosedDueToOctetsExceededEnable) = true := by
  unfold Frame.stream?
  rw [noTimer]
  dsimp only
  cases found : frame.tables.lookup .streamId frame.pkt.fields with
  | some r =>
    have igMd := streamIdentification_igMd found
    refine ⟨?_, ?_⟩
    · intro blockable
      have gate_eq := blockable.gate_eq
      have enabled := blockable.enabled
      rw [igMd] at gate_eq enabled
      exact ⟨r, rfl, gate_eq, enabled⟩
    · intro h
      obtain ⟨r', same, gate_eq, enabled⟩ := h
      cases same
      refine ⟨?_, ?_⟩
      · rw [igMd]
        exact gate_eq
      · rw [igMd]
        exact enabled
  | none =>
    refine ⟨?_, ?_⟩
    · intro blockable
      have enabled := blockable.enabled
      unfold StreamIdentification.apply at enabled
      rw [found] at enabled
      dsimp only at enabled
      -- the flags are still at their initial values
      rw [frame.fresh] at enabled
      exact absurd enabled nofun
    · intro h
      obtain ⟨r, missed, _⟩ := h
      exact absurd missed nofun

/-- Generated packets leave the blocking registers alone. -/
theorem apply_timer {timer : Timer} (generated : pkt.hdr.timer = some timer) :
    (apply target tables meter registers pkt).registers.streamGate = registers.streamGate ∧
      (apply target tables meter registers pkt).registers.regMeterBlocked =
        registers.regMeterBlocked ∧
      (apply target tables meter registers pkt).blockGate = false ∧
      (apply target tables meter registers pkt).blockMeter = false := by
  unfold apply
  rw [generated]
  dsimp only
  split
  · unfold hyperperiodPacket
    cases tables.lookup .appIdStreamGate pkt.fields with
    | some r =>
      dsimp only
      unfold finishGatePeriod
      dsimp only
      split
      · exact ⟨rfl, rfl, rfl, rfl⟩
      · exact ⟨rfl, rfl, rfl, rfl⟩
    | none =>
      cases tables.lookup .appIdTas pkt.fields with
      | some r => exact ⟨rfl, rfl, rfl, rfl⟩
      | none => exact ⟨rfl, rfl, rfl, rfl⟩
  · exact ⟨rfl, rfl, rfl, rfl⟩

/-- A frame reaches the stream gate with the metadata of its stream. -/
theorem apply_frame (noTimer : pkt.hdr.timer = none) :
    ∃ pkt', apply target tables meter registers pkt =
        finishFrame target tables meter registers pkt' ∧
      pkt'.igMd.streamFilter = (StreamIdentification.apply tables pkt).igMd.streamFilter ∧
      pkt'.igMd.streamGate = (StreamIdentification.apply tables pkt).igMd.streamGate := by
  unfold apply
  rw [noTimer]
  dsimp only
  obtain ⟨diffTs, difference, adjusted⟩ :=
    DeltaAdjustment.apply_eq tables (calcDiffTs (readGateTs target tables registers pkt))
  rw [adjusted]
  exact ⟨_, rfl, rfl, rfl⟩

/-- The stream gate, the flow meter and the drop, for one gate. -/
theorem finishFrame_gate (target : Target) (tables : Tables) (meter : MeterColor → BitVec 2)
    (registers : Registers) (pkt : Packet) (gate : BitVec 12) :
    (StreamGate.Blocks target registers.streamGate gate →
        StreamGate.Blocks target
          (finishFrame target tables meter registers pkt).registers.streamGate gate) ∧
      ((finishFrame target tables meter registers pkt).BlocksGate gate →
        StreamGate.Blocks target
            (finishFrame target tables meter registers pkt).registers.streamGate gate ∧
          StreamGate.Blockable pkt gate) ∧
      (StreamGate.Blockable pkt gate → StreamGate.Blocks target registers.streamGate gate →
        (finishFrame target tables meter registers pkt).Dropped) := by
  obtain ⟨keeps, blocks, drops⟩ :=
    StreamGate.apply_spec target tables registers.streamGate pkt gate
  have gatePkt := StreamGate.apply_streamFilter target tables registers.streamGate pkt
  have flow := FlowMeter.apply_spec target tables meter registers.regMeterBlocked
    (StreamGate.apply target tables registers.streamGate pkt).pkt
  have flowPkt := FlowMeter.apply_streamFilter target tables meter registers.regMeterBlocked
    (StreamGate.apply target tables registers.streamGate pkt).pkt
  refine ⟨keeps, fun executed => ?_, fun blockable blocked => ?_⟩
  · obtain ⟨blockGate, gate_eq⟩ := executed
    refine blocks blockGate ?_
    unfold finishFrame at gate_eq
    dsimp only at gate_eq
    split at gate_eq
    · rw [← gate_eq, ← gatePkt, ← flowPkt]
    · rw [← gate_eq, ← gatePkt, ← flowPkt]
  · have dropped := (flow 0).2.2 (.inl (drops (.inr ⟨blockable, blocked⟩)))
    unfold Result.Dropped finishFrame
    dsimp only
    rw [if_pos dropped]
    exact ⟨dropped, rfl⟩

/-- The same for one meter. -/
theorem finishFrame_meter (target : Target) (tables : Tables) (meter : MeterColor → BitVec 2)
    (registers : Registers) (pkt : Packet) (m : BitVec 16) :
    (FlowMeter.Blocks target registers.regMeterBlocked m →
        FlowMeter.Blocks target
          (finishFrame target tables meter registers pkt).registers.regMeterBlocked m) ∧
      ((finishFrame target tables meter registers pkt).BlocksMeter m →
        FlowMeter.Blocks target
          (finishFrame target tables meter registers pkt).registers.regMeterBlocked m) ∧
      (pkt.igMd.streamFilter.flowMeterInstanceId = m →
        FlowMeter.Blocks target registers.regMeterBlocked m →
          (finishFrame target tables meter registers pkt).Dropped) := by
  have gatePkt := StreamGate.apply_streamFilter target tables registers.streamGate pkt
  obtain ⟨keeps, blocks, drops⟩ := FlowMeter.apply_spec target tables meter
    registers.regMeterBlocked (StreamGate.apply target tables registers.streamGate pkt).pkt m
  have flowPkt := FlowMeter.apply_streamFilter target tables meter registers.regMeterBlocked
    (StreamGate.apply target tables registers.streamGate pkt).pkt
  refine ⟨keeps, fun executed => ?_, fun meter_eq blocked => ?_⟩
  · obtain ⟨blockMeter, meter_eq⟩ := executed
    refine blocks blockMeter ?_
    unfold finishFrame at meter_eq
    dsimp only at meter_eq
    split at meter_eq
    · rw [← meter_eq, ← flowPkt]
    · rw [← meter_eq, ← flowPkt]
  · rw [← gatePkt] at meter_eq
    have dropped := drops (.inr ⟨meter_eq, blocked⟩)
    unfold Result.Dropped finishFrame
    dsimp only
    rw [if_pos dropped]
    exact ⟨dropped, rfl⟩

/-! ### Steps -/

/-- The gate is blocked, and some stream of it has a `gate_closed` flag. -/
structure GateBlocked (target : Target) (tables : Tables) (gate : BitVec 12)
    (registers : Registers) : Prop where
  blocks : StreamGate.Blocks target registers.streamGate gate
  enabled : ∃ r ∈ tables.entries .streamId, param r .streamGateId 12 = gate ∧
    (flag r .gateClosedDueToInvalidRxEnable ||
      flag r .gateClosedDueToOctetsExceededEnable) = true

variable {registers' : Registers} {event : Frame × Result} {gate : BitVec 12} {m : BitVec 16}

theorem Frame.stream?_mem {frame : Frame} {r : Request} (identified : frame.stream? = some r) :
    r ∈ frame.tables.entries .streamId := by
  unfold Frame.stream? at identified
  split at identified
  · cases identified
  · exact List.mem_of_mem_filter (Tables.lookup_mem identified)

/-- A step is taken by a generated packet, which leaves the blocking registers alone, or by a frame,
which reaches the stream gate with the metadata of its stream. -/
theorem step_cases (taken : step target registers event registers') :
    (event.1.stream? = none ∧ registers'.streamGate = registers.streamGate ∧
        registers'.regMeterBlocked = registers.regMeterBlocked ∧
        event.2.blockGate = false ∧ event.2.blockMeter = false) ∨
      event.1.pkt.hdr.timer = none ∧ registers' = event.2.registers ∧
        ∃ pkt, event.2 = finishFrame target event.1.tables event.1.meter registers pkt ∧
          pkt.igMd.streamFilter =
            (StreamIdentification.apply event.1.tables event.1.pkt).igMd.streamFilter ∧
          pkt.igMd.streamGate =
            (StreamIdentification.apply event.1.tables event.1.pkt).igMd.streamGate := by
  obtain ⟨applied, rfl⟩ := taken
  cases timer : event.1.pkt.hdr.timer with
  | some generated =>
    have unidentified : event.1.stream? = none := by
      unfold Frame.stream?
      rw [timer]
    rw [← applied]
    exact .inl ⟨unidentified, apply_timer timer⟩
  | none =>
    obtain ⟨pkt, passed, metadata⟩ := apply_frame timer
    exact .inr ⟨rfl, rfl, pkt, applied.symm.trans passed, metadata⟩

theorem step_gateBlocks (taken : step target registers event registers')
    (blocked : StreamGate.Blocks target registers.streamGate gate) :
    StreamGate.Blocks target registers'.streamGate gate := by
  rcases step_cases taken with ⟨_, same, _⟩ | ⟨_, rfl, pkt, passed, _⟩
  · rw [same]
    exact blocked
  · rw [passed]
    exact (finishFrame_gate target _ _ registers pkt gate).1 blocked

theorem step_meterBlocks (taken : step target registers event registers')
    (blocked : FlowMeter.Blocks target registers.regMeterBlocked m) :
    FlowMeter.Blocks target registers'.regMeterBlocked m := by
  rcases step_cases taken with ⟨_, _, same, _⟩ | ⟨_, rfl, pkt, passed, _⟩
  · rw [same]
    exact blocked
  · rw [passed]
    exact (finishFrame_meter target _ _ registers pkt m).1 blocked

/-- A step that blocks a gate was taken by a frame of a stream that may block it. -/
theorem step_blocksGate (taken : step target registers event registers')
    (executed : event.2.BlocksGate gate) :
    GateBlocked target event.1.tables gate registers' := by
  rcases step_cases taken with ⟨_, _, _, notExecuted, _⟩ |
    ⟨noTimer, rfl, pkt, passed, filter_eq, flags_eq⟩
  · exact absurd (notExecuted.symm.trans executed.1) nofun
  · rw [passed] at executed ⊢
    obtain ⟨blocks, blockable⟩ := (finishFrame_gate target _ _ registers pkt gate).2.1 executed
    have identified : StreamGate.Blockable
        (StreamIdentification.apply event.1.tables event.1.pkt) gate := by
      obtain ⟨same, enabled⟩ := blockable
      rw [filter_eq] at same
      rw [flags_eq] at enabled
      exact ⟨same, enabled⟩
    obtain ⟨r, found, same, enabled⟩ := (blockable_iff event.1 noTimer gate).mp identified
    exact ⟨blocks, r, Frame.stream?_mem found, same, enabled⟩

theorem step_blocksMeter (taken : step target registers event registers')
    (executed : event.2.BlocksMeter m) :
    FlowMeter.Blocks target registers'.regMeterBlocked m := by
  rcases step_cases taken with ⟨_, _, _, _, notExecuted⟩ | ⟨_, rfl, pkt, passed, _⟩
  · exact absurd (notExecuted.symm.trans executed.1) nofun
  · rw [passed] at executed ⊢
    exact (finishFrame_meter target _ _ registers pkt m).2.1 executed

/-- A frame of a blocked gate is dropped when its stream has a `gate_closed` flag. -/
theorem step_gateDropped {r : Request} (taken : step target registers event registers')
    (blocked : StreamGate.Blocks target registers.streamGate gate)
    (identified : event.1.stream? = some r) (gate_eq : param r .streamGateId 12 = gate)
    (enabled : (flag r .gateClosedDueToInvalidRxEnable ||
      flag r .gateClosedDueToOctetsExceededEnable) = true) :
    event.2.Dropped := by
  rcases step_cases taken with ⟨unidentified, _⟩ | ⟨noTimer, _, pkt, passed, filter_eq, flags_eq⟩
  · exact absurd (unidentified.symm.trans identified) nofun
  · rw [passed]
    obtain ⟨same, mayBlock⟩ :=
      (blockable_iff event.1 noTimer gate).mpr ⟨r, identified, gate_eq, enabled⟩
    refine (finishFrame_gate target _ _ registers pkt gate).2.2 ⟨?_, ?_⟩ blocked
    · rw [filter_eq]
      exact same
    · rw [flags_eq]
      exact mayBlock

theorem step_meterDropped (taken : step target registers event registers')
    (blocked : FlowMeter.Blocks target registers.regMeterBlocked m)
    (identified : event.1.meter? = some m) : event.2.Dropped := by
  obtain ⟨r, stream, meter_eq⟩ := Option.map_eq_some_iff.mp identified
  rcases step_cases taken with ⟨unidentified, _⟩ | ⟨noTimer, _, pkt, passed, filter_eq, _⟩
  · exact absurd (unidentified.symm.trans stream) nofun
  · rw [passed]
    refine (finishFrame_meter target _ _ registers pkt m).2.2 ?_ blocked
    rw [filter_eq, ← meter_eq]
    unfold Frame.stream? at stream
    rw [noTimer] at stream
    rw [streamIdentification_igMd stream]
    rfl

/-- Once the control has blocked a gate, it drops every later frame of the gate, and once it has
blocked a meter, every later frame of the meter.  Of the tables this needs only that the streams of
one gate carry the same flags for the two frames. -/
theorem blocked_forever (target : Target) (start last : Registers)
    (before middle after : List (Frame × Result)) (first later : Frame × Result)
    (run : Transition.Run (step target) start (before ++ first :: middle ++ later :: after) last)
    (uniform : UniformGates [first.1, later.1]) :
    (∀ gate, first.2.BlocksGate gate → later.1.gate? = some gate → later.2.Dropped) ∧
      ∀ m, first.2.BlocksMeter m → later.1.meter? = some m → later.2.Dropped := by
  refine ⟨?_, ?_⟩
  · intro gate executed identified
    obtain ⟨t, t', blocked, taken⟩ := run.eventually_always
      (I := GateBlocked target first.1.tables gate)
      (fun _ _ taken => step_blocksGate taken executed)
      (fun _ _ _ _ blocked taken => ⟨step_gateBlocks taken blocked.blocks, blocked.enabled⟩)
    obtain ⟨r, stream, gate_eq⟩ := Option.map_eq_some_iff.mp identified
    obtain ⟨r', member', gate_eq', enabled'⟩ := blocked.enabled
    have flags := uniform first.1 List.mem_cons_self later.1
      (List.mem_cons_of_mem _ List.mem_cons_self) r' member' r (Frame.stream?_mem stream)
      (gate_eq'.trans gate_eq.symm)
    rw [flags.1, flags.2] at enabled'
    exact step_gateDropped taken blocked.blocks stream gate_eq enabled'
  · intro m executed identified
    obtain ⟨t, t', blocked, taken⟩ := run.eventually_always
      (I := fun registers => FlowMeter.Blocks target registers.regMeterBlocked m)
      (fun _ _ taken => step_blocksMeter taken executed)
      (fun _ _ _ _ blocked taken => step_meterBlocks taken blocked)
    exact step_meterDropped taken blocked identified

/-- A frame of a stream on gate 5. -/
def sampleFrame (gateEntries : List Request) : Frame where
  tables := {
    installed := {
      table := .streamId
      matchKeys := [(.ethernetDstAddr, .exact 50), (.eth8021qVid, .exact 7)]
      action := .assignStreamHandle
      actionData := [(.streamGateId, 5), (.gateClosedDueToInvalidRxEnable, 1)] } :: gateEntries
    precedence := .first }
  meter := fun _ => 0
  pkt := { (default : Packet) with hdr := { (default : Headers) with
    ethernet := { dstAddr := 50 }
    eth8021q := { pcp := 0, dei := 0, vid := 7 } } }
  fresh := rfl

/-- The frame is in no time slice. -/
def missedFrame : Frame :=
  sampleFrame []

/-- The frame is in an open time slice. -/
def openFrame : Frame :=
  sampleFrame [{
    table := .streamGateInstance
    matchKeys := [(.streamGateId, .exact 5)]
    action := .setGateAndIpv
    actionData := [(.gateState, 1)] }]

def sampleRegisters : Registers where
  lowerLastTs := fun _ => 0
  higherLastTs := fun _ => 0
  hyperperiodDone := fun _ => 0
  periodCount := fun _ => 0
  tasLowerLastTs := fun _ => 0
  tasHigherLastTs := fun _ => 0
  nextTimeSeriesIndexTasDiff := fun _ => 0
  tasHyperperiodDiff := fun _ => 0
  streamGate := {
    regGateBlocked := fun _ => 0
    stateResetOctets := fun _ => 0
    firstSduPerInterval := fun _ => 0
    octetsPerInterval := fun _ => 0 }
  regMeterBlocked := fun _ => 0

def Frame.pass (registers : Registers) (frame : Frame) : Result :=
  apply .strict frame.tables frame.meter registers frame.pkt

/-- The first frame blocks gate 5, and a later one that would pass is dropped. -/
theorem blocked_forever_sample :
    ¬ (openFrame.pass sampleRegisters).Dropped ∧
      (missedFrame.pass sampleRegisters).BlocksGate 5 ∧ openFrame.gate? = some 5 ∧
        (openFrame.pass (missedFrame.pass sampleRegisters).registers).Dropped := by
  have passes : ¬ (openFrame.pass sampleRegisters).Dropped := by
    unfold Result.Dropped
    decide +kernel
  have blocks : (missedFrame.pass sampleRegisters).BlocksGate 5 :=
    ⟨by decide +kernel, by decide +kernel⟩
  have identified : openFrame.gate? = some 5 := by decide +kernel
  have uniform : UniformGates [missedFrame, openFrame] := by
    unfold UniformGates
    decide +kernel
  have run : Transition.Run (step .strict) sampleRegisters
      ([] ++ (missedFrame, missedFrame.pass sampleRegisters) :: [] ++
        (openFrame, openFrame.pass (missedFrame.pass sampleRegisters).registers) :: [])
      (openFrame.pass (missedFrame.pass sampleRegisters).registers).registers :=
    .cons ⟨rfl, rfl⟩ (.cons ⟨rfl, rfl⟩ (.nil _))
  exact ⟨passes, blocks, identified,
    (blocked_forever _ _ _ [] [] [] _ _ run uniform).1 5 blocks identified⟩

/-! ### The controller's entries -/

open Controller in
/-- The entries of a configuration whose streams resolve carry the flags of their gate. -/
theorem uniformGates_configured {macFromStr : String → Option (List U8)} {cfg : Configuration}
    {requests : List Request} {frames : List Frame}
    (run : cfg.configureStreamIdentification macFromStr = .ok requests)
    (resolved : ∀ s ∈ cfg.psfp.streams, cfg.Resolved s)
    (small : ∀ g ∈ cfg.psfp.streamGates, g.streamGateId.toNat < 4096)
    (installed : ∀ frame ∈ frames, ∀ r ∈ frame.tables.entries .streamId, r ∈ requests) :
    UniformGates frames := by
  intro frame member frame' member' r entry r' entry' same
  obtain ⟨s, streamMember, isEntry⟩ :=
    Configuration.configureStreamIdentification_mem run (installed frame member r entry)
  obtain ⟨s', streamMember', isEntry'⟩ :=
    Configuration.configureStreamIdentification_mem run (installed frame' member' r' entry')
  have idBound {s : Stream} (streamMember : s ∈ cfg.psfp.streams) :
      (cfg.streamGate s).streamGateId.toNat < 4096 :=
    small _ (List.mem_of_find?_eq_some (resolved s streamMember).streamGate_id)
  unfold param at same
  rw [isEntry.gateId, isEntry'.gateId, ← BitVec.toNat_inj, BitVec.toNat_ofNat, BitVec.toNat_ofNat,
    Option.getD_some, Option.getD_some, Nat.mod_eq_of_lt (idBound streamMember),
    Nat.mod_eq_of_lt (idBound streamMember'), BitVec.toNat_inj] at same
  have gate_eq := (resolved s streamMember).streamGate_eq (resolved s' streamMember') same
  unfold flag
  rw [isEntry.invalidRx, isEntry'.invalidRx, isEntry.octetsExceeded, isEntry'.octetsExceeded,
    gate_eq]
  exact ⟨rfl, rfl⟩

end Tsn

end P4Tas.DataPlane
