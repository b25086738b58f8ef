import P4Tas.DataPlane.Blocking
import P4Tas.Lib.History

/-!
# The registers of the hyperperiods

Over a run of the control, what the registers that only hyperperiod packets write hold: the time of
the last such packet of each gate and of each port, their number, and the series of the differences
between consecutive ones of a port.

* `Frame.role`: which period a packet ends, from its header and the tables;
* `apply_endsGate`, `apply_endsPort`, `apply_other`: what a packet does to these registers;
* `run_gateMirrors`, `portMirrors_step`, `run_recorded`: what they hold after a run;
* `one_digest`: a gate is reported once.
-/

namespace P4Tas.DataPlane

namespace Tsn

/-- The period a packet ends. -/
inductive Role
  | endsGate (gate : BitVec 16)
  | endsPort (port : BitVec 9)
  | other
  deriving DecidableEq

def Frame.role (frame : Frame) : Role :=
  match frame.pkt.hdr.timer with
  | some timer =>
    if timer.appId ≠ 0 then
      match frame.tables.lookup .appIdStreamGate frame.pkt.fields with
      | some r => .endsGate (param r .streamGateId 16)
      | none =>
        match frame.tables.lookup .appIdTas frame.pkt.fields with
        | some r => .endsPort (param r .port 9)
        | none => .other
    else
      .other
  | none => .other

def Frame.tstamp (frame : Frame) : BitVec 48 :=
  frame.pkt.igIntrMd.ingressMacTstamp

/-- The registers of the gates have a cell for the gate the packet ends a period of. -/
def Frame.GateInRange (frame : Frame) : Prop :=
  ∀ gate, frame.role = .endsGate gate → gate.toNat < 256

def Frame.PortInRange (frame : Frame) : Prop :=
  ∀ port, frame.role = .endsPort port → port.toNat < 256

/-- The timestamp two registers hold. -/
def stored (higher : Register 16) (lower : Register 32) (c : Nat) : BitVec 48 :=
  higher c ++ lower c

/-- The halves of a timestamp make it up. -/
theorem halves_append (tstamp : BitVec 48) :
    (tstamp >>> 32).setWidth 16 ++ tstamp.setWidth 32 = tstamp := by
  apply BitVec.eq_of_toNat_eq
  have bound := tstamp.isLt
  rw [BitVec.toNat_append, BitVec.toNat_setWidth, BitVec.toNat_setWidth, BitVec.toNat_ushiftRight,
    Nat.shiftRight_eq_div_pow, Nat.mod_eq_of_lt (by omega), ← Nat.shiftLeft_add_eq_or_of_lt
      (Nat.mod_lt _ (by omega)), Nat.shiftLeft_eq]
  omega

theorem stored_update (higher : Register 16) (lower : Register 32) (i c : Nat)
    (tstamp : BitVec 48) :
    stored (Function.update higher i ((tstamp >>> 32).setWidth 16))
        (Function.update lower i (tstamp.setWidth 32)) c =
      if c = i then tstamp else stored higher lower c := by
  unfold stored
  rcases Decidable.em (c = i) with rfl | other
  · rw [if_pos rfl, Function.update_self, Function.update_self, halves_append]
  · rw [if_neg other, Function.update_of_ne other, Function.update_of_ne other]

/-! ## What a packet does -/

variable {target : Target} {registers registers' : Registers} {frame : Frame}

theorem role_endsGate {gate : BitVec 16} (role : frame.role = .endsGate gate) :
    ∃ timer r, frame.pkt.hdr.timer = some timer ∧ timer.appId ≠ 0 ∧
      frame.tables.lookup .appIdStreamGate frame.pkt.fields = some r ∧
      param r .streamGateId 16 = gate := by
  unfold Frame.role at role
  split at role
  · rename_i timer generated
    split at role
    · rename_i hyperperiod
      split at role
      · rename_i r found
        exact ⟨timer, r, generated, hyperperiod, found, Role.endsGate.inj role⟩
      · split at role
        · cases role
        · cases role
    · cases role
  · cases role

theorem role_endsPort {port : BitVec 9} (role : frame.role = .endsPort port) :
    ∃ timer r, frame.pkt.hdr.timer = some timer ∧ timer.appId ≠ 0 ∧
      frame.tables.lookup .appIdStreamGate frame.pkt.fields = none ∧
      frame.tables.lookup .appIdTas frame.pkt.fields = some r ∧ param r .port 9 = port := by
  unfold Frame.role at role
  split at role
  · rename_i timer generated
    split at role
    · rename_i hyperperiod
      split at role
      · cases role
      · rename_i missed
        split at role
        · rename_i r found
          exact ⟨timer, r, generated, hyperperiod, missed, found, Role.endsPort.inj role⟩
        · cases role
    · cases role
  · cases role

theorem role_hyperperiod {timer : Timer} (generated : frame.pkt.hdr.timer = some timer)
    (hyperperiod : timer.appId ≠ 0) (role : frame.role = .other) :
    frame.tables.lookup .appIdStreamGate frame.pkt.fields = none ∧
      frame.tables.lookup .appIdTas frame.pkt.fields = none := by
  unfold Frame.role at role
  rw [generated] at role
  dsimp only at role
  rw [if_pos hyperperiod] at role
  split at role
  · cases role
  · rename_i missed
    split at role
    · cases role
    · rename_i missed'
      exact ⟨missed, missed'⟩

theorem apply_hyperperiod {timer : Timer} (generated : frame.pkt.hdr.timer = some timer)
    (hyperperiod : timer.appId ≠ 0) (meter : MeterColor → BitVec 2) :
    apply target frame.tables meter registers frame.pkt =
      hyperperiodPacket target frame.tables registers frame.pkt := by
  unfold apply
  rw [generated]
  exact if_pos hyperperiod

/-- The hyperperiod packet of a gate writes the cells of the gate, and is reported when it finds
that none was before it. -/
theorem apply_endsGate {gate : BitVec 16} (role : frame.role = .endsGate gate)
    (inRange : gate.toNat < 256) :
    (apply target frame.tables frame.meter registers frame.pkt).registers =
        { registers with
          lowerLastTs := Function.update registers.lowerLastTs gate.toNat
            (frame.tstamp.setWidth 32)
          higherLastTs := Function.update registers.higherLastTs gate.toNat
            ((frame.tstamp >>> 32).setWidth 16)
          hyperperiodDone := Function.update registers.hyperperiodDone gate.toNat 1
          periodCount := Function.update registers.periodCount gate.toNat
            (registers.periodCount gate.toNat + 1) } ∧
      (apply target frame.tables frame.meter registers frame.pkt).pkt.igDprsrMd.digestType =
        if registers.hyperperiodDone gate.toNat = 0 then 6
        else frame.pkt.igDprsrMd.digestType := by
  rcases role_endsGate role with ⟨timer, r, generated, hyperperiod, found, rfl⟩
  have selects := target.inRange 256 _ inRange
  rw [apply_hyperperiod generated hyperperiod]
  unfold hyperperiodPacket
  rw [found]
  dsimp only
  unfold finishGatePeriod assignAppIdStreamGate
  dsimp only
  rw [Target.execute_cell selects, Target.write_cell selects, Target.write_cell selects,
    Target.write_cell selects]
  dsimp only
  split
  · exact ⟨rfl, rfl⟩
  · exact ⟨rfl, rfl⟩

/-- The time since the last hyperperiod packet of the port, as the series records it. -/
def portDiff (registers : Registers) (port : BitVec 9) (tstamp : BitVec 48) : BitVec 32 :=
  (tstamp.setWidth 64 -
    (stored registers.tasHigherLastTs registers.tasLowerLastTs port.toNat).setWidth 64).setWidth 32

/-- The hyperperiod packet of a port writes the cells of the port, and the next element of the
series. -/
theorem apply_endsPort {port : BitVec 9} (role : frame.role = .endsPort port)
    (inRange : port.toNat < 256) :
    (apply target frame.tables frame.meter registers frame.pkt).registers =
        { registers with
          tasLowerLastTs := Function.update registers.tasLowerLastTs port.toNat
            (frame.tstamp.setWidth 32)
          tasHigherLastTs := Function.update registers.tasHigherLastTs port.toNat
            ((frame.tstamp >>> 32).setWidth 16)
          nextTimeSeriesIndexTasDiff := Function.update registers.nextTimeSeriesIndexTasDiff 0
            (registers.nextTimeSeriesIndexTasDiff 0 + 1)
          tasHyperperiodDiff := target.write 16000 registers.tasHyperperiodDiff
            (registers.nextTimeSeriesIndexTasDiff 0).toNat
            fun _ => portDiff registers port frame.tstamp } ∧
      (apply target frame.tables frame.meter registers frame.pkt).pkt.igDprsrMd.digestType =
        frame.pkt.igDprsrMd.digestType := by
  rcases role_endsPort role with ⟨timer, r, generated, hyperperiod, missed, found, rfl⟩
  have selects := target.inRange 256 _ inRange
  have first := target.inRange 256 0 (by decide)
  rw [apply_hyperperiod generated hyperperiod]
  unfold hyperperiodPacket
  rw [missed, found]
  dsimp only
  unfold finishPortPeriod assignAppIdTasPort portDiff stored
  dsimp only
  rw [Target.execute_cell selects, Target.execute_cell selects, Target.execute_cell first]
  exact ⟨rfl, rfl⟩

/-! ### Other packets -/

end Tsn

/-- The gate reports a missed time slice, and nothing else. -/
theorem StreamGate.apply_digestType (target : Target) (tables : Tables)
    (registers : StreamGate.Registers) (pkt : Packet) :
    (apply target tables registers pkt).pkt.igDprsrMd = pkt.igDprsrMd ∨
      (apply target tables registers pkt).pkt.igDprsrMd.digestType = 1 := by
  have pass (registers : StreamGate.Registers) (pkt : Packet) :
      (passGate target registers pkt).pkt.igDprsrMd = pkt.igDprsrMd := by
    unfold passGate
    split
    · rfl
    · split
      · split
        · rfl
        · rfl
      · dsimp only
        split
        · rfl
        · rfl
  unfold apply
  split
  · rcases streamGateInstance_eq tables pkt with ⟨r, hit⟩ | miss
    · rw [hit]
      dsimp only
      rw [if_neg Bool.false_ne_true]
      left
      split
      · obtain ⟨_, resetOctets, remainingOctets, toBeDropped, pktEq⟩ :=
          checkOctets_eq target registers (setGateAndIpv r pkt)
        refine (pass _ _).trans ?_
        rw [pktEq]
        rfl
      · exact pass registers (setGateAndIpv r pkt)
    · rw [miss]
      dsimp only
      rw [if_pos rfl]
      right
      split
      · rfl
      · rfl
  · exact .inl rfl

theorem FlowMeter.apply_igDprsrMd (target : Target) (tables : Tables)
    (meter : MeterColor → BitVec 2) (regMeterBlocked : FlowMeter.Registers) (pkt : Packet) :
    (apply target tables meter regMeterBlocked pkt).pkt.igDprsrMd = pkt.igDprsrMd := by
  have evaluate (pkt : Packet) :
      (evaluateColor target regMeterBlocked pkt).pkt.igDprsrMd = pkt.igDprsrMd := by
    unfold evaluateColor
    dsimp only
    split
    · split
      · rfl
      · rfl
    · split
      · split
        · rfl
        · rfl
      · split
        · split
          · rfl
          · rfl
        · rfl
  have answered (pkt : Packet) :
      (flowMeterInstance tables meter pkt).igDprsrMd = pkt.igDprsrMd := by
    unfold flowMeterInstance
    cases tables.lookup .flowMeterInstance pkt.fields with
    | some r => rfl
    | none => rfl
  unfold apply
  dsimp only
  rw [evaluate]
  split
  · rw [answered]
    rfl
  · rfl

namespace Tsn

variable {target : Target} {registers registers' : Registers} {frame : Frame}

theorem readGateTs_igDprsrMd (target : Target) (registers : Registers) (tables : Tables)
    (pkt : Packet) :
    (readGateTs target tables registers pkt).igDprsrMd = pkt.igDprsrMd := by
  unfold readGateTs setHyperperiodTs StreamIdentification.apply
  dsimp only
  cases tables.lookup .streamId pkt.fields with
  | none => rfl
  | some r =>
    dsimp only
    split
    · rfl
    · rfl

theorem finishFrame_digestType (target : Target) (registers : Registers) (tables : Tables)
    (meter : MeterColor → BitVec 2) (pkt : Packet) :
    (finishFrame target tables meter registers pkt).pkt.igDprsrMd.digestType =
        pkt.igDprsrMd.digestType ∨
      (finishFrame target tables meter registers pkt).pkt.igDprsrMd.digestType = 1 := by
  have flow := FlowMeter.apply_igDprsrMd target tables meter registers.regMeterBlocked
    (StreamGate.apply target tables registers.streamGate pkt).pkt
  have gate := StreamGate.apply_digestType target tables registers.streamGate pkt
  have dropped (pkt : Packet) (result : Packet) (same : result.igDprsrMd = pkt.igDprsrMd) :
      (if result.igMd.toBeDropped = 1 then
        { result with igDprsrMd := { result.igDprsrMd with dropCtl := 3 } }
      else result).igDprsrMd.digestType = pkt.igDprsrMd.digestType := by
    have kept : result.igDprsrMd.digestType = pkt.igDprsrMd.digestType :=
      congrArg (fun md => md.digestType) same
    split
    · exact kept
    · exact kept
  unfold finishFrame
  dsimp only
  rw [dropped _ _ flow]
  rcases gate with kept | missed
  · exact .inl (congrArg (fun md => md.digestType) kept)
  · exact .inr missed

/-- Other packets leave these registers alone, and are not reported as the end of a period. -/
theorem apply_other (target : Target) (registers : Registers) (role : frame.role = .other) :
    (∃ streamGate regMeterBlocked,
        (apply target frame.tables frame.meter registers frame.pkt).registers =
          { registers with streamGate, regMeterBlocked }) ∧
      ((apply target frame.tables frame.meter registers frame.pkt).pkt.igDprsrMd.digestType =
          frame.pkt.igDprsrMd.digestType ∨
        (apply target frame.tables frame.meter registers frame.pkt).pkt.igDprsrMd.digestType =
          1) := by
  cases timer : frame.pkt.hdr.timer with
  | some generated =>
    rcases Decidable.em (generated.appId = 0) with control | hyperperiod
    · unfold apply
      rw [timer]
      dsimp only
      rw [if_neg (not_not_intro control)]
      refine ⟨⟨_, _, rfl⟩, .inl ?_⟩
      obtain ⟨diffTs, difference, adjusted⟩ := DeltaAdjustment.apply_eq frame.tables
        (calcDiffTs (readPortTs target frame.tables registers frame.pkt))
      have read : (readPortTs target frame.tables registers frame.pkt).igDprsrMd =
          frame.pkt.igDprsrMd := by
        unfold readPortTs setHyperperiodTs assignBatchIdTasPort
        dsimp only
        split
        · rfl
        · rfl
      rw [adjusted]
      unfold finishControlPacket
      dsimp only
      split
      · exact congrArg (fun md => md.digestType) read
      · exact congrArg (fun md => md.digestType) read
    · obtain ⟨missed, missed'⟩ := role_hyperperiod timer hyperperiod role
      rw [apply_hyperperiod timer hyperperiod]
      unfold hyperperiodPacket
      rw [missed, missed']
      exact ⟨⟨_, _, rfl⟩, .inl rfl⟩
  | none =>
    unfold apply
    rw [timer]
    dsimp only
    refine ⟨⟨_, _, rfl⟩, ?_⟩
    obtain ⟨diffTs, difference, adjusted⟩ := DeltaAdjustment.apply_eq frame.tables
      (calcDiffTs (readGateTs target frame.tables registers frame.pkt))
    have read := readGateTs_igDprsrMd target registers frame.tables frame.pkt
    have start : (DeltaAdjustment.apply frame.tables (calcDiffTs
        (readGateTs target frame.tables registers frame.pkt))).igDprsrMd.digestType =
        frame.pkt.igDprsrMd.digestType := by
      rw [adjusted]
      exact congrArg (fun md => md.digestType) read
    rcases finishFrame_digestType target registers frame.tables frame.meter
      (DeltaAdjustment.apply frame.tables (calcDiffTs
        (readGateTs target frame.tables registers frame.pkt))) with kept | missed
    · exact .inl (kept.trans start)
    · exact .inr missed

/-- The registers of the gates are the same. -/
structure SameGates (registers registers' : Registers) : Prop where
  lowerLastTs : registers'.lowerLastTs = registers.lowerLastTs
  higherLastTs : registers'.higherLastTs = registers.higherLastTs
  hyperperiodDone : registers'.hyperperiodDone = registers.hyperperiodDone
  periodCount : registers'.periodCount = registers.periodCount

/-- The registers of the ports are the same. -/
structure SamePorts (registers registers' : Registers) : Prop where
  tasLowerLastTs : registers'.tasLowerLastTs = registers.tasLowerLastTs
  tasHigherLastTs : registers'.tasHigherLastTs = registers.tasHigherLastTs
  index : registers'.nextTimeSeriesIndexTasDiff = registers.nextTimeSeriesIndexTasDiff
  series : registers'.tasHyperperiodDiff = registers.tasHyperperiodDiff

/-- Only hyperperiod packets of gates write the registers of the gates, and are reported. -/
theorem apply_sameGates (target : Target) (registers : Registers)
    (role : ∀ gate, frame.role ≠ .endsGate gate) :
    SameGates registers (apply target frame.tables frame.meter registers frame.pkt).registers ∧
      ((apply target frame.tables frame.meter registers frame.pkt).pkt.igDprsrMd.digestType =
          frame.pkt.igDprsrMd.digestType ∨
        (apply target frame.tables frame.meter registers frame.pkt).pkt.igDprsrMd.digestType =
          1) := by
  cases here : frame.role with
  | endsGate gate => exact absurd here (role gate)
  | endsPort port =>
    rcases role_endsPort here with ⟨timer, r, generated, hyperperiod, missed, found, rfl⟩
    rw [apply_hyperperiod generated hyperperiod]
    unfold hyperperiodPacket
    rw [missed, found]
    exact ⟨⟨rfl, rfl, rfl, rfl⟩, .inl rfl⟩
  | other =>
    obtain ⟨⟨streamGate, regMeterBlocked, unchanged⟩, digest⟩ := apply_other target registers here
    rw [unchanged]
    exact ⟨⟨rfl, rfl, rfl, rfl⟩, digest⟩

/-- Only hyperperiod packets of ports write the registers of the ports. -/
theorem apply_samePorts (target : Target) (registers : Registers)
    (role : ∀ port, frame.role ≠ .endsPort port) :
    SamePorts registers
      (apply target frame.tables frame.meter registers frame.pkt).registers := by
  cases here : frame.role with
  | endsPort port => exact absurd here (role port)
  | endsGate gate =>
    rcases role_endsGate here with ⟨timer, r, generated, hyperperiod, found, rfl⟩
    rw [apply_hyperperiod generated hyperperiod]
    unfold hyperperiodPacket
    rw [found]
    dsimp only
    unfold finishGatePeriod
    dsimp only
    split
    · exact ⟨rfl, rfl, rfl, rfl⟩
    · exact ⟨rfl, rfl, rfl, rfl⟩
  | other =>
    obtain ⟨⟨streamGate, regMeterBlocked, unchanged⟩, _⟩ := apply_other target registers here
    rw [unchanged]
    exact ⟨rfl, rfl, rfl, rfl⟩

/-! ## Runs -/

/-- The timestamp of a packet that ends a period of the gate. -/
def Frame.gateEnd? (c : Nat) (frame : Frame) : Option (BitVec 48) :=
  match frame.role with
  | .endsGate gate => if gate.toNat = c then some frame.tstamp else none
  | _ => none

/-- The timestamp of a packet that ends a period of the port. -/
def Frame.portEnd? (c : Nat) (frame : Frame) : Option (BitVec 48) :=
  match frame.role with
  | .endsPort port => if port.toNat = c then some frame.tstamp else none
  | _ => none

def Frame.endsSomePort (frame : Frame) : Bool :=
  match frame.role with
  | .endsPort _ => true
  | _ => false

def gateEnds (c : Nat) (frames : List Frame) : List (BitVec 48) :=
  frames.filterMap (Frame.gateEnd? c)

def portEnds (c : Nat) (frames : List Frame) : List (BitVec 48) :=
  frames.filterMap (Frame.portEnd? c)

/-- The number of hyperperiod packets of ports. -/
def portPeriods (frames : List Frame) : Nat :=
  frames.countP Frame.endsSomePort

/-- The time since the last hyperperiod packet of the same port, modulo `2 ^ 32`. -/
def gap (port : BitVec 9) (before : List Frame) (frame : Frame) : BitVec 32 :=
  (frame.tstamp - (portEnds port.toNat before).getLastD 0).setWidth 32

/-- What the registers of the gates hold of the hyperperiod packets so far. -/
structure GateMirrors (frames : List Frame) (registers : Registers) : Prop where
  gateTs : ∀ c, stored registers.higherLastTs registers.lowerLastTs c =
    (gateEnds c frames).getLastD 0
  done : ∀ c, registers.hyperperiodDone c = if gateEnds c frames = [] then 0 else 1
  count : ∀ c, registers.periodCount c = BitVec.ofNat 32 (gateEnds c frames).length

/-- What the registers of the ports hold of them. -/
def PortMirrors (frames : List Frame) (registers : Registers) : Prop :=
  ∀ c, stored registers.tasHigherLastTs registers.tasLowerLastTs c =
    (portEnds c frames).getLastD 0

/-- What the series holds of them. -/
structure Recorded (frames : List Frame) (registers : Registers) : Prop where
  index : registers.nextTimeSeriesIndexTasDiff 0 = BitVec.ofNat 32 (portPeriods frames)
  series : portPeriods frames ≤ 16000 → ∀ before frame after port,
    frames = before ++ frame :: after → frame.role = .endsPort port →
      registers.tasHyperperiodDiff (portPeriods before) = gap port before frame
  unwritten : portPeriods frames ≤ 16000 → ∀ k, portPeriods frames ≤ k →
    registers.tasHyperperiodDiff k = 0

/-- The registers a reset of the packet generator clears hold zeros. -/
structure Cleared (registers : Registers) : Prop where
  lowerLastTs : ∀ c, registers.lowerLastTs c = 0
  higherLastTs : ∀ c, registers.higherLastTs c = 0
  hyperperiodDone : ∀ c, registers.hyperperiodDone c = 0
  periodCount : ∀ c, registers.periodCount c = 0
  tasLowerLastTs : ∀ c, registers.tasLowerLastTs c = 0
  tasHigherLastTs : ∀ c, registers.tasHigherLastTs c = 0

theorem Cleared.gateMirrors (cleared : Cleared registers) : GateMirrors [] registers where
  gateTs c := by
    unfold stored
    rw [cleared.lowerLastTs, cleared.higherLastTs]
    rfl
  done c := by
    rw [cleared.hyperperiodDone]
    rfl
  count c := by
    rw [cleared.periodCount]
    rfl

theorem Cleared.portMirrors (cleared : Cleared registers) : PortMirrors [] registers := by
  intro c
  unfold stored
  rw [cleared.tasLowerLastTs, cleared.tasHigherLastTs]
  rfl

theorem gateEnds_append (c : Nat) (frames : List Frame) (frame : Frame) :
    gateEnds c (frames ++ [frame]) = gateEnds c frames ++ (frame.gateEnd? c).toList := by
  unfold gateEnds
  rw [List.filterMap_append]
  congr 1

theorem portEnds_append (c : Nat) (frames : List Frame) (frame : Frame) :
    portEnds c (frames ++ [frame]) = portEnds c frames ++ (frame.portEnd? c).toList := by
  unfold portEnds
  rw [List.filterMap_append]
  congr 1

theorem portPeriods_append (frames : List Frame) (frame : Frame) :
    portPeriods (frames ++ [frame]) =
      portPeriods frames + if frame.endsSomePort then 1 else 0 := by
  unfold portPeriods
  rw [List.countP_append, List.countP_singleton]

variable {frames : List Frame}

theorem gateEnds_of_other {c : Nat} (other : ∀ gate, frame.role ≠ .endsGate gate) :
    gateEnds c (frames ++ [frame]) = gateEnds c frames := by
  have none : frame.gateEnd? c = .none := by
    unfold Frame.gateEnd?
    split
    · rename_i gate role
      exact absurd role (other gate)
    · rfl
  rw [gateEnds_append, none, Option.toList_none, List.append_nil]

theorem portEnds_of_other {c : Nat} (other : ∀ port, frame.role ≠ .endsPort port) :
    portEnds c (frames ++ [frame]) = portEnds c frames := by
  have none : frame.portEnd? c = .none := by
    unfold Frame.portEnd?
    split
    · rename_i port role
      exact absurd role (other port)
    · rfl
  rw [portEnds_append, none, Option.toList_none, List.append_nil]

theorem gateEnds_of_endsGate {gate : BitVec 16} (c : Nat) (role : frame.role = .endsGate gate) :
    gateEnds c (frames ++ [frame]) =
      if c = gate.toNat then gateEnds c frames ++ [frame.tstamp] else gateEnds c frames := by
  have own : frame.gateEnd? c = if gate.toNat = c then some frame.tstamp else none := by
    unfold Frame.gateEnd?
    rw [role]
  rw [gateEnds_append, own]
  rcases Decidable.em (c = gate.toNat) with rfl | other
  · rw [if_pos rfl, if_pos rfl, Option.toList_some]
  · rw [if_neg other, if_neg (Ne.symm other), Option.toList_none, List.append_nil]

theorem portEnds_of_endsPort {port : BitVec 9} (c : Nat) (role : frame.role = .endsPort port) :
    portEnds c (frames ++ [frame]) =
      if c = port.toNat then portEnds c frames ++ [frame.tstamp] else portEnds c frames := by
  have own : frame.portEnd? c = if port.toNat = c then some frame.tstamp else none := by
    unfold Frame.portEnd?
    rw [role]
  rw [portEnds_append, own]
  rcases Decidable.em (c = port.toNat) with rfl | other
  · rw [if_pos rfl, if_pos rfl, Option.toList_some]
  · rw [if_neg other, if_neg (Ne.symm other), Option.toList_none, List.append_nil]

theorem gateMirrors_endsGate {gate : BitVec 16} (mirrors : GateMirrors frames registers)
    (role : frame.role = .endsGate gate) (inRange : gate.toNat < 256) :
    GateMirrors (frames ++ [frame])
      (apply target frame.tables frame.meter registers frame.pkt).registers := by
  have gates (c : Nat) : gateEnds c (frames ++ [frame]) =
      if c = gate.toNat then gateEnds c frames ++ [frame.tstamp] else gateEnds c frames :=
    gateEnds_of_endsGate c role
  rw [(apply_endsGate role inRange).1]
  refine ⟨fun c => ?_, fun c => ?_, fun c => ?_⟩
  · dsimp only
    rw [stored_update, gates, mirrors.gateTs]
    split
    · rw [List.getLastD_concat]
    · rfl
  · dsimp only
    rw [gates]
    rcases Decidable.em (c = gate.toNat) with rfl | other
    · rw [Function.update_self, if_pos rfl, if_neg (List.append_ne_nil_of_right_ne_nil _
        (List.cons_ne_nil _ _))]
    · rw [Function.update_of_ne other, if_neg other, mirrors.done]
  · dsimp only
    rw [gates]
    rcases Decidable.em (c = gate.toNat) with rfl | other
    · rw [Function.update_self, if_pos rfl, mirrors.count, List.length_append, BitVec.ofNat_add]
      rfl
    · rw [Function.update_of_ne other, if_neg other, mirrors.count]

theorem gateMirrors_step (mirrors : GateMirrors frames registers) (inRange : frame.GateInRange) :
    GateMirrors (frames ++ [frame])
      (apply target frame.tables frame.meter registers frame.pkt).registers := by
  rcases Classical.em (∃ gate, frame.role = .endsGate gate) with ⟨gate, role⟩ | none
  · exact gateMirrors_endsGate mirrors role (inRange gate role)
  · have other : ∀ gate, frame.role ≠ .endsGate gate := fun gate role => none ⟨gate, role⟩
    have same := (apply_sameGates target registers other).1
    refine ⟨fun c => ?_, fun c => ?_, fun c => ?_⟩
    · rw [same.higherLastTs, same.lowerLastTs, gateEnds_of_other other, mirrors.gateTs]
    · rw [same.hyperperiodDone, gateEnds_of_other other, mirrors.done]
    · rw [same.periodCount, gateEnds_of_other other, mirrors.count]

theorem portMirrors_step (mirrors : PortMirrors frames registers) (inRange : frame.PortInRange) :
    PortMirrors (frames ++ [frame])
      (apply target frame.tables frame.meter registers frame.pkt).registers := by
  intro c
  rcases Classical.em (∃ port, frame.role = .endsPort port) with ⟨port, role⟩ | none
  · rw [(apply_endsPort role (inRange port role)).1]
    dsimp only
    rw [stored_update, portEnds_of_endsPort c role, mirrors]
    split
    · rw [List.getLastD_concat]
    · rfl
  · have other : ∀ port, frame.role ≠ .endsPort port := fun port role => none ⟨port, role⟩
    have same := apply_samePorts target registers other
    rw [same.tasHigherLastTs, same.tasLowerLastTs, portEnds_of_other other, mirrors]

/-! ### The series -/

/-- The difference of the 64-bit copies, cut to 32 bits, is the one of the timestamps. -/
theorem portDiff_eq (mirrors : PortMirrors frames registers) (port : BitVec 9) :
    portDiff registers port frame.tstamp = gap port frames frame := by
  unfold portDiff gap
  rw [mirrors]
  generalize (portEnds port.toNat frames).getLastD 0 = last
  apply BitVec.eq_of_toNat_eq
  have bound := frame.tstamp.isLt
  have bound' := last.isLt
  rw [BitVec.toNat_setWidth, BitVec.toNat_setWidth, BitVec.toNat_sub, BitVec.toNat_sub,
    BitVec.toNat_setWidth, BitVec.toNat_setWidth]
  omega

theorem recorded_endsPort {port : BitVec 9} (mirrors : PortMirrors frames registers)
    (recorded : Recorded frames registers) (role : frame.role = .endsPort port)
    (inRange : port.toNat < 256) :
    Recorded (frames ++ [frame])
      (apply target frame.tables frame.meter registers frame.pkt).registers := by
  have periods : portPeriods (frames ++ [frame]) = portPeriods frames + 1 := by
    rw [portPeriods_append, Frame.endsSomePort, role]
    rfl
  have index (few : portPeriods frames + 1 ≤ 16000) :
      (registers.nextTimeSeriesIndexTasDiff 0).toNat = portPeriods frames := by
    rw [recorded.index, BitVec.toNat_ofNat]
    exact Nat.mod_eq_of_lt (by omega)
  rw [(apply_endsPort role inRange).1]
  refine ⟨?_, fun few before frame' after port' split role' => ?_, fun few k later => ?_⟩
  · dsimp only
    rw [Function.update_self, recorded.index, periods, BitVec.ofNat_add]
    rfl
  · dsimp only
    rw [periods] at few
    rw [index few, Target.write_cell (target.inRange 16000 _ few)]
    rcases History.split_of_append_singleton split with ⟨rfl, rfl⟩ | ⟨earlier, rfl, rfl⟩
    · rw [role] at role'
      cases role'
      rw [Function.update_self, portDiff_eq mirrors]
    · have before_lt : portPeriods before < portPeriods (before ++ frame' :: earlier) := by
        unfold portPeriods
        rw [List.countP_append, List.countP_cons_of_pos (by unfold Frame.endsSomePort; rw [role'])]
        omega
      rw [Function.update_of_ne (Nat.ne_of_lt before_lt)]
      exact recorded.series (by omega) before frame' earlier port' rfl role'
  · dsimp only
    rw [periods] at few later
    rw [index few, Target.write_cell (target.inRange 16000 _ few),
      Function.update_of_ne (by omega)]
    exact recorded.unwritten (by omega) k (by omega)

theorem recorded_step (mirrors : PortMirrors frames registers)
    (recorded : Recorded frames registers) (inRange : frame.PortInRange) :
    Recorded (frames ++ [frame])
      (apply target frame.tables frame.meter registers frame.pkt).registers := by
  rcases Classical.em (∃ port, frame.role = .endsPort port) with ⟨port, role⟩ | none
  · exact recorded_endsPort mirrors recorded role (inRange port role)
  · -- nothing is counted, and nothing written
    have other : ∀ port, frame.role ≠ .endsPort port := fun port role => none ⟨port, role⟩
    have same := apply_samePorts target registers other
    have uncounted : frame.endsSomePort = false := by
      unfold Frame.endsSomePort
      split
      · rename_i port endsPort
        exact absurd endsPort (other port)
      · rfl
    have periods : portPeriods (frames ++ [frame]) = portPeriods frames := by
      rw [portPeriods_append, uncounted]
      rfl
    refine ⟨?_, fun few before frame' after port' split role' => ?_, fun few k later => ?_⟩
    · rw [same.index, periods]
      exact recorded.index
    · rw [periods] at few
      rw [same.series]
      rcases History.split_of_append_singleton split with ⟨rfl, rfl⟩ | ⟨earlier, rfl, rfl⟩
      · exact absurd role' (other port')
      · exact recorded.series few before frame' earlier port' rfl role'
    · rw [periods] at few later
      rw [same.series]
      exact recorded.unwritten few k later

/-- A property of the frames so far and the registers that every frame of the run keeps. -/
theorem run_keeps {I : List Frame → Registers → Prop} {events : List (Frame × Result)}
    (run : Transition.Run (step target) registers events registers') (start : I [] registers)
    (kept : ∀ event ∈ events, ∀ frames registers, I frames registers →
      I (frames ++ [event.1])
        (apply target event.1.tables event.1.meter registers event.1.pkt).registers) :
    I (events.map Prod.fst) registers' := by
  induction events using List.reverseRecOn generalizing registers' with
  | nil => exact Transition.Run.nil_iff.mp run ▸ start
  | append_singleton events event ih =>
    obtain ⟨s, earlier, last⟩ := Transition.Run.append_iff.mp run
    obtain ⟨s', taken, done⟩ := Transition.Run.cons_iff.mp last
    have holds := ih earlier fun event' member => kept event' (List.mem_append_left _ member)
    rw [← Transition.Run.nil_iff.mp done, ← taken.2, ← taken.1, List.map_append]
    exact kept event (List.mem_append_right _ List.mem_cons_self) _ _ holds

/-- In every run from cleared registers they hold the hyperperiod packets of the run. -/
theorem run_gateMirrors {events : List (Frame × Result)}
    (run : Transition.Run (step target) registers events registers') (cleared : Cleared registers)
    (inRange : ∀ event ∈ events, event.1.GateInRange) :
    GateMirrors (events.map Prod.fst) registers' :=
  run_keeps run cleared.gateMirrors fun event member _ _ mirrors =>
    gateMirrors_step mirrors (inRange event member)

theorem run_recorded {events : List (Frame × Result)}
    (run : Transition.Run (step target) registers events registers') (cleared : Cleared registers)
    (empty : Recorded [] registers) (inRange : ∀ event ∈ events, event.1.PortInRange) :
    Recorded (events.map Prod.fst) registers' :=
  (run_keeps
    (I := fun frames registers => PortMirrors frames registers ∧ Recorded frames registers)
    run ⟨cleared.portMirrors, empty⟩ fun event member _ _ holds =>
      ⟨portMirrors_step holds.1 (inRange event member),
        recorded_step holds.1 holds.2 (inRange event member)⟩).2

/-- Where all hyperperiod packets of ports are of one port, they are counted by its timestamps. -/
theorem portPeriods_eq_length {port : BitVec 9}
    (only : ∀ frame ∈ frames, ∀ port', frame.role = .endsPort port' → port' = port) :
    portPeriods frames = (portEnds port.toNat frames).length := by
  induction frames with
  | nil => rfl
  | cons frame frames ih =>
    have rest := ih fun frame' member => only frame' (List.mem_cons_of_mem _ member)
    unfold portPeriods portEnds at rest ⊢
    cases role : frame.role with
    | endsPort port' =>
      have own := only frame List.mem_cons_self port' role
      subst own
      have hit : frame.portEnd? port'.toNat = some frame.tstamp := by
        unfold Frame.portEnd?
        rw [role]
        exact if_pos rfl
      rw [List.countP_cons_of_pos (by unfold Frame.endsSomePort; rw [role]),
        List.filterMap_cons_some hit, List.length_cons, rest]
    | endsGate gate =>
      have miss : frame.portEnd? port.toNat = none := by
        unfold Frame.portEnd?
        rw [role]
      have quiet : ¬ frame.endsSomePort = true := by
        unfold Frame.endsSomePort
        rw [role]
        exact Bool.false_ne_true
      rw [List.countP_cons_of_neg quiet, List.filterMap_cons_none miss, rest]
    | other =>
      have miss : frame.portEnd? port.toNat = none := by
        unfold Frame.portEnd?
        rw [role]
      have quiet : ¬ frame.endsSomePort = true := by
        unfold Frame.endsSomePort
        rw [role]
        exact Bool.false_ne_true
      rw [List.countP_cons_of_neg quiet, List.filterMap_cons_none miss, rest]

/-- The role of a packet that ends a period of the port. -/
theorem role_of_portEnd? {c : Nat} {tstamp : BitVec 48}
    (ends : frame.portEnd? c = some tstamp) :
    ∃ port, frame.role = .endsPort port ∧ port.toNat = c ∧ frame.tstamp = tstamp := by
  unfold Frame.portEnd? at ends
  split at ends
  · rename_i port role
    split at ends
    · rename_i same
      exact ⟨port, role, same, Option.some.inj ends⟩
    · cases ends
  · cases ends

/-- A packet is reported as the end of a first period exactly if it is the first hyperperiod packet
of its gate. -/
theorem digestType_iff (mirrors : GateMirrors frames registers) (inRange : frame.GateInRange)
    (unset : frame.pkt.igDprsrMd.digestType = 0) :
    (apply target frame.tables frame.meter registers frame.pkt).pkt.igDprsrMd.digestType = 6 ↔
      ∃ gate, frame.role = .endsGate gate ∧ gateEnds gate.toNat frames = [] := by
  rcases Classical.em (∃ gate, frame.role = .endsGate gate) with ⟨gate, role⟩ | none
  · rw [(apply_endsGate role (inRange gate role)).2, mirrors.done, unset]
    refine ⟨fun reported => ⟨gate, role, ?_⟩, fun h => ?_⟩
    · by_contra earlier
      rw [if_neg earlier] at reported
      exact absurd reported (by decide)
    · obtain ⟨gate', role', first⟩ := h
      cases Role.endsGate.inj (role.symm.trans role')
      rw [if_pos first]
      rfl
  · have other : ∀ gate, frame.role ≠ .endsGate gate := fun gate role => none ⟨gate, role⟩
    refine ⟨fun reported => ?_, fun h => absurd h.choose_spec.1 (other _)⟩
    rcases (apply_sameGates target registers other).2 with kept | missed
    · rw [kept, unset] at reported
      exact absurd reported (by decide)
    · rw [missed] at reported
      exact absurd reported (by decide)

theorem gateEnds_eq_nil {gate : BitVec 16} :
    gateEnds gate.toNat frames = [] ↔ ∀ frame ∈ frames, frame.role ≠ .endsGate gate := by
  unfold gateEnds
  rw [List.filterMap_eq_nil_iff]
  refine forall₂_congr fun frame _ => ?_
  unfold Frame.gateEnd?
  split
  · rename_i gate' role
    rw [role, ne_eq, Role.endsGate.injEq, ← BitVec.toNat_inj]
    split
    · rename_i same
      exact ⟨nofun, fun other => absurd same other⟩
    · rename_i other
      exact ⟨fun _ => other, fun _ => rfl⟩
  · rename_i other
    exact ⟨fun _ => other gate, fun _ => rfl⟩

/-- In every run each gate is reported once, with its first hyperperiod packet. -/
theorem one_digest {before after : List (Frame × Result)} {event : Frame × Result}
    (run : Transition.Run (step target) registers (before ++ event :: after) registers')
    (cleared : Cleared registers)
    (inRange : ∀ event' ∈ before ++ event :: after, event'.1.GateInRange)
    (unset : event.1.pkt.igDprsrMd.digestType = 0) :
    event.2.pkt.igDprsrMd.digestType = 6 ↔
      ∃ gate, event.1.role = .endsGate gate ∧
        ∀ event' ∈ before, event'.1.role ≠ .endsGate gate := by
  obtain ⟨s, earlier, later⟩ := Transition.Run.append_iff.mp run
  obtain ⟨s', taken, _⟩ := Transition.Run.cons_iff.mp later
  have mirrors := run_gateMirrors earlier cleared fun event' member =>
    inRange event' (List.mem_append_left _ member)
  rw [← taken.1, digestType_iff mirrors
    (inRange event (List.mem_append_right _ List.mem_cons_self)) unset]
  refine exists_congr fun gate => and_congr_right fun _ => ?_
  rw [gateEnds_eq_nil, List.forall_mem_map]

/-- A hyperperiod packet, of gate 5 for app id 1 and of port 3 for app id 2. -/
def periodFrame (appId : BitVec 4) (ts : BitVec 48) : Frame where
  tables := {
    installed := [
      { table := .appIdStreamGate
        matchKeys := [(.timerAppId, .exact 1)]
        action := .assignAppIdStreamGate
        actionData := [(.streamGateId, 5)] },
      { table := .appIdTas
        matchKeys := [(.timerAppId, .exact 2)]
        action := .assignAppIdTasPort
        actionData := [(.port, 3), (.duration, 400)] }]
    precedence := .first }
  meter := fun _ => 0
  pkt := { (default : Packet) with
    hdr := { (default : Headers) with timer := some ⟨0, appId, 0, 0⟩ }
    igIntrMd := { ingressMacTstamp := ts } }
  fresh := rfl

/-- Two hyperperiod packets of an application. -/
def periodRun (appId : BitVec 4) : List (Frame × Result) :=
  [(periodFrame appId 1000, (periodFrame appId 1000).pass sampleRegisters),
    (periodFrame appId 1410,
      (periodFrame appId 1410).pass ((periodFrame appId 1000).pass sampleRegisters).registers)]

def periodRegisters (appId : BitVec 4) : Registers :=
  ((periodFrame appId 1410).pass
    ((periodFrame appId 1000).pass sampleRegisters).registers).registers

theorem periodRun_run (appId : BitVec 4) :
    Transition.Run (step .strict) sampleRegisters (periodRun appId) (periodRegisters appId) :=
  .cons ⟨rfl, rfl⟩ (.cons ⟨rfl, rfl⟩ (.nil _))

theorem sampleRegisters_cleared : Cleared sampleRegisters :=
  ⟨fun _ => rfl, fun _ => rfl, fun _ => rfl, fun _ => rfl, fun _ => rfl, fun _ => rfl⟩

theorem periodRun_gates : ∀ event ∈ periodRun 1, event.1.GateInRange := by
  have roles : ∀ event ∈ periodRun 1, event.1.role = .endsGate 5 := by decide +kernel
  intro event member gate role
  cases (roles event member).symm.trans role
  decide

theorem periodRun_ports :
    ∀ event ∈ periodRun 2, ∀ port, event.1.role = .endsPort port → port = 3 := by
  have roles : ∀ event ∈ periodRun 2, event.1.role = .endsPort 3 := by decide +kernel
  intro event member port role
  cases (roles event member).symm.trans role
  rfl

/-- The second hyperperiod packet of the gate is not reported. -/
theorem one_digest_sample :
    ((periodFrame 1 1410).pass
      ((periodFrame 1 1000).pass sampleRegisters).registers).pkt.igDprsrMd.digestType ≠ 6 := by
  have run : Transition.Run (step .strict) sampleRegisters
      ([(periodFrame 1 1000, (periodFrame 1 1000).pass sampleRegisters)] ++
        (periodFrame 1 1410, (periodFrame 1 1410).pass
          ((periodFrame 1 1000).pass sampleRegisters).registers) :: [])
      (periodRegisters 1) :=
    periodRun_run 1
  have reported := one_digest run sampleRegisters_cleared periodRun_gates (by decide +kernel)
  intro again
  obtain ⟨gate, role, first⟩ := reported.mp again
  have own : (periodFrame 1 1000).role = (periodFrame 1 1410).role := by decide +kernel
  exact first _ List.mem_cons_self (own.trans role)

end Tsn

end P4Tas.DataPlane
