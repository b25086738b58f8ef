import P4Tas.DataPlane.Blocking

/-!
# Which cells a frame uses

All gates share the registers of the control, each indexed by the id of a gate, of an interval or of
a meter.  A control only uses the cells that the packet's ids select: on registers that agree on
these cells it does the same, and it leaves the other cells alone.
-/

namespace P4Tas.DataPlane

open Target (AgreeOn)

/-! ## The stream gate -/

namespace StreamGate

/-- The registers agree on the cells of some gates and of some intervals. -/
structure Agree (gates intervals : Nat → Prop) (registers registers' : Registers) : Prop where
  regGateBlocked : AgreeOn gates registers.regGateBlocked registers'.regGateBlocked
  stateResetOctets : AgreeOn intervals registers.stateResetOctets registers'.stateResetOctets
  firstSduPerInterval :
    AgreeOn intervals registers.firstSduPerInterval registers'.firstSduPerInterval
  octetsPerInterval : AgreeOn intervals registers.octetsPerInterval registers'.octetsPerInterval

theorem Agree.refl (gates intervals : Nat → Prop) (registers : Registers) :
    Agree gates intervals registers registers :=
  ⟨.refl _ _, .refl _ _, .refl _ _, .refl _ _⟩

variable (target : Target) {tables : Tables} {gates intervals : Nat → Prop}
  {registers registers' : Registers} (pkt : Packet)

/-- The octet check of an own interval sees and leaves the registers in agreement. -/
theorem checkOctets_inside (agree : Agree gates intervals registers registers')
    (inside : pkt.igMd.streamGate.intervalIdentifier.toNat < 2048)
    (own : intervals pkt.igMd.streamGate.intervalIdentifier.toNat) :
    Agree gates intervals (checkOctets target registers pkt).1
        (checkOctets target registers' pkt).1 ∧
      (checkOctets target registers pkt).2 = (checkOctets target registers' pkt).2 := by
  have period := target.execute_inside agree.stateResetOctets inside own (setResetOctetsFlag pkt)
  rw [checkOctets_steps, checkOctets_steps]
  dsimp only
  rw [period.2]
  generalize (target.execute 2048 registers'.stateResetOctets _ (setResetOctetsFlag pkt)).2 = flag
  cases flag with
  | true =>
    rw [if_pos rfl, if_pos rfl]
    have sdu := target.write_inside agree.firstSduPerInterval inside own fun _ =>
      pkt.hdr.recirc.pktLen.setWidth 32
    have octets := target.write_inside agree.octetsPerInterval inside own fun _ =>
      pkt.igMd.streamGate.maxOctetsInterval
    exact ⟨⟨agree.regGateBlocked, period.1, sdu, octets⟩, rfl⟩
  | false =>
    rw [if_neg Bool.false_ne_true, if_neg Bool.false_ne_true]
    have octets := target.execute_inside agree.octetsPerInterval inside own
      (decrementOctets (flagPeriod pkt false))
    have sdu (remaining : BitVec 32) := target.execute_inside agree.firstSduPerInterval inside own
      (getFirstSdu (keepRemaining (flagPeriod pkt false) remaining))
    unfold countOctets
    dsimp only [flagPeriod] at octets sdu ⊢
    rw [octets.2, (sdu _).2]
    exact ⟨⟨agree.regGateBlocked, period.1, (sdu _).1, octets.1⟩, rfl⟩

/-- The octet check of another interval does not matter. -/
theorem checkOctets_outside (agree : Agree gates intervals registers registers')
    (inside : pkt.igMd.streamGate.intervalIdentifier.toNat < 2048)
    (foreign : ¬ intervals pkt.igMd.streamGate.intervalIdentifier.toNat) :
    Agree gates intervals (checkOctets target registers pkt).1 registers' := by
  have period := target.execute_outside agree.stateResetOctets inside foreign
    (setResetOctetsFlag pkt)
  rw [checkOctets_steps]
  dsimp only
  split
  · have sdu := target.write_outside agree.firstSduPerInterval inside foreign fun _ =>
      pkt.hdr.recirc.pktLen.setWidth 32
    have octets := target.write_outside agree.octetsPerInterval inside foreign fun _ =>
      pkt.igMd.streamGate.maxOctetsInterval
    exact ⟨agree.regGateBlocked, period, sdu, octets⟩
  · refine ⟨agree.regGateBlocked, period, ?_, ?_⟩
    · exact target.execute_outside agree.firstSduPerInterval inside foreign _
    · exact target.execute_outside agree.octetsPerInterval inside foreign _

/-- What two passes through the gate have in common. -/
def SameResult (gates intervals : Nat → Prop) (result result' : Result) : Prop :=
  Agree gates intervals result.registers result'.registers ∧ result.pkt = result'.pkt

theorem blockGate_inside (agree : Agree gates intervals registers registers')
    (inside : pkt.igMd.streamFilter.streamGateId.toNat < 2048)
    (own : gates pkt.igMd.streamFilter.streamGateId.toNat) :
    SameResult gates intervals (blockGate target registers pkt) (blockGate target registers' pkt) :=
  ⟨⟨target.write_inside agree.regGateBlocked inside own fun _ => 1, agree.stateResetOctets,
    agree.firstSduPerInterval, agree.octetsPerInterval⟩, rfl⟩

theorem blockGate_outside (agree : Agree gates intervals registers registers')
    (inside : pkt.igMd.streamFilter.streamGateId.toNat < 2048)
    (foreign : ¬ gates pkt.igMd.streamFilter.streamGateId.toNat) :
    Agree gates intervals (blockGate target registers pkt).registers registers' :=
  ⟨target.write_outside agree.regGateBlocked inside foreign fun _ => 1, agree.stateResetOctets,
    agree.firstSduPerInterval, agree.octetsPerInterval⟩

theorem passGate_inside (agree : Agree gates intervals registers registers')
    (inside : pkt.igMd.streamFilter.streamGateId.toNat < 2048)
    (own : gates pkt.igMd.streamFilter.streamGateId.toNat) :
    SameResult gates intervals (passGate target registers pkt)
      (passGate target registers' pkt) := by
  have state := target.read_inside agree.regGateBlocked inside own
  unfold passGate
  split
  · exact blockGate_inside target _ agree inside own
  · split
    · split
      · exact blockGate_inside target _ agree inside own
      · exact ⟨agree, rfl⟩
    · dsimp only
      rw [state]
      split
      · exact ⟨agree, rfl⟩
      · exact ⟨agree, rfl⟩

theorem passGate_outside (agree : Agree gates intervals registers registers')
    (inside : pkt.igMd.streamFilter.streamGateId.toNat < 2048)
    (foreign : ¬ gates pkt.igMd.streamFilter.streamGateId.toNat) :
    Agree gates intervals (passGate target registers pkt).registers registers' := by
  unfold passGate
  split
  · exact blockGate_outside target _ agree inside foreign
  · split
    · split
      · exact blockGate_outside target _ agree inside foreign
      · exact agree
    · dsimp only
      split
      · exact agree
      · exact agree

/-- A pass through an own gate, where only own intervals can be found. -/
theorem apply_inside (agree : Agree gates intervals registers registers')
    (inside : pkt.igMd.streamFilter.streamGateId.toNat < 2048)
    (own : gates pkt.igMd.streamFilter.streamGateId.toNat)
    (found : ∀ r, tables.lookup .streamGateInstance pkt.fields = some r →
      (param r .intervalIdentifier 12).toNat < 2048 ∧
        intervals (param r .intervalIdentifier 12).toNat) :
    SameResult gates intervals (apply target tables registers pkt)
      (apply target tables registers' pkt) := by
  unfold apply
  split
  · unfold streamGateInstance
    cases hit : tables.lookup .streamGateInstance pkt.fields with
    | none =>
      dsimp only
      rw [if_pos rfl, if_pos rfl]
      split
      · exact blockGate_inside target _ agree inside own
      · exact ⟨agree, rfl⟩
    | some r =>
      rcases found r hit with ⟨small, ownInterval⟩
      dsimp only
      rw [if_neg Bool.false_ne_true, if_neg Bool.false_ne_true]
      split
      · have checked := checkOctets_inside target (setGateAndIpv r pkt) agree small ownInterval
        rcases checkOctets_eq target registers' (setGateAndIpv r pkt) with ⟨_, _, _, _, pkt_eq⟩
        have passed := passGate_inside target
          (checkOctets target registers' (setGateAndIpv r pkt)).2 checked.1
          (by rw [pkt_eq]; exact inside) (by rw [pkt_eq]; exact own)
        rw [checked.2]
        exact ⟨passed.1, congrArg setQid passed.2⟩
      · have passed := passGate_inside target (setGateAndIpv r pkt) agree inside own
        exact ⟨passed.1, congrArg setQid passed.2⟩
  · exact ⟨agree, rfl⟩

/-- A pass through another gate, where no own interval can be found. -/
theorem apply_outside (agree : Agree gates intervals registers registers')
    (inside : pkt.igMd.streamFilter.streamGateId.toNat < 2048)
    (foreign : ¬ gates pkt.igMd.streamFilter.streamGateId.toNat)
    (found : ∀ r, tables.lookup .streamGateInstance pkt.fields = some r →
      (param r .intervalIdentifier 12).toNat < 2048 ∧
        ¬ intervals (param r .intervalIdentifier 12).toNat) :
    Agree gates intervals (apply target tables registers pkt).registers registers' := by
  unfold apply
  split
  · unfold streamGateInstance
    cases hit : tables.lookup .streamGateInstance pkt.fields with
    | none =>
      dsimp only
      rw [if_pos rfl]
      split
      · exact blockGate_outside target _ agree inside foreign
      · exact agree
    | some r =>
      rcases found r hit with ⟨small, foreignInterval⟩
      dsimp only
      rw [if_neg Bool.false_ne_true]
      split
      · have checked := checkOctets_outside target (setGateAndIpv r pkt) agree small
          foreignInterval
        rcases checkOctets_eq target registers (setGateAndIpv r pkt) with ⟨_, _, _, _, pkt_eq⟩
        exact passGate_outside target (checkOctets target registers (setGateAndIpv r pkt)).2 checked
          (by rw [pkt_eq]; exact inside) (by rw [pkt_eq]; exact foreign)
      · exact passGate_outside target (setGateAndIpv r pkt) agree inside foreign
  · exact agree

end StreamGate

/-! ## The flow meter -/

namespace FlowMeter

variable (target : Target) {tables : Tables} {meters : Nat → Prop}
  {regMeterBlocked regMeterBlocked' : Registers} (pkt : Packet)

/-- What two passes through the meter have in common. -/
def SameResult (meters : Nat → Prop) (result result' : Result) : Prop :=
  AgreeOn meters result.regMeterBlocked result'.regMeterBlocked ∧ result.pkt = result'.pkt

theorem evaluateColor_inside (agree : AgreeOn meters regMeterBlocked regMeterBlocked')
    (inside : pkt.igMd.streamFilter.flowMeterInstanceId.toNat < 2048)
    (own : meters pkt.igMd.streamFilter.flowMeterInstanceId.toNat) :
    SameResult meters (evaluateColor target regMeterBlocked pkt)
      (evaluateColor target regMeterBlocked' pkt) := by
  have state := target.read_inside agree inside own
  unfold evaluateColor
  dsimp only
  rw [state]
  split
  · split
    · exact ⟨agree, rfl⟩
    · exact ⟨agree, rfl⟩
  · split
    · split
      · exact ⟨target.write_inside agree inside own fun _ => 1, rfl⟩
      · exact ⟨agree, rfl⟩
    · split
      · split
        · exact ⟨agree, rfl⟩
        · exact ⟨agree, rfl⟩
      · exact ⟨agree, rfl⟩

theorem evaluateColor_outside (agree : AgreeOn meters regMeterBlocked regMeterBlocked')
    (inside : pkt.igMd.streamFilter.flowMeterInstanceId.toNat < 2048)
    (foreign : ¬ meters pkt.igMd.streamFilter.flowMeterInstanceId.toNat) :
    AgreeOn meters (evaluateColor target regMeterBlocked pkt).regMeterBlocked regMeterBlocked' := by
  unfold evaluateColor
  dsimp only
  split
  · split
    · exact agree
    · exact agree
  · split
    · split
      · exact target.write_outside agree inside foreign fun _ => 1
      · exact agree
    · split
      · split
        · exact agree
        · exact agree
      · exact agree

/-- The packet the color is evaluated for. -/
def colored (tables : Tables) (meter : MeterColor → BitVec 2) (pkt : Packet) : Packet :=
  if (preColoring pkt).igMd.toBeDropped = 0 then
    flowMeterInstance tables meter (preColoring pkt)
  else
    preColoring pkt

theorem colored_streamFilter (tables : Tables) (meter : MeterColor → BitVec 2) (pkt : Packet) :
    (colored tables meter pkt).igMd.streamFilter = pkt.igMd.streamFilter := by
  unfold colored
  split
  · rw [flowMeterInstance_igMd]
    rfl
  · rfl

theorem apply_colored (target : Target) (tables : Tables) (meter : MeterColor → BitVec 2)
    (regMeterBlocked : Registers) (pkt : Packet) :
    apply target tables meter regMeterBlocked pkt =
      evaluateColor target regMeterBlocked (colored tables meter pkt) :=
  rfl

theorem apply_inside (agree : AgreeOn meters regMeterBlocked regMeterBlocked')
    (inside : pkt.igMd.streamFilter.flowMeterInstanceId.toNat < 2048)
    (own : meters pkt.igMd.streamFilter.flowMeterInstanceId.toNat)
    (meter : MeterColor → BitVec 2) :
    SameResult meters (apply target tables meter regMeterBlocked pkt)
      (apply target tables meter regMeterBlocked' pkt) := by
  rw [apply_colored, apply_colored]
  refine evaluateColor_inside target _ agree ?_ ?_
  · rw [colored_streamFilter]
    exact inside
  · rw [colored_streamFilter]
    exact own

theorem apply_outside (agree : AgreeOn meters regMeterBlocked regMeterBlocked')
    (inside : pkt.igMd.streamFilter.flowMeterInstanceId.toNat < 2048)
    (foreign : ¬ meters pkt.igMd.streamFilter.flowMeterInstanceId.toNat)
    (meter : MeterColor → BitVec 2) :
    AgreeOn meters (apply target tables meter regMeterBlocked pkt).regMeterBlocked
      regMeterBlocked' := by
  rw [apply_colored]
  refine evaluateColor_outside target _ agree ?_ ?_
  · rw [colored_streamFilter]
    exact inside
  · rw [colored_streamFilter]
    exact foreign

end FlowMeter

end P4Tas.DataPlane
