import P4Tas.DataPlane.PeriodRegisters

/-!
# What the policing lets pass

Over a run of the control in which no gate polices octets, the fate of a frame is a function of the
packets before it: of the hyperperiod packets of its gate, of the earlier frames of the gate that
came outside their time slices, and of the earlier frames of its meter that the meter found red.

* `StreamGate.apply_unpoliced`, `FlowMeter.apply_judged`: what the two controls do to a frame;
* `Frame.PassesGate`, `Frame.PassesMeter`: the fate of a frame after a history;
* `run_records`: the registers hold the history as far as it matters;
* `frame_dropped_iff`: a frame is dropped exactly when it does not pass.
-/

namespace P4Tas.DataPlane

theorem eq_zero_iff {b : BitVec 1} : b = 0 ↔ ¬ b = 1 := by
  revert b
  decide

namespace StreamGate

/-- The entry that a packet hits opens the gate. -/
def Opens (tables : Tables) (pkt : Packet) : Prop :=
  ∃ r, tables.lookup .streamGateInstance pkt.fields = some r ∧ param r .gateState 1 = 1

/-- The queue of a packet that hits the entry. -/
def queue (r : Request) (pkt : Packet) : BitVec 7 :=
  if param r .ipv 4 = 8 then pkt.hdr.eth8021q.pcp.setWidth 7 else (param r .ipv 4).setWidth 7

variable {target : Target} {tables : Tables} {registers : Registers} {pkt : Packet}

/-- What the stream gate may change of a packet. -/
theorem apply_pkt (target : Target) (tables : Tables) (registers : Registers) (pkt : Packet) :
    ∃ toBeDropped streamGate qid digestType, (apply target tables registers pkt).pkt =
      { pkt with
        igMd := { pkt.igMd with toBeDropped, streamGate }
        igTmMd := { pkt.igTmMd with qid }
        igDprsrMd := { pkt.igDprsrMd with digestType } } := by
  have pass (registers : Registers) (pkt : Packet) : ∃ toBeDropped streamGate,
      (passGate target registers pkt).pkt =
        { pkt with igMd := { pkt.igMd with toBeDropped, streamGate } } := by
    unfold passGate
    split
    · exact ⟨_, _, rfl⟩
    · split
      · split
        · exact ⟨_, _, rfl⟩
        · exact ⟨_, _, rfl⟩
      · dsimp only
        split
        · exact ⟨_, _, rfl⟩
        · exact ⟨_, _, rfl⟩
  unfold apply
  split
  · rcases streamGateInstance_eq tables pkt with ⟨r, hit⟩ | miss
    · rw [hit]
      dsimp only
      rw [if_neg Bool.false_ne_true]
      split
      · obtain ⟨_, resetOctets, remainingOctets, toBeDropped, pktEq⟩ :=
          checkOctets_eq target registers (setGateAndIpv r pkt)
        obtain ⟨toBeDropped', streamGate, passed⟩ :=
          pass (checkOctets target registers (setGateAndIpv r pkt)).1
            (checkOctets target registers (setGateAndIpv r pkt)).2
        rw [passed, pktEq]
        exact ⟨_, _, _, _, rfl⟩
      · obtain ⟨toBeDropped, streamGate, passed⟩ := pass registers (setGateAndIpv r pkt)
        rw [passed]
        exact ⟨_, _, _, _, rfl⟩
    · rw [miss]
      dsimp only
      rw [if_pos rfl]
      split
      · exact ⟨_, _, _, _, rfl⟩
      · exact ⟨_, _, _, _, rfl⟩
  · exact ⟨_, _, _, _, rfl⟩

/-- A frame of a gate that does not police octets is dropped exactly when its entry does not open
the gate, or the gate is blocked and may be.  It blocks the gate in the first case. -/
structure Unpoliced (tables : Tables) (registers : Registers) (pkt : Packet) (result : Result) :
    Prop where
  dropped_iff : result.pkt.igMd.toBeDropped = 1 ↔ ¬ Opens tables pkt ∨
    pkt.igMd.streamGate.gateClosedDueToInvalidRxEnable = true ∧
      registers.regGateBlocked pkt.igMd.streamFilter.streamGateId.toNat = 1
  blocked_iff : ∀ c, result.registers.regGateBlocked c = 1 ↔ registers.regGateBlocked c = 1 ∨
    c = pkt.igMd.streamFilter.streamGateId.toNat ∧
      pkt.igMd.streamGate.gateClosedDueToInvalidRxEnable = true ∧ ¬ Opens tables pkt
  queue_eq : Opens tables pkt → ∃ r, tables.lookup .streamGateInstance pkt.fields = some r ∧
    param r .gateState 1 = 1 ∧ result.pkt.igTmMd.qid = queue r pkt

theorem blockGate_iff (inRange : pkt.igMd.streamFilter.streamGateId.toNat < 2048) (c : Nat) :
    (blockGate target registers pkt).registers.regGateBlocked c = 1 ↔
      registers.regGateBlocked c = 1 ∨ c = pkt.igMd.streamFilter.streamGateId.toNat := by
  unfold blockGate
  dsimp only
  rw [Target.write_cell (target.inRange 2048 _ inRange)]
  rcases Decidable.em (c = pkt.igMd.streamFilter.streamGateId.toNat) with same | other
  · rw [same, Function.update_self]
    exact iff_of_true rfl (.inr rfl)
  · rw [Function.update_of_ne other]
    exact (or_iff_left other).symm

theorem not_opens_of_lookup {r : Request}
    (found : tables.lookup .streamGateInstance pkt.fields = some r)
    (closed : param r .gateState 1 = 0) : ¬ Opens tables pkt := by
  intro opens
  obtain ⟨r', found', isOpen⟩ := opens
  rw [found] at found'
  cases found'
  rw [closed] at isOpen
  exact absurd isOpen (by decide)

theorem apply_unpoliced (fresh : pkt.igMd.toBeDropped = 0)
    (octets : pkt.igMd.streamGate.gateClosedDueToOctetsExceededEnable = false)
    (inRange : pkt.igMd.streamFilter.streamGateId.toNat < 2048) :
    Unpoliced tables registers pkt (apply target tables registers pkt) := by
  unfold apply streamGateInstance
  rw [if_pos fresh]
  cases found : tables.lookup .streamGateInstance pkt.fields with
  | none =>
    have closed : ¬ Opens tables pkt := by
      intro opens
      obtain ⟨r, hit, _⟩ := opens
      exact absurd (found.symm.trans hit) nofun
    dsimp only
    rw [if_pos rfl]
    have flags : (missedTimeSlice pkt).igMd.streamGate = pkt.igMd.streamGate := rfl
    rw [flags]
    split
    · rename_i enabled
      refine ⟨iff_of_true rfl (.inl closed), fun c => ?_, fun opens => absurd opens closed⟩
      refine (@blockGate_iff target registers (missedTimeSlice pkt) inRange c).trans ?_
      exact or_congr_right ⟨fun same => ⟨same, enabled, closed⟩, fun h => h.1⟩
    · rename_i disabled
      refine ⟨iff_of_true rfl (.inl closed), fun c => ?_, fun opens => absurd opens closed⟩
      exact (or_iff_left fun h => disabled h.2.1).symm
  | some r =>
    dsimp only
    have flags : (setGateAndIpv r pkt).igMd.streamGate.gateClosedDueToOctetsExceededEnable =
        false := octets
    rw [if_neg Bool.false_ne_true, flags, if_neg Bool.false_ne_true]
    dsimp only
    have notDropped : ¬ (setGateAndIpv r pkt).igMd.toBeDropped = 1 := by
      intro dropped
      have : pkt.igMd.toBeDropped = 1 := dropped
      rw [fresh] at this
      exact absurd this (by decide)
    have enabled : (setGateAndIpv r pkt).igMd.streamGate.psfpGateEnabled = param r .gateState 1 :=
      rfl
    unfold passGate
    rw [if_neg notDropped, enabled]
    rcases Decidable.em (param r .gateState 1 = 0) with zero | nonzero
    · have closed := not_opens_of_lookup found zero
      rw [if_pos zero]
      have invalid : (setGateAndIpv r pkt).igMd.streamGate.gateClosedDueToInvalidRxEnable =
          pkt.igMd.streamGate.gateClosedDueToInvalidRxEnable := rfl
      rw [invalid]
      split
      · rename_i mayBlock
        refine ⟨iff_of_true rfl (.inl closed), fun c => ?_, fun opens => absurd opens closed⟩
        refine (@blockGate_iff target registers (setGateAndIpv r pkt).drop inRange c).trans ?_
        exact or_congr_right ⟨fun same => ⟨same, mayBlock, closed⟩, fun h => h.1⟩
      · rename_i disabled
        refine ⟨iff_of_true rfl (.inl closed), fun c => ?_, fun opens => absurd opens closed⟩
        exact (or_iff_left fun h => disabled h.2.1).symm
    · have one : param r .gateState 1 = 1 := eq_one_of_ne_zero nonzero
      have isOpen : Opens tables pkt := ⟨r, found, one⟩
      rw [if_neg nonzero]
      dsimp only
      have read : target.read 2048 registers.regGateBlocked
          (setGateAndIpv r pkt).igMd.streamFilter.streamGateId.toNat =
            registers.regGateBlocked pkt.igMd.streamFilter.streamGateId.toNat :=
        Target.read_cell (target.inRange 2048 _ inRange)
      have either : ((setGateAndIpv r pkt).igMd.streamGate.gateClosedDueToInvalidRxEnable ||
          (setGateAndIpv r pkt).igMd.streamGate.gateClosedDueToOctetsExceededEnable) =
            pkt.igMd.streamGate.gateClosedDueToInvalidRxEnable := by
        rw [flags, Bool.or_false]
        rfl
      rw [read, either]
      split
      · rename_i refused
        exact ⟨iff_of_true rfl (.inr refused),
          fun c => (or_iff_left fun h => h.2.2 isOpen).symm, fun _ => ⟨r, found, one, rfl⟩⟩
      · rename_i admitted
        refine ⟨iff_of_false notDropped fun h => ?_,
          fun c => (or_iff_left fun h => h.2.2 isOpen).symm, fun _ => ⟨r, found, one, rfl⟩⟩
        rcases h with notOpen | refused
        · exact notOpen isOpen
        · exact admitted refused

end StreamGate

namespace FlowMeter

/-- The color of a packet, green where it has no meter. -/
def color (tables : Tables) (meter : MeterColor → BitVec 2) (pkt : Packet) : BitVec 2 :=
  match tables.lookup .flowMeterInstance pkt.fields with
  | some _ => meter (preColoring pkt).igMd.flowMeter.preColor
  | none => 0

/-- A frame is dropped when it was before, or is red, or its meter is blocked, or for being yellow.
Only a red frame that was not dropped before may block the meter. -/
structure Judged (tables : Tables) (meter : MeterColor → BitVec 2) (regMeterBlocked : Registers)
    (pkt : Packet) (result : Result) : Prop where
  dropped_iff : result.pkt.igMd.toBeDropped = 1 ↔ pkt.igMd.toBeDropped = 1 ∨
    color tables meter pkt = 3 ∨
    regMeterBlocked pkt.igMd.streamFilter.flowMeterInstanceId.toNat = 1 ∨
    pkt.igMd.flowMeter.dropOnYellow = true ∧ color tables meter pkt ≠ 0
  blocked_iff : ∀ c, result.regMeterBlocked c = 1 ↔ regMeterBlocked c = 1 ∨
    c = pkt.igMd.streamFilter.flowMeterInstanceId.toNat ∧
      pkt.igMd.flowMeter.markAllFramesRedEnable = true ∧ pkt.igMd.toBeDropped = 0 ∧
      color tables meter pkt = 3
  qid_eq : result.pkt.igTmMd.qid = pkt.igTmMd.qid

variable {target : Target} {tables : Tables} {meter : MeterColor → BitVec 2}
  {regMeterBlocked : Registers} {pkt : Packet}

/-- A packet that was dropped before keeps its color, green. -/
theorem evaluateColor_dropped (dropped : pkt.igMd.toBeDropped = 1)
    (plain : pkt.igTmMd.packetColor = 0) :
    evaluateColor target regMeterBlocked pkt = ⟨regMeterBlocked, pkt, false⟩ := by
  have notYellow : ¬ (pkt.igTmMd.packetColor = 1 ∨ pkt.igTmMd.packetColor = 2) := by
    rw [plain]
    decide
  have notRed : ¬ pkt.igTmMd.packetColor = 3 := by
    rw [plain]
    decide
  have notFresh : ¬ (pkt.igTmMd.packetColor = 0 ∧ pkt.igMd.toBeDropped = 0) := by
    rw [dropped]
    exact fun h => absurd h.2 (by decide)
  unfold evaluateColor
  dsimp only
  rw [if_neg notYellow, if_neg notRed, if_neg notFresh]

/-- The evaluation of a packet that was not dropped, by its color. -/
theorem evaluateColor_fresh (fresh : pkt.igMd.toBeDropped = 0)
    (inRange : pkt.igMd.streamFilter.flowMeterInstanceId.toNat < 2048) :
    ((evaluateColor target regMeterBlocked pkt).pkt.igMd.toBeDropped = 1 ↔
        pkt.igTmMd.packetColor = 3 ∨
        regMeterBlocked pkt.igMd.streamFilter.flowMeterInstanceId.toNat = 1 ∨
        pkt.igMd.flowMeter.dropOnYellow = true ∧ pkt.igTmMd.packetColor ≠ 0) ∧
      (∀ c, (evaluateColor target regMeterBlocked pkt).regMeterBlocked c = 1 ↔
        regMeterBlocked c = 1 ∨ c = pkt.igMd.streamFilter.flowMeterInstanceId.toNat ∧
          pkt.igMd.flowMeter.markAllFramesRedEnable = true ∧ pkt.igTmMd.packetColor = 3) ∧
      (evaluateColor target regMeterBlocked pkt).pkt.igTmMd.qid = pkt.igTmMd.qid := by
  have selects := target.inRange 2048 _ inRange
  have notDropped : ¬ pkt.igMd.toBeDropped = 1 := by
    rw [fresh]
    decide
  unfold evaluateColor
  dsimp only
  rw [Target.read_cell selects, Target.write_cell selects]
  split
  · rename_i yellow
    have notRed : ¬ pkt.igTmMd.packetColor = 3 := by
      rcases yellow with one | two
      · rw [one]
        decide
      · rw [two]
        decide
    have notGreen : pkt.igTmMd.packetColor ≠ 0 := by
      rcases yellow with one | two
      · rw [one]
        decide
      · rw [two]
        decide
    have still (c : Nat) : regMeterBlocked c = 1 ↔ regMeterBlocked c = 1 ∨
        c = pkt.igMd.streamFilter.flowMeterInstanceId.toNat ∧
          pkt.igMd.flowMeter.markAllFramesRedEnable = true ∧ pkt.igTmMd.packetColor = 3 :=
      (or_iff_left fun h => notRed h.2.2).symm
    split
    · rename_i refused
      refine ⟨iff_of_true rfl (.inr ?_), still, rfl⟩
      rcases refused with drops | blocked
      · exact .inr ⟨drops, notGreen⟩
      · exact .inl blocked
    · rename_i admitted
      refine ⟨iff_of_false notDropped fun h => ?_, still, rfl⟩
      rcases h with red | blocked | drops
      · exact notRed red
      · exact admitted (.inr blocked)
      · exact admitted (.inl drops.1)
  · rename_i notYellow
    split
    · rename_i red
      split
      · rename_i marks
        refine ⟨iff_of_true rfl (.inl red), fun c => ?_, rfl⟩
        dsimp only
        rcases Decidable.em (c = pkt.igMd.streamFilter.flowMeterInstanceId.toNat) with same | other
        · rw [same, Function.update_self]
          exact iff_of_true rfl (.inr ⟨rfl, marks, red⟩)
        · rw [Function.update_of_ne other]
          exact (or_iff_left fun h => other h.1).symm
      · rename_i unmarked
        refine ⟨iff_of_true rfl (.inl red), fun c => ?_, rfl⟩
        exact (or_iff_left fun h => unmarked h.2.1).symm
    · rename_i notRed
      have green : pkt.igTmMd.packetColor = 0 := by
        rcases color_cases pkt.igTmMd.packetColor with yellow | red | green
        · exact absurd yellow notYellow
        · exact absurd red notRed
        · exact green
      have still (c : Nat) : regMeterBlocked c = 1 ↔ regMeterBlocked c = 1 ∨
          c = pkt.igMd.streamFilter.flowMeterInstanceId.toNat ∧
            pkt.igMd.flowMeter.markAllFramesRedEnable = true ∧ pkt.igTmMd.packetColor = 3 :=
        (or_iff_left fun h => notRed h.2.2).symm
      rw [if_pos ⟨green, fresh⟩]
      split
      · rename_i blocked
        exact ⟨iff_of_true rfl (.inr (.inl blocked)), still, rfl⟩
      · rename_i notBlocked
        refine ⟨iff_of_false notDropped fun h => ?_, still, rfl⟩
        rcases h with red | blocked | drops
        · exact notRed red
        · exact notBlocked blocked
        · exact drops.2 green

theorem apply_judged (plain : pkt.igTmMd.packetColor = 0)
    (inRange : pkt.igMd.streamFilter.flowMeterInstanceId.toNat < 2048) :
    Judged tables meter regMeterBlocked pkt
      (apply target tables meter regMeterBlocked pkt) := by
  unfold apply
  dsimp only
  rcases Decidable.em (pkt.igMd.toBeDropped = 0) with fresh | dropped
  · have freshHere : (preColoring pkt).igMd.toBeDropped = 0 := fresh
    rw [if_pos freshHere]
    have colored : (flowMeterInstance tables meter (preColoring pkt)).igMd =
        (preColoring pkt).igMd ∧
          (flowMeterInstance tables meter (preColoring pkt)).igTmMd.packetColor =
            color tables meter pkt ∧
          (flowMeterInstance tables meter (preColoring pkt)).igTmMd.qid = pkt.igTmMd.qid := by
      have same : (preColoring pkt).fields = pkt.fields := rfl
      unfold flowMeterInstance color
      rw [same]
      cases tables.lookup .flowMeterInstance pkt.fields with
      | some r => exact ⟨rfl, rfl, rfl⟩
      | none => exact ⟨rfl, plain, rfl⟩
    obtain ⟨igMd, color_eq, qid⟩ := colored
    have notDropped : ¬ pkt.igMd.toBeDropped = 1 := by
      rw [fresh]
      decide
    obtain ⟨dropped_iff, blocked_iff, qid_eq⟩ :=
      @evaluateColor_fresh target regMeterBlocked
        (flowMeterInstance tables meter (preColoring pkt)) (by rw [igMd]; exact fresh)
        (by rw [igMd]; exact inRange)
    rw [igMd, color_eq] at dropped_iff blocked_iff
    refine ⟨dropped_iff.trans (or_iff_right notDropped).symm, fun c => (blocked_iff c).trans ?_,
      qid_eq.trans qid⟩
    exact or_congr_right ⟨fun h => ⟨h.1, h.2.1, fresh, h.2.2⟩, fun h => ⟨h.1, h.2.1, h.2.2.2⟩⟩
  · have droppedHere : ¬ (preColoring pkt).igMd.toBeDropped = 0 := dropped
    rw [if_neg droppedHere, @evaluateColor_dropped target regMeterBlocked (preColoring pkt)
      (eq_one_of_ne_zero dropped) plain]
    exact ⟨iff_of_true (eq_one_of_ne_zero dropped) (.inl (eq_one_of_ne_zero dropped)),
      fun c => (or_iff_left fun h => dropped h.2.2.1).symm, rfl⟩

end FlowMeter

/-! ## After a history -/

namespace Tsn

namespace Frame

/-- The frame with the metadata of its stream. -/
def identified (frame : Frame) : Packet :=
  StreamIdentification.apply frame.tables frame.pkt

def gateId (frame : Frame) : BitVec 12 :=
  frame.identified.igMd.streamFilter.streamGateId

def meterId (frame : Frame) : BitVec 16 :=
  frame.identified.igMd.streamFilter.flowMeterInstanceId

/-- The frame at its position in the period of its gate, which began with the last hyperperiod
packet of the gate. -/
def placed (before : List Frame) (frame : Frame) : Packet :=
  DeltaAdjustment.apply frame.tables (calcDiffTs (setHyperperiodTs
    ((gateEnds frame.gateId.toNat before).getLastD 0) frame.identified))

def Opens (before : List Frame) (frame : Frame) : Prop :=
  StreamGate.Opens frame.tables (frame.placed before)

/-- The frame closes its gate by coming outside the open time slices. -/
def ClosesGate (gate : BitVec 12) (before : List Frame) (frame : Frame) : Prop :=
  frame.pkt.hdr.timer = none ∧ frame.gateId = gate ∧
    frame.identified.igMd.streamGate.gateClosedDueToInvalidRxEnable = true ∧ ¬ frame.Opens before

/-- The frame comes in an open time slice of its gate, which no frame has closed. -/
def PassesGate (before : List Frame) (frame : Frame) : Prop :=
  frame.Opens before ∧
    (frame.identified.igMd.streamGate.gateClosedDueToInvalidRxEnable = true →
      ¬ History.Happened (ClosesGate frame.gateId) before)

def color (before : List Frame) (frame : Frame) : BitVec 2 :=
  FlowMeter.color frame.tables frame.meter (frame.placed before)

/-- The frame turns all later frames of its meter red. -/
def Reddens (m : BitVec 16) (before : List Frame) (frame : Frame) : Prop :=
  frame.pkt.hdr.timer = none ∧ frame.meterId = m ∧
    frame.identified.igMd.flowMeter.markAllFramesRedEnable = true ∧ frame.PassesGate before ∧
    frame.color before = 3

def PassesMeter (before : List Frame) (frame : Frame) : Prop :=
  frame.color before ≠ 3 ∧ ¬ History.Happened (Reddens frame.meterId) before ∧
    (frame.identified.igMd.flowMeter.dropOnYellow = true → frame.color before = 0)

/-- The registers have cells for the gate and the meter of the frame, the gate does not police
octets, and the frame enters green. -/
structure Plain (frame : Frame) : Prop where
  gate : frame.pkt.hdr.timer = none → frame.gateId.toNat < 256
  meter : frame.pkt.hdr.timer = none → frame.meterId.toNat < 2048
  octets : frame.pkt.hdr.timer = none →
    frame.identified.igMd.streamGate.gateClosedDueToOctetsExceededEnable = false
  color : frame.pkt.hdr.timer = none → frame.pkt.igTmMd.packetColor = 0

end Frame

/-- The registers hold what matters of the history. -/
structure Records (frames : List Frame) (registers : Registers) : Prop where
  periods : GateMirrors frames registers
  gates : ∀ gate : BitVec 12,
    registers.streamGate.regGateBlocked gate.toNat = 1 ↔
      History.Happened (Frame.ClosesGate gate) frames
  meters : ∀ m : BitVec 16,
    registers.regMeterBlocked m.toNat = 1 ↔ History.Happened (Frame.Reddens m) frames

/-- The registers hold an empty history. -/
structure Fresh (registers : Registers) : Prop where
  cleared : Cleared registers
  gates : ∀ c, registers.streamGate.regGateBlocked c = 0
  meters : ∀ c, registers.regMeterBlocked c = 0

variable {target : Target} {registers registers' : Registers} {before : List Frame}
  {frame : Frame}

theorem Fresh.records (fresh : Fresh registers) : Records [] registers where
  periods := fresh.cleared.gateMirrors
  gates gate := by
    rw [fresh.gates]
    exact iff_of_false (by decide) History.not_happened_nil
  meters m := by
    rw [fresh.meters]
    exact iff_of_false (by decide) History.not_happened_nil

/-! ### One frame -/

theorem identified_fresh (frame : Frame) : frame.identified.igMd.toBeDropped = 0 := by
  unfold Frame.identified StreamIdentification.apply
  split
  · split
    · exact congrArg IngressMetadata.toBeDropped frame.fresh
    · exact congrArg IngressMetadata.toBeDropped frame.fresh
  · exact congrArg IngressMetadata.toBeDropped frame.fresh

theorem identified_igTmMd (frame : Frame) : frame.identified.igTmMd = frame.pkt.igTmMd := by
  unfold Frame.identified StreamIdentification.apply
  split
  · split
    · rfl
    · rfl
  · rfl

/-- Only the times differ. -/
theorem placed_eq (before : List Frame) (frame : Frame) :
    ∃ hyperperiodTs diffTs differenceMaxToHyperperiod, frame.placed before =
      { frame.identified with igMd := { frame.identified.igMd with
          hyperperiodTs, diffTs, differenceMaxToHyperperiod } } := by
  obtain ⟨diffTs, difference, adjusted⟩ := DeltaAdjustment.apply_eq frame.tables
    (calcDiffTs (setHyperperiodTs ((gateEnds frame.gateId.toNat before).getLastD 0)
      frame.identified))
  exact ⟨_, diffTs, difference, adjusted⟩

/-- What the position leaves of the metadata. -/
structure Kept (frame : Frame) (pkt : Packet) : Prop where
  streamFilter : pkt.igMd.streamFilter = frame.identified.igMd.streamFilter
  streamGate : pkt.igMd.streamGate = frame.identified.igMd.streamGate
  flowMeter : pkt.igMd.flowMeter = frame.identified.igMd.flowMeter
  fresh : pkt.igMd.toBeDropped = 0
  igTmMd : pkt.igTmMd = frame.pkt.igTmMd
  hdr : pkt.hdr = frame.identified.hdr

theorem placed_kept (before : List Frame) (frame : Frame) : Kept frame (frame.placed before) := by
  obtain ⟨hyperperiodTs, diffTs, difference, placed⟩ := placed_eq before frame
  rw [placed]
  exact ⟨rfl, rfl, rfl, identified_fresh frame, identified_igTmMd frame, rfl⟩

/-- The registers put the frame at its position. -/
theorem apply_placed (mirrors : GateMirrors before registers)
    (noTimer : frame.pkt.hdr.timer = none) (inRange : frame.gateId.toNat < 256) :
    apply target frame.tables frame.meter registers frame.pkt =
      finishFrame target frame.tables frame.meter registers (frame.placed before) := by
  have selects := target.inRange 256 _ inRange
  have read : readGateTs target frame.tables registers frame.pkt =
      setHyperperiodTs ((gateEnds frame.gateId.toNat before).getLastD 0) frame.identified := by
    have lower : target.read 256 registers.lowerLastTs frame.gateId.toNat =
        registers.lowerLastTs frame.gateId.toNat := Target.read_cell selects
    have higher : target.read 256 registers.higherLastTs frame.gateId.toNat =
        registers.higherLastTs frame.gateId.toNat := Target.read_cell selects
    rw [← mirrors.gateTs]
    unfold readGateTs stored
    rw [← lower, ← higher]
    rfl
  unfold apply
  rw [noTimer]
  dsimp only
  rw [read]
  rfl

theorem finishFrame_dropped_iff {tables : Tables} {meter : MeterColor → BitVec 2}
    {pkt : Packet} : (finishFrame target tables meter registers pkt).Dropped ↔
      (FlowMeter.apply target tables meter registers.regMeterBlocked (StreamGate.apply target
        tables registers.streamGate pkt).pkt).pkt.igMd.toBeDropped = 1 := by
  unfold Result.Dropped finishFrame
  dsimp only
  split
  · rename_i dropped
    exact iff_of_true ⟨dropped, rfl⟩ dropped
  · rename_i passed
    exact iff_of_false (fun h => passed h.1) passed

theorem finishFrame_qid {tables : Tables} {meter : MeterColor → BitVec 2} {pkt : Packet} :
    (finishFrame target tables meter registers pkt).pkt.igTmMd.qid =
      (FlowMeter.apply target tables meter registers.regMeterBlocked
        (StreamGate.apply target tables registers.streamGate pkt).pkt).pkt.igTmMd.qid := by
  unfold finishFrame
  dsimp only
  split
  · rfl
  · rfl

/-- What becomes of a frame, and what it leaves in the registers. -/
structure Verdict (before : List Frame) (registers : Registers) (frame : Frame)
    (result : Result) : Prop where
  dropped_iff : result.Dropped ↔ ¬ (frame.PassesGate before ∧ frame.PassesMeter before)
  gates : ∀ c, result.registers.streamGate.regGateBlocked c = 1 ↔
    registers.streamGate.regGateBlocked c = 1 ∨
      frame.ClosesGate frame.gateId before ∧ c = frame.gateId.toNat
  meters : ∀ c, result.registers.regMeterBlocked c = 1 ↔ registers.regMeterBlocked c = 1 ∨
    frame.Reddens frame.meterId before ∧ c = frame.meterId.toNat
  queue : frame.PassesGate before → ∃ r, frame.tables.lookup .streamGateInstance
      (frame.placed before).fields = some r ∧ param r .gateState 1 = 1 ∧
    result.pkt.igTmMd.qid = StreamGate.queue r frame.identified

theorem apply_verdict (records : Records before registers) (plain : frame.Plain)
    (noTimer : frame.pkt.hdr.timer = none) : Verdict before registers frame
      (apply target frame.tables frame.meter registers frame.pkt) := by
  rw [apply_placed records.periods noTimer (plain.gate noTimer)]
  obtain ⟨streamFilter, streamGate, flowMeter, fresh, igTmMd, hdr⟩ := placed_kept before frame
  have green : (frame.placed before).igTmMd.packetColor = 0 := by
    rw [igTmMd]
    exact plain.color noTimer
  -- the stream gate
  have gateIdEq : (frame.placed before).igMd.streamFilter.streamGateId = frame.gateId :=
    congrArg StreamFilter.streamGateId streamFilter
  have unpoliced := @StreamGate.apply_unpoliced target frame.tables registers.streamGate
    (frame.placed before) fresh (by rw [streamGate]; exact plain.octets noTimer)
    (by rw [gateIdEq]; exact (plain.gate noTimer).trans (by decide))
  obtain ⟨gateDropped, gateBlocked, queue⟩ := unpoliced
  rw [gateIdEq, streamGate, records.gates] at gateDropped
  rw [gateIdEq, streamGate] at gateBlocked
  have passes : (StreamGate.apply target frame.tables registers.streamGate
      (frame.placed before)).pkt.igMd.toBeDropped = 0 ↔ frame.PassesGate before := by
    rw [eq_zero_iff, gateDropped, not_or, not_not, not_and]
    exact Iff.rfl
  -- the flow meter
  obtain ⟨toBeDropped, streamGate', qid, digestType, pkt⟩ :=
    StreamGate.apply_pkt target frame.tables registers.streamGate (frame.placed before)
  have colored := @FlowMeter.apply_judged target frame.tables frame.meter
    registers.regMeterBlocked
    (StreamGate.apply target frame.tables registers.streamGate (frame.placed before)).pkt
    (by rw [pkt]; exact green)
    (by rw [pkt]; dsimp only; rw [streamFilter]; exact plain.meter noTimer)
  obtain ⟨meterDropped, meterBlocked, qid_eq⟩ := colored
  have color : FlowMeter.color frame.tables frame.meter (StreamGate.apply target frame.tables
      registers.streamGate (frame.placed before)).pkt = frame.color before := by
    rw [pkt]
    rfl
  have meterIdEq : (StreamGate.apply target frame.tables registers.streamGate
      (frame.placed before)).pkt.igMd.streamFilter.flowMeterInstanceId = frame.meterId := by
    rw [pkt]
    exact congrArg StreamFilter.flowMeterInstanceId streamFilter
  have flags : (StreamGate.apply target frame.tables registers.streamGate
      (frame.placed before)).pkt.igMd.flowMeter = frame.identified.igMd.flowMeter := by
    rw [pkt]
    exact flowMeter
  rw [color, meterIdEq, flags, records.meters] at meterDropped
  rw [color, meterIdEq, flags, passes] at meterBlocked
  have refused : (StreamGate.apply target frame.tables registers.streamGate
      (frame.placed before)).pkt.igMd.toBeDropped = 1 ↔ ¬ frame.PassesGate before := by
    rw [← passes, eq_zero_iff, not_not]
  refine ⟨?_, fun c => (gateBlocked c).trans ?_, fun c => (meterBlocked c).trans ?_,
    fun passesGate => ?_⟩
  · rw [finishFrame_dropped_iff, meterDropped, refused]
    unfold Frame.PassesMeter
    rw [not_and_or, not_and_or, not_and_or, not_not, not_not, Classical.not_imp]
  · refine or_congr_right ⟨fun h => ⟨⟨noTimer, rfl, h.2.1, h.2.2⟩, h.1⟩, fun h => ?_⟩
    obtain ⟨⟨_, _, enabled, closed⟩, same⟩ := h
    exact ⟨same, enabled, closed⟩
  · refine or_congr_right ⟨fun h => ⟨⟨noTimer, rfl, h.2.1, h.2.2.1, h.2.2.2⟩, h.1⟩, fun h => ?_⟩
    obtain ⟨⟨_, _, marks, passesGate, red⟩, same⟩ := h
    exact ⟨same, marks, passesGate, red⟩
  · obtain ⟨r, found, isOpen, queued⟩ := queue passesGate.1
    refine ⟨r, found, isOpen, ?_⟩
    rw [finishFrame_qid, qid_eq, queued]
    unfold StreamGate.queue
    rw [hdr]

/-- Whatever is blocked, a frame that is not dropped hits an entry that opens its gate. -/
theorem opens_of_passed (mirrors : GateMirrors before registers) (plain : frame.Plain)
    (noTimer : frame.pkt.hdr.timer = none)
    (passed : ¬ (apply target frame.tables frame.meter registers frame.pkt).Dropped) :
    frame.Opens before := by
  rw [apply_placed mirrors noTimer (plain.gate noTimer), finishFrame_dropped_iff] at passed
  obtain ⟨streamFilter, streamGate, _, fresh, igTmMd, _⟩ := placed_kept before frame
  have gateIdEq : (frame.placed before).igMd.streamFilter.streamGateId = frame.gateId :=
    congrArg StreamFilter.streamGateId streamFilter
  by_contra closed
  have gated := (@StreamGate.apply_unpoliced target frame.tables registers.streamGate
    (frame.placed before) fresh (by rw [streamGate]; exact plain.octets noTimer)
    (by rw [gateIdEq]; exact (plain.gate noTimer).trans (by decide))).dropped_iff.mpr (.inl closed)
  obtain ⟨toBeDropped, streamGate', qid, digestType, pkt⟩ :=
    StreamGate.apply_pkt target frame.tables registers.streamGate (frame.placed before)
  have judged := @FlowMeter.apply_judged target frame.tables frame.meter
    registers.regMeterBlocked
    (StreamGate.apply target frame.tables registers.streamGate (frame.placed before)).pkt
    (by rw [pkt]; dsimp only; rw [igTmMd]; exact plain.color noTimer)
    (by rw [pkt]; dsimp only; rw [streamFilter]; exact plain.meter noTimer)
  exact passed (judged.dropped_iff.mpr (.inl gated))

/-! ### Runs -/

/-- A generated packet closes no gate and reddens no meter. -/
theorem records_timer {timer : Timer} (records : Records before registers)
    (generated : frame.pkt.hdr.timer = some timer) (inRange : frame.GateInRange) :
    Records (before ++ [frame])
      (apply target frame.tables frame.meter registers frame.pkt).registers := by
  obtain ⟨gates, meters, _⟩ :=
    @apply_timer target frame.tables frame.meter registers frame.pkt timer generated
  refine ⟨gateMirrors_step records.periods inRange, fun gate => ?_, fun m => ?_⟩
  · rw [gates, records.gates, History.happened_append_singleton]
    refine (or_iff_left fun h => ?_).symm
    exact absurd (generated.symm.trans h.1) nofun
  · rw [meters, records.meters, History.happened_append_singleton]
    refine (or_iff_left fun h => ?_).symm
    exact absurd (generated.symm.trans h.1) nofun

theorem records_step (records : Records before registers) (plain : frame.Plain)
    (inRange : frame.GateInRange) : Records (before ++ [frame])
      (apply target frame.tables frame.meter registers frame.pkt).registers := by
  cases timer : frame.pkt.hdr.timer with
  | some generated => exact records_timer records timer inRange
  | none =>
    have verdict := @apply_verdict target registers before frame records plain timer
    refine ⟨gateMirrors_step records.periods inRange, fun gate => ?_, fun m => ?_⟩
    · rw [verdict.gates, records.gates, History.happened_append_singleton]
      refine or_congr_right ⟨fun h => ?_, fun closes => ?_⟩
      · rw [BitVec.eq_of_toNat_eq h.2]
        exact h.1
      · rw [closes.2.1]
        exact ⟨closes, rfl⟩
    · rw [verdict.meters, records.meters, History.happened_append_singleton]
      refine or_congr_right ⟨fun h => ?_, fun reddens => ?_⟩
      · rw [BitVec.eq_of_toNat_eq h.2]
        exact h.1
      · rw [reddens.2.1]
        exact ⟨reddens, rfl⟩

theorem run_records {events : List (Frame × Result)}
    (run : Transition.Run (step target) registers events registers') (fresh : Fresh registers)
    (plain : ∀ event ∈ events, event.1.Plain ∧ event.1.GateInRange) :
    Records (events.map Prod.fst) registers' :=
  run_keeps run fresh.records fun event member _ _ records =>
    records_step records (plain event member).1 (plain event member).2

/-- What becomes of a frame in a run. -/
theorem run_verdict {before after : List (Frame × Result)} {event : Frame × Result}
    (run : Transition.Run (step target) registers (before ++ event :: after) registers')
    (fresh : Fresh registers) (plain : ∀ event' ∈ before ++ [event], event'.1.Plain)
    (inRange : ∀ event' ∈ before, event'.1.GateInRange)
    (noTimer : event.1.pkt.hdr.timer = none) :
    ∃ t, Verdict (before.map Prod.fst) t event.1 event.2 := by
  obtain ⟨t, earlier, later⟩ := Transition.Run.append_iff.mp run
  obtain ⟨t', taken, _⟩ := Transition.Run.cons_iff.mp later
  have records := run_records earlier fresh fun event' member =>
    ⟨plain event' (List.mem_append_left _ member), inRange event' member⟩
  have verdict := @apply_verdict target t (before.map Prod.fst) event.1 records
    (plain event (List.mem_append_right _ List.mem_cons_self)) noTimer
  rw [taken.1] at verdict
  exact ⟨t, verdict⟩

/-- The frame passes, or is dropped. -/
theorem Verdict.passed {result : Result} (verdict : Verdict before registers frame result)
    (passed : ¬ result.Dropped) : frame.PassesGate before := by
  rw [verdict.dropped_iff, not_not] at passed
  exact passed.1

/-- In every run a frame is dropped exactly when it comes outside an open time slice of its gate, or
after one that did and closed the gate, or is red, or after one that turned its meter red, or for
being yellow.  A frame that passes goes to the queue of its time slice. -/
theorem frame_dropped_iff {before after : List (Frame × Result)} {event : Frame × Result}
    (run : Transition.Run (step target) registers (before ++ event :: after) registers')
    (fresh : Fresh registers) (plain : ∀ event' ∈ before ++ [event], event'.1.Plain)
    (inRange : ∀ event' ∈ before, event'.1.GateInRange)
    (noTimer : event.1.pkt.hdr.timer = none) :
    (event.2.Dropped ↔ ¬ (event.1.PassesGate (before.map Prod.fst) ∧
        event.1.PassesMeter (before.map Prod.fst))) ∧
      (¬ event.2.Dropped → ∃ r, event.1.tables.lookup .streamGateInstance
          (event.1.placed (before.map Prod.fst)).fields = some r ∧
        param r .gateState 1 = 1 ∧
          event.2.pkt.igTmMd.qid = StreamGate.queue r event.1.identified) := by
  obtain ⟨t, verdict⟩ := run_verdict run fresh plain inRange noTimer
  exact ⟨verdict.dropped_iff, fun passed => verdict.queue (verdict.passed passed)⟩

theorem sampleRegisters_fresh : Fresh sampleRegisters :=
  ⟨sampleRegisters_cleared, fun _ => rfl, fun _ => rfl⟩

/-- A run of two frames. -/
theorem run_pair (registers : Registers) (frame frame' : Frame) :
    Transition.Run (step .strict) registers
      ([(frame, frame.pass registers)] ++
        (frame', frame'.pass (frame.pass registers).registers) :: [])
      (frame'.pass (frame.pass registers).registers).registers :=
  .cons ⟨rfl, rfl⟩ (.cons ⟨rfl, rfl⟩ (.nil _))

theorem missedFrame_plain : missedFrame.Plain :=
  ⟨fun _ => by decide +kernel, fun _ => by decide +kernel, fun _ => by decide +kernel,
    fun _ => rfl⟩

theorem openFrame_plain : openFrame.Plain :=
  ⟨fun _ => by decide +kernel, fun _ => by decide +kernel, fun _ => by decide +kernel,
    fun _ => rfl⟩

/-- After a frame that missed its time slice, one that hits does not pass. -/
theorem frame_dropped_iff_sample :
    ¬ (openFrame.PassesGate [missedFrame] ∧ openFrame.PassesMeter [missedFrame]) := by
  have dropped : (openFrame.pass (missedFrame.pass sampleRegisters).registers).Dropped := by
    unfold Result.Dropped
    decide +kernel
  have plain : ∀ event ∈ [(missedFrame, missedFrame.pass sampleRegisters)] ++
      [(openFrame, openFrame.pass (missedFrame.pass sampleRegisters).registers)],
      event.1.Plain := by
    intro event member
    rcases List.mem_pair.mp member with rfl | rfl
    · exact missedFrame_plain
    · exact openFrame_plain
  have inRange : ∀ event ∈ [(missedFrame, missedFrame.pass sampleRegisters)],
      event.1.GateInRange := by
    intro event member gate role
    rw [List.mem_singleton.mp member] at role
    have other : missedFrame.role = .other := rfl
    exact absurd (other.symm.trans role) nofun
  exact (frame_dropped_iff (run_pair sampleRegisters missedFrame openFrame)
    sampleRegisters_fresh plain inRange rfl).1.mp dropped

end Tsn

end P4Tas.DataPlane
