import P4Tas.DataPlane.Blocking
import P4Tas.DataPlane.Parser

/-!
# Octet policing

The stream gate takes the size of a frame and the number of its hyperperiod from the recirculation
header, which no frame carries.  Every frame therefore counts zero octets, in period zero, and the
check passes all of them: what the gate admits is what it is offered.

* `checkOctets_idle`: the check leaves initial registers as they are, and drops nothing;
* `admitted_eq`: the frames a gate admits are those that find an open interval before a frame of an
  invalid interval closes the gate;
* `octets_bounded_iff`: so the octets of an interval are bounded exactly when those it is offered
  are.
-/

namespace P4Tas.DataPlane

namespace StreamGate

variable {target : Target} {tables : Tables} {registers : Registers} {pkt : Packet}

/-- The octet check has not counted anything. -/
structure Idle (registers : Registers) : Prop where
  stateResetOctets : ∀ c, registers.stateResetOctets c = 0
  firstSduPerInterval : ∀ c, registers.firstSduPerInterval c = 0
  octetsPerInterval : ∀ c, registers.octetsPerInterval c = 0

/-- The initial contents of the registers. -/
def Registers.initial : Registers where
  regGateBlocked := fun _ => 0
  stateResetOctets := fun _ => 0
  firstSduPerInterval := fun _ => 0
  octetsPerInterval := fun _ => 0

theorem Registers.initial_idle : Idle .initial :=
  ⟨fun _ => rfl, fun _ => rfl, fun _ => rfl⟩

/-- Without a recirculation header no frame begins a period. -/
theorem setResetOctetsFlag_still (idle : Idle registers) (unextracted : pkt.hdr.recirc = ⟨0, 0⟩)
    (c : Nat) :
    setResetOctetsFlag pkt (registers.stateResetOctets c) =
      (registers.stateResetOctets c, default) := by
  unfold setResetOctetsFlag
  rw [unextracted, idle.stateResetOctets]
  exact if_neg (not_not_intro rfl)

/-- Nothing is left to take off from. -/
theorem decrementOctets_still (idle : Idle registers) (unextracted : pkt.hdr.recirc = ⟨0, 0⟩)
    (c : Nat) :
    decrementOctets pkt (registers.octetsPerInterval c) =
      (registers.octetsPerInterval c, default) := by
  unfold decrementOctets
  rw [unextracted, idle.octetsPerInterval]
  rfl

/-- And nothing is as much as the first frame had. -/
theorem getFirstSdu_still (idle : Idle registers) (pkt : Packet) (c : Nat) :
    getFirstSdu pkt (registers.firstSduPerInterval c) =
      (registers.firstSduPerInterval c, default) := by
  unfold getFirstSdu
  rw [idle.firstSduPerInterval, if_pos (BitVec.le_def.mpr (Nat.zero_le _))]
  rfl

theorem countOctets_idle (target : Target) (idle : Idle registers)
    (unextracted : pkt.hdr.recirc = ⟨0, 0⟩) :
    countOctets target registers pkt =
      (registers, { keepRemaining pkt 0 with igMd := { (keepRemaining pkt 0).igMd with
        toBeDropped := 0 } }) := by
  have octets := target.execute_still 2048 pkt.igMd.streamGate.intervalIdentifier.toNat
    (decrementOctets_still idle unextracted)
  have sdu (pkt' : Packet) := target.execute_still 2048
    pkt.igMd.streamGate.intervalIdentifier.toNat (getFirstSdu_still idle pkt')
  unfold countOctets
  dsimp only
  rw [octets, sdu]
  rfl

/-- Without a recirculation header the check changes no register and drops no frame. -/
theorem checkOctets_idle (target : Target) (idle : Idle registers)
    (unextracted : pkt.hdr.recirc = ⟨0, 0⟩) :
    checkOctets target registers pkt =
      (registers, { pkt with igMd := { pkt.igMd with
        toBeDropped := 0
        streamGate :=
          { pkt.igMd.streamGate with resetOctets := false, remainingOctets := 0 } } }) := by
  have period := target.execute_still 2048 pkt.igMd.streamGate.intervalIdentifier.toNat
    (setResetOctetsFlag_still idle unextracted)
  rw [checkOctets_steps]
  dsimp only
  rw [period]
  -- the flag reads false
  change countOctets target registers (flagPeriod pkt false) = _
  rw [countOctets_idle target idle (by exact unextracted)]
  rfl

/-! ## One frame -/

/-- The gate reads as blocked. -/
def Closed (target : Target) (registers : Registers) (gate : BitVec 12) : Prop :=
  target.read 2048 registers.regGateBlocked gate.toNat = 1

instance (target : Target) (registers : Registers) (gate : BitVec 12) :
    Decidable (Closed target registers gate) :=
  inferInstanceAs (Decidable (_ = _))

/-- The frame finds an interval whose gate is open. -/
def findsOpen (tables : Tables) (pkt : Packet) : Bool :=
  (tables.lookup .streamGateInstance pkt.fields).any fun r => param r .gateState 1 ≠ 0

/-- The frame closes its gate: it finds no open interval although its stream must. -/
def closesGate (target : Target) (tables : Tables) (pkt : Packet) : Bool :=
  pkt.igMd.streamGate.gateClosedDueToInvalidRxEnable && !findsOpen tables pkt &&
    target.executes 2048 pkt.igMd.streamFilter.streamGateId.toNat

/-- What a pass through the gate comes to, on registers that counted nothing. -/
structure Passes (target : Target) (registers : Registers) (pkt : Packet) (opened closes : Bool)
    (result : Result) : Prop where
  idle : Idle result.registers
  admitted_iff : result.pkt.igMd.toBeDropped = 0 ↔
    opened = true ∧ ¬ Closed target registers pkt.igMd.streamFilter.streamGateId
  closed_iff : Closed target result.registers pkt.igMd.streamFilter.streamGateId ↔
    Closed target registers pkt.igMd.streamFilter.streamGateId ∨ closes = true

/-- A frame that finds no open interval. -/
theorem Passes.ofInvalid (idle : Idle registers)
    {pkt' : Packet} (gate : pkt'.igMd.streamFilter = pkt.igMd.streamFilter)
    (dropped : pkt'.igMd.toBeDropped = 1) :
    Passes target registers pkt false
      (pkt.igMd.streamGate.gateClosedDueToInvalidRxEnable && !false &&
        target.executes 2048 pkt.igMd.streamFilter.streamGateId.toNat)
      (if pkt.igMd.streamGate.gateClosedDueToInvalidRxEnable then
        blockGate target registers pkt'
      else
        { registers, pkt := pkt', blockGate := false }) := by
  have one : (1 : BitVec 1) ≠ 0 := by decide
  have dropped_iff : pkt'.igMd.toBeDropped = 0 ↔
      false = true ∧ ¬ Closed target registers pkt.igMd.streamFilter.streamGateId := by
    rw [dropped]
    exact iff_of_false one fun both => Bool.false_ne_true both.1
  cases pkt.igMd.streamGate.gateClosedDueToInvalidRxEnable with
  | false =>
    rw [if_neg Bool.false_ne_true]
    refine ⟨idle, dropped_iff, ?_⟩
    exact (or_iff_left Bool.false_ne_true).symm
  | true =>
    rw [if_pos rfl]
    refine ⟨⟨idle.stateResetOctets, idle.firstSduPerInterval, idle.octetsPerInterval⟩,
      dropped_iff, ?_⟩
    unfold Closed blockGate
    dsimp only
    rw [gate, Target.read_write]
    cases target.executes 2048 pkt.igMd.streamFilter.streamGateId.toNat with
    | true => exact iff_of_true rfl (.inr rfl)
    | false => exact (or_iff_left Bool.false_ne_true).symm

/-- A frame in an open interval. -/
theorem Passes.ofOpen (idle : Idle registers) {pkt' : Packet}
    (gate : pkt'.igMd.streamFilter = pkt.igMd.streamFilter)
    (notDropped : pkt'.igMd.toBeDropped = 0) (opened : pkt'.igMd.streamGate.psfpGateEnabled ≠ 0)
    (enabled : pkt'.igMd.streamGate.gateClosedDueToOctetsExceededEnable = true) :
    Passes target registers pkt true false (passGate target registers pkt') := by
  have zero : (0 : BitVec 1) ≠ 1 := by decide
  have one : (1 : BitVec 1) ≠ 0 := by decide
  unfold passGate
  rw [if_neg (by rw [notDropped]; exact zero), if_neg opened]
  dsimp only
  rw [enabled, Bool.or_true, gate]
  rcases Decidable.em (Closed target registers pkt.igMd.streamFilter.streamGateId) with
    closed | notClosed
  · rw [if_pos ⟨rfl, closed⟩]
    exact ⟨idle, iff_of_false one fun both => both.2 closed,
      (or_iff_left Bool.false_ne_true).symm⟩
  · rw [if_neg fun both => notClosed both.2]
    exact ⟨idle, iff_of_true notDropped ⟨rfl, notClosed⟩,
      (or_iff_left Bool.false_ne_true).symm⟩

/-- The queue of a frame is not looked at. -/
theorem Passes.setQid {opened closes : Bool} {result : Result}
    (passes : Passes target registers pkt opened closes result) :
    Passes target registers pkt opened closes { result with pkt := setQid result.pkt } :=
  ⟨passes.idle, passes.admitted_iff, passes.closed_iff⟩

/-- The branches on the gate state, for a packet that is not to be dropped. -/
theorem passGate_policed (target : Target) (idle : Idle registers) {pkt' : Packet}
    (filter : pkt'.igMd.streamFilter = pkt.igMd.streamFilter)
    (invalidRx : pkt'.igMd.streamGate.gateClosedDueToInvalidRxEnable =
      pkt.igMd.streamGate.gateClosedDueToInvalidRxEnable)
    (notDropped : pkt'.igMd.toBeDropped = 0)
    (enabled : pkt'.igMd.streamGate.gateClosedDueToOctetsExceededEnable = true) {opened : Bool}
    (opened_iff : opened = true ↔ pkt'.igMd.streamGate.psfpGateEnabled ≠ 0) :
    Passes target registers pkt opened
      (pkt.igMd.streamGate.gateClosedDueToInvalidRxEnable && !opened &&
        target.executes 2048 pkt.igMd.streamFilter.streamGateId.toNat)
      (passGate target registers pkt') := by
  cases opened with
  | false =>
    have zero : (0 : BitVec 1) ≠ 1 := by decide
    have closed : pkt'.igMd.streamGate.psfpGateEnabled = 0 :=
      not_not.mp (mt opened_iff.mpr Bool.false_ne_true)
    unfold passGate
    rw [if_neg (by rw [notDropped]; exact zero), if_pos closed, invalidRx]
    exact .ofInvalid idle filter rfl
  | true =>
    rw [Bool.not_true, Bool.and_false, Bool.false_and]
    exact .ofOpen idle filter notDropped (opened_iff.mp rfl) enabled

/-- A pass through the gate with octet policing enabled, and without a recirculation header. -/
theorem apply_idle (target : Target) (tables : Tables) (idle : Idle registers)
    (unextracted : pkt.hdr.recirc = ⟨0, 0⟩) (notDropped : pkt.igMd.toBeDropped = 0)
    (enabled : pkt.igMd.streamGate.gateClosedDueToOctetsExceededEnable = true) :
    Passes target registers pkt (findsOpen tables pkt) (closesGate target tables pkt)
      (apply target tables registers pkt) := by
  unfold apply closesGate findsOpen
  rw [if_pos notDropped]
  unfold streamGateInstance
  cases found : tables.lookup .streamGateInstance pkt.fields with
  | none => exact .ofInvalid idle rfl rfl
  | some r =>
    have enabled' : (setGateAndIpv r pkt).igMd.streamGate.gateClosedDueToOctetsExceededEnable =
        true := enabled
    dsimp only
    rw [if_neg Bool.false_ne_true, if_pos enabled',
      checkOctets_idle target idle (by exact unextracted)]
    refine Passes.setQid (passGate_policed target idle ?_ ?_ ?_ ?_ ?_)
    · rfl
    · rfl
    · rfl
    · exact enabled
    · rw [Option.any_some, decide_eq_true_eq]
      exact Iff.rfl

/-! ## Runs -/

/-- A frame of a gate with octet policing, as it reaches the stream gate. -/
structure Policed (gate : BitVec 12) where
  pkt : Packet
  size : Nat
  hyperperiod : Nat
  wire : Wire
  identified : pkt.igMd.streamFilter.streamGateId = gate
  enabled : pkt.igMd.streamGate.gateClosedDueToOctetsExceededEnable = true
  /-- nothing before the stream gate drops a frame -/
  notDropped : pkt.igMd.toBeDropped = 0
  /-- the fields of a header that is not extracted read as zero -/
  unextracted : HeaderName.recirc ∉ Parser.switchIngressParser wire → pkt.hdr.recirc = ⟨0, 0⟩

variable {gate : BitVec 12}

/-- The frames that pass the gate one after the other, each with what the control leaves behind. -/
def run (target : Target) (tables : Tables) :
    Registers → List (Policed gate) → List (Policed gate × Result)
  | _, [] => []
  | registers, frame :: frames =>
    let result := apply target tables registers frame.pkt
    (frame, result) :: run target tables result.registers frames

/-- The frames a run admits. -/
def admitted (passed : List (Policed gate × Result)) : List (Policed gate) :=
  (passed.filter fun x => x.2.pkt.igMd.toBeDropped = 0).map Prod.fst

/-- The frames that find an open interval before any frame closes the gate. -/
def offered (target : Target) (tables : Tables) : List (Policed gate) → List (Policed gate)
  | [] => []
  | frame :: frames =>
    (if findsOpen tables frame.pkt then [frame] else []) ++
      if closesGate target tables frame.pkt then [] else offered target tables frames

/-- The gate admits the frames it is offered, until it is closed. -/
theorem admitted_eq (target : Target) (tables : Tables) (idle : Idle registers)
    (frames : List (Policed gate)) :
    admitted (run target tables registers frames) =
      if Closed target registers gate then [] else offered target tables frames := by
  induction frames generalizing registers with
  | nil =>
    split
    · rfl
    · rfl
  | cons frame frames ih =>
    have passes := apply_idle target tables idle
      (frame.unextracted (Parser.recirc_not_extracted frame.wire)) frame.notDropped frame.enabled
    have admitted_iff := passes.admitted_iff
    have closed_iff := passes.closed_iff
    rw [frame.identified] at admitted_iff closed_iff
    have later := ih passes.idle
    unfold admitted at later ⊢
    unfold run offered
    dsimp only
    rcases Decidable.em (Closed target registers gate) with closed | notClosed
    · have dropped : ¬ (apply target tables registers frame.pkt).pkt.igMd.toBeDropped = 0 :=
        fun passed => (admitted_iff.mp passed).2 closed
      rw [if_pos closed, List.filter_cons_of_neg (by simpa using dropped), later,
        if_pos (closed_iff.mpr (.inl closed))]
    · rw [or_iff_right notClosed] at closed_iff
      rw [and_iff_left notClosed] at admitted_iff
      rw [if_neg notClosed]
      have rest : (((run target tables (apply target tables registers frame.pkt).registers
          frames).filter fun x => x.2.pkt.igMd.toBeDropped = 0).map Prod.fst) =
          if closesGate target tables frame.pkt then [] else offered target tables frames := by
        rw [later]
        exact if_congr closed_iff rfl rfl
      rcases Decidable.em (findsOpen tables frame.pkt = true) with opened | notOpened
      · have passed := admitted_iff.mpr opened
        rw [List.filter_cons_of_pos (by simpa using passed), List.map_cons, rest, if_pos opened]
        rfl
      · have dropped := mt admitted_iff.mp notOpened
        rw [List.filter_cons_of_neg (by simpa using dropped), rest, if_neg notOpened]
        rfl

/-- The octets of the frames of one hyperperiod that find one interval. -/
def octets (tables : Tables) (interval : BitVec 12) (hyperperiod : Nat)
    (frames : List (Policed gate)) : Nat :=
  ((frames.filter fun frame =>
      frame.hyperperiod = hyperperiod &&
        (tables.lookup .streamGateInstance frame.pkt.fields).any fun r =>
          param r .intervalIdentifier 12 = interval).map Policed.size).sum

/-- In every hyperperiod the frames keep to the octets of every interval of the gate. -/
def Bounded (tables : Tables) (frames : List (Policed gate)) : Prop :=
  ∀ r ∈ tables.entries .streamGateInstance, r.key? .streamGateId = some (.exact gate.toNat) →
    ∀ hyperperiod, octets tables (param r .intervalIdentifier 12) hyperperiod frames ≤
      (param r .maxOctetsInterval 32).toNat

/-- **Octet policing.**  From the initial registers, the frames a gate with octet policing admits
keep to the octets of its intervals exactly when the frames that find an open interval, before one
closes the gate, do so by themselves. -/
theorem octets_bounded_iff (target : Target) (tables : Tables) (frames : List (Policed gate)) :
    Bounded tables (admitted (run target tables .initial frames)) ↔
      Bounded tables (offered target tables frames) := by
  have zero : (0 : BitVec 1) ≠ 1 := by decide
  have notClosed : ¬ Closed target .initial gate := by
    unfold Closed Target.read
    cases target.cell 2048 gate.toNat with
    | none => exact zero
    | some _ => exact zero
  rw [admitted_eq target tables Registers.initial_idle, if_neg notClosed]

/-- Gate 5, open in interval 1 for 100 octets. -/
def octetsTables : Tables where
  installed := [{
    table := .streamGateInstance
    matchKeys := [(.streamGateId, .exact 5)]
    action := .setGateAndIpv
    actionData := [(.gateState, 1), (.ipv, 2), (.intervalIdentifier, 1),
      (.maxOctetsInterval, 100)] }]
  precedence := .first

/-- A tagged frame of gate 5. -/
def octetsFrame (size : Nat) : Policed 5 where
  pkt := { (default : Packet) with igMd := { (default : IngressMetadata) with
    streamFilter := { (default : StreamFilter) with streamGateId := 5 }
    streamGate := { (default : DataPlane.StreamGate) with
      gateClosedDueToOctetsExceededEnable := true } } }
  size
  hyperperiod := 0
  wire := { ingressPort := 1, etherType := Parser.ETH_802_1Q, bos := [], tagEtherType := 0,
            protocol := 0 }
  identified := rfl
  enabled := rfl
  notDropped := rfl
  unextracted := fun _ => rfl

/-- Two frames of 60 octets pass within one hyperperiod. -/
theorem octets_exceeded :
    ¬ Bounded octetsTables
        (admitted (run .strict octetsTables .initial [octetsFrame 60, octetsFrame 60])) := by
  intro bounded
  have passed := bounded _ (List.mem_filter.mpr ⟨List.mem_cons_self, rfl⟩) rfl 0
  exact absurd passed (by decide +kernel)

end StreamGate

end P4Tas.DataPlane
