import P4Tas.DataPlane.Agreement
import P4Tas.Lib.Noninterference

/-!
# Isolation of the gates

A gate and the meter of its streams decide by registers that all gates share, and by the state the
meter keeps for each table entry.  Every other frame and generated packet uses other cells of them.

* `Tsn.process`: a packet passes through the control, with the state of the meters;
* `Tsn.Separate`: the ids of a configuration are apart;
* `Tsn.unwinding`: packets of other gates leave what the gate and its meter read;
* `Tsn.policing_isolated`: hence they change no decision on the gate's frames.
-/

namespace P4Tas.DataPlane

open Target (AgreeOn)

namespace Tsn

/-- A meter: the color of a frame and the next state of the entry, from the state of the entry and
what the meter sees of the frame. -/
structure Meter (σ ι : Type) where
  execute : σ → ι → MeterColor → BitVec 2 × σ

/-- What the packets share. -/
structure Shared (σ : Type) where
  registers : Registers
  /-- the state of each entry of `flow_meter_instance` -/
  meters : Request → σ

/-- A packet as it enters the control, and what a meter sees of it. -/
structure Arrival (ι : Type) where
  pkt : Packet
  metered : ι
  fresh : pkt.igMd = default

variable {σ ι : Type}

/-- The frame at the stream gate. -/
def atGate (target : Target) (tables : Tables) (registers : Registers) (pkt : Packet) : Packet :=
  DeltaAdjustment.apply tables (calcDiffTs (readGateTs target tables registers pkt))

/-- The frame at the meter. -/
def atMeter (target : Target) (tables : Tables) (registers : Registers) (pkt : Packet) : Packet :=
  FlowMeter.preColoring
    (StreamGate.apply target tables registers.streamGate (atGate target tables registers pkt)).pkt

/-- The color the meter of the frame's entry answers. -/
def answer (meter : Meter σ ι) (tables : Tables) (meters : Request → σ) (metered : ι)
    (pkt : Packet) (color : MeterColor) : BitVec 2 :=
  match tables.lookup .flowMeterInstance pkt.fields with
  | some entry => (meter.execute (meters entry) metered color).1
  | none => 0

/-- Only a frame that is not to be dropped anyway is metered. -/
def charge (meter : Meter σ ι) (tables : Tables) (meters : Request → σ) (metered : ι)
    (pkt : Packet) : Request → σ :=
  if pkt.igMd.toBeDropped = 0 then
    match tables.lookup .flowMeterInstance pkt.fields with
    | some entry =>
      Function.update meters entry
        (meter.execute (meters entry) metered pkt.igMd.flowMeter.preColor).2
    | none => meters
  else
    meters

/-- A packet passes through the control. -/
def process (target : Target) (tables : Tables) (meter : Meter σ ι) (shared : Shared σ)
    (arrival : Arrival ι) : Shared σ × Result :=
  match arrival.pkt.hdr.timer with
  | some _ =>
    let result := apply target tables (fun _ => 0) shared.registers arrival.pkt
    ({ shared with registers := result.registers }, result)
  | none =>
    let pkt := atMeter target tables shared.registers arrival.pkt
    let result := apply target tables (answer meter tables shared.meters arrival.metered pkt)
      shared.registers arrival.pkt
    ({ registers := result.registers
       meters := charge meter tables shared.meters arrival.metered pkt },
      result)

/-- A frame identified to the gate, or a hyperperiod packet of the gate. -/
def ofGate (tables : Tables) (gate : BitVec 12) (arrival : Arrival ι) : Bool :=
  match arrival.pkt.hdr.timer with
  | some timer =>
    timer.appId ≠ 0 && ((tables.lookup .appIdStreamGate arrival.pkt.fields).any fun r =>
      (param r .streamGateId 16).toNat = gate.toNat)
  | none =>
    (tables.lookup .streamId arrival.pkt.fields).any fun r => param r .streamGateId 12 = gate

/-- What is decided on a frame. -/
structure Decision where
  toBeDropped : BitVec 1
  dropCtl : BitVec 3
  qid : BitVec 7
  dei : BitVec 1
  deriving DecidableEq, Repr

/-- The decision on a frame that is identified to one of some streams. -/
def decision? (tables : Tables) (streams : Request → Bool) (arrival : Arrival ι)
    (result : Result) : Option Decision :=
  match arrival.pkt.hdr.timer with
  | some _ => none
  | none =>
    if (tables.lookup .streamId arrival.pkt.fields).any streams then
      some
        { toBeDropped := result.pkt.igMd.toBeDropped
          dropCtl := result.pkt.igDprsrMd.dropCtl
          qid := result.pkt.igTmMd.qid
          dei := result.pkt.hdr.eth8021q.dei }
    else
      none

/-- The decisions of a run on the frames of some streams, in order. -/
def decisions (target : Target) (tables : Tables) (meter : Meter σ ι) (streams : Request → Bool)
    (shared : Shared σ) (arrivals : List (Arrival ι)) : List Decision :=
  Noninterference.observed (process target tables meter) (decision? tables streams) shared arrivals

/-- The ids are below the register sizes, no stream of another gate uses the meter, no two gates
have an interval identifier in common, and neither the gate nor the meter has the id 0, which frames
that are not identified carry. -/
structure Separate (tables : Tables) (gate : BitVec 12) (meterId : BitVec 16) : Prop where
  gate_nonzero : gate ≠ 0
  meter_nonzero : meterId ≠ 0
  stream_gates : ∀ r ∈ tables.entries .streamId, (param r .streamGateId 12).toNat < 256
  app_gates : ∀ r ∈ tables.entries .appIdStreamGate, (param r .streamGateId 16).toNat < 256
  stream_meters : ∀ r ∈ tables.entries .streamId,
    (param r .flowMeterInstanceId 16).toNat < 2048
  meter_own : ∀ r ∈ tables.entries .streamId,
    param r .flowMeterInstanceId 16 = meterId → param r .streamGateId 12 = gate
  intervals : ∀ r ∈ tables.entries .streamGateInstance,
    (param r .intervalIdentifier 12).toNat < 2048
  intervals_own : ∀ r ∈ tables.entries .streamGateInstance,
    ∀ r' ∈ tables.entries .streamGateInstance,
      param r .intervalIdentifier 12 = param r' .intervalIdentifier 12 →
        r.key? .streamGateId = r'.key? .streamGateId
  /-- the gate id is an exact key of the table -/
  gate_keys : ∀ r ∈ tables.entries .streamGateInstance,
    ∃ id, r.key? .streamGateId = some (.exact id)
  /-- the meter id is an exact key of the table -/
  meter_keys : ∀ r ∈ tables.entries .flowMeterInstance,
    ∃ id, r.key? .flowMeterInstanceId = some (.exact id)

variable (target : Target) {tables : Tables} {gate : BitVec 12} {meterId : BitVec 16}

/-! ## The ids of a frame -/

theorem identified {pkt : Packet} {r : Request}
    (found : tables.lookup .streamId pkt.fields = some r) :
    (StreamIdentification.apply tables pkt).igMd.streamFilter.streamGateId =
        param r .streamGateId 12 ∧
      (StreamIdentification.apply tables pkt).igMd.streamFilter.flowMeterInstanceId =
        param r .flowMeterInstanceId 16 := by
  rw [streamIdentification_igMd found]
  exact ⟨rfl, rfl⟩

theorem unidentified {pkt : Packet} (fresh : pkt.igMd = default)
    (missed : tables.lookup .streamId pkt.fields = none) :
    (StreamIdentification.apply tables pkt).igMd.streamFilter.streamGateId = 0 ∧
      (StreamIdentification.apply tables pkt).igMd.streamFilter.flowMeterInstanceId = 0 := by
  unfold StreamIdentification.apply
  rw [missed]
  dsimp only
  rw [fresh]
  exact ⟨rfl, rfl⟩

/-- The ids of a frame: they are in range, the gate's id makes it a frame of the gate, and so does
the meter's. -/
theorem Separate.frame_ids (separate : Separate tables gate meterId) (arrival : Arrival ι)
    (noTimer : arrival.pkt.hdr.timer = none) :
    let ids := (StreamIdentification.apply tables arrival.pkt).igMd.streamFilter
    ids.streamGateId.toNat < 256 ∧ ids.flowMeterInstanceId.toNat < 2048 ∧
      (ofGate tables gate arrival = true ↔ ids.streamGateId = gate) ∧
      (ids.flowMeterInstanceId = meterId → ids.streamGateId = gate) := by
  dsimp only
  unfold ofGate
  rw [noTimer]
  dsimp only
  cases found : tables.lookup .streamId arrival.pkt.fields with
  | some r =>
    have member := (Request.mem_hits.mp (Tables.lookup_mem found)).1
    rcases identified found with ⟨gate_eq, meter_eq⟩
    rw [gate_eq, meter_eq]
    refine ⟨separate.stream_gates r member, separate.stream_meters r member, ?_,
      separate.meter_own r member⟩
    rw [Option.any_some, decide_eq_true_eq]
  | none =>
    rcases unidentified arrival.fresh found with ⟨gate_eq, meter_eq⟩
    rw [gate_eq, meter_eq]
    refine ⟨by decide, by decide, ?_, fun zero => absurd zero.symm separate.meter_nonzero⟩
    exact iff_of_false (by rw [Option.any_none]; exact Bool.false_ne_true)
      fun zero => separate.gate_nonzero zero.symm

theorem atGate_streamFilter (tables : Tables) (registers : Registers) (pkt : Packet) :
    (atGate target tables registers pkt).igMd.streamFilter =
      (StreamIdentification.apply tables pkt).igMd.streamFilter := by
  unfold atGate
  rcases DeltaAdjustment.apply_eq tables (calcDiffTs (readGateTs target tables registers pkt)) with
    ⟨_, _, adjusted⟩
  rw [adjusted]
  rfl

/-- The cells of the intervals of a gate. -/
def gateIntervals (tables : Tables) (gate : BitVec 12) (c : Nat) : Prop :=
  ∃ r ∈ tables.entries .streamGateInstance,
    r.key? .streamGateId = some (.exact gate.toNat) ∧ (param r .intervalIdentifier 12).toNat = c

/-- A packet finds an interval of its own gate. -/
theorem Separate.interval (separate : Separate tables gate meterId) {pkt : Packet} {r : Request}
    (hit : tables.lookup .streamGateInstance pkt.fields = some r) :
    (param r .intervalIdentifier 12).toNat < 2048 ∧
      (gateIntervals tables gate (param r .intervalIdentifier 12).toNat ↔
        pkt.igMd.streamFilter.streamGateId = gate) := by
  rcases Request.mem_hits.mp (Tables.lookup_mem hit) with ⟨member, accepts⟩
  rcases separate.gate_keys r member with ⟨id, keyed⟩
  have key_eq : pkt.igMd.streamFilter.streamGateId.toNat = id := accepts.key_eq keyed nofun
  refine ⟨separate.intervals r member, ?_⟩
  refine ⟨?_, ?_⟩
  · intro own
    rcases own with ⟨r', member', keyed', same⟩
    have keys := separate.intervals_own r' member' r member (BitVec.eq_of_toNat_eq same)
    rw [keyed', keyed] at keys
    exact BitVec.eq_of_toNat_eq (key_eq.trans (MatchValue.exact.inj (Option.some.inj keys)).symm)
  · intro own
    refine ⟨r, member, ?_, rfl⟩
    rw [keyed, ← key_eq, own]

/-- A packet is metered by an entry with its own id. -/
theorem Separate.meterEntry (separate : Separate tables gate meterId) {pkt : Packet}
    {entry : Request} (hit : tables.lookup .flowMeterInstance pkt.fields = some entry) :
    entry.key? .flowMeterInstanceId = some (.exact meterId.toNat) ↔
      pkt.igMd.streamFilter.flowMeterInstanceId = meterId := by
  rcases Request.mem_hits.mp (Tables.lookup_mem hit) with ⟨member, accepts⟩
  rcases separate.meter_keys entry member with ⟨id, keyed⟩
  have key_eq : pkt.igMd.streamFilter.flowMeterInstanceId.toNat = id :=
    accepts.key_eq keyed nofun
  rw [keyed, ← key_eq]
  refine ⟨?_, ?_⟩
  · intro same
    exact BitVec.eq_of_toNat_eq (MatchValue.exact.inj (Option.some.inj same))
  · intro same
    rw [same]

/-! ## What a gate and its meter read -/

/-- The meters hold the same state for the entries of the meter id. -/
def MetersAgree (meterId : BitVec 16) (meters meters' : Request → σ) : Prop :=
  ∀ entry : Request, entry.key? .flowMeterInstanceId = some (.exact meterId.toNat) →
    meters entry = meters' entry

/-- The gate and the meter read the same. -/
structure Related (tables : Tables) (gate : BitVec 12) (meterId : BitVec 16)
    (shared shared' : Shared σ) : Prop where
  lowerLastTs :
    AgreeOn (· = gate.toNat) shared.registers.lowerLastTs shared'.registers.lowerLastTs
  higherLastTs :
    AgreeOn (· = gate.toNat) shared.registers.higherLastTs shared'.registers.higherLastTs
  streamGate : StreamGate.Agree (· = gate.toNat) (gateIntervals tables gate)
    shared.registers.streamGate shared'.registers.streamGate
  regMeterBlocked :
    AgreeOn (· = meterId.toNat) shared.registers.regMeterBlocked shared'.registers.regMeterBlocked
  meters : MetersAgree meterId shared.meters shared'.meters

theorem Related.refl (shared : Shared σ) : Related tables gate meterId shared shared :=
  ⟨.refl _ _, .refl _ _, .refl _ _ _, .refl _ _, fun _ _ => rfl⟩

variable {meter : Meter σ ι} {meters meters' : Request → σ} {metered : ι} {pkt : Packet}

/-- A frame of the meter is answered from its state. -/
theorem answer_own (separate : Separate tables gate meterId)
    (agree : MetersAgree meterId meters meters')
    (own : pkt.igMd.streamFilter.flowMeterInstanceId = meterId) :
    answer meter tables meters metered pkt = answer meter tables meters' metered pkt := by
  funext color
  unfold answer
  cases hit : tables.lookup .flowMeterInstance pkt.fields with
  | none => rfl
  | some entry =>
    dsimp only
    rw [agree entry ((separate.meterEntry hit).mpr own)]

/-- And changes the same state in the same way. -/
theorem charge_own (separate : Separate tables gate meterId)
    (agree : MetersAgree meterId meters meters')
    (own : pkt.igMd.streamFilter.flowMeterInstanceId = meterId) :
    MetersAgree meterId (charge meter tables meters metered pkt)
      (charge meter tables meters' metered pkt) := by
  unfold charge
  split
  · cases hit : tables.lookup .flowMeterInstance pkt.fields with
    | none => exact agree
    | some entry =>
      intro entry' keyed
      dsimp only
      rw [agree entry ((separate.meterEntry hit).mpr own)]
      rcases Decidable.em (entry' = entry) with same | other
      · rw [same, Function.update_self, Function.update_self]
      · rw [Function.update_of_ne other, Function.update_of_ne other, agree entry' keyed]
  · exact agree

/-- A frame of another meter leaves its state alone. -/
theorem charge_foreign (separate : Separate tables gate meterId)
    (foreign : pkt.igMd.streamFilter.flowMeterInstanceId ≠ meterId) :
    MetersAgree meterId (charge meter tables meters metered pkt) meters := by
  unfold charge
  split
  · cases hit : tables.lookup .flowMeterInstance pkt.fields with
    | none => exact fun _ _ => rfl
    | some entry =>
      intro entry' keyed
      dsimp only
      refine Function.update_of_ne (fun same => ?_) _ _
      rw [same] at keyed
      exact foreign ((separate.meterEntry hit).mp keyed)
  · exact fun _ _ => rfl

/-! ## Frames -/

variable {shared shared' : Shared σ} {arrival : Arrival ι}

theorem process_frame (noTimer : arrival.pkt.hdr.timer = none) :
    process target tables meter shared arrival =
      let result := finishFrame target tables
        (answer meter tables shared.meters arrival.metered
          (atMeter target tables shared.registers arrival.pkt))
        shared.registers (atGate target tables shared.registers arrival.pkt)
      ({ registers := result.registers
         meters := charge meter tables shared.meters arrival.metered
          (atMeter target tables shared.registers arrival.pkt) },
        result) := by
  unfold process apply
  rw [noTimer]
  rfl

theorem atMeter_streamFilter (tables : Tables) (registers : Registers) (pkt : Packet) :
    (atMeter target tables registers pkt).igMd.streamFilter =
      (StreamIdentification.apply tables pkt).igMd.streamFilter := by
  have gate := StreamGate.apply_streamFilter target tables registers.streamGate
    (atGate target tables registers pkt)
  exact gate.trans (atGate_streamFilter target tables registers pkt)

/-- A frame of the gate is compared with the same timestamp. -/
theorem atGate_own (separate : Separate tables gate meterId)
    (related : Related tables gate meterId shared shared')
    (noTimer : arrival.pkt.hdr.timer = none)
    (own : (StreamIdentification.apply tables arrival.pkt).igMd.streamFilter.streamGateId = gate) :
    atGate target tables shared.registers arrival.pkt =
      atGate target tables shared'.registers arrival.pkt := by
  have ids := separate.frame_ids arrival noTimer
  have lower := target.read_inside related.lowerLastTs ids.1 (congrArg BitVec.toNat own)
  have higher := target.read_inside related.higherLastTs ids.1 (congrArg BitVec.toNat own)
  unfold atGate readGateTs
  dsimp only
  rw [lower, higher]

/-- What the flow meter makes of a frame. -/
def flowResult (target : Target) (tables : Tables) (meter : Meter σ ι) (shared : Shared σ)
    (arrival : Arrival ι) : FlowMeter.Result :=
  FlowMeter.apply target tables
    (answer meter tables shared.meters arrival.metered
      (atMeter target tables shared.registers arrival.pkt))
    shared.registers.regMeterBlocked
    (StreamGate.apply target tables shared.registers.streamGate
      (atGate target tables shared.registers arrival.pkt)).pkt

theorem gate_streamFilter (tables : Tables) (registers : Registers) (pkt : Packet) :
    (StreamGate.apply target tables registers.streamGate
        (atGate target tables registers pkt)).pkt.igMd.streamFilter =
      (StreamIdentification.apply tables pkt).igMd.streamFilter := by
  rw [StreamGate.apply_streamFilter, atGate_streamFilter]

/-- A frame of another meter leaves the meter's cell alone. -/
theorem foreignMeter_outside
    (small : (StreamIdentification.apply tables
      arrival.pkt).igMd.streamFilter.flowMeterInstanceId.toNat < 2048)
    (foreign : (StreamIdentification.apply tables
      arrival.pkt).igMd.streamFilter.flowMeterInstanceId ≠ meterId)
    {regMeterBlocked : FlowMeter.Registers}
    (agree : AgreeOn (· = meterId.toNat) shared.registers.regMeterBlocked regMeterBlocked) :
    AgreeOn (· = meterId.toNat) (flowResult target tables meter shared arrival).regMeterBlocked
      regMeterBlocked := by
  have ids := gate_streamFilter target tables shared.registers arrival.pkt
  refine FlowMeter.apply_outside target _ agree ?_ ?_ _
  · rw [ids]
    exact small
  · rw [ids]
    exact fun same => foreign (BitVec.eq_of_toNat_eq same)

/-- A frame of another gate leaves what the gate and its meter read. -/
theorem frame_hidden (separate : Separate tables gate meterId)
    (related : Related tables gate meterId shared shared')
    (noTimer : arrival.pkt.hdr.timer = none) (hidden : ofGate tables gate arrival = false) :
    Related tables gate meterId (process target tables meter shared arrival).1 shared' := by
  rcases separate.frame_ids arrival noTimer with ⟨gateSmall, meterSmall, own_iff, meterOwn⟩
  have foreign : ¬ (StreamIdentification.apply tables arrival.pkt).igMd.streamFilter.streamGateId =
      gate := by
    rw [← own_iff, hidden]
    exact Bool.false_ne_true
  have foreignMeter := mt meterOwn foreign
  have ids := atGate_streamFilter target tables shared.registers arrival.pkt
  rw [process_frame target noTimer]
  refine ⟨related.lowerLastTs, related.higherLastTs, ?_, ?_, ?_⟩
  · refine StreamGate.apply_outside target _ related.streamGate ?_ ?_ fun r hit => ?_
    · rw [ids]
      omega
    · rw [ids]
      exact fun same => foreign (BitVec.eq_of_toNat_eq same)
    · rcases separate.interval hit with ⟨small, interval_iff⟩
      rw [ids] at interval_iff
      exact ⟨small, mt interval_iff.mp foreign⟩
  · exact foreignMeter_outside target meterSmall foreignMeter related.regMeterBlocked
  · intro entry keyed
    refine (charge_foreign separate ?_ entry keyed).trans (related.meters entry keyed)
    rw [atMeter_streamFilter]
    exact foreignMeter

/-- A frame of the gate passes the stream gate alike. -/
theorem gate_shown (separate : Separate tables gate meterId)
    (related : Related tables gate meterId shared shared')
    (noTimer : arrival.pkt.hdr.timer = none)
    (own : (StreamIdentification.apply tables arrival.pkt).igMd.streamFilter.streamGateId = gate) :
    StreamGate.SameResult (· = gate.toNat) (gateIntervals tables gate)
      (StreamGate.apply target tables shared.registers.streamGate
        (atGate target tables shared.registers arrival.pkt))
      (StreamGate.apply target tables shared'.registers.streamGate
        (atGate target tables shared'.registers arrival.pkt)) := by
  rcases separate.frame_ids arrival noTimer with ⟨gateSmall, _, _, _⟩
  have ids := atGate_streamFilter target tables shared'.registers arrival.pkt
  rw [atGate_own target separate related noTimer own]
  refine StreamGate.apply_inside target _ related.streamGate ?_ ?_ fun r hit => ?_
  · rw [ids]
    omega
  · rw [ids, own]
  · rcases separate.interval hit with ⟨small, interval_iff⟩
    rw [ids] at interval_iff
    exact ⟨small, interval_iff.mpr own⟩

/-- A frame of the gate that uses the meter is metered alike. -/
theorem meter_shown (separate : Separate tables gate meterId)
    (related : Related tables gate meterId shared shared')
    (noTimer : arrival.pkt.hdr.timer = none)
    (own : (StreamIdentification.apply tables arrival.pkt).igMd.streamFilter.streamGateId = gate)
    (ownMeter : (StreamIdentification.apply tables
      arrival.pkt).igMd.streamFilter.flowMeterInstanceId = meterId) :
    FlowMeter.SameResult (· = meterId.toNat) (flowResult target tables meter shared arrival)
        (flowResult target tables meter shared' arrival) ∧
      MetersAgree meterId
        (charge meter tables shared.meters arrival.metered
          (atMeter target tables shared.registers arrival.pkt))
        (charge meter tables shared'.meters arrival.metered
          (atMeter target tables shared'.registers arrival.pkt)) := by
  rcases separate.frame_ids arrival noTimer with ⟨_, meterSmall, _, _⟩
  have gates := (gate_shown target separate related noTimer own).2
  have metered_eq : atMeter target tables shared.registers arrival.pkt =
      atMeter target tables shared'.registers arrival.pkt :=
    congrArg FlowMeter.preColoring gates
  have ownThere : (atMeter target tables shared'.registers
      arrival.pkt).igMd.streamFilter.flowMeterInstanceId = meterId := by
    rw [atMeter_streamFilter, ownMeter]
  have ids := gate_streamFilter target tables shared'.registers arrival.pkt
  unfold flowResult
  rw [metered_eq, answer_own separate related.meters ownThere, gates]
  refine ⟨?_, charge_own separate related.meters ownThere⟩
  refine FlowMeter.apply_inside target _ related.regMeterBlocked ?_ ?_ _
  · rw [ids]
    exact meterSmall
  · rw [ids, ownMeter]

/-- A frame of the gate keeps the gate and its meter alike, and when it uses this meter the same is
decided on it. -/
theorem frame_shown (separate : Separate tables gate meterId)
    (related : Related tables gate meterId shared shared')
    (noTimer : arrival.pkt.hdr.timer = none) (shown : ofGate tables gate arrival = true) :
    Related tables gate meterId (process target tables meter shared arrival).1
        (process target tables meter shared' arrival).1 ∧
      ((StreamIdentification.apply tables arrival.pkt).igMd.streamFilter.flowMeterInstanceId =
          meterId →
        (process target tables meter shared arrival).2.pkt =
          (process target tables meter shared' arrival).2.pkt) := by
  rcases separate.frame_ids arrival noTimer with ⟨_, meterSmall, own_iff, _⟩
  have own := own_iff.mp shown
  have gates := gate_shown target separate related noTimer own
  rw [process_frame target noTimer, process_frame target noTimer]
  rcases Decidable.em ((StreamIdentification.apply tables
      arrival.pkt).igMd.streamFilter.flowMeterInstanceId = meterId) with ownMeter | foreign
  · rcases meter_shown target separate related noTimer own ownMeter with ⟨flow, charged⟩
    refine ⟨⟨related.lowerLastTs, related.higherLastTs, gates.1, flow.1, charged⟩, fun _ => ?_⟩
    have pkt_eq := flow.2
    unfold flowResult at pkt_eq
    unfold finishFrame
    dsimp only
    rw [pkt_eq]
  · -- neither run touches the meter
    have foreignThere (shared : Shared σ) : (atMeter target tables shared.registers
        arrival.pkt).igMd.streamFilter.flowMeterInstanceId ≠ meterId := by
      rw [atMeter_streamFilter]
      exact foreign
    have left : AgreeOn (· = meterId.toNat)
        (flowResult target tables meter shared arrival).regMeterBlocked
        shared'.registers.regMeterBlocked :=
      foreignMeter_outside target meterSmall foreign related.regMeterBlocked
    refine ⟨⟨related.lowerLastTs, related.higherLastTs, gates.1,
      (foreignMeter_outside target meterSmall foreign left.symm).symm, fun entry keyed => ?_⟩,
      fun ownMeter => absurd ownMeter foreign⟩
    dsimp only
    rw [charge_foreign separate (foreignThere shared) entry keyed,
      charge_foreign separate (foreignThere shared') entry keyed]
    exact related.meters entry keyed

/-! ## Generated packets -/

/-- A hyperperiod packet of the gate records the same timestamp. -/
theorem finishGatePeriod_inside {registers registers' : Registers} {pkt : Packet}
    (small : pkt.igMd.hyperperiod.streamGateId.toNat < 256)
    (own : pkt.igMd.hyperperiod.streamGateId.toNat = gate.toNat)
    (lower : AgreeOn (· = gate.toNat) registers.lowerLastTs registers'.lowerLastTs)
    (higher : AgreeOn (· = gate.toNat) registers.higherLastTs registers'.higherLastTs) :
    AgreeOn (· = gate.toNat) (finishGatePeriod target registers pkt).1.lowerLastTs
        (finishGatePeriod target registers' pkt).1.lowerLastTs ∧
      AgreeOn (· = gate.toNat) (finishGatePeriod target registers pkt).1.higherLastTs
        (finishGatePeriod target registers' pkt).1.higherLastTs := by
  have lowers := target.write_inside lower small own fun _ => lowerTstamp pkt
  have highers := target.write_inside higher small own fun _ => higherTstamp pkt
  unfold finishGatePeriod
  dsimp only
  split
  · split
    · exact ⟨lowers, highers⟩
    · exact ⟨lowers, highers⟩
  · split
    · exact ⟨lowers, highers⟩
    · exact ⟨lowers, highers⟩

theorem finishGatePeriod_outside {registers registers' : Registers} {pkt : Packet}
    (small : pkt.igMd.hyperperiod.streamGateId.toNat < 256)
    (foreign : ¬ pkt.igMd.hyperperiod.streamGateId.toNat = gate.toNat)
    (lower : AgreeOn (· = gate.toNat) registers.lowerLastTs registers'.lowerLastTs)
    (higher : AgreeOn (· = gate.toNat) registers.higherLastTs registers'.higherLastTs) :
    AgreeOn (· = gate.toNat) (finishGatePeriod target registers pkt).1.lowerLastTs
        registers'.lowerLastTs ∧
      AgreeOn (· = gate.toNat) (finishGatePeriod target registers pkt).1.higherLastTs
        registers'.higherLastTs := by
  have lowers := target.write_outside lower small foreign fun _ => lowerTstamp pkt
  have highers := target.write_outside higher small foreign fun _ => higherTstamp pkt
  unfold finishGatePeriod
  dsimp only
  split
  · exact ⟨lowers, highers⟩
  · exact ⟨lowers, highers⟩

/-- A generated packet is the hyperperiod packet of some gate, or it leaves the timestamps alone. -/
theorem generated_cases {timer : Timer} (generated : arrival.pkt.hdr.timer = some timer)
    (tables : Tables) (gate : BitVec 12) (answers : MeterColor → BitVec 2) :
    (∃ r ∈ tables.entries .appIdStreamGate,
        (ofGate tables gate arrival = true ↔ (param r .streamGateId 16).toNat = gate.toNat) ∧
          ∀ registers, (apply target tables answers registers arrival.pkt).registers =
            (finishGatePeriod target registers (assignAppIdStreamGate r arrival.pkt)).1) ∨
      ofGate tables gate arrival = false ∧ ∀ registers,
        (apply target tables answers registers arrival.pkt).registers.lowerLastTs =
            registers.lowerLastTs ∧
          (apply target tables answers registers arrival.pkt).registers.higherLastTs =
            registers.higherLastTs := by
  have applied (registers : Registers) : apply target tables answers registers arrival.pkt =
      if timer.appId ≠ 0 then
        hyperperiodPacket target tables registers arrival.pkt
      else
        { registers
          pkt := finishControlPacket tables (DeltaAdjustment.apply tables
            (calcDiffTs (readPortTs target tables registers arrival.pkt)))
          blockGate := false
          blockMeter := false } := by
    unfold apply
    rw [generated]
  unfold ofGate
  rw [generated]
  dsimp only
  rcases Decidable.em (timer.appId = 0) with control | hyperperiod
  · rw [decide_eq_false (not_not_intro control)]
    refine .inr ⟨rfl, fun registers => ?_⟩
    rw [applied, if_neg (not_not_intro control)]
    exact ⟨rfl, rfl⟩
  · rw [decide_eq_true hyperperiod, Bool.true_and]
    cases found : tables.lookup .appIdStreamGate arrival.pkt.fields with
    | some r =>
      refine .inl ⟨r, (Request.mem_hits.mp (Tables.lookup_mem found)).1, ?_, fun registers => ?_⟩
      · rw [Option.any_some, decide_eq_true_eq]
      · rw [applied, if_pos hyperperiod]
        unfold hyperperiodPacket
        rw [found]
    | none =>
      refine .inr ⟨rfl, fun registers => ?_⟩
      rw [applied, if_pos hyperperiod]
      unfold hyperperiodPacket
      rw [found]
      cases tables.lookup .appIdTas arrival.pkt.fields with
      | some r => exact ⟨rfl, rfl⟩
      | none => exact ⟨rfl, rfl⟩

/-- A generated packet only changes the registers the control itself declares. -/
theorem process_generated {timer : Timer} (generated : arrival.pkt.hdr.timer = some timer)
    (tables : Tables) (meter : Meter σ ι) (shared : Shared σ) :
    let shared' := (process target tables meter shared arrival).1
    shared'.registers = (apply target tables (fun _ => 0) shared.registers arrival.pkt).registers ∧
      shared'.registers.streamGate = shared.registers.streamGate ∧
      shared'.registers.regMeterBlocked = shared.registers.regMeterBlocked ∧
      shared'.meters = shared.meters := by
  unfold process
  rw [generated]
  obtain ⟨streamGate, regMeterBlocked, _⟩ := apply_timer generated
  exact ⟨rfl, streamGate, regMeterBlocked, rfl⟩

/-- A generated packet that is not the gate's leaves what the gate and its meter read. -/
theorem generated_hidden (separate : Separate tables gate meterId)
    (related : Related tables gate meterId shared shared') {timer : Timer}
    (generated : arrival.pkt.hdr.timer = some timer) (hidden : ofGate tables gate arrival = false) :
    Related tables gate meterId (process target tables meter shared arrival).1 shared' := by
  rcases process_generated target generated tables meter shared with
    ⟨registers_eq, streamGate, regMeterBlocked, meters_eq⟩
  have stamps : AgreeOn (· = gate.toNat)
        (process target tables meter shared arrival).1.registers.lowerLastTs
        shared'.registers.lowerLastTs ∧
      AgreeOn (· = gate.toNat)
        (process target tables meter shared arrival).1.registers.higherLastTs
        shared'.registers.higherLastTs := by
    rw [registers_eq]
    rcases generated_cases target generated tables gate fun _ => 0 with
      ⟨r, member, own_iff, finished⟩ | ⟨_, kept⟩
    · have foreign : ¬ (param r .streamGateId 16).toNat = gate.toNat := by
        rw [← own_iff, hidden]
        exact Bool.false_ne_true
      rw [finished]
      exact finishGatePeriod_outside target (separate.app_gates r member) foreign
        related.lowerLastTs related.higherLastTs
    · rw [(kept _).1, (kept _).2]
      exact ⟨related.lowerLastTs, related.higherLastTs⟩
  refine ⟨stamps.1, stamps.2, ?_, ?_, ?_⟩
  · rw [streamGate]
    exact related.streamGate
  · rw [regMeterBlocked]
    exact related.regMeterBlocked
  · rw [meters_eq]
    exact related.meters

/-- A hyperperiod packet of the gate keeps the gate and its meter alike. -/
theorem generated_shown (separate : Separate tables gate meterId)
    (related : Related tables gate meterId shared shared') {timer : Timer}
    (generated : arrival.pkt.hdr.timer = some timer) (shown : ofGate tables gate arrival = true) :
    Related tables gate meterId (process target tables meter shared arrival).1
      (process target tables meter shared' arrival).1 := by
  rcases process_generated target generated tables meter shared with
    ⟨registers_eq, streamGate, regMeterBlocked, meters_eq⟩
  rcases process_generated target generated tables meter shared' with
    ⟨registers_eq', streamGate', regMeterBlocked', meters_eq'⟩
  have stamps : AgreeOn (· = gate.toNat)
        (process target tables meter shared arrival).1.registers.lowerLastTs
        (process target tables meter shared' arrival).1.registers.lowerLastTs ∧
      AgreeOn (· = gate.toNat)
        (process target tables meter shared arrival).1.registers.higherLastTs
        (process target tables meter shared' arrival).1.registers.higherLastTs := by
    rw [registers_eq, registers_eq']
    rcases generated_cases target generated tables gate fun _ => 0 with
      ⟨r, member, own_iff, finished⟩ | ⟨hidden, _⟩
    · rw [finished, finished]
      exact finishGatePeriod_inside target (separate.app_gates r member) (own_iff.mp shown)
        related.lowerLastTs related.higherLastTs
    · exact absurd (shown.symm.trans hidden) nofun
  refine ⟨stamps.1, stamps.2, ?_, ?_, ?_⟩
  · rw [streamGate, streamGate']
    exact related.streamGate
  · rw [regMeterBlocked, regMeterBlocked']
    exact related.regMeterBlocked
  · rw [meters_eq, meters_eq']
    exact related.meters

/-! ## Runs -/

/-- The streams of the gate that use the meter. -/
def streamsOf (gate : BitVec 12) (meterId : BitVec 16) (r : Request) : Bool :=
  param r .streamGateId 12 = gate ∧ param r .flowMeterInstanceId 16 = meterId

theorem decision?_timer {timer : Timer} (generated : arrival.pkt.hdr.timer = some timer)
    (tables : Tables) (streams : Request → Bool) (result : Result) :
    decision? tables streams arrival result = none := by
  unfold decision?
  rw [generated]

/-- A decision is only made on a frame of the gate that uses the meter. -/
theorem decision?_none (noTimer : arrival.pkt.hdr.timer = none)
    (other : ofGate tables gate arrival = false ∨
      (StreamIdentification.apply tables arrival.pkt).igMd.streamFilter.flowMeterInstanceId ≠
        meterId) (result : Result) :
    decision? tables (streamsOf gate meterId) arrival result = none := by
  unfold decision?
  rw [noTimer]
  dsimp only
  refine if_neg fun of => ?_
  unfold ofGate at other
  rw [noTimer] at other
  dsimp only at other
  cases found : tables.lookup .streamId arrival.pkt.fields with
  | none =>
    rw [found] at of
    exact absurd of Bool.false_ne_true
  | some r =>
    rw [found, Option.any_some] at of
    rcases of_decide_eq_true of with ⟨ownGate, ownMeter⟩
    rcases other with hidden | foreign
    · rw [found, Option.any_some, decide_eq_false_iff_not] at hidden
      exact hidden ownGate
    · exact foreign ((identified found).2.trans ownMeter)

/-- Packets of other gates leave what the gate and its meter read, and those of the gate carry it
along with the same decisions. -/
theorem unwinding (separate : Separate tables gate meterId) (meter : Meter σ ι) :
    Noninterference.Unwinding (process target tables meter)
      (decision? tables (streamsOf gate meterId)) (ofGate tables gate)
      (Related tables gate meterId) where
  hidden := by
    intro shared shared' arrival related hidden
    cases timer : arrival.pkt.hdr.timer with
    | none => exact frame_hidden target separate related timer hidden
    | some _ => exact generated_hidden target separate related timer hidden
  silent := by
    intro arrival result hidden
    cases timer : arrival.pkt.hdr.timer with
    | none => exact decision?_none timer (.inl hidden) result
    | some _ => exact decision?_timer timer tables _ result
  shown := by
    intro shared shared' arrival related shown
    cases timer : arrival.pkt.hdr.timer with
    | none => exact (frame_shown target separate related timer shown).1
    | some _ => exact generated_shown target separate related timer shown
  agrees := by
    intro shared shared' arrival related shown
    cases timer : arrival.pkt.hdr.timer with
    | none =>
      rcases Decidable.em ((StreamIdentification.apply tables
          arrival.pkt).igMd.streamFilter.flowMeterInstanceId = meterId) with own | foreign
      · have same : (process target tables meter shared arrival).2.pkt =
            (process target tables meter shared' arrival).2.pkt :=
          (frame_shown target separate related timer shown).2 own
        unfold decision?
        rw [timer, same]
      · rw [decision?_none timer (.inr foreign), decision?_none timer (.inr foreign)]
    | some _ => rw [decision?_timer timer, decision?_timer timer]

/-- **Policing isolation.**  Let a meter be used by the streams of one gate only, and the ids of the
configuration be apart.  Two runs that agree on the frames and the hyperperiod packets of the gate,
whatever other packets they contain, drop, queue and mark the frames of the gate that use the meter
alike; and all frames of the gate, if its streams use no other meter. -/
theorem policing_isolated (separate : Separate tables gate meterId) (meter : Meter σ ι)
    (start : Shared σ) {arrivals arrivals' : List (Arrival ι)}
    (same : arrivals.filter (ofGate tables gate) = arrivals'.filter (ofGate tables gate)) :
    decisions target tables meter (streamsOf gate meterId) start arrivals =
        decisions target tables meter (streamsOf gate meterId) start arrivals' ∧
      ((∀ r ∈ tables.entries .streamId, param r .streamGateId 12 = gate →
          param r .flowMeterInstanceId 16 = meterId) →
        decisions target tables meter (fun r => param r .streamGateId 12 = gate) start arrivals =
          decisions target tables meter (fun r => param r .streamGateId 12 = gate) start
            arrivals') := by
  have isolated := (unwinding target separate meter).noninterference Related.refl
    (Related.refl start) same
  refine ⟨isolated, fun onlyMeter => ?_⟩
  have all : decision? (ι := ι) tables (fun r => param r .streamGateId 12 = gate) =
      decision? tables (streamsOf gate meterId) := by
    funext arrival result
    unfold decision?
    cases arrival.pkt.hdr.timer with
    | some _ => rfl
    | none =>
      dsimp only
      cases found : tables.lookup .streamId arrival.pkt.fields with
      | none => rfl
      | some r =>
        have member := (Request.mem_hits.mp (Tables.lookup_mem found)).1
        have same : decide (param r .streamGateId 12 = gate) = streamsOf gate meterId r := by
          unfold streamsOf
          rw [decide_eq_decide]
          exact ⟨fun own => ⟨own, onlyMeter r member own⟩, And.left⟩
        rw [Option.any_some, Option.any_some, same]
  unfold decisions
  rw [all]
  exact isolated

/-- Gate 5 and meter 3 in company of gate 6, which has no open interval. -/
def isolationTables : Tables where
  installed :=
    [{ table := .streamId
       matchKeys := [(.ethernetDstAddr, .exact 50), (.eth8021qVid, .exact 7)]
       action := .assignStreamHandle
       actionData := [(.streamGateId, 5), (.flowMeterInstanceId, 3),
         (.gateClosedDueToInvalidRxEnable, 1)] },
     { table := .streamId
       matchKeys := [(.ethernetDstAddr, .exact 50), (.eth8021qVid, .exact 8)]
       action := .assignStreamHandle
       actionData := [(.streamGateId, 6), (.flowMeterInstanceId, 4),
         (.gateClosedDueToInvalidRxEnable, 1)] },
     { table := .streamGateInstance
       matchKeys := [(.streamGateId, .exact 5)]
       action := .setGateAndIpv
       actionData := [(.gateState, 1), (.ipv, 2), (.intervalIdentifier, 1)] },
     { table := .flowMeterInstance
       matchKeys := [(.flowMeterInstanceId, .exact 3)]
       action := .setColorDirect
       actionData := [] }]
  precedence := .first

/-- A frame of one of the two streams, by its VLAN. -/
def vlanFrame (vid : BitVec 12) : Arrival Unit where
  pkt := { (default : Packet) with hdr := { (default : Headers) with
    ethernet := { dstAddr := 50 }
    eth8021q := { pcp := 0, dei := 0, vid } } }
  metered := ()
  fresh := rfl

/-- A meter that counts its frames and colors the third one and all later ones red. -/
def countingMeter : Meter Nat Unit where
  execute := fun count _ _ => (if count < 2 then 0 else 3, count + 1)

theorem isolationTables_separate : Separate isolationTables 5 3 where
  gate_nonzero := by decide
  meter_nonzero := by decide
  stream_gates := by decide +kernel
  app_gates := by decide +kernel
  stream_meters := by decide +kernel
  meter_own := by decide +kernel
  intervals := by decide +kernel
  intervals_own := by decide +kernel
  gate_keys := by
    have keys : ∀ r ∈ isolationTables.entries .streamGateInstance,
        r.key? .streamGateId = some (.exact 5) := by
      decide +kernel
    exact fun r member => ⟨5, keys r member⟩
  meter_keys := by
    have keys : ∀ r ∈ isolationTables.entries .flowMeterInstance,
        r.key? .flowMeterInstanceId = some (.exact 3) := by
      decide +kernel
    exact fun r member => ⟨3, keys r member⟩

/-- A frame that blocks gate 6 changes nothing for two frames of gate 5. -/
theorem policing_isolated_sample :
    decisions .strict isolationTables countingMeter (streamsOf 5 3) ⟨sampleRegisters, fun _ => 0⟩
        [vlanFrame 7, vlanFrame 8, vlanFrame 7] =
      decisions .strict isolationTables countingMeter (streamsOf 5 3) ⟨sampleRegisters, fun _ => 0⟩
        [vlanFrame 7, vlanFrame 7] := by
  have same : [vlanFrame 7, vlanFrame 8, vlanFrame 7].filter (ofGate isolationTables 5) =
      [vlanFrame 7, vlanFrame 7].filter (ofGate isolationTables 5) := by
    have own : ofGate isolationTables 5 (vlanFrame 7) = true := by decide +kernel
    have other : ofGate isolationTables 5 (vlanFrame 8) = false := by decide +kernel
    rw [List.filter_cons_of_pos own, List.filter_cons_of_pos own,
      List.filter_cons_of_neg (by rw [other]; exact Bool.false_ne_true)]
  exact (policing_isolated .strict isolationTables_separate countingMeter _ same).1

end Tsn

end P4Tas.DataPlane
