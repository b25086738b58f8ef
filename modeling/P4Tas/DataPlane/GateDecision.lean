import P4Tas.Controller.GateSchedules
import P4Tas.DataPlane.Blocking
import P4Tas.DataPlane.HyperperiodPosition

/-!
# The decision of a stream gate

The position that reaches the stream gates has 48 bits, and so have the keys.  The entries of the
intervals are made from 32-bit values and masks, so the upper bits of a position are not compared:
a position beyond `2 ^ 32` is taken for the one with its low 32 bits.

* `GateDecides`: a frame finds exactly the intervals that contain a position;
* `adjusted_hits`: the entries a frame finds, by the position the delta adjustment leaves;
* `gateDecides_iff`: when it finds those of its true position.
-/

namespace P4Tas.DataPlane

open Controller Controller.StreamGateControlList

namespace Tsn

/-- A packet finds an entry exactly when one of the intervals contains the position, every entry it
finds belongs to such an interval of the gate, and else it takes `missed_time_slice`. -/
structure GateDecides (tables : Tables) (gate : Controller.StreamGate)
    (intervals : List PSFPTimeSlice) (position : Nat) (pkt : Packet) : Prop where
  hit_iff : (∃ r, r ∈ Request.hits pkt.fields (tables.entries .streamGateInstance)) ↔
    ∃ t ∈ intervals, t.Contains position
  belongs : ∀ r ∈ Request.hits pkt.fields (tables.entries .streamGateInstance),
    ∃ t ∈ intervals, t.Contains position ∧
      ∃ identifier, r ∈ intervalEntries gate.streamGateId t identifier
  missed : (¬ ∃ t ∈ intervals, t.Contains position) →
    StreamGate.streamGateInstance tables pkt = (StreamGate.missedTimeSlice pkt, true)

/-- A frame that finds no entry takes `missed_time_slice`. -/
theorem streamGateInstance_missed {tables : Tables} {pkt : Packet}
    (none : ¬ ∃ r, r ∈ Request.hits pkt.fields (tables.entries .streamGateInstance)) :
    StreamGate.streamGateInstance tables pkt = (StreamGate.missedTimeSlice pkt, true) := by
  have missed : tables.lookup .streamGateInstance pkt.fields = Option.none := by
    rw [Tables.lookup_eq_none, List.eq_nil_iff_forall_not_mem]
    exact fun r hit => none ⟨r, hit⟩
  unfold StreamGate.streamGateInstance
  rw [missed]

variable {cfg mapped : Configuration} {app app' app'' : AppState} {requests : List Request}
  {tables : Tables} {gate : Controller.StreamGate} {schedule : Controller.StreamGateControlList}
  {hyperperiods : List U64} {pkt : Packet}

/-- What a frame of the gate finds: the entries of the intervals that contain the low 32 bits of its
position. -/
theorem gate_hits (sole : SoleUser cfg gate)
    (found : cfg.findSchedule gate.schedule = some schedule)
    (prepared : cfg.configureAppIdsStreamGateHyperperiod app = .ok (mapped, app'))
    (run : writeAllSchedules mapped app' = .ok (requests, app''))
    (own : pkt.igMd.streamFilter.streamGateId.toNat = gate.streamGateId.toNat) :
    ((∃ r, r ∈ Request.hits pkt.fields requests) ↔
        ∃ t ∈ schedule.intervals, t.Contains (pkt.igMd.diffTs.toNat % 2 ^ 32)) ∧
      ∀ r ∈ Request.hits pkt.fields requests, ∃ t ∈ schedule.intervals,
        t.Contains (pkt.igMd.diffTs.toNat % 2 ^ 32) ∧
          ∃ identifier, r ∈ intervalEntries gate.streamGateId t identifier := by
  rcases configureAppIds_eq_ok prepared with ⟨mappings, related, rfl⟩
  rcases writeAllSchedules_eq_ok rfl run with ⟨_, identifiers, numbered⟩
  -- the lookups do not read the app mappings
  have numberedHere : Numbered (written cfg mappings) app'.uniqueIntervalIdentifier
      app''.uniqueIntervalIdentifier requests identifiers := numbered
  have written_iff {t : PSFPTimeSlice} := sole.mem_written related found (t := t)
  have belongs (r : Request) (hit : r ∈ Request.hits pkt.fields requests) :
      ∃ t ∈ schedule.intervals, t.Contains (pkt.igMd.diffTs.toNat % 2 ^ 32) ∧
        ∃ identifier, r ∈ intervalEntries gate.streamGateId t identifier := by
    rcases numberedHere.mem_hits hit with
      ⟨⟨streamGateId, t⟩, member, identifier, inEntries, ownPair, inside⟩
    have same : streamGateId = gate.streamGateId :=
      BitVec.eq_of_toNat_eq (ownPair.symm.trans own)
    rw [same] at member inEntries
    exact ⟨t, written_iff.mp member, inside, identifier, inEntries⟩
  refine ⟨⟨?_, ?_⟩, belongs⟩
  · intro accepted
    rcases accepted with ⟨r, hit⟩
    rcases belongs r hit with ⟨t, member, inside, _⟩
    exact ⟨t, member, inside⟩
  · intro covered
    rcases covered with ⟨t, member, inside⟩
    exact numberedHere.exists_hit (written_iff.mpr member) own inside

/-- The intervals have 32-bit bounds. -/
theorem not_contains_large {t : PSFPTimeSlice} {position : Nat} (large : 2 ^ 32 ≤ position) :
    ¬ t.Contains position := by
  intro inside
  have upper : position ≤ t.high.toNat := inside.2
  have bound := t.high.isLt
  omega

/-- **The decision of a gate** that alone uses its schedule.  Let the entries of all gates, of the
underflow detection and of the hyperperiod be installed, and the frame not be slightly earlier than
the recorded start of the hyperperiod.  The gate decides by the true position exactly when this
position is below `2 ^ 32`, or no interval contains the low 32 bits of the position the delta
adjustment leaves. -/
theorem gateDecides_iff (sole : SoleUser cfg gate)
    (found : cfg.findSchedule gate.schedule = some schedule)
    (small : schedule.period.toNat < 2 ^ 48)
    (prepared : cfg.configureAppIdsStreamGateHyperperiod app = .ok (mapped, app'))
    (run : writeAllSchedules mapped app' = .ok (requests, app''))
    (installed : tables.entries .streamGateInstance = requests)
    (underflow : tables.entries .underflowDetection =
      DeltaAdjustment.initUnderflowDetectionTable)
    (period : schedule.period ∈ hyperperiods)
    (exceeded : tables.entries .hyperperiodExceededDetection =
      hyperperiods.flatMap DeltaAdjustment.initHyperperiodExceededDetectionTable)
    (own : pkt.igMd.streamFilter.streamGateId.toNat = gate.streamGateId.toNat)
    (duration : pkt.igMd.hyperperiod.duration = schedule.period)
    (later : elapsed pkt < 2 ^ 48 - 128) :
    GateDecides tables gate schedule.intervals (min (elapsed pkt) schedule.period.toNat)
        (DeltaAdjustment.apply tables (calcDiffTs pkt)) ↔
      min (elapsed pkt) schedule.period.toNat < 2 ^ 32 ∨
        ∀ t ∈ schedule.intervals,
          ¬ t.Contains (min (recomputed (elapsed pkt)) schedule.period.toNat % 2 ^ 32) := by
  have adjusted := adjusted_position period small underflow exceeded pkt duration
  rw [if_neg (Nat.not_le_of_lt later)] at adjusted
  have ownThere :
      (DeltaAdjustment.apply tables (calcDiffTs pkt)).igMd.streamFilter.streamGateId.toNat =
        gate.streamGateId.toNat := by
    rcases DeltaAdjustment.apply_eq tables (calcDiffTs pkt) with ⟨diffTs, difference, applied⟩
    rw [applied]
    exact own
  have hits := gate_hits sole found prepared run ownThere
  rw [adjusted, ← installed] at hits
  rcases hits with ⟨hit_iff, belongs⟩
  rcases Nat.lt_or_ge (min (elapsed pkt) schedule.period.toNat) (2 ^ 32) with low | high
  · -- nothing is cut off
    have same : min (recomputed (elapsed pkt)) schedule.period.toNat % 2 ^ 32 =
        min (elapsed pkt) schedule.period.toNat := by
      unfold recomputed
      split <;> omega
    rw [same] at hit_iff belongs
    refine iff_of_true ⟨hit_iff, belongs, fun outside => ?_⟩ (.inl low)
    exact streamGateInstance_missed (mt hit_iff.mp outside)
  · have outside : ¬ ∃ t ∈ schedule.intervals,
        t.Contains (min (elapsed pkt) schedule.period.toNat) := by
      intro covered
      rcases covered with ⟨t, _, inside⟩
      exact not_contains_large high inside
    refine ⟨?_, ?_⟩
    · intro decides
      refine .inr fun t member inside => ?_
      exact outside (decides.hit_iff.mp (hit_iff.mpr ⟨t, member, inside⟩))
    · intro condition
      have missed : ¬ ∃ r, r ∈ Request.hits
          (DeltaAdjustment.apply tables (calcDiffTs pkt)).fields
          (tables.entries .streamGateInstance) := by
        intro accepted
        rcases hit_iff.mp accepted with ⟨t, member, inside⟩
        rcases condition with low | none
        · exact absurd low (Nat.not_lt_of_ge high)
        · exact none t member inside
      refine ⟨iff_of_false missed outside, fun r hit => absurd ⟨r, hit⟩ missed, fun _ => ?_⟩
      exact streamGateInstance_missed missed

/-- A gate with a hyperperiod of 8.6 seconds, open for its first 8 ns. -/
def longPeriod : Configuration :=
  { singleGate with
    psfp := { singleGate.psfp with
      streamGateSchedules := [{ name := "psfp", period := 0x200000000, intervals :=
        [{ low := 0, high := 7, state := 1, ipv := 0, octets := 100 }] }] } }

def longGate : Controller.StreamGate :=
  { streamGateId := 1, schedule := "psfp" }

def longMapped : Configuration :=
  { longPeriod with psfp := { longPeriod.psfp with
      appIdMappings := some
        [{ appId := 1, streamGateId := 1, hyperperiodDuration := 0x200000000 }] } }

/-- The one entry of its interval. -/
def longRequest : Request :=
  streamGateRequest 1 1 0 0 100 (0, 0xFFFFFFF8)

def longTables : Tables where
  installed := longRequest :: (DeltaAdjustment.initUnderflowDetectionTable ++
    DeltaAdjustment.initHyperperiodExceededDetectionTable 0x200000000)
  precedence := .first

/-- A frame of the gate, some time after the start of the hyperperiod. -/
def longFrame (time : BitVec 48) : Packet :=
  { (default : Packet) with
    igMd := { (default : IngressMetadata) with
      streamFilter := { (default : StreamFilter) with streamGateId := 1 }
      hyperperiod := { (default : Hyperperiod) with duration := 0x200000000 } }
    igIntrMd := { ingressMacTstamp := time } }

theorem longPeriod_prepared :
    longPeriod.configureAppIdsStreamGateHyperperiod AppState.new = .ok (longMapped, ⟨2, 0⟩) :=
  rfl

theorem longPeriod_written :
    writeAllSchedules longMapped ⟨2, 0⟩ = .ok ([longRequest], ⟨2, 1⟩) :=
  rfl

theorem longGate_sole : SoleUser longPeriod longGate where
  member := List.mem_singleton_self _
  byId := fun _ member _ => List.mem_singleton.mp member
  bySchedule := fun _ member _ => List.mem_singleton.mp member

theorem longTables_installed :
    longTables.entries .streamGateInstance = [longRequest] ∧
      longTables.entries .underflowDetection = DeltaAdjustment.initUnderflowDetectionTable ∧
      longTables.entries .hyperperiodExceededDetection =
        [(0x200000000 : U64)].flatMap DeltaAdjustment.initHyperperiodExceededDetectionTable := by
  decide +kernel

/-- 3 ns after the start the gate decides by the interval that contains this position. -/
theorem gateDecides_iff_sample :
    GateDecides longTables longGate [{ low := 0, high := 7, state := 1, ipv := 0, octets := 100 }] 3
      (DeltaAdjustment.apply longTables (calcDiffTs (longFrame 3))) := by
  rcases longTables_installed with ⟨gates, underflow, exceeded⟩
  have time : elapsed (longFrame 3) = 3 := by decide
  have decides := @gateDecides_iff _ _ _ _ _ _ _ _ _ _ (longFrame 3) longGate_sole rfl (by decide)
    longPeriod_prepared longPeriod_written gates underflow List.mem_cons_self exceeded rfl rfl
    (by rw [time]; omega)
  rw [time] at decides
  exact decides.mpr (.inl (by decide))

/-- `2 ^ 32 + 3` ns after the start it takes the entry of the same interval. -/
theorem long_position_hits :
    SoleUser longPeriod longGate ∧
      longPeriod.configureAppIdsStreamGateHyperperiod AppState.new = .ok (longMapped, ⟨2, 0⟩) ∧
      writeAllSchedules longMapped ⟨2, 0⟩ = .ok ([longRequest], ⟨2, 1⟩) ∧
      (longTables.entries .streamGateInstance = [longRequest] ∧
        longTables.entries .underflowDetection = DeltaAdjustment.initUnderflowDetectionTable ∧
        longTables.entries .hyperperiodExceededDetection =
          [(0x200000000 : U64)].flatMap DeltaAdjustment.initHyperperiodExceededDetectionTable) ∧
      elapsed (longFrame 0x100000003) = 2 ^ 32 + 3 ∧
      ¬ GateDecides longTables longGate
          [{ low := 0, high := 7, state := 1, ipv := 0, octets := 100 }]
          (min (2 ^ 32 + 3) (0x200000000 : U64).toNat)
          (DeltaAdjustment.apply longTables (calcDiffTs (longFrame 0x100000003))) := by
  refine ⟨longGate_sole, longPeriod_prepared, longPeriod_written, longTables_installed, by decide,
    fun decides => ?_⟩
  obtain ⟨t, _, inside⟩ := decides.hit_iff.mp ⟨longRequest, by decide +kernel⟩
  exact not_contains_large (by decide) inside

end Tsn

end P4Tas.DataPlane
