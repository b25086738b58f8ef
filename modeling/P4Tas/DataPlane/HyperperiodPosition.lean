import P4Tas.Controller.DeltaAdjustment
import P4Tas.DataPlane.Tsn
import Mathlib.Data.BitVec
import Mathlib.Tactic.Ring

/-!
# The position in the hyperperiod

The entries the controller installs, applied by the pipeline: the position that reaches the gates
is the time elapsed since the recorded start of the hyperperiod, in 48-bit arithmetic and limited to
the hyperperiod, and 0 for a packet slightly earlier than the recorded start.
-/

namespace P4Tas.DataPlane

open P4Tas.Controller.DeltaAdjustment

namespace DeltaAdjustment

variable {tables : Tables}

/-- What the underflow entries do: keep a position below `2 ^ 33`, reset one in the top window, and
miss all others. -/
theorem underflowDetection_eq
    (installed : tables.entries .underflowDetection = initUnderflowDetectionTable) (pkt : Packet) :
    underflowDetection tables pkt =
      if pkt.igMd.diffTs.toNat < 2 ^ 33 then (pkt, false)
      else if 2 ^ 48 - 128 ≤ pkt.igMd.diffTs.toNat then (pkt.setDiffTs 0, false)
      else (pkt, true) := by
  have small : pkt.fields .diffTs < 2 ^ 48 := pkt.igMd.diffTs.isLt
  have hits_iff (r : Request) := underflow_hits small (r := r)
  rw [← installed] at hits_iff
  have position : pkt.fields .diffTs = pkt.igMd.diffTs.toNat := rfl
  rw [position] at hits_iff
  unfold underflowDetection
  cases found : tables.lookup .underflowDetection pkt.fields with
  | some r =>
    dsimp only
    obtain ⟨_, decides⟩ := (hits_iff r).mp (Tables.lookup_mem found)
    rcases decides with ⟨action, early⟩ | ⟨action, late⟩
    · rw [action, if_pos early]
    · rw [action, if_neg (by omega), if_pos late]
  | none =>
    have missed := Tables.lookup_eq_none.mp found
    have rejects (r : Request) (member : r ∈ initUnderflowDetectionTable) :
        ¬ (r.action = .nop ∧ pkt.igMd.diffTs.toNat < 2 ^ 33 ∨
          r.action = .resetDiffTs ∧ 2 ^ 48 - 128 ≤ pkt.igMd.diffTs.toNat) := by
      intro accepts
      have hit := (hits_iff r).mpr ⟨installed ▸ member, accepts⟩
      rw [missed] at hit
      exact absurd hit List.not_mem_nil
    have notEarly : ¬ pkt.igMd.diffTs.toNat < 2 ^ 33 := fun early =>
      rejects _ List.mem_cons_self (.inl ⟨rfl, early⟩)
    have notLate : ¬ 2 ^ 48 - 128 ≤ pkt.igMd.diffTs.toNat := fun late =>
      rejects _ (List.mem_cons_of_mem _ List.mem_cons_self) (.inr ⟨rfl, late⟩)
    rw [if_neg notEarly, if_neg notLate]

/-- What the entries of the installed hyperperiods do: limit the position to the packet's
hyperperiod. -/
theorem hyperperiodExceededDetection_diffTs {hyperperiods : List U64} {T : U64}
    (member : T ∈ hyperperiods) (small : T.toNat < 2 ^ 48)
    (installed : tables.entries .hyperperiodExceededDetection =
      hyperperiods.flatMap initHyperperiodExceededDetectionTable) {pkt : Packet}
    (duration : pkt.igMd.hyperperiod.duration = T) :
    (hyperperiodExceededDetection tables pkt).igMd.diffTs.toNat =
      min pkt.igMd.diffTs.toNat T.toNat := by
  have bound : pkt.fields .diffTs < 2 ^ 48 := pkt.igMd.diffTs.isLt
  have position : pkt.fields .diffTs = pkt.igMd.diffTs.toNat := rfl
  have durationField : pkt.fields .hyperperiodDuration = T.toNat := congrArg BitVec.toNat duration
  have exceeds : (∃ r, r ∈ Request.hits pkt.fields (initHyperperiodExceededDetectionTable T)) ↔ _ :=
    exceeded_hits bound
  rw [position, durationField, Nat.mod_eq_of_lt small, and_iff_left rfl] at exceeds
  unfold hyperperiodExceededDetection
  cases found : tables.lookup .hyperperiodExceededDetection pkt.fields with
  | some r =>
    obtain ⟨inTable, accepts⟩ := Request.mem_hits.mp (Tables.lookup_mem found)
    rw [installed] at inTable
    obtain ⟨T', _, inOwn⟩ := List.mem_flatMap.mp inTable
    obtain ⟨i, lt, _, rfl⟩ := mem_exceeded.mp inOwn
    -- the entry's exact key is the packet's hyperperiod
    have key := ((exceededRequest_matches lt bound).mp accepts).2
    have same : T' = T := BitVec.eq_of_toNat_eq (key.symm.trans durationField)
    subst same
    have larger := exceeds.mp ⟨_, Request.mem_hits.mpr ⟨inOwn, accepts⟩⟩
    have value : (param (exceededRequest T' i) .hyperperiodMax 48).toNat = T'.toNat :=
      Nat.mod_eq_of_lt small
    rw [Packet.setDiffTs_diffTs, value, Nat.min_eq_right larger.le]
  | none =>
    have missed := Tables.lookup_eq_none.mp found
    have within : ¬ T.toNat < pkt.igMd.diffTs.toNat := by
      intro larger
      obtain ⟨r, hit⟩ := exceeds.mpr larger
      obtain ⟨inOwn, accepts⟩ := Request.mem_hits.mp hit
      have hitAll := Request.mem_hits.mpr
        ⟨installed ▸ List.mem_flatMap.mpr ⟨T, member, inOwn⟩, accepts⟩
      rw [missed] at hitAll
      exact absurd hitAll List.not_mem_nil
    rw [Nat.min_eq_left (Nat.le_of_not_lt within)]

end DeltaAdjustment

namespace Tsn

/-- The time from the recorded start of the hyperperiod to the packet, in 48-bit arithmetic. -/
def elapsed (pkt : Packet) : Nat :=
  (2 ^ 48 - pkt.igMd.hyperperiodTs.toNat + pkt.igIntrMd.ingressMacTstamp.toNat) % 2 ^ 48

/-- Recomputing an underflowed difference gives one less. -/
theorem underflowTimestamp (h t : BitVec 48) : MAXIMUM_48_BIT_TS - h + t = t - h - 1 := by
  have ones : MAXIMUM_48_BIT_TS = -1 := by decide
  rw [ones]
  ring

/-- The elapsed time as the delta adjustment counts it: a position that the underflow entries miss
is recomputed, which takes one off. -/
def recomputed (elapsed : Nat) : Nat :=
  if elapsed < 2 ^ 33 then elapsed else elapsed - 1

theorem recomputed_of_lt {elapsed : Nat} (early : elapsed < 2 ^ 33) :
    recomputed elapsed = elapsed :=
  if_pos early

/-- The adjusted position, for a hyperperiod of any length that fits the key of the exceeded
detection. -/
theorem adjusted_position {tables : Tables} {hyperperiods : List U64} {T : U64}
    (member : T ∈ hyperperiods) (small : T.toNat < 2 ^ 48)
    (underflow : tables.entries .underflowDetection = initUnderflowDetectionTable)
    (exceeded : tables.entries .hyperperiodExceededDetection =
      hyperperiods.flatMap initHyperperiodExceededDetectionTable) (pkt : Packet)
    (duration : pkt.igMd.hyperperiod.duration = T) :
    (DeltaAdjustment.apply tables (calcDiffTs pkt)).igMd.diffTs.toNat =
      if 2 ^ 48 - 128 ≤ elapsed pkt then 0 else min (recomputed (elapsed pkt)) T.toNat := by
  have difference : (calcDiffTs pkt).igMd.diffTs.toNat = elapsed pkt := by
    rw [calcDiffTs_diffTs, BitVec.toNat_sub, elapsed]
  have durationHere : (calcDiffTs pkt).igMd.hyperperiod.duration = T := by
    rw [calcDiffTs_hyperperiod, duration]
  have limited (pkt' : Packet) (same : pkt'.igMd.hyperperiod.duration = T) :=
    DeltaAdjustment.hyperperiodExceededDetection_diffTs member small exceeded same
  unfold DeltaAdjustment.apply
  rw [DeltaAdjustment.underflowDetection_eq underflow, difference]
  rcases Nat.lt_or_ge (elapsed pkt) (2 ^ 33) with early | notEarly
  · rw [if_pos early, if_neg (by omega), recomputed_of_lt early]
    dsimp only
    rw [if_neg Bool.false_ne_true, limited (calcDiffTs pkt) durationHere, difference]
  · rw [if_neg (Nat.not_lt_of_ge notEarly)]
    rcases Nat.lt_or_ge (elapsed pkt) (2 ^ 48 - 128) with between | top
    · -- neither entry applies: the difference is recomputed, one less than before
      rw [if_neg (Nat.not_le_of_gt between), if_neg (Nat.not_le_of_gt between)]
      dsimp only
      have once_more : (DeltaAdjustment.handleUnderflow (calcDiffTs pkt)).igMd.diffTs.toNat =
          recomputed (elapsed pkt) := by
        have value : (DeltaAdjustment.handleUnderflow (calcDiffTs pkt)).igMd.diffTs =
            (calcDiffTs pkt).igMd.diffTs - 1 := by
          rw [DeltaAdjustment.handleUnderflow_diffTs, calcDiffTs_hyperperiodTs,
            calcDiffTs_igIntrMd, underflowTimestamp, calcDiffTs_diffTs]
        have one : (1 : BitVec 48).toNat = 1 := rfl
        rw [value, BitVec.toNat_sub_of_le (BitVec.le_def.mpr (by omega)), difference, one,
          recomputed, if_neg (Nat.not_lt_of_ge notEarly)]
      have durationThere :
          (DeltaAdjustment.handleUnderflow (calcDiffTs pkt)).igMd.hyperperiod.duration = T := by
        rw [DeltaAdjustment.handleUnderflow_hyperperiod, durationHere]
      rw [if_pos rfl, limited _ durationThere, once_more]
    · rw [if_pos top, if_pos top]
      dsimp only
      have durationThere : ((calcDiffTs pkt).setDiffTs 0).igMd.hyperperiod.duration = T := by
        rw [Packet.setDiffTs_hyperperiod, durationHere]
      have zero : (0 : BitVec 48).toNat = 0 := rfl
      rw [if_neg Bool.false_ne_true, limited _ durationThere, Packet.setDiffTs_diffTs, zero,
        Nat.zero_min]

/-- A hyperperiod below `2 ^ 33` limits a recomputed position to what it limits the elapsed time
to. -/
theorem min_recomputed {elapsed T : Nat} (short : T < 2 ^ 33) :
    min (recomputed elapsed) T = min elapsed T := by
  unfold recomputed
  split <;> omega

/-- **The position in the hyperperiod.**  Let the underflow entries and the entries of the
packet's hyperperiod `T` be installed.  Then the adjusted position is 0 for a packet that is at most
128 ns earlier than the recorded start of the hyperperiod, and else the elapsed time limited to
`T`, for any two timestamps. -/
theorem adjusted_diffTs {tables : Tables} {hyperperiods : List U64} {T : U64}
    (member : T ∈ hyperperiods) (small : T.toNat < 2 ^ 32)
    (underflow : tables.entries .underflowDetection = initUnderflowDetectionTable)
    (exceeded : tables.entries .hyperperiodExceededDetection =
      hyperperiods.flatMap initHyperperiodExceededDetectionTable) (pkt : Packet)
    (duration : pkt.igMd.hyperperiod.duration = T) :
    (DeltaAdjustment.apply tables (calcDiffTs pkt)).igMd.diffTs.toNat =
      if 2 ^ 48 - 128 ≤ elapsed pkt then 0 else min (elapsed pkt) T.toNat := by
  rw [adjusted_position member (by omega) underflow exceeded pkt duration,
    min_recomputed (by omega)]

/-- Tables with the entries of the hyperperiod 400. -/
def sampleTables : Tables where
  installed := initUnderflowDetectionTable ++ initHyperperiodExceededDetectionTable 400
  precedence := .first

/-- A packet 150 ns after a start recorded just before the clock wrapped. -/
def wrappedPacket : Packet :=
  { (default : Packet) with
    igMd := { (default : IngressMetadata) with
      hyperperiodTs := 281474976710556
      hyperperiod := { (default : Hyperperiod) with duration := 400 } }
    igIntrMd := { ingressMacTstamp := 50 } }

theorem adjusted_diffTs_wrapped :
    (DeltaAdjustment.apply sampleTables (calcDiffTs wrappedPacket)).igMd.diffTs.toNat = 150 := by
  have position := @adjusted_diffTs sampleTables [400] 400 List.mem_cons_self (by decide)
    (by decide +kernel) (by decide +kernel) wrappedPacket rfl
  have time : elapsed wrappedPacket = 150 := by decide +kernel
  rw [time] at position
  exact position

end Tsn

end P4Tas.DataPlane
