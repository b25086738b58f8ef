import Mathlib.Data.List.Nodup
import P4Tas.Controller.ConstDefinitions
import P4Tas.Request

/-!
# The entries of the delta adjustment

`delta_adjustment.rs`: two entries that detect an underflow of the position in the hyperperiod, and
up to 48 entries for each hyperperiod that together compare the position with it.

* `underflow_hits`: which of the two underflow entries accept a position;
* `exceeded_hits`: some entry of a hyperperiod accepts a position exactly when the position is
  larger;
* `initHyperperiodExceededDetectionTable_greaterThan`: the whole set, which accepts each of them
  once.
-/

namespace P4Tas.Controller

namespace DeltaAdjustment

def initUnderflowDetectionTable : List Request :=
  [{ table := .underflowDetection
     matchKeys :=
       [(.diffTs, .ternary 0 MASK_MAX_UNDERFLOW.toNat), (.matchPriority, .exact 0)]
     action := .nop
     actionData := [] },
   { table := .underflowDetection
     matchKeys :=
       [(.diffTs, .ternary MASK_INTERVAL_SWITCH_UNDERFLOW.toNat
          MASK_INTERVAL_SWITCH_UNDERFLOW.toNat),
        (.matchPriority, .exact 1)]
     action := .resetDiffTs
     actionData := [] }]

def bit (i : Nat) : U64 :=
  (1 : U64) <<< i

/-- All ones in 48 bits. -/
def all : U64 :=
  bit 48 - 1

/-- Ones above bit `i`. -/
def maskHigh (i : Nat) : U64 :=
  all &&& ~~~((bit i <<< 1) - 1)

/-- The entry for bit `i`: the hyperperiod's bits above `i`, and a one at `i`. -/
def exceededRequest (hyperperiod : U64) (i : Nat) : Request :=
  let t := hyperperiod &&& all
  { table := .hyperperiodExceededDetection
    matchKeys :=
      [(.diffTs, .ternary ((t &&& maskHigh i) ||| bit i).toNat (maskHigh i ||| bit i).toNat),
       (.hyperperiodDuration, .exact hyperperiod.toNat),
       (.matchPriority, .exact i)]
    action := .resetDiffTs2
    actionData := [(.hyperperiodMax, hyperperiod.toNat)] }

/-- The loop over the bits, from the highest down. -/
def initHyperperiodExceededDetectionTable (hyperperiod : U64) : List Request :=
  let t := hyperperiod &&& all
  (List.range 48).reverse.flatMap fun i =>
    if t &&& bit i = 0 then [exceededRequest hyperperiod i] else []

/-! ## The underflow entries -/

theorem matches_maxUnderflow {x : Nat} (small : x < 2 ^ 48) :
    TernaryCover.Matches 0 MASK_MAX_UNDERFLOW.toNat x ↔ x < 2 ^ 33 := by
  have mask : MASK_MAX_UNDERFLOW.toNat = TernaryCover.prefixMask 48 33 := rfl
  rw [mask, TernaryCover.matches_prefixMask_iff (by decide) (Nat.dvd_zero _) (by decide),
    Nat.mod_eq_of_lt small]
  omega

theorem matches_intervalSwitchUnderflow {x : Nat} (small : x < 2 ^ 48) :
    TernaryCover.Matches MASK_INTERVAL_SWITCH_UNDERFLOW.toNat
        MASK_INTERVAL_SWITCH_UNDERFLOW.toNat x ↔ 2 ^ 48 - 128 ≤ x := by
  have mask : MASK_INTERVAL_SWITCH_UNDERFLOW.toNat = TernaryCover.prefixMask 48 7 := rfl
  rw [mask, TernaryCover.matches_prefixMask_iff (by decide) (by decide) (by decide),
    Nat.mod_eq_of_lt small, TernaryCover.prefixMask]
  omega

/-- The hits among the underflow entries: the first for a position below `2 ^ 33`, the second for
one in the top window, none in between. -/
theorem underflow_hits {fields : Request.Fields} (small : fields .diffTs < 2 ^ 48) {r : Request} :
    r ∈ Request.hits fields initUnderflowDetectionTable ↔
      r ∈ initUnderflowDetectionTable ∧
        (r.action = .nop ∧ fields .diffTs < 2 ^ 33 ∨
          r.action = .resetDiffTs ∧ 2 ^ 48 - 128 ≤ fields .diffTs) := by
  rw [Request.mem_hits]
  refine and_congr_right fun member => ?_
  unfold initUnderflowDetectionTable at member
  simp only [List.mem_cons, List.not_mem_nil, or_false] at member
  rcases member with rfl | rfl
  · simp only [Request.Matches, List.forall_mem_cons, List.not_mem_nil, false_imp_iff,
      implies_true, and_true, ne_eq, reduceCtorEq, not_false_eq_true, not_true_eq_false,
      forall_const, MatchValue.Matches, matches_maxUnderflow small, true_and, false_and, or_false]
  · simp only [Request.Matches, List.forall_mem_cons, List.not_mem_nil, false_imp_iff,
      implies_true, and_true, ne_eq, reduceCtorEq, not_false_eq_true, not_true_eq_false,
      forall_const, MatchValue.Matches, matches_intervalSwitchUnderflow small, true_and, false_and,
      false_or]

/-! ## The exceeded entries -/

theorem toNat_bit {i : Nat} (lt : i < 64) : (bit i).toNat = 2 ^ i := by
  unfold bit
  have one : (1 : U64).toNat = 1 := rfl
  rw [BitVec.toNat_shiftLeft, one, Nat.one_shiftLeft,
    Nat.mod_eq_of_lt (Nat.pow_lt_pow_right (by decide) lt)]

theorem testBit_all (j : Nat) : all.toNat.testBit j = decide (j < 48) := by
  have value : all.toNat = 2 ^ 48 - 1 := rfl
  rw [value, Nat.testBit_two_pow_sub_one]

theorem testBit_maskHigh {i : Nat} (lt : i < 48) (j : Nat) :
    (maskHigh i).toNat.testBit j = (decide (i < j) && decide (j < 48)) := by
  have shifted : (bit i <<< 1).toNat = 2 ^ (i + 1) := by
    unfold bit
    rw [← BitVec.shiftLeft_add]
    exact toNat_bit (by omega)
  have one : (1 : U64).toNat = 1 := rfl
  have low : ((bit i <<< 1) - 1).toNat = 2 ^ (i + 1) - 1 := by
    have pos := Nat.two_pow_pos (i + 1)
    rw [BitVec.toNat_sub_of_le (BitVec.le_def.mpr (by omega)), shifted, one]
  have lowBit : ((bit i <<< 1) - 1).getLsbD j = decide (j < i + 1) := by
    rw [← BitVec.testBit_toNat, low, Nat.testBit_two_pow_sub_one]
  rw [BitVec.testBit_toNat, maskHigh, BitVec.getLsbD_and, BitVec.getLsbD_not, lowBit,
    ← BitVec.testBit_toNat, testBit_all]
  rcases Nat.lt_or_ge j 48 with inside | outside
  · have wide : j < 64 := by omega
    rcases Nat.lt_or_ge i j with above | below
    · have notBelow : ¬ j < i + 1 := by omega
      simp [inside, wide, above, notBelow]
    · simp [inside, wide, Nat.not_lt_of_ge below, Nat.lt_succ_of_le below]
  · simp [Nat.not_lt_of_ge outside]

theorem and_bit_eq_zero {t : U64} {i : Nat} (lt : i < 64) :
    t &&& bit i = 0 ↔ t.toNat.testBit i = false := by
  rw [← BitVec.toNat_inj, BitVec.toNat_and, toNat_bit lt]
  refine ⟨?_, ?_⟩
  · intro zero
    have same : (t.toNat &&& 2 ^ i).testBit i = (0 : U64).toNat.testBit i := by rw [zero]
    have none : (0 : U64).toNat = 0 := rfl
    rwa [none, Nat.testBit_and, Nat.testBit_two_pow_self, Bool.and_true, Nat.zero_testBit] at same
  · intro unset
    apply Nat.eq_of_testBit_eq
    intro j
    rw [Nat.testBit_and, Nat.testBit_two_pow]
    rcases Decidable.em (i = j) with rfl | other
    · simp [unset]
    · simp [other]

/-- The pair of the entry for bit `i` accepts the positions that have a one at bit `i` and agree
with the hyperperiod above it. -/
theorem matches_exceeded {hyperperiod : U64} {i x : Nat} (lt : i < 48) (small : x < 2 ^ 48) :
    TernaryCover.Matches (((hyperperiod &&& all) &&& maskHigh i) ||| bit i).toNat
        (maskHigh i ||| bit i).toNat x ↔
      x.testBit i = true ∧
        ∀ j, i < j → (hyperperiod &&& all).toNat.testBit j = x.testBit j := by
  rw [TernaryCover.matches_iff_testBit]
  simp only [BitVec.toNat_or, BitVec.toNat_and, Nat.testBit_or, Nat.testBit_and,
    testBit_maskHigh lt, toNat_bit (show i < 64 by omega), Nat.testBit_two_pow]
  refine ⟨?_, ?_⟩
  · intro agree
    refine ⟨?_, ?_⟩
    · have bit := agree i
      simpa using bit
    · intro j above
      rcases Nat.lt_or_ge j 48 with inside | outside
      · have bit := agree j
        have away : i ≠ j := by omega
        simpa [above, inside, away] using (bit (by simp [above, inside])).symm
      · have high : x.testBit j = false :=
          Nat.testBit_lt_two_pow (small.trans_le (Nat.pow_le_pow_right (by decide) outside))
        rw [high, testBit_all]
        simp [Nat.not_lt_of_ge outside]
  · intro h j set
    rcases Decidable.em (i = j) with rfl | away
    · simp [h.1]
    · have bounds : i < j ∧ j < 48 := by simpa [away] using set
      rw [← h.2 j bounds.1]
      simp [bounds.1, bounds.2, away]

/-- The entry for bit `i` accepts the packets of its hyperperiod with such a position. -/
theorem exceededRequest_matches {hyperperiod : U64} {i : Nat} (lt : i < 48)
    {fields : Request.Fields} (small : fields .diffTs < 2 ^ 48) :
    (exceededRequest hyperperiod i).Matches fields ↔
      ((fields .diffTs).testBit i = true ∧
        ∀ j, i < j → (hyperperiod &&& all).toNat.testBit j = (fields .diffTs).testBit j) ∧
      fields .hyperperiodDuration = hyperperiod.toNat := by
  simp only [Request.Matches, exceededRequest, List.forall_mem_cons, List.not_mem_nil,
    false_imp_iff, implies_true, and_true, ne_eq, reduceCtorEq, not_false_eq_true,
    not_true_eq_false, forall_const, MatchValue.Matches, matches_exceeded lt small]

theorem mem_exceeded {hyperperiod : U64} {r : Request} :
    r ∈ initHyperperiodExceededDetectionTable hyperperiod ↔
      ∃ i, i < 48 ∧ (hyperperiod &&& all).toNat.testBit i = false ∧
        r = exceededRequest hyperperiod i := by
  unfold initHyperperiodExceededDetectionTable
  simp only [List.mem_flatMap, List.mem_reverse, List.mem_range]
  refine exists_congr fun i => and_congr_right fun lt => ?_
  have unset_iff := and_bit_eq_zero (t := hyperperiod &&& all) (show i < 64 by omega)
  split
  · rename_i unset
    rw [List.mem_singleton, and_iff_right (unset_iff.mp unset)]
  · rename_i set
    exact ⟨fun h => absurd h List.not_mem_nil, fun h => absurd (unset_iff.mpr h.1) set⟩

/-- What holds of the entries of any two bits holds throughout the set. -/
theorem exceeded_pairwise {hyperperiod : U64} {R : Request → Request → Prop}
    (related : ∀ i j, i < 48 → j < 48 → i ≠ j →
      (hyperperiod &&& all).toNat.testBit i = false →
      (hyperperiod &&& all).toNat.testBit j = false →
        R (exceededRequest hyperperiod i) (exceededRequest hyperperiod j)) :
    (initHyperperiodExceededDetectionTable hyperperiod).Pairwise R := by
  unfold initHyperperiodExceededDetectionTable
  rw [List.pairwise_flatMap]
  refine ⟨fun i _ => ?_, (List.nodup_reverse.mpr List.nodup_range).imp_of_mem ?_⟩
  · split
    · exact List.pairwise_singleton _ _
    · exact .nil
  · intro i j memberI memberJ differ r inFirst r' inSecond
    have ltI := List.mem_range.mp (List.mem_reverse.mp memberI)
    have ltJ := List.mem_range.mp (List.mem_reverse.mp memberJ)
    have unset_iff (k : Nat) (lt : k < 48) := and_bit_eq_zero (t := hyperperiod &&& all)
      (show k < 64 by omega)
    split at inFirst
    · rename_i unset
      split at inSecond
      · rename_i unset'
        rw [List.mem_singleton.mp inFirst, List.mem_singleton.mp inSecond]
        exact related i j ltI ltJ differ ((unset_iff i ltI).mp unset) ((unset_iff j ltJ).mp unset')
      · cases inSecond
    · cases inFirst

theorem toNat_and_all (hyperperiod : U64) :
    (hyperperiod &&& all).toNat = hyperperiod.toNat % 2 ^ 48 := by
  have ones : all.toNat = 2 ^ 48 - 1 := rfl
  rw [BitVec.toNat_and, ones, Nat.and_two_pow_sub_one_eq_mod]

/-- A position is larger when it has a one where the hyperperiod has a zero among the 48 bits, and
agrees with it above. -/
theorem exceeds_iff {hyperperiod : U64} {x : Nat} (small : x < 2 ^ 48) :
    hyperperiod.toNat % 2 ^ 48 < x ↔
      ∃ i, i < 48 ∧ (hyperperiod &&& all).toNat.testBit i = false ∧ x.testBit i = true ∧
        ∀ j, i < j → (hyperperiod &&& all).toNat.testBit j = x.testBit j := by
  rw [← toNat_and_all, TernaryCover.lt_iff_testBit]
  refine exists_congr fun i => ⟨?_, And.right⟩
  intro h
  refine ⟨?_, h⟩
  -- a position has no higher bits
  by_contra outside
  have high : x.testBit i = false := Nat.testBit_lt_two_pow
    (small.trans_le (Nat.pow_le_pow_right (by decide) (Nat.le_of_not_lt outside)))
  rw [high] at h
  cases h.2.1

/-- Some entry of a hyperperiod accepts a packet exactly when the packet carries this hyperperiod
and its position is larger. -/
theorem exceeded_hits {hyperperiod : U64} {fields : Request.Fields}
    (small : fields .diffTs < 2 ^ 48) :
    (∃ r, r ∈ Request.hits fields (initHyperperiodExceededDetectionTable hyperperiod)) ↔
      hyperperiod.toNat % 2 ^ 48 < fields .diffTs ∧
        fields .hyperperiodDuration = hyperperiod.toNat := by
  rw [exceeds_iff small]
  refine ⟨?_, ?_⟩
  · intro h
    obtain ⟨r, hit⟩ := h
    obtain ⟨member, accepts⟩ := Request.mem_hits.mp hit
    obtain ⟨i, lt, unset, rfl⟩ := mem_exceeded.mp member
    obtain ⟨⟨set, agree⟩, duration⟩ := (exceededRequest_matches lt small).mp accepts
    exact ⟨⟨i, lt, unset, set, agree⟩, duration⟩
  · intro h
    obtain ⟨⟨i, lt, unset, set, agree⟩, duration⟩ := h
    refine ⟨exceededRequest hyperperiod i, Request.mem_hits.mpr
      ⟨mem_exceeded.mpr ⟨i, lt, unset, rfl⟩, ?_⟩⟩
    exact (exceededRequest_matches lt small).mpr ⟨⟨set, agree⟩, duration⟩

/-! ## The set of one hyperperiod -/

/-- The value and mask of the entry accept the position. -/
def AcceptsPosition (r : Request) (x : BitVec 48) : Prop :=
  ∃ value mask, r.key? .diffTs = some (.ternary value mask) ∧
    TernaryCover.Matches value mask x.toNat

theorem acceptsPosition_iff {hyperperiod : U64} {i : Nat} (lt : i < 48) (x : BitVec 48) :
    AcceptsPosition (exceededRequest hyperperiod i) x ↔
      x.toNat.testBit i = true ∧
        ∀ j, i < j → (hyperperiod &&& all).toNat.testBit j = x.toNat.testBit j := by
  rw [← matches_exceeded lt x.isLt]
  refine ⟨?_, ?_⟩
  · intro h
    rcases h with ⟨value, mask, key, accepts⟩
    cases key
    exact accepts
  · exact fun accepts => ⟨_, _, rfl, accepts⟩

/-- The entries compare a position with `T`: none accepts a position that another accepts, the
positions accepted are the larger ones, and each entry resets the position to `T`, for packets of
the hyperperiod `T`, under a rank of its own. -/
structure GreaterThan (T : U64) (entries : List Request) : Prop where
  disjoint : entries.Pairwise fun r r' =>
    ∀ x : BitVec 48, ¬ (AcceptsPosition r x ∧ AcceptsPosition r' x)
  accepts_iff : ∀ x : BitVec 48, (∃ r ∈ entries, AcceptsPosition r x) ↔ T.toNat < x.toNat
  resets : ∀ r ∈ entries, r.table = .hyperperiodExceededDetection ∧ r.action = .resetDiffTs2 ∧
    r.actionData = [(.hyperperiodMax, T.toNat)]
  duration : ∀ r ∈ entries, r.key? .hyperperiodDuration = some (.exact T.toNat)
  ranks : (entries.map (·.key? .matchPriority)).Nodup

/-- The entries of two bits accept no position in common: at the higher bit the one needs a one,
the other the hyperperiod's zero. -/
theorem exceeded_disjoint (hyperperiod : U64) :
    (initHyperperiodExceededDetectionTable hyperperiod).Pairwise fun r r' =>
      ∀ x : BitVec 48, ¬ (AcceptsPosition r x ∧ AcceptsPosition r' x) := by
  have conflict {i j : Nat} (ltI : i < 48) (ltJ : j < 48) (less : i < j)
      (unset : (hyperperiod &&& all).toNat.testBit j = false) {x : BitVec 48}
      (low : AcceptsPosition (exceededRequest hyperperiod i) x)
      (high : AcceptsPosition (exceededRequest hyperperiod j) x) : False := by
    have agrees := ((acceptsPosition_iff ltI x).mp low).2 j less
    rw [unset, ((acceptsPosition_iff ltJ x).mp high).1] at agrees
    cases agrees
  refine exceeded_pairwise fun i j ltI ltJ differ unsetI unsetJ x both => ?_
  rcases Nat.lt_or_gt_of_ne differ with less | greater
  · exact conflict ltI ltJ less unsetJ both.1 both.2
  · exact conflict ltJ ltI greater unsetI both.2 both.1

/-- The entries of a hyperperiod that fits the key compare with exactly this hyperperiod. -/
theorem initHyperperiodExceededDetectionTable_greaterThan {T : U64} (small : T.toNat < 2 ^ 48) :
    GreaterThan T (initHyperperiodExceededDetectionTable T) where
  disjoint := exceeded_disjoint T
  accepts_iff := by
    intro x
    have larger : T.toNat % 2 ^ 48 < x.toNat ↔ _ := exceeds_iff x.isLt
    rw [Nat.mod_eq_of_lt small] at larger
    rw [larger]
    refine ⟨?_, ?_⟩
    · intro h
      rcases h with ⟨r, member, accepts⟩
      rcases mem_exceeded.mp member with ⟨i, lt, unset, rfl⟩
      exact ⟨i, lt, unset, (acceptsPosition_iff lt x).mp accepts⟩
    · intro h
      rcases h with ⟨i, lt, unset, accepts⟩
      exact ⟨_, mem_exceeded.mpr ⟨i, lt, unset, rfl⟩, (acceptsPosition_iff lt x).mpr accepts⟩
  resets := by
    intro r member
    rcases mem_exceeded.mp member with ⟨i, _, _, rfl⟩
    exact ⟨rfl, rfl, rfl⟩
  duration := by
    intro r member
    rcases mem_exceeded.mp member with ⟨i, _, _, rfl⟩
    rfl
  ranks := by
    refine List.pairwise_map.mpr (exceeded_pairwise fun i j _ _ differ _ _ same => ?_)
    exact differ (MatchValue.exact.inj (Option.some.inj same))

theorem initHyperperiodExceededDetectionTable_greaterThan_sample :
    GreaterThan 400 (initHyperperiodExceededDetectionTable 400) :=
  initHyperperiodExceededDetectionTable_greaterThan (by decide)

end DeltaAdjustment

end P4Tas.Controller
