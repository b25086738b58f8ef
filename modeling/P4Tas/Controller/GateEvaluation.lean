import P4Tas.Controller.GateSchedules
import P4Tas.Controller.OriginalEntries
import P4Tas.Lib.IntervalChain

/-!
# The evaluation of stream gates

The evaluator of `bin/evaluate_ternary_entries.rs` divides the period of a stream gate into
intervals of equal width, the last of which takes the rest, and counts the entries they need.  Its
intervals do not share their ends, unlike the slices it lays out for a GCL.

* `makeEqualPsfpIntervals_partition`: the intervals partition the period, where there are any;
* `gate_evaluation`: the controller writes as many entries for a gate as the evaluator counts for
  its schedule.
-/

namespace P4Tas.Controller

open StreamGateControlList

namespace EvaluateTernaryEntries

/-! ## The evaluator -/

structure PSFPInterval where
  low : U32
  high : U32
  deriving DecidableEq, Repr

structure PSFPConfig where
  intervals : List PSFPInterval

/-- `high` of interval `i`; the last interval takes what is left. -/
def equalPsfpHigh (period width : U32) (numIntervals i : Nat) : Rust U32 :=
  if i = numIntervals - 1 then
    checkedSub period 1
  else do
    let next ← checkedAdd (BitVec.ofNat 32 i) 1
    let stop ← checkedMul next width
    checkedSub stop 1

def equalPsfpInterval (period width : U32) (numIntervals i : Nat) : Rust PSFPInterval := do
  let low ← checkedMul (BitVec.ofNat 32 i) width
  let high ← equalPsfpHigh period width numIntervals i
  return { low, high }

def makeEqualPsfpIntervals (period : U32) (numIntervals : Nat) : Rust (List PSFPInterval) := do
  let width ← checkedDiv period (BitVec.ofNat 32 numIntervals)
  (List.range numIntervals).mapM (equalPsfpInterval period width numIntervals)

def countPsfpEntriesOptimized (config : PSFPConfig) : Rust Nat := do
  let counts ← config.intervals.mapM fun iv => countTernaryEntriesOptimized iv.low iv.high
  return counts.sum

/-- The count of the original algorithm. -/
def countPsfpEntries (config : PSFPConfig) : Rust Nat := do
  let counts ← config.intervals.mapM fun iv => countTernaryEntries iv.low iv.high
  return counts.sum

example : makeEqualPsfpIntervals 10 3 = .ok [⟨0, 2⟩, ⟨3, 5⟩, ⟨6, 9⟩] := by decide +kernel

def PSFPInterval.Contains (iv : PSFPInterval) (p : Nat) : Prop :=
  iv.low.toNat ≤ p ∧ p ≤ iv.high.toNat

instance (iv : PSFPInterval) (p : Nat) : Decidable (iv.Contains p) :=
  inferInstanceAs (Decidable (_ ∧ _))

/-! ## The intervals -/

variable {period width : U32} {n i : Nat} {iv : PSFPInterval} {is : List PSFPInterval}

/-- An interval begins at a multiple of the width and ends before the next one, or with the
period. -/
theorem equalPsfpInterval_bounds (small : i < 2 ^ 32)
    (run : equalPsfpInterval period width n i = .ok iv) :
    iv.low.toNat = i * width.toNat ∧
      iv.high.toNat + 1 = if i = n - 1 then period.toNat else (i + 1) * width.toNat := by
  obtain ⟨low, lowRun, run⟩ := Fallible.bind_eq_ok.mp run
  obtain ⟨high, highRun, run⟩ := Fallible.bind_eq_ok.mp run
  cases run
  have index : (BitVec.ofNat 32 i).toNat = i := Nat.mod_eq_of_lt small
  have one : (1 : U32).toNat = 1 := rfl
  refine ⟨(checkedMul_eq_ok.mp lowRun).trans (by rw [index]), ?_⟩
  unfold equalPsfpHigh at highRun
  split
  · rename_i last
    rw [if_pos last] at highRun
    have ends := checkedSub_eq_ok.mp highRun
    rw [one] at ends
    exact (Nat.add_comm _ _).trans ends.symm
  · rename_i inner
    rw [if_neg inner] at highRun
    obtain ⟨next, nextRun, highRun⟩ := Fallible.bind_eq_ok.mp highRun
    obtain ⟨stop, stopRun, highRun⟩ := Fallible.bind_eq_ok.mp highRun
    have nextEq := checkedAdd_eq_ok.mp nextRun
    have stopEq := checkedMul_eq_ok.mp stopRun
    have ends := checkedSub_eq_ok.mp highRun
    rw [index, one] at nextEq
    rw [nextEq] at stopEq
    rw [one] at ends
    exact (Nat.add_comm _ _).trans (ends.symm.trans stopEq)

/-- It is computed where it does not end before 0 and begins within the period. -/
theorem equalPsfpInterval_returns (few : n ≤ period.toNat) (wide : 1 ≤ width.toNat)
    (fits : n * width.toNat ≤ period.toNat) (inside : i < n) :
    ∃ iv, equalPsfpInterval period width n i = .ok iv := by
  have bound := period.isLt
  have index : (BitVec.ofNat 32 i).toNat = i := Nat.mod_eq_of_lt (by omega)
  have one : (1 : U32).toNat = 1 := rfl
  have step : (i + 1) * width.toNat = i * width.toNat + width.toNat := Nat.succ_mul i _
  have later : (i + 1) * width.toNat ≤ n * width.toNat := Nat.mul_le_mul_right _ inside
  obtain ⟨low, lowRun⟩ := checkedMul_returns (a := BitVec.ofNat 32 i) (b := width)
    (by rw [index]; omega)
  unfold equalPsfpInterval equalPsfpHigh
  rw [lowRun, Fallible.ok_bind]
  split
  · obtain ⟨high, highRun⟩ := checkedSub_returns (a := period) (b := 1) (by rw [one]; omega)
    rw [highRun, Fallible.ok_bind]
    exact ⟨_, rfl⟩
  · obtain ⟨next, nextRun⟩ := checkedAdd_returns (a := BitVec.ofNat 32 i) (b := 1)
      (by rw [index, one]; omega)
    have nextEq := checkedAdd_eq_ok.mp nextRun
    rw [index, one] at nextEq
    obtain ⟨stop, stopRun⟩ := checkedMul_returns (a := next) (b := width) (by rw [nextEq]; omega)
    have stopEq := checkedMul_eq_ok.mp stopRun
    rw [nextEq] at stopEq
    obtain ⟨high, highRun⟩ := checkedSub_returns (a := stop) (b := 1) (by rw [one]; omega)
    rw [nextRun, Fallible.ok_bind, stopRun, Fallible.ok_bind, highRun, Fallible.ok_bind]
    exact ⟨_, rfl⟩

/-- The passes from `i` on lead to the end of the period. -/
theorem equalPsfpIntervals_chain {k : Nat} (positive : 0 < k) (total : i + k = n)
    (small : n < 2 ^ 32) (ordered : n * width.toNat ≤ period.toNat)
    (runs : List.Forall₂ (fun i iv => equalPsfpInterval period width n i = .ok iv)
      (List.range' i k) is) :
    IntervalChain.Chain (fun iv : PSFPInterval => iv.low.toNat) (fun iv => iv.high.toNat + 1)
      (i * width.toNat) is period.toNat := by
  induction k generalizing i is with
  | zero => omega
  | succ k ih =>
    rw [List.range'_succ] at runs
    cases runs with
    | @cons _ iv _ rest run runs =>
      obtain ⟨low, high⟩ := equalPsfpInterval_bounds (by omega) run
      have step : (i + 1) * width.toNat = i * width.toNat + width.toNat := Nat.succ_mul i _
      have later : (i + 1) * width.toNat ≤ n * width.toNat :=
        Nat.mul_le_mul_right _ (by omega)
      rw [← low]
      rcases Nat.eq_zero_or_pos k with rfl | more
      · -- the last interval
        cases runs
        rw [if_pos (by omega)] at high
        refine .cons (by omega) ?_
        rw [high]
        exact .nil _
      · rw [if_neg (by omega)] at high
        refine .cons (by omega) ?_
        rw [high]
        exact ih more (by omega) runs

/-- The number of intervals is a `u32`: a larger one panics, at the interval `u32::MAX`. -/
theorem makeEqualPsfpIntervals_small (run : makeEqualPsfpIntervals period n = .ok is) :
    n < 2 ^ 32 := by
  obtain ⟨width, widthRun, run⟩ := Fallible.bind_eq_ok.mp run
  by_contra large
  have nonzero := (checkedDiv_eq_ok.mp widthRun).1
  rcases Nat.lt_or_ge (2 ^ 32) n with more | none
  · obtain ⟨iv, lastRun⟩ := (Fallible.mapM_returns_iff.mp ⟨is, run⟩) (2 ^ 32 - 1)
      (List.mem_range.mpr (by omega))
    obtain ⟨low, _, lastRun⟩ := Fallible.bind_eq_ok.mp lastRun
    obtain ⟨high, highRun, _⟩ := Fallible.bind_eq_ok.mp lastRun
    unfold equalPsfpHigh at highRun
    rw [if_neg (by omega)] at highRun
    obtain ⟨next, nextRun, _⟩ := Fallible.bind_eq_ok.mp highRun
    have nextEq := checkedAdd_eq_ok.mp nextRun
    have bound := next.isLt
    have top : (BitVec.ofNat 32 (2 ^ 32 - 1)).toNat + (1 : U32).toNat = 2 ^ 32 := by decide
    omega
  · have whole : n = 2 ^ 32 := by omega
    rw [whole] at nonzero
    exact nonzero (by decide)

/-- The evaluator returns when there is an interval, and none is empty. -/
theorem makeEqualPsfpIntervals_returns_iff (period : U32) (n : Nat) :
    (∃ is, makeEqualPsfpIntervals period n = .ok is) ↔ 1 ≤ n ∧ n ≤ period.toNat := by
  refine ⟨fun returned => ?_, fun within => ?_⟩
  · obtain ⟨is, run⟩ := returned
    have small := makeEqualPsfpIntervals_small run
    obtain ⟨width, widthRun, run⟩ := Fallible.bind_eq_ok.mp run
    obtain ⟨nonzero, widthEq⟩ := checkedDiv_eq_ok.mp widthRun
    have count : (BitVec.ofNat 32 n).toNat = n := Nat.mod_eq_of_lt small
    rw [count] at nonzero widthEq
    obtain ⟨iv, firstRun⟩ := (Fallible.mapM_returns_iff.mp ⟨is, run⟩) 0
      (List.mem_range.mpr (Nat.pos_of_ne_zero nonzero))
    have first := (equalPsfpInterval_bounds (by decide) firstRun).2
    refine ⟨Nat.pos_of_ne_zero nonzero, ?_⟩
    split at first
    · omega
    · -- the first of several intervals has the width
      have wide : 1 ≤ period.toNat / n := by
        rw [← widthEq]
        omega
      exact (Nat.one_le_div_iff (Nat.pos_of_ne_zero nonzero)).mp wide
  · obtain ⟨some_, few⟩ := within
    have bound := period.isLt
    have count : (BitVec.ofNat 32 n).toNat = n := Nat.mod_eq_of_lt (by omega)
    have nonzero : BitVec.ofNat 32 n ≠ 0 := by
      intro zero
      have none := congrArg BitVec.toNat zero
      rw [count] at none
      exact absurd none (Nat.ne_of_gt some_)
    obtain ⟨width, widthRun⟩ : ∃ width, checkedDiv period (BitVec.ofNat 32 n) = .ok width :=
      ⟨_, if_neg nonzero⟩
    have widthEq := (checkedDiv_eq_ok.mp widthRun).2
    rw [count] at widthEq
    unfold makeEqualPsfpIntervals
    rw [widthRun, Fallible.ok_bind]
    refine Fallible.mapM_returns_iff.mpr fun i member => ?_
    refine equalPsfpInterval_returns few ?_ ?_ (List.mem_range.mp member)
    · rw [widthEq]
      exact (Nat.one_le_div_iff some_).mpr few
    · rw [widthEq]
      exact Nat.mul_div_le _ _

theorem makeEqualPsfpIntervals_chain (run : makeEqualPsfpIntervals period n = .ok is) :
    is.length = n ∧ IntervalChain.Chain (fun iv : PSFPInterval => iv.low.toNat)
      (fun iv => iv.high.toNat + 1) 0 is period.toNat := by
  have small := makeEqualPsfpIntervals_small run
  obtain ⟨positive, _⟩ := (makeEqualPsfpIntervals_returns_iff period n).mp ⟨is, run⟩
  obtain ⟨width, widthRun, run⟩ := Fallible.bind_eq_ok.mp run
  have widthEq := (checkedDiv_eq_ok.mp widthRun).2
  rw [BitVec.toNat_ofNat, Nat.mod_eq_of_lt small] at widthEq
  have runs := Fallible.mapM_eq_ok.mp run
  have ordered : n * width.toNat ≤ period.toNat := by
    rw [widthEq]
    exact Nat.mul_div_le _ _
  have length := runs.length_eq
  rw [List.length_range] at length
  rw [List.range_eq_range'] at runs
  have chain := equalPsfpIntervals_chain positive (Nat.zero_add n) small ordered runs
  rw [Nat.zero_mul] at chain
  exact ⟨length.symm, chain⟩

/-- Every position of the period lies in one interval, and no other position in any. -/
theorem makeEqualPsfpIntervals_once (run : makeEqualPsfpIntervals period n = .ok is) (p : Nat) :
    (is.filter fun iv => decide (iv.Contains p)).length = if p < period.toNat then 1 else 0 := by
  have once := (makeEqualPsfpIntervals_chain run).2.once p
  simp only [Nat.zero_le, true_and, Nat.lt_succ_iff] at once
  exact once

/-- **The intervals of the evaluator.**  It returns exactly if there is at least one interval and
every interval has a position, and panics otherwise.  What it returns are as many intervals as it
was asked for, and every position of the period lies in one of them, and no other position does. -/
theorem makeEqualPsfpIntervals_partition (period : U32) (n : Nat) :
    ((∃ is, makeEqualPsfpIntervals period n = .ok is) ↔ 1 ≤ n ∧ n ≤ period.toNat) ∧
      ∀ is, makeEqualPsfpIntervals period n = .ok is → is.length = n ∧
        ∀ p, (is.filter fun iv => decide (iv.Contains p)).length =
          if p < period.toNat then 1 else 0 := by
  refine ⟨makeEqualPsfpIntervals_returns_iff period n, fun is run => ?_⟩
  obtain ⟨length, _⟩ := makeEqualPsfpIntervals_chain run
  exact ⟨length, makeEqualPsfpIntervals_once run⟩

/-! ## The counts -/

/-- The number of entries of an interval. -/
def entryCount (iv : PSFPInterval) : Nat :=
  (Fallible.output (ternaryBlocks iv.low iv.high)).length

theorem countTernaryEntriesOptimized_of_returns
    (returns : ∃ es, ternaryBlocks iv.low iv.high = .ok es) :
    countTernaryEntriesOptimized iv.low iv.high = .ok (entryCount iv) := by
  obtain ⟨es, run⟩ := returns
  unfold entryCount
  rw [countTernaryEntriesOptimized_eq, run, Fallible.output_ok]
  rfl

/-- The original algorithm counts no fewer. -/
theorem countTernaryEntries_of_returns (returns : ∃ es, ternaryBlocks iv.low iv.high = .ok es) :
    ∃ count, countTernaryEntries iv.low iv.high = .ok count ∧ entryCount iv ≤ count := by
  obtain ⟨es, run⟩ := returns
  unfold entryCount
  rw [run, Fallible.output_ok]
  rcases Nat.lt_or_ge iv.high.toNat iv.low.toNat with reversed | le
  · refine ⟨0, if_pos reversed, ?_⟩
    rw [← Except.ok.inj ((ternaryBlocks_empty reversed).symm.trans run)]
    exact le_rfl
  · obtain ⟨os, bs, _, countRun, tiles, isEntries⟩ := ternaryEntries_tiles le
    obtain ⟨cs, greedy, isOptimized⟩ := ternaryBlocks_greedy le run
    refine ⟨os.length, countRun, ?_⟩
    rw [isEntries.length_eq, isOptimized.length_eq]
    exact greedy.length_le_of_tiles tiles

theorem countPsfpEntriesOptimized_of_returns
    (returns : ∀ iv ∈ is, ∃ es, ternaryBlocks iv.low iv.high = .ok es) :
    countPsfpEntriesOptimized ⟨is⟩ = .ok (is.map entryCount).sum := by
  have runs : is.mapM (fun iv => countTernaryEntriesOptimized iv.low iv.high) =
      .ok (is.map entryCount) := by
    rw [Fallible.mapM_eq_ok, List.forall₂_map_right_iff, List.forall₂_same]
    exact fun iv member => countTernaryEntriesOptimized_of_returns (returns iv member)
  unfold countPsfpEntriesOptimized
  rw [runs]
  rfl

theorem countPsfpEntries_of_returns
    (returns : ∀ iv ∈ is, ∃ es, ternaryBlocks iv.low iv.high = .ok es) :
    ∃ count, countPsfpEntries ⟨is⟩ = .ok count ∧ (is.map entryCount).sum ≤ count := by
  obtain ⟨counts, run⟩ : ∃ counts,
      is.mapM (fun iv => countTernaryEntries iv.low iv.high) = .ok counts := by
    refine Fallible.mapM_returns_iff.mpr fun iv member => ?_
    obtain ⟨count, run, _⟩ := countTernaryEntries_of_returns (returns iv member)
    exact ⟨count, run⟩
  have runs := Fallible.mapM_eq_ok.mp run
  refine ⟨counts.sum, ?_, ?_⟩
  · unfold countPsfpEntries
    rw [run]
    rfl
  · clear run
    induction runs with
    | nil => exact le_rfl
    | @cons iv count rest counts here _ ih =>
      obtain ⟨least, restLeast⟩ := List.forall_mem_cons.mp returns
      obtain ⟨count', run, le⟩ := countTernaryEntries_of_returns least
      cases here.symm.trans run
      rw [List.map_cons, List.sum_cons, List.sum_cons]
      exact Nat.add_le_add le (ih restLeast)

end EvaluateTernaryEntries

/-! ## The entries of a gate -/

open EvaluateTernaryEntries

namespace StreamGateControlList

/-- The interval without what the gate does in it. -/
def range (t : PSFPTimeSlice) : PSFPInterval where
  low := t.low
  high := t.high

/-- The request is one for this gate. -/
def OfGate (streamGateId : U32) (r : Request) : Prop :=
  r.key? .streamGateId = some (.exact streamGateId.toNat)

instance (streamGateId : U32) (r : Request) : Decidable (OfGate streamGateId r) :=
  inferInstanceAs (Decidable (_ = _))

theorem ofGate_streamGateRequest {streamGateId streamGateId' : U32} {gateState ipv : U8}
    {intervalIdentifier maxOctetsInterval : U32} {e : U32 × U32} :
    OfGate streamGateId
        (streamGateRequest streamGateId' gateState ipv intervalIdentifier maxOctetsInterval e) ↔
      streamGateId' = streamGateId := by
  have key : (streamGateRequest streamGateId' gateState ipv intervalIdentifier maxOctetsInterval
      e).key? .streamGateId = some (.exact streamGateId'.toNat) := rfl
  unfold OfGate
  rw [key, Option.some.injEq, MatchValue.exact.injEq, BitVec.toNat_inj]

/-- The entries of an interval are all of its gate. -/
theorem intervalEntries_ofGate (streamGateId : U32) (pair : U32 × PSFPTimeSlice)
    (identifier : U32) :
    ((intervalEntries pair.1 pair.2 identifier).filter fun r =>
        decide (OfGate streamGateId r)).length =
      if pair.1 = streamGateId then entryCount (range pair.2) else 0 := by
  have entries : intervalEntries pair.1 pair.2 identifier =
      (Fallible.output (ternaryBlocks pair.2.low pair.2.high)).map (streamGateRequest pair.1
        pair.2.state pair.2.ipv identifier pair.2.octets) := by
    unfold intervalEntries rangeToTernaryEntries
    cases ternaryBlocks pair.2.low pair.2.high with
    | error p => rfl
    | ok es => rfl
  rw [entries]
  split
  · rename_i own
    rw [List.filter_eq_self.mpr, List.length_map]
    · rfl
    · refine List.forall_mem_map.mpr fun e _ => decide_eq_true ?_
      exact ofGate_streamGateRequest.mpr own
  · rename_i foreign
    rw [List.length_eq_zero_iff, List.filter_eq_nil_iff]
    refine List.forall_mem_map.mpr fun e _ => ?_
    rw [decide_eq_true_eq, ofGate_streamGateRequest]
    exact foreign

/-- The number of requests for a gate is the number of entries of the intervals under it. -/
theorem Numbered.count {pairs : List (U32 × PSFPTimeSlice)} {start last : U32}
    {requests : List Request} {identifiers : List U32}
    (numbered : Numbered pairs start last requests identifiers) (streamGateId : U32) :
    (requests.filter fun r => decide (OfGate streamGateId r)).length =
      ((pairs.filter fun pair => decide (pair.1 = streamGateId)).map fun pair =>
        entryCount (range pair.2)).sum := by
  have firsts : (pairs.zip identifiers).map Prod.fst = pairs :=
    List.map_fst_zip (le_of_eq numbered.length_eq.symm)
  have counts : (requests.filter fun r => decide (OfGate streamGateId r)).length =
      (pairs.map fun pair => if pair.1 = streamGateId then entryCount (range pair.2)
        else 0).sum := by
    rw [numbered.requests_eq, decompositions, List.filter_flatMap, List.length_flatMap]
    conv_rhs => rw [← firsts, List.map_map]
    exact congrArg List.sum (List.map_congr_left fun x _ =>
      intervalEntries_ofGate streamGateId x.1 x.2)
  rw [counts, List.sum_map_ite]
  simp

/-- The entries that accept a packet of a gate are as many as the intervals under the gate that
contain its position. -/
theorem Numbered.hits_count {pairs : List (U32 × PSFPTimeSlice)} {start last : U32}
    {requests : List Request} {identifiers : List U32}
    (numbered : Numbered pairs start last requests identifiers) (streamGateId : U32) (p : Nat) :
    (Request.hits (gatePacket streamGateId p) requests).length =
      ((pairs.filter fun pair => decide (pair.1 = streamGateId)).filter fun pair =>
        decide (pair.2.Contains (p % 2 ^ 32))).length := by
  have found := congrArg List.length (numbered.hits streamGateId p)
  rw [List.length_map] at found
  rw [found, List.length_flatMap, List.filter_filter]
  clear found numbered
  induction pairs with
  | nil => rfl
  | cons pair pairs ih =>
    rw [List.map_cons, List.sum_cons, ih, List.filter_cons]
    unfold pairDecisions
    rcases Decidable.em (pair.1 = streamGateId ∧ pair.2.Contains (p % 2 ^ 32)) with here | away
    · rw [if_pos here, if_pos (by simpa using here.symm)]
      exact Nat.add_comm _ _
    · rw [if_neg away, if_neg (by simpa [and_comm] using away)]
      exact Nat.zero_add _

/-- Under the id of the only user of a schedule, this schedule is written once. -/
theorem SoleUser.written_filter {cfg : Configuration} {gate : StreamGate}
    (ids : (cfg.psfp.streamGates.map (·.streamGateId)).Nodup) (sole : SoleUser cfg gate)
    {mappings : List AppIDMapping}
    (related : List.Forall₂ cfg.IsAppMapping cfg.psfp.streamGates mappings)
    {schedule : StreamGateControlList} (found : cfg.findSchedule gate.schedule = some schedule) :
    (written cfg mappings).filter (fun pair => decide (pair.1 = gate.streamGateId)) =
      underGate gate.streamGateId schedule := by
  have each : ∀ m ∈ mappings, ((target? cfg m).toList.flatMap fun x => underGate x.1 x.2).filter
      (fun pair => decide (pair.1 = gate.streamGateId)) =
        if m.streamGateId = gate.streamGateId then underGate gate.streamGateId schedule
        else [] := by
    intro m member
    obtain ⟨gate', member', isApp⟩ := KeyedList.exists_related related.flip member
    obtain ⟨first, schedule', firstFound, found', target⟩ := target?_eq ids member' isApp
    obtain ⟨memberFirst, named⟩ := KeyedList.mem_of_find? firstFound
    rw [target, Option.toList_some, List.flatMap_singleton]
    split
    · rename_i own
      have sameGate : gate' = gate := sole.byId gate' member' (isApp.1.symm.trans own)
      have sameFirst : first = gate := sole.bySchedule first memberFirst (sameGate ▸ named)
      rw [sameGate] at found'
      rw [sameFirst, Option.some.inj (found'.symm.trans found), List.filter_eq_self]
      exact List.forall_mem_map.mpr fun t _ => decide_eq_true rfl
    · rename_i foreign
      rw [List.filter_eq_nil_iff]
      refine List.forall_mem_map.mpr fun t _ => ?_
      rw [decide_eq_true_eq]
      intro same
      -- then the gate would name the schedule of the other one
      have sameFirst : first = gate := sole.byId first memberFirst same
      have sameGate : gate' = gate := sole.bySchedule gate' member' (sameFirst ▸ named.symm)
      exact foreign (isApp.1.trans (by rw [sameGate]))
  have keys : (mappings.map (·.streamGateId)).Nodup := by
    rw [← KeyedList.map_key_forall₂ related fun _ _ isApp => isApp.1.symm]
    exact ids
  obtain ⟨m, memberM, isApp⟩ := KeyedList.exists_related related sole.member
  unfold written
  rw [List.filter_flatMap, List.flatMap_congr each]
  obtain ⟨before, after, rfl⟩ := List.append_of_mem memberM
  rw [List.map_append, List.map_cons, List.nodup_middle, List.nodup_cons] at keys
  have others : ∀ m' ∈ before ++ after, ¬ m'.streamGateId = gate.streamGateId := by
    intro m' member same
    refine keys.1 ?_
    rw [← List.map_append]
    exact List.mem_map.mpr ⟨m', member, same.trans isApp.1.symm⟩
  have none : ∀ ms : List AppIDMapping, (∀ m' ∈ ms, m' ∈ before ++ after) →
      ms.flatMap (fun m' => if m'.streamGateId = gate.streamGateId then
        underGate gate.streamGateId schedule else []) = [] := by
    intro ms within
    rw [List.flatMap_eq_nil_iff]
    exact fun m' member => if_neg (others m' (within m' member))
  rw [List.flatMap_append, List.flatMap_cons, if_pos isApp.1,
    none before fun _ => List.mem_append_left _, none after fun _ => List.mem_append_right _,
    List.nil_append, List.append_nil]

end StreamGateControlList

/-- **The evaluator's counts for a gate.**  Where no two gates have the same id, the controller
writes for a gate that does not share its schedule as many entries as the optimised count says for
the intervals of the schedule, and no more than the original count says.  If the intervals are those
that the evaluator lays out for a period, a packet of the gate hits one of its entries when the low
32 bits of its position are in the period, and none otherwise. -/
theorem gate_evaluation {cfg out : Configuration} {apps : List AppIDMapping}
    {batches : List BatchIDMapping} {app app' : AppState} {requests : List Request}
    {gate : StreamGate} {schedule : StreamGateControlList}
    (prepared : Configuration.Prepared cfg out apps batches)
    (run : writeAllSchedules out app = .ok (requests, app'))
    (ids : (cfg.psfp.streamGates.map (·.streamGateId)).Nodup) (sole : SoleUser cfg gate)
    (found : cfg.findSchedule gate.schedule = some schedule) :
    ∃ count original, countPsfpEntriesOptimized ⟨schedule.intervals.map range⟩ = .ok count ∧
      countPsfpEntries ⟨schedule.intervals.map range⟩ = .ok original ∧ count ≤ original ∧
      (requests.filter fun r => decide (OfGate gate.streamGateId r)).length = count ∧
      ∀ period n, makeEqualPsfpIntervals period n = .ok (schedule.intervals.map range) → ∀ p,
        (Request.hits (gatePacket gate.streamGateId p) requests).length =
          if p % 2 ^ 32 < period.toNat then 1 else 0 := by
  have soleOut : SoleUser out gate := by
    obtain ⟨member, byId, bySchedule⟩ := sole
    rw [← prepared.streamGates_eq] at member byId bySchedule
    exact ⟨member, byId, bySchedule⟩
  rw [← prepared.streamGates_eq] at ids
  rw [← prepared.findSchedule_eq] at found
  obtain ⟨_, identifiers, numbered⟩ := writeAllSchedules_eq_ok prepared.appIdMappings_eq run
  have under := soleOut.written_filter ids prepared.apps_gates_out found
  have returns : ∀ iv ∈ schedule.intervals.map range,
      ∃ es, ternaryBlocks iv.low iv.high = .ok es := by
    refine List.forall_mem_map.mpr fun t member => ?_
    have written := (soleOut.mem_written prepared.apps_gates_out found).mpr member
    exact numbered.returns _ written
  obtain ⟨original, originalRun, le⟩ := countPsfpEntries_of_returns returns
  refine ⟨_, original, countPsfpEntriesOptimized_of_returns returns, originalRun, le, ?_,
    fun period n layout p => ?_⟩
  · rw [numbered.count, under, underGate, List.map_map, List.map_map]
    rfl
  · have once := makeEqualPsfpIntervals_once layout (p % 2 ^ 32)
    rw [List.filter_map, List.length_map] at once
    rw [numbered.hits_count, under, underGate, List.filter_map, List.length_map]
    exact once

/-! ## A gate with three intervals -/

def equalIntervals : StreamGateControlList where
  name := "psfp"
  period := 10
  intervals :=
    [{ low := 0, high := 2, state := 1, ipv := 0, octets := 100 },
     { low := 3, high := 5, state := 0, ipv := 0, octets := 100 },
     { low := 6, high := 9, state := 1, ipv := 0, octets := 100 }]

def evaluatedSample : Configuration :=
  { singleGate with psfp := { singleGate.psfp with streamGateSchedules := [equalIntervals] } }

theorem gate_evaluation_sample :
    ∃ out app app' requests count original,
      evaluatedSample.prepare = .ok (out, app) ∧
        writeAllSchedules out app = .ok (requests, app') ∧
        countPsfpEntriesOptimized ⟨equalIntervals.intervals.map range⟩ = .ok count ∧
        countPsfpEntries ⟨equalIntervals.intervals.map range⟩ = .ok original ∧ count ≤ original ∧
        (requests.filter fun r => decide (OfGate 1 r)).length = count ∧
        ∀ p, (Request.hits (gatePacket 1 p) requests).length =
          if p % 2 ^ 32 < 10 then 1 else 0 := by
  obtain ⟨⟨out, app⟩, preparedRun⟩ : ∃ x, evaluatedSample.prepare = .ok x := ⟨_, rfl⟩
  have outEq := Except.ok.inj preparedRun
  obtain ⟨⟨requests, app'⟩, run⟩ : ∃ x, writeAllSchedules out app = .ok x := by
    cases outEq
    exact Fallible.exists_of_isOk (by decide +kernel)
  obtain ⟨apps, batches, prepared, _⟩ := Configuration.prepare_eq_ok preparedRun
  have sole : SoleUser evaluatedSample { streamGateId := 1, schedule := "psfp" } :=
    ⟨List.mem_singleton_self _, fun _ member _ => List.mem_singleton.mp member,
      fun _ member _ => List.mem_singleton.mp member⟩
  have layout : makeEqualPsfpIntervals 10 3 = .ok (equalIntervals.intervals.map range) := by
    decide +kernel
  obtain ⟨count, original, countRun, originalRun, le, written, once⟩ :=
    gate_evaluation prepared run (by decide) sole rfl
  exact ⟨out, app, app', requests, count, original, preparedRun, run, countRun, originalRun, le,
    written, once 10 3 layout⟩

end P4Tas.Controller
