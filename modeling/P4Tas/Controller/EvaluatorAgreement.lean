import Mathlib.Data.Finset.Card
import P4Tas.Controller.GuardBands
import P4Tas.Controller.RangeCover
import P4Tas.Controller.TasEntries

/-!
# The evaluation predicts the table

The evaluator lays out slices of equal width with a cursor; the controller moves configured slices
apart.  For a GCL of equal slices the two arrive at the same ranges, with or without guard bands,
and decompose them alike.

* `equalTasSlicesFrom_guarded`, `equalTasSlicesFrom_unguarded`: the layouts agree slice by slice;
* `gclEntries_count`: so the number of entries written is the predicted one;
* `evaluation_predicts`: for a port of the prepared configuration.
-/

namespace P4Tas.Controller

open EvaluateTernaryEntries (equalTasSlicesFrom makeEqualTasSlices countTasEntriesOptimized
  countTernaryEntriesOptimized ternaryEntriesOptimized)

/-! ## Equal slices -/

/-- The slice `[i * w, (i + 1) * w]`. -/
def equalSlice (w : Nat) (states : Nat → QueueStates) (i : Nat) : TASTimeSlice where
  low := BitVec.ofNat 32 (i * w)
  high := BitVec.ofNat 32 ((i + 1) * w)
  queueStates := states i

/-- The GCL of `n` slices of width `w`. -/
def equalGcl (name : String) (w n : Nat) (guardBandWidth : U32) (states : Nat → QueueStates) :
    GateControlList where
  period := BitVec.ofNat 32 (n * w)
  name
  timeSlices := (List.range n).map (equalSlice w states)
  guardBandWidth

/-- The evaluator's slice has the range of the controller's slice and counts its queues. -/
structure Predicts (ts : EvaluateTernaryEntries.TASTimeSlice) (t : TASTimeSlice) : Prop where
  low_eq : ts.low = t.low
  high_eq : ts.high = t.high
  queues_eq : ts.numQueueStates = t.queueStates.entries.length
  below : t.high.toNat < 2 ^ 32 - 1

section Layout

variable {sliceWidth guardBand cursor : U32} {k : Nat}

/-- With guard bands the cursor goes where the controller moves the slices. -/
theorem equalTasSlicesFrom_guarded {slices : List TASTimeSlice} (wide : guardBand ≠ 0)
    (widths : ∀ s ∈ slices, s.high.toNat = s.low.toNat + sliceWidth.toNat)
    (queues : ∀ s ∈ slices, s.queueStates.entries.length = k)
    (fits : cursor.toNat + slices.length * (sliceWidth.toNat + guardBand.toNat) < 2 ^ 32 - 1) :
    ∃ planned guarded, equalTasSlicesFrom sliceWidth guardBand k slices.length cursor =
        .ok planned ∧ guardedSlices guardBand cursor slices = .ok guarded ∧
      List.Forall₂ Predicts planned guarded := by
  have positive : guardBand > 0 :=
    BitVec.lt_def.mpr (BitVec.toNat_pos_of_ne_zero wide)
  induction slices generalizing cursor with
  | nil => exact ⟨[], [], rfl, rfl, .nil⟩
  | cons s rest ih =>
    obtain ⟨widthHere, widthsRest⟩ := List.forall_mem_cons.mp widths
    obtain ⟨queuesHere, queuesRest⟩ := List.forall_mem_cons.mp queues
    rw [List.length_cons, Nat.succ_mul] at fits
    obtain ⟨high, highRun⟩ := checkedAdd_returns (a := cursor) (b := sliceWidth) (by omega)
    have highEq := checkedAdd_eq_ok.mp highRun
    obtain ⟨guardHigh, guardRun⟩ := checkedAdd_returns (a := high) (b := guardBand) (by omega)
    have guardEq := checkedAdd_eq_ok.mp guardRun
    obtain ⟨planned, guarded, plannedRun, guardedRun, related⟩ :
        ∃ planned guarded, equalTasSlicesFrom sliceWidth guardBand k rest.length guardHigh =
          .ok planned ∧ guardedSlices guardBand guardHigh rest = .ok guarded ∧
          List.Forall₂ Predicts planned guarded := ih widthsRest queuesRest (by omega)
    have guardedRun' : guardedSlices guardBand cursor (s :: rest) =
        .ok ({ s with low := cursor, high := high } ::
          { low := high, high := guardHigh, queueStates := s.queueStates.setAll 1 } :: guarded) :=
      guardedSlices_cons_eq_ok.mpr
        ⟨high, guardHigh, guarded, by omega, by omega, guardEq, guardedRun, rfl⟩
    have closed : (s.queueStates.setAll 1).entries.length = k :=
      (List.length_map _).trans queuesHere
    have content : Predicts ⟨cursor, high, k⟩ { s with low := cursor, high := high } :=
      ⟨rfl, rfl, queuesHere.symm, show high.toNat < 2 ^ 32 - 1 by omega⟩
    have guard : Predicts ⟨high, guardHigh, k⟩ ⟨high, guardHigh, s.queueStates.setAll 1⟩ :=
      ⟨rfl, rfl, closed.symm, show guardHigh.toNat < 2 ^ 32 - 1 by omega⟩
    refine ⟨_, _, ?_, guardedRun', .cons content (.cons guard related)⟩
    rw [List.length_cons, equalTasSlicesFrom]
    simp only [highRun, if_pos positive, guardRun, plannedRun, Fallible.ok_bind]
    rfl

/-- Without guard bands the cursor goes through the multiples of the width. -/
theorem equalTasSlicesFrom_unguarded {w n i : Nat} {states : Nat → QueueStates}
    (queues : ∀ j, j < i + n → (states j).entries.length = k)
    (start : cursor.toNat = i * sliceWidth.toNat) (width : w = sliceWidth.toNat)
    (fits : (i + n) * sliceWidth.toNat < 2 ^ 32 - 1) :
    ∃ planned, equalTasSlicesFrom sliceWidth 0 k n cursor = .ok planned ∧
      List.Forall₂ Predicts planned ((List.range' i n).map (equalSlice w states)) := by
  subst width
  induction n generalizing cursor i with
  | zero => exact ⟨[], rfl, .nil⟩
  | succ n ih =>
    have next_le : (i + 1) * sliceWidth.toNat ≤ (i + (n + 1)) * sliceWidth.toNat :=
      Nat.mul_le_mul_right _ (by omega)
    have split : (i + 1) * sliceWidth.toNat = i * sliceWidth.toNat + sliceWidth.toNat :=
      Nat.succ_mul i _
    obtain ⟨high, highRun⟩ := checkedAdd_returns (a := cursor) (b := sliceWidth) (by omega)
    have highEq := checkedAdd_eq_ok.mp highRun
    obtain ⟨planned, plannedRun, related⟩ : ∃ planned,
        equalTasSlicesFrom sliceWidth 0 k n high = .ok planned ∧ List.Forall₂ Predicts planned
          ((List.range' (i + 1) n).map (equalSlice sliceWidth.toNat states)) :=
      ih (fun j inside => queues j (by omega)) (by omega)
        (by rw [show i + 1 + n = i + (n + 1) by omega]; exact fits)
    have low_eq : cursor = BitVec.ofNat 32 (i * sliceWidth.toNat) := by
      rw [← start, BitVec.ofNat_toNat, BitVec.setWidth_eq]
    have high_eq : high = BitVec.ofNat 32 ((i + 1) * sliceWidth.toNat) := by
      rw [split, ← start, ← highEq, BitVec.ofNat_toNat, BitVec.setWidth_eq]
    have content : Predicts ⟨cursor, high, k⟩ (equalSlice sliceWidth.toNat states i) := by
      refine ⟨low_eq, high_eq, (queues i (by omega)).symm, ?_⟩
      have same : (equalSlice sliceWidth.toNat states i).high.toNat = high.toNat := by
        rw [high_eq]
        rfl
      omega
    refine ⟨_, ?_, .cons content related⟩
    rw [equalTasSlicesFrom]
    have none : ¬ (0 : U32) > 0 := by decide
    simp only [highRun, if_neg none, plannedRun, Fallible.ok_bind]
    rfl

end Layout

/-! ## Entries and predicted entries -/

section Count

variable {switch : Switch} {port batchId : U8}

/-- A slice is written once for each queue it lists. -/
theorem queueEntries_count {t : TASTimeSlice} {blocks : List (U32 × U32)}
    (blocksRun : ternaryBlocks t.low t.high = .ok blocks) {queues : List (U8 × U8)}
    (answers : ∀ queue ∈ queues, switch.Answers port queue.1) :
    ∃ es, Fallible.concatMap (TAS.queueEntries switch port batchId t) queues = .ok es ∧
      es.length = queues.length * blocks.length := by
  induction queues with
  | nil => exact ⟨[], rfl, (Nat.zero_mul _).symm⟩
  | cons queue rest ih =>
    obtain ⟨answersHere, answersRest⟩ := List.forall_mem_cons.mp answers
    obtain ⟨word, wordRun⟩ :=
      TAS.getAfcValue_returns answersHere (port >>> 7) (queue.2.setWidth 16)
    obtain ⟨es, run, length⟩ := ih answersRest
    obtain ⟨xs, here, count⟩ : ∃ xs, TAS.queueEntries switch port batchId t queue = .ok xs ∧
        xs.length = blocks.length := by
      unfold TAS.queueEntries TAS.rangeToTernaryEntries
      simp only [wordRun, blocksRun, Fallible.ok_bind]
      exact ⟨_, rfl, List.length_map _⟩
    refine ⟨xs ++ es, ?_, ?_⟩
    · rw [Fallible.concatMap, here, Fallible.ok_bind, run, Fallible.ok_bind]
      rfl
    · rw [List.length_append, count, length, List.length_cons, Nat.succ_mul, Nat.add_comm]

/-- The slices of a GCL are written as often as the evaluator counts. -/
theorem gclEntries_count {planned : List EvaluateTernaryEntries.TASTimeSlice}
    {slices : List TASTimeSlice} (related : List.Forall₂ Predicts planned slices)
    (answers : ∀ t ∈ slices, ∀ queue ∈ t.queueStates.entries, switch.Answers port queue.1) :
    ∃ es, TAS.gclEntries switch port batchId slices = .ok es ∧
      countTasEntriesOptimized ⟨planned⟩ = .ok es.length := by
  induction related with
  | nil => exact ⟨[], rfl, rfl⟩
  | @cons ts t planned slices predicts _ ih =>
    obtain ⟨answersHere, answersRest⟩ := List.forall_mem_cons.mp answers
    obtain ⟨rest, restRun, countRest⟩ := ih answersRest
    obtain ⟨blocks, blocksRun⟩ : ∃ blocks, ternaryBlocks t.low t.high = .ok blocks :=
      ternaryBlocks_returns predicts.below
    obtain ⟨es, run, length⟩ : ∃ es, Fallible.concatMap (TAS.queueEntries switch port batchId t)
          t.queueStates.entries = .ok es ∧
        es.length = t.queueStates.entries.length * blocks.length :=
      queueEntries_count blocksRun answersHere
    refine ⟨es ++ rest, ?_, ?_⟩
    · unfold TAS.gclEntries at restRun ⊢
      rw [Fallible.concatMap, run, Fallible.ok_bind, restRun, Fallible.ok_bind]
      rfl
    · have countHere : countTernaryEntriesOptimized ts.low ts.high = .ok blocks.length := by
        rw [EvaluateTernaryEntries.countTernaryEntriesOptimized_eq, predicts.low_eq,
          predicts.high_eq, blocksRun]
        rfl
      unfold countTasEntriesOptimized at countRest ⊢
      obtain ⟨counts, countsRun, sum_eq⟩ := Fallible.bind_eq_ok.mp countRest
      simp only [List.mapM_cons, countHere, countsRun, Fallible.ok_bind, pure_bind]
      have total : es.length + rest.length = ts.numQueueStates * blocks.length + counts.sum := by
        rw [length, predicts.queues_eq, Except.ok.inj sum_eq]
      rw [List.length_append, total]
      rfl

end Count

/-! ## The prepared configuration -/

/-- The evaluator emits for its slice the pairs the controller emits for the slice. -/
def SameEntries (ts : EvaluateTernaryEntries.TASTimeSlice) (t : TASTimeSlice) : Prop :=
  ∃ pairs, ternaryEntriesOptimized ts.low ts.high = .ok pairs ∧
    ∀ pipeId qId batchId action afcValue, ∃ requests,
      TAS.rangeToTernaryEntries t.low t.high pipeId qId batchId action afcValue = .ok requests ∧
        ternaryPairs .gclTimeDiffTs requests = pairs.map natPair

theorem Predicts.sameEntries {ts : EvaluateTernaryEntries.TASTimeSlice} {t : TASTimeSlice}
    (predicts : Predicts ts t) : SameEntries ts t := by
  obtain ⟨pairs, run⟩ : ∃ pairs, ternaryBlocks t.low t.high = .ok pairs :=
    ternaryBlocks_returns predicts.below
  refine ⟨pairs, ?_, fun pipeId qId batchId action afcValue =>
    ⟨pairs.map (TAS.gateControlRequest pipeId qId batchId action afcValue), ?_, ?_⟩⟩
  · rw [EvaluateTernaryEntries.ternaryEntriesOptimized_eq, predicts.low_eq, predicts.high_eq, run]
  · unfold TAS.rangeToTernaryEntries
    rw [run]
    rfl
  · exact ternaryPairs_map (fun _ => rfl) pairs

/-- A map that lists a set of queues has as many entries as the set. -/
theorem QueueStates.length_eq_card {qs : QueueStates} {queues : Finset U8}
    (lists : ∀ q, q ∈ qs.keys ↔ q ∈ queues) : qs.entries.length = queues.card := by
  have same : qs.keys.toFinset = queues := by
    ext q
    rw [List.mem_toFinset, lists]
  have distinct : qs.keys.Nodup := qs.nodup
  rw [← same, List.toFinset_card_of_nodup distinct]
  exact (List.length_map _).symm

/-- The slices of a GCL of equal slices have the same width, if they all end within `u32`. -/
theorem equalSlice_width {w n : Nat} {states : Nat → QueueStates} (fits : n * w < 2 ^ 32)
    {s : TASTimeSlice} (member : s ∈ (List.range n).map (equalSlice w states)) :
    s.high.toNat = s.low.toNat + w := by
  obtain ⟨i, inside, rfl⟩ := List.mem_map.mp member
  have split : (i + 1) * w = i * w + w := Nat.succ_mul i w
  have last_le : (i + 1) * w ≤ n * w := Nat.mul_le_mul_right w (List.mem_range.mp inside)
  have low : (BitVec.ofNat 32 (i * w)).toNat = i * w := Nat.mod_eq_of_lt (by omega)
  have high : (BitVec.ofNat 32 ((i + 1) * w)).toNat = (i + 1) * w := Nat.mod_eq_of_lt (by omega)
  unfold equalSlice
  dsimp only
  omega

/-- The evaluator lays out the slices that insertion of guard bands makes of equal slices. -/
theorem makeEqualTasSlices_predicts {period guardBand : U32} {n : Nat} {queues : Finset U8}
    {states : Nat → QueueStates} {name : String} {guarded : GateControlList}
    (wide : 1 ≤ period.toNat / n)
    (fits : n * (period.toNat / n + guardBand.toNat) < 2 ^ 32 - 1)
    (lists : ∀ i < n, ∀ q, q ∈ (states i).keys ↔ q ∈ queues)
    (run : (equalGcl name (period.toNat / n) n guardBand states).insertGuardBands = .ok guarded) :
    ∃ planned, makeEqualTasSlices period n guardBand queues.card = .ok planned ∧
      List.Forall₂ Predicts planned guarded.timeSlices := by
  obtain ⟨positive, few⟩ := Nat.div_pos_iff.mp wide
  have bound := period.isLt
  have count : (BitVec.ofNat 32 n).toNat = n := Nat.mod_eq_of_lt (by omega)
  obtain ⟨sliceWidth, widthRun⟩ : ∃ w, checkedDiv period (BitVec.ofNat 32 n) = .ok w :=
    ⟨period / BitVec.ofNat 32 n, checkedDiv_eq_ok.mpr ⟨by omega, BitVec.toNat_udiv⟩⟩
  have widthEq : sliceWidth.toNat = period.toNat / n := by
    rw [(checkedDiv_eq_ok.mp widthRun).2, count]
  rw [← widthEq] at fits run
  have lengths : ∀ i < n, (states i).entries.length = queues.card :=
    fun i inside => QueueStates.length_eq_card (lists i inside)
  unfold makeEqualTasSlices
  rw [widthRun, Fallible.ok_bind]
  rcases GateControlList.insertGuardBands_eq_ok run with ⟨none, rfl⟩ | ⟨guards, slicesRun, _⟩
  · have none : guardBand = 0 := none
    subst none
    have total : n * (sliceWidth.toNat + (0 : U32).toNat) = (0 + n) * sliceWidth.toNat := by
      rw [Nat.zero_add]
      rfl
    have layout : ∃ planned, equalTasSlicesFrom sliceWidth 0 queues.card n 0 = .ok planned ∧
        List.Forall₂ Predicts planned
          ((List.range' 0 n).map (equalSlice sliceWidth.toNat states)) :=
      equalTasSlicesFrom_unguarded (fun j inside => lengths j (by omega)) (Nat.zero_mul _).symm rfl
        (total ▸ fits)
    rw [← List.range_eq_range'] at layout
    exact layout
  · have widths : ∀ s ∈ (List.range n).map (equalSlice sliceWidth.toNat states),
        s.high.toNat = s.low.toNat + sliceWidth.toNat := by
      intro s member
      refine equalSlice_width ?_ member
      rw [Nat.mul_add] at fits
      omega
    have listed : ∀ s ∈ (List.range n).map (equalSlice sliceWidth.toNat states),
        s.queueStates.entries.length = queues.card := by
      intro s member
      obtain ⟨i, inside, rfl⟩ := List.mem_map.mp member
      exact lengths i (List.mem_range.mp inside)
    have length_eq : ((List.range n).map (equalSlice sliceWidth.toNat states)).length = n := by
      rw [List.length_map, List.length_range]
    have room : (0 : U32).toNat + ((List.range n).map (equalSlice sliceWidth.toNat states)).length *
        (sliceWidth.toNat + guardBand.toNat) < 2 ^ 32 - 1 := by
      rw [length_eq]
      exact (Nat.zero_add _).trans_lt fits
    obtain ⟨planned, slices, plannedRun, slicesRun', related⟩ :=
      equalTasSlicesFrom_guarded guards widths listed room
    rw [length_eq] at plannedRun
    have same : slices = guarded.timeSlices :=
      Except.ok.inj (slicesRun'.symm.trans slicesRun)
    exact ⟨planned, plannedRun, same ▸ related⟩

/-- Guard bands list no other queues. -/
theorem equalGcl_lists {w n : Nat} {guardBand : U32} {queues : Finset U8}
    {states : Nat → QueueStates} {name : String} {guarded : GateControlList}
    (lists : ∀ i < n, ∀ q, q ∈ (states i).keys ↔ q ∈ queues)
    (run : (equalGcl name w n guardBand states).insertGuardBands = .ok guarded) :
    ∀ t ∈ guarded.timeSlices, ∀ queue ∈ t.queueStates.entries, queue.1 ∈ queues := by
  have original : ∀ s ∈ (equalGcl name w n guardBand states).timeSlices,
      ∀ queue ∈ s.queueStates.entries, queue.1 ∈ queues := by
    intro s member queue listed
    obtain ⟨i, inside, rfl⟩ := List.mem_map.mp member
    exact (lists i (List.mem_range.mp inside) queue.1).mp (List.mem_map_of_mem listed)
  rcases GateControlList.insertGuardBands_eq_ok run with ⟨_, rfl⟩ | ⟨_, slicesRun, _⟩
  · exact original
  · intro t member queue listed
    obtain ⟨s, memberS, same | closed⟩ := guardedSlices_mem slicesRun member
    · exact original s memberS queue (same ▸ listed)
    · rw [closed] at listed
      obtain ⟨state, before⟩ := QueueStates.mem_keys.mp (QueueStates.mem_setAll.mp listed).1
      exact original s memberS (queue.1, state) before

/-- For a port that is mapped to a GCL of equal slices, the evaluator predicts the number of entries
written for the port, and emits the pairs of each slice. -/
theorem evaluation_predicts {period guardBand : U32} {n : Nat} {queues : Finset U8}
    {states : Nat → QueueStates} {switch : Switch} {cfg out : Configuration} {appState : AppState}
    {mapping : GCLToPortMapping} (wide : 1 ≤ period.toNat / n)
    (fits : n * (period.toNat / n + guardBand.toNat) < 2 ^ 32 - 1)
    (lists : ∀ i < n, ∀ q, q ∈ (states i).keys ↔ q ∈ queues)
    (answers : ∀ q ∈ queues, switch.Answers mapping.port q)
    (found : cfg.findGcl mapping.gcl =
      some (equalGcl mapping.gcl (period.toNat / n) n guardBand states))
    (mapped : mapping ∈ cfg.tas.gclToPortMapping) (run : cfg.prepare = .ok (out, appState)) :
    ∃ planned guarded requests,
      makeEqualTasSlices period n guardBand queues.card = .ok planned ∧
      out.findGcl mapping.gcl = some guarded ∧
      TAS.mappingEntries switch out mapping = .ok requests ∧
      countTasEntriesOptimized ⟨planned⟩ = .ok requests.length ∧
      List.Forall₂ SameEntries planned guarded.timeSlices ∧
      (cfg.tas.gclToPortMapping = [mapping] →
        TAS.configureTasQueueId switch out = .ok requests) := by
  obtain ⟨apps, batches, prepared, _⟩ := Configuration.prepare_eq_ok run
  obtain ⟨batch, batchFound⟩ := prepared.exists_batch mapped
  obtain ⟨guarded, foundOut, guardRun⟩ : ∃ guarded, out.findGcl mapping.gcl = some guarded ∧
      (equalGcl mapping.gcl (period.toNat / n) n guardBand states).insertGuardBands =
        .ok guarded := by
    rcases prepared.findGcl_related mapping.gcl with ⟨none, _⟩ | ⟨gcl, guarded, run, here, there⟩
    · cases none.symm.trans found
    · cases here.symm.trans found
      exact ⟨guarded, there, run⟩
  obtain ⟨planned, plannedRun, related⟩ := makeEqualTasSlices_predicts wide fits lists guardRun
  have queueAnswers : ∀ t ∈ guarded.timeSlices, ∀ queue ∈ t.queueStates.entries,
      switch.Answers mapping.port queue.1 := fun t member queue listed =>
    answers queue.1 (equalGcl_lists lists guardRun t member queue listed)
  obtain ⟨requests, entriesRun, count⟩ : ∃ es,
      TAS.gclEntries switch mapping.port batch.batchId guarded.timeSlices = .ok es ∧
        countTasEntriesOptimized ⟨planned⟩ = .ok es.length := gclEntries_count related queueAnswers
  have mappingRun : TAS.mappingEntries switch out mapping = .ok requests := by
    unfold TAS.mappingEntries
    simp only [foundOut, prepared.batchMappings_eq, unwrap, Fallible.ok_bind, batchFound,
      entriesRun]
  refine ⟨planned, guarded, requests, plannedRun, foundOut, mappingRun, count,
    related.imp fun _ _ predicts => predicts.sameEntries, fun only => ?_⟩
  unfold TAS.configureTasQueueId
  rw [prepared.mappings_eq, only, Fallible.concatMap, mappingRun, Fallible.ok_bind,
    Fallible.concatMap, Fallible.ok_bind]
  exact congrArg Except.ok (List.append_nil requests)

/-- Queue 0 open and queue 3 closed. -/
def equalSampleStates (_ : Nat) : QueueStates :=
  ⟨[(0, 0), (3, 1)], by decide⟩

/-- Port 133 with a GCL of two slices, two queues and a guard band. -/
def equalSample : Configuration where
  psfp := { streams := [], streamHandles := [], streamFilters := [], streamGates := [],
            flowMeters := [], streamGateSchedules := [] }
  tas := { gclToPortMapping := [{ port := 133, gcl := "tas" }]
           gcls := [equalGcl "tas" 10 2 3 equalSampleStates] }

theorem evaluation_predicts_sample :
    ∃ out appState, equalSample.prepare = .ok (out, appState) ∧
      ∃ planned guarded requests,
        makeEqualTasSlices 21 2 3 ({0, 3} : Finset U8).card = .ok planned ∧
        out.findGcl "tas" = some guarded ∧
        TAS.mappingEntries Switch.sample out ⟨133, "tas"⟩ = .ok requests ∧
        countTasEntriesOptimized ⟨planned⟩ = .ok requests.length ∧
        List.Forall₂ SameEntries planned guarded.timeSlices ∧
        (equalSample.tas.gclToPortMapping = [⟨133, "tas"⟩] →
          TAS.configureTasQueueId Switch.sample out = .ok requests) := by
  obtain ⟨⟨out, appState⟩, run⟩ :=
    Fallible.exists_of_isOk (by decide +kernel : equalSample.prepare.isOk = true)
  have wide : 1 ≤ (21 : U32).toNat / 2 := by decide
  have fits : 2 * ((21 : U32).toNat / 2 + (3 : U32).toNat) < 2 ^ 32 - 1 := by decide
  have lists : ∀ i < 2, ∀ q, q ∈ (equalSampleStates i).keys ↔ q ∈ ({0, 3} : Finset U8) := by
    intro i _ q
    simp [QueueStates.keys, equalSampleStates]
  have answers : ∀ q ∈ ({0, 3} : Finset U8), Switch.sample.Answers 133 q := by
    intro q member
    rcases Finset.mem_insert.mp member with rfl | member
    · exact ⟨_, _, _, rfl, rfl, rfl⟩
    · cases Finset.mem_singleton.mp member
      exact ⟨_, _, _, rfl, rfl, rfl⟩
  have mapped : ⟨133, "tas"⟩ ∈ equalSample.tas.gclToPortMapping := List.mem_singleton_self _
  exact ⟨out, appState, run, evaluation_predicts wide fits lists answers rfl mapped run⟩

end P4Tas.Controller
