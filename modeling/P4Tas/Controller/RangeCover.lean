import P4Tas.Controller.EvaluateTernaryEntries
import P4Tas.Controller.StreamGateSchedule
import P4Tas.Controller.Tas

/-!
# Covering a range

What the loops over a range compute, and for which ranges they return at all.

* `rangeToTernaryEntries_exactCover`: below `u32::MAX` both loops of the controller return, and the
  pairs they emit are consecutive blocks that accept each key of the range once and no other key.
* `rangeToTernaryEntries_total_iff`: a range that ends at `u32::MAX` makes all four loops overflow,
  but for the single key `u32::MAX`.
-/

namespace P4Tas.Controller

open TernaryCover

/-! ## Exact covers -/

/-- The value and mask pairs that requests match a key on. -/
def ternaryPairs (k : Key) (es : List Request) : List (Nat × Nat) :=
  es.filterMap fun r =>
    match r.key? k with
    | some (.ternary value mask) => some (value, mask)
    | _ => none

/-- Each pair accepts, of the 32-bit keys, a nonempty block that starts where the block before it
stops; the blocks lead from `start` to `stop`. -/
def Contiguous : Nat → List (Nat × Nat) → Nat → Prop
  | start, [], stop => start = stop
  | start, pair :: pairs, stop =>
    ∃ next, pair.1 = start ∧ start < next ∧
      (∀ x : U32, Matches pair.1 pair.2 x.toNat ↔ start ≤ x.toNat ∧ x.toNat < next) ∧
      Contiguous next pairs stop

/-- The pairs accept each key of `[start, last]` exactly once and no other key, in consecutive
blocks. -/
structure ExactCover (start last : U32) (pairs : List (Nat × Nat)) : Prop where
  inside : ∀ x : U32, start ≤ x → x ≤ last →
    (pairs.filter fun pair => decide (Matches pair.1 pair.2 x.toNat)).length = 1
  outside : ∀ x : U32, ¬ (start ≤ x ∧ x ≤ last) → ∀ pair ∈ pairs,
    ¬ Matches pair.1 pair.2 x.toNat
  contiguous : Contiguous start.toNat pairs (last.toNat + 1)

/-- The pair of an emitted entry. -/
def natPair (e : U32 × U32) : Nat × Nat :=
  (e.1.toNat, e.2.toNat)

/-- Requests that match the key on the emitted pairs match it on these pairs only. -/
theorem ternaryPairs_map {k : Key} {build : U32 × U32 → Request}
    (keyed : ∀ e, (build e).key? k = some (.ternary e.1.toNat e.2.toNat)) (es : List (U32 × U32)) :
    ternaryPairs k (es.map build) = es.map natPair := by
  unfold ternaryPairs
  induction es with
  | nil => rfl
  | cons e es ih =>
    rw [List.map_cons, List.map_cons, List.filterMap_cons, ih, keyed]
    rfl

/-- The entries of a tiling are consecutive blocks. -/
theorem contiguous_of_tiles {lo hi : Nat} {bs : List Block} {es : List (U32 × U32)}
    (tiles : Tiles lo hi bs) (entries : List.Forall₂ IsEntry es bs) :
    Contiguous lo (es.map natPair) hi := by
  induction tiles generalizing es with
  | nil lo =>
    cases entries
    exact rfl
  | @cons b hi bs _ ih =>
    cases entries with
    | @cons e _ es _ isEntry rest =>
      refine ⟨b.stop, isEntry.1, b.base_lt_stop, fun x => ?_, ih rest⟩
      have accepts := isEntry.matches_iff x.toNat
      rw [Nat.mod_eq_of_lt x.isLt] at accepts
      exact accepts

theorem ternaryBlocks_exactCover {start last : U32} (le : start ≤ last) {es : List (U32 × U32)}
    (run : ternaryBlocks start last = .ok es) : ExactCover start last (es.map natPair) := by
  have count : ∀ x : U32, ((es.map natPair).filter fun pair =>
      decide (Matches pair.1 pair.2 x.toNat)).length =
      if start ≤ x ∧ x ≤ last then 1 else 0 := by
    intro x
    have accepted := ternaryBlocks_accepting run x.toNat
    rw [Nat.mod_eq_of_lt x.isLt] at accepted
    rw [List.filter_map, List.length_map]
    exact accepted
  refine ⟨?_, ?_, ?_⟩
  · intro x lower upper
    rw [count x, if_pos ⟨lower, upper⟩]
  · intro x outside pair member accepts
    have none := count x
    rw [if_neg outside, List.length_eq_zero_iff, List.filter_eq_nil_iff] at none
    exact none pair member (decide_eq_true accepts)
  · rcases ternaryBlocks_greedy le run with ⟨bs, greedy, entries⟩
    exact contiguous_of_tiles greedy.tiles entries

/-- Both loops of the controller return on a range that ends below `u32::MAX`, and what they emit
is an exact cover of it. -/
theorem rangeToTernaryEntries_exactCover {start last : U32} (le : start ≤ last)
    (below : last.toNat < 2 ^ 32 - 1) (pipeId qId batchId : U8) (action : Action) (afcValue : U32)
    (streamGateId : U32) (gateState ipv : U8) (intervalIdentifier maxOctetsInterval : U32) :
    (∃ requests, TAS.rangeToTernaryEntries start last pipeId qId batchId action afcValue =
        .ok requests ∧ ExactCover start last (ternaryPairs .gclTimeDiffTs requests)) ∧
      ∃ requests, StreamGateControlList.rangeToTernaryEntries streamGateId start last gateState ipv
          intervalIdentifier maxOctetsInterval = .ok requests ∧
        ExactCover start last (ternaryPairs .diffTs requests) := by
  rcases (ternaryBlocks_returns below : ∃ es, ternaryBlocks start last = .ok es) with ⟨es, run⟩
  have cover := ternaryBlocks_exactCover le run
  refine ⟨⟨es.map (TAS.gateControlRequest pipeId qId batchId action afcValue), ?_, ?_⟩,
    es.map (StreamGateControlList.streamGateRequest streamGateId gateState ipv intervalIdentifier
      maxOctetsInterval), ?_, ?_⟩
  · unfold TAS.rangeToTernaryEntries
    rw [run]
    rfl
  · rw [ternaryPairs_map (fun _ => rfl)]
    exact cover
  · unfold StreamGateControlList.rangeToTernaryEntries
    rw [run]
    rfl
  · rw [ternaryPairs_map (fun _ => rfl)]
    exact cover

theorem rangeToTernaryEntries_exactCover_sample :
    (∃ requests, TAS.rangeToTernaryEntries 6 13 1 3 0 .openQueue 0 = .ok requests ∧
        ExactCover 6 13 (ternaryPairs .gclTimeDiffTs requests)) ∧
      ∃ requests, StreamGateControlList.rangeToTernaryEntries 1 6 13 1 0 0 100 = .ok requests ∧
        ExactCover 6 13 (ternaryPairs .diffTs requests) :=
  rangeToTernaryEntries_exactCover (by decide) (by decide) 1 3 0 .openQueue 0 1 1 0 0 100

/-! ## The top of the range -/

theorem alignSize_onlyOverflow (cur : U32) : OnlyOverflow (alignSize cur) := by
  unfold alignSize
  split
  · exact .checkedShl 1 31
  · exact .checkedShl 1 cur.ctz

theorem blockSize_onlyOverflow (cur last : U32) : OnlyOverflow (blockSize cur last) :=
  .bind (.checkedSub _ _) fun _ _ => .bind (.checkedAdd _ _) fun _ _ =>
    .bind (.checkedSub _ _) fun _ _ => .bind (.checkedShl _ _) fun _ _ =>
      .bind (alignSize_onlyOverflow cur) fun _ _ => .ok _

/-- The loop has enough passes for every range, so that it can only fail for an overflow. -/
theorem ternaryBlocksLoop_onlyOverflow {fuel : Nat} {cur last : U32}
    (enough : last.toNat + 2 ≤ fuel + cur.toNat) (positive : 0 < fuel) :
    OnlyOverflow (ternaryBlocksLoop fuel cur last) := by
  induction fuel generalizing cur with
  | zero => omega
  | succ fuel ih =>
    rw [ternaryBlocksLoop]
    split
    · rename_i more
      split
      · exact .ok _
      · rename_i notLast
        have lt : cur.toNat < last.toNat := by
          have le : cur.toNat ≤ last.toNat := more
          have ne : cur.toNat ≠ last.toNat := fun same => notLast (BitVec.eq_of_toNat_eq same)
          omega
        refine .bind (blockSize_onlyOverflow cur last) fun size sizeRun => ?_
        refine .bind (.checkedSub size 1) fun below _ => ?_
        refine .bind (.checkedAdd cur size) fun next nextRun => ?_
        rcases blockSize_spec lt sizeRun with ⟨exp, isSize⟩
        have moved : 0 < size.toNat := isSize.size_eq ▸ Nat.two_pow_pos exp
        have nextEq := checkedAdd_eq_ok.mp nextRun
        exact .bind (ih (by omega) (by omega)) fun _ _ => .ok _
    · exact .ok _

/-- A loop that returns on a range up to `u32::MAX` has left it at the single key `u32::MAX`. -/
theorem ternaryBlocksLoop_top {fuel : Nat} {cur last : U32} {es : List (U32 × U32)}
    (top : last.toNat = 2 ^ 32 - 1) (run : ternaryBlocksLoop fuel cur last = .ok es) :
    (last, 0xFFFFFFFF) ∈ es := by
  induction fuel generalizing cur es with
  | zero => cases run
  | succ fuel ih =>
    have more : cur ≤ last := by
      have bound := cur.isLt
      have le : cur.toNat ≤ last.toNat := by omega
      exact le
    rw [ternaryBlocksLoop, if_pos more] at run
    split at run
    · rename_i final
      cases run
      rw [final]
      exact List.mem_singleton_self _
    · rcases Fallible.bind_eq_ok.mp run with ⟨size, _, run⟩
      rcases Fallible.bind_eq_ok.mp run with ⟨below, _, run⟩
      rcases Fallible.bind_eq_ok.mp run with ⟨next, _, run⟩
      rcases Fallible.bind_eq_ok.mp run with ⟨rest, restRun, run⟩
      cases run
      exact List.mem_cons_of_mem _ (ih restRun)

/-- The single key `u32::MAX` is no maximal block of a longer range, so the loop does not return. -/
theorem ternaryBlocks_overflows {start last : U32} (top : last.toNat = 2 ^ 32 - 1)
    (several : start ≠ last) : ternaryBlocks start last = .error .overflow := by
  have lt : start.toNat < last.toNat := by
    have bound := start.isLt
    have ne : start.toNat ≠ last.toNat := fun same => several (BitVec.eq_of_toNat_eq same)
    omega
  cases run : ternaryBlocks start last with
  | error p =>
    have overflow := ternaryBlocksLoop_onlyOverflow (by omega) (by omega) p run
    rw [overflow]
  | ok es =>
    have member := ternaryBlocksLoop_top top run
    rcases (ternaryBlocks_mem_iff lt.le run).1 _ member with ⟨b, maximal, isEntry⟩
    have base_eq : b.base = 2 ^ 32 - 1 := isEntry.1.symm.trans top
    have mask : prefixMask 32 b.exp = 2 ^ 32 - 1 := isEntry.2.1.symm
    have single : 2 ^ b.exp = 2 ^ 0 := by
      have bound : 2 ^ b.exp ≤ 2 ^ 32 := Nat.pow_le_pow_right (by decide) isEntry.2.2.1.le
      unfold prefixMask at mask
      omega
    have exp_eq : b.exp = 0 := Nat.pow_right_injective (le_refl 2) single
    have parent_eq := parent_of_single exp_eq
    have outside := maximal.maximal
    omega

/-- The range ends below `u32::MAX`, or is a single key. -/
def BelowTop (start last : U32) : Prop :=
  last.toNat < 2 ^ 32 - 1 ∨ start = last

theorem ternaryBlocks_belowTop {start last : U32} (below : BelowTop start last) :
    ∃ es, ternaryBlocks start last = .ok es := by
  rcases below with below | rfl
  · exact ternaryBlocks_returns below
  · refine ⟨[(start, 0xFFFFFFFF)], ?_⟩
    unfold ternaryBlocks
    rw [ternaryBlocksLoop, if_pos (by exact le_refl start.toNat), if_pos rfl]

/-- On any other range the loop overflows. -/
theorem ternaryBlocks_aboveTop {start last : U32} (above : ¬ BelowTop start last) :
    ternaryBlocks start last = .error .overflow := by
  have bound := last.isLt
  unfold BelowTop at above
  exact ternaryBlocks_overflows (by omega) fun same => above (.inr same)

theorem ternaryBlocks_returns_iff {start last : U32} :
    (∃ es, ternaryBlocks start last = .ok es) ↔ BelowTop start last := by
  refine ⟨?_, ternaryBlocks_belowTop⟩
  intro h
  obtain ⟨es, run⟩ := h
  by_contra above
  rw [ternaryBlocks_aboveTop above] at run
  cases run

/-- All four loops return on the range: none of them overflows or fails to end. -/
structure LoopsReturn (start last : U32) (pipeId qId batchId : U8) (action : Action)
    (afcValue streamGateId : U32) (gateState ipv : U8)
    (intervalIdentifier maxOctetsInterval : U32) : Prop where
  tas : ∃ requests,
    TAS.rangeToTernaryEntries start last pipeId qId batchId action afcValue = .ok requests
  streamGate : ∃ requests, StreamGateControlList.rangeToTernaryEntries streamGateId start last
    gateState ipv intervalIdentifier maxOctetsInterval = .ok requests
  entries : ∃ entries, EvaluateTernaryEntries.ternaryEntriesOptimized start last = .ok entries
  count : ∃ count, EvaluateTernaryEntries.countTernaryEntriesOptimized start last = .ok count

/-- The four loops return exactly on the ranges that end below `u32::MAX` and on the single key
`u32::MAX`; on any other range each of them overflows. -/
theorem rangeToTernaryEntries_total_iff (start last : U32) (pipeId qId batchId : U8)
    (action : Action) (afcValue streamGateId : U32) (gateState ipv : U8)
    (intervalIdentifier maxOctetsInterval : U32) :
    (LoopsReturn start last pipeId qId batchId action afcValue streamGateId gateState ipv
        intervalIdentifier maxOctetsInterval ↔ BelowTop start last) ∧
      (¬ BelowTop start last →
        TAS.rangeToTernaryEntries start last pipeId qId batchId action afcValue =
            .error .overflow ∧
          StreamGateControlList.rangeToTernaryEntries streamGateId start last gateState ipv
            intervalIdentifier maxOctetsInterval = .error .overflow ∧
          EvaluateTernaryEntries.ternaryEntriesOptimized start last = .error .overflow ∧
          EvaluateTernaryEntries.countTernaryEntriesOptimized start last = .error .overflow) := by
  refine ⟨⟨?_, ?_⟩, ?_⟩
  · intro returns
    rcases returns.entries with ⟨entries, run⟩
    rw [EvaluateTernaryEntries.ternaryEntriesOptimized_eq] at run
    exact ternaryBlocks_returns_iff.mp ⟨entries, run⟩
  · intro below
    rcases ternaryBlocks_belowTop below with ⟨es, run⟩
    refine ⟨?_, ?_, ?_, ?_⟩
    · unfold TAS.rangeToTernaryEntries
      rw [run]
      exact ⟨_, rfl⟩
    · unfold StreamGateControlList.rangeToTernaryEntries
      rw [run]
      exact ⟨_, rfl⟩
    · rw [EvaluateTernaryEntries.ternaryEntriesOptimized_eq, run]
      exact ⟨_, rfl⟩
    · rw [EvaluateTernaryEntries.countTernaryEntriesOptimized_eq, run]
      exact ⟨_, rfl⟩
  · intro above
    rw [EvaluateTernaryEntries.ternaryEntriesOptimized_eq,
      EvaluateTernaryEntries.countTernaryEntriesOptimized_eq]
    unfold TAS.rangeToTernaryEntries StreamGateControlList.rangeToTernaryEntries
    rw [ternaryBlocks_aboveTop above]
    exact ⟨rfl, rfl, rfl, rfl⟩

/-- The upper half of the range is one block, after which `cur += size` overflows. -/
theorem upper_half_overflows :
    TAS.rangeToTernaryEntries 0x80000000 0xFFFFFFFF 1 3 0 .openQueue 0 = .error .overflow ∧
      StreamGateControlList.rangeToTernaryEntries 1 0x80000000 0xFFFFFFFF 1 0 0 100 =
        .error .overflow ∧
      EvaluateTernaryEntries.ternaryEntriesOptimized 0x80000000 0xFFFFFFFF = .error .overflow ∧
      EvaluateTernaryEntries.countTernaryEntriesOptimized 0x80000000 0xFFFFFFFF =
        .error .overflow := by
  decide +kernel

end P4Tas.Controller
