import P4Tas.Controller.RangeToTernary

/-!
# The evaluation of table sizes

`bin/evaluate_ternary_entries.rs`: a program of its own that predicts how many entries a GCL needs.
It has copies of the decomposition, one that counts and one that returns the pairs, and it lays out
guarded slices with a cursor.

* `countLoop_eq`, `entriesLoop_eq`: the copies run in step with the controller's loop, so that they
  return when it does and panic when it does.
-/

namespace P4Tas.Controller

namespace EvaluateTernaryEntries

/-! ## The copies of the decomposition -/

/-- `while cur <= end` of `count_ternary_entries_optimized`, with a bound on the number of
passes. -/
def countLoop : Nat → U32 → U32 → Nat → Rust Nat
  | 0, _, _, _ => .error .outOfFuel
  | fuel + 1, cur, last, count =>
    if cur ≤ last then
      if cur = last then
        .ok (count + 1)
      else do
        let size ← blockSize cur last
        let next ← checkedAdd cur size
        countLoop fuel next last (count + 1)
    else
      .ok count

def countTernaryEntriesOptimized (start last : U32) : Rust Nat :=
  if start > last then .ok 0 else countLoop (last.toNat - start.toNat + 2) start last 0

/-- `while cur <= end` of `ternary_entries_optimized`, which pushes to `entries`. -/
def entriesLoop : Nat → U32 → U32 → List (U32 × U32) → Rust (List (U32 × U32))
  | 0, _, _, _ => .error .outOfFuel
  | fuel + 1, cur, last, entries =>
    if cur ≤ last then
      if cur = last then
        .ok (entries ++ [(cur, 0xFFFFFFFF)])
      else do
        let size ← blockSize cur last
        let below ← checkedSub size 1
        let next ← checkedAdd cur size
        entriesLoop fuel next last (entries ++ [(cur, ~~~below)])
    else
      .ok entries

def ternaryEntriesOptimized (start last : U32) : Rust (List (U32 × U32)) :=
  if start > last then .ok [] else entriesLoop (last.toNat - start.toNat + 2) start last []

/-! ## Guarded slices -/

structure TASTimeSlice where
  low : U32
  high : U32
  numQueueStates : Nat
  deriving DecidableEq, Repr

structure TASConfig where
  timeSlices : List TASTimeSlice

/-- The passes that remain of the loop over the slices, from `cursor`. -/
def equalTasSlicesFrom (sliceWidth guardBand : U32) (numQueueStatesPerSlice : Nat) :
    Nat → U32 → Rust (List TASTimeSlice)
  | 0, _ => .ok []
  | passes + 1, cursor => do
    let contentHigh ← checkedAdd cursor sliceWidth
    let content := { low := cursor, high := contentHigh, numQueueStates := numQueueStatesPerSlice }
    if guardBand > 0 then
      let gbHigh ← checkedAdd contentHigh guardBand
      let gb := { low := contentHigh, high := gbHigh, numQueueStates := numQueueStatesPerSlice }
      let slices ← equalTasSlicesFrom sliceWidth guardBand numQueueStatesPerSlice passes gbHigh
      return content :: gb :: slices
    else
      let slices ← equalTasSlicesFrom sliceWidth guardBand numQueueStatesPerSlice passes contentHigh
      return content :: slices

def makeEqualTasSlices (period : U32) (numSlices : Nat) (guardBand : U32)
    (numQueueStatesPerSlice : Nat) : Rust (List TASTimeSlice) := do
  let sliceWidth ← checkedDiv period (BitVec.ofNat 32 numSlices)
  equalTasSlicesFrom sliceWidth guardBand numQueueStatesPerSlice numSlices 0

/-- The sum over the slices of the number of queues times the number of entries of the range. -/
def countTasEntriesOptimized (config : TASConfig) : Rust Nat := do
  let counts ← config.timeSlices.mapM fun ts => do
    let count ← countTernaryEntriesOptimized ts.low ts.high
    return ts.numQueueStates * count
  return counts.sum

example : makeEqualTasSlices 21 2 3 8 =
    .ok [⟨0, 10, 8⟩, ⟨10, 13, 8⟩, ⟨13, 23, 8⟩, ⟨23, 26, 8⟩] := by decide +kernel

/-! ## The copies agree with the controller -/

/-- The copy that returns pairs appends what the controller's loop emits. -/
theorem entriesLoop_eq (fuel : Nat) (cur last : U32) (entries : List (U32 × U32)) :
    entriesLoop fuel cur last entries =
      (ternaryBlocksLoop fuel cur last).map fun blocks => entries ++ blocks := by
  induction fuel generalizing cur entries with
  | zero => rfl
  | succ fuel ih =>
    rw [entriesLoop, ternaryBlocksLoop]
    split
    · split
      · rfl
      · cases blockSize cur last with
        | error p => rfl
        | ok size =>
          rw [Fallible.ok_bind, Fallible.ok_bind]
          cases checkedSub size 1 with
          | error p => rfl
          | ok below =>
            rw [Fallible.ok_bind, Fallible.ok_bind]
            cases checkedAdd cur size with
            | error p => rfl
            | ok next =>
              rw [Fallible.ok_bind, Fallible.ok_bind, ih]
              cases ternaryBlocksLoop fuel next last with
              | error p => rfl
              | ok rest =>
                rw [Fallible.ok_bind]
                simp [Except.map, pure, Except.pure]
    · simp [Except.map]

/-- The copy that counts adds the number of pairs the controller's loop emits. -/
theorem countLoop_eq (fuel : Nat) (cur last : U32) (count : Nat) :
    countLoop fuel cur last count =
      (ternaryBlocksLoop fuel cur last).map fun blocks => count + blocks.length := by
  induction fuel generalizing cur count with
  | zero => rfl
  | succ fuel ih =>
    rw [countLoop, ternaryBlocksLoop]
    split
    · rename_i le
      split
      · rfl
      · rename_i notLast
        cases sizeRun : blockSize cur last with
        | error p => rfl
        | ok size =>
          -- the mask is not computed here, but computing it does not panic
          have lt : cur.toNat < last.toNat := by
            have ne : cur.toNat ≠ last.toNat := fun same => notLast (BitVec.eq_of_toNat_eq same)
            have le : cur.toNat ≤ last.toNat := le
            omega
          rcases blockSize_spec lt sizeRun with ⟨exp, isSize⟩
          have positive : (1 : U32).toNat ≤ size.toNat := isSize.size_eq ▸ Nat.two_pow_pos exp
          rcases checkedSub_returns positive with ⟨below, belowRun⟩
          rw [Fallible.ok_bind, Fallible.ok_bind, belowRun, Fallible.ok_bind]
          cases checkedAdd cur size with
          | error p => rfl
          | ok next =>
            rw [Fallible.ok_bind, Fallible.ok_bind, ih]
            cases ternaryBlocksLoop fuel next last with
            | error p => rfl
            | ok rest =>
              rw [Fallible.ok_bind]
              simp only [Except.map, pure, Except.pure, Except.ok.injEq, List.length_cons]
              omega
    · simp [Except.map]

theorem ternaryEntriesOptimized_eq (start last : U32) :
    ternaryEntriesOptimized start last = ternaryBlocks start last := by
  unfold ternaryEntriesOptimized
  split
  · rename_i gt
    exact (ternaryBlocks_empty gt).symm
  · rw [entriesLoop_eq]
    unfold ternaryBlocks
    cases ternaryBlocksLoop (last.toNat - start.toNat + 2) start last with
    | error p => rfl
    | ok blocks => rfl

theorem countTernaryEntriesOptimized_eq (start last : U32) :
    countTernaryEntriesOptimized start last =
      (ternaryBlocks start last).map fun blocks => blocks.length := by
  unfold countTernaryEntriesOptimized
  split
  · rename_i gt
    rw [ternaryBlocks_empty gt]
    rfl
  · rw [countLoop_eq]
    unfold ternaryBlocks
    simp only [Nat.zero_add]

end EvaluateTernaryEntries

end P4Tas.Controller
