import P4Tas.Controller.EvaluateTernaryEntries
import P4Tas.Lib.MinimalCover

/-!
# The original decomposition

The loops that `bin/evaluate_ternary_entries.rs` keeps for comparison.  They take the distance to
the end of the range for the number of keys that remain, and a start of 0 for a single key, so that
they choose smaller blocks than the optimised loops, but a tiling all the same.

* `ternaryEntriesLoop_tiles`: the loops return on every range, `u32::MAX` included, with the
  entries of a tiling and their number.
* `ternaryEntries_equivalent`: so they accept the keys the optimised loops accept, with at least as
  many entries.
-/

namespace P4Tas.Controller

open TernaryCover

namespace EvaluateTernaryEntries

/-! ## The loops -/

/-- `align_size` of the original loops: a start of 0 is aligned to nothing. -/
def originalAlignSize (cur : U32) : Rust U32 :=
  if cur = 0 then .ok 1 else checkedShl 1 cur.ctz

/-- `max_block_size.min(align_size)` of one pass with `remaining` not 0. -/
def originalBlockSize (cur remaining : U32) : Rust U32 := do
  let exponent ← checkedSub 31 remaining.clz
  let maxBlockSize ← checkedShl 1 exponent
  let align ← originalAlignSize cur
  return if maxBlockSize ≤ align then maxBlockSize else align

/-- `while cur <= end` of `count_ternary_entries`, with a bound on the number of passes. -/
def countTernaryEntriesLoop : Nat → U32 → U32 → Nat → Rust Nat
  | 0, _, _, _ => .error .outOfFuel
  | fuel + 1, cur, last, count =>
    if cur ≤ last then do
      let remaining ← checkedSub last cur
      if remaining = 0 then
        .ok (count + 1)
      else do
        let size ← originalBlockSize cur remaining
        let next ← checkedAdd cur size
        countTernaryEntriesLoop fuel next last (count + 1)
    else
      .ok count

def countTernaryEntries (start last : U32) : Rust Nat :=
  if start > last then
    .ok 0
  else
    countTernaryEntriesLoop (last.toNat - start.toNat + 2) start last 0

/-- `while cur <= end` of `ternary_entries`, which pushes to `entries`. -/
def ternaryEntriesLoop : Nat → U32 → U32 → List (U32 × U32) → Rust (List (U32 × U32))
  | 0, _, _, _ => .error .outOfFuel
  | fuel + 1, cur, last, entries =>
    if cur ≤ last then do
      let remaining ← checkedSub last cur
      if remaining = 0 then
        .ok (entries ++ [(cur, 0xFFFFFFFF)])
      else do
        let size ← originalBlockSize cur remaining
        let below ← checkedSub size 1
        let next ← checkedAdd cur size
        ternaryEntriesLoop fuel next last (entries ++ [(cur, ~~~below)])
    else
      .ok entries

def ternaryEntries (start last : U32) : Rust (List (U32 × U32)) :=
  if start > last then
    .ok []
  else
    ternaryEntriesLoop (last.toNat - start.toNat + 2) start last []

example : ternaryEntries 0 7 = .ok [(0, 0xFFFFFFFF), (1, 0xFFFFFFFF), (2, 0xFFFFFFFE),
    (4, 0xFFFFFFFE), (6, 0xFFFFFFFF), (7, 0xFFFFFFFF)] := by decide +kernel

/-! ## One pass -/

/-- `align_size` is a power of two that divides `cur`. -/
theorem originalAlignSize_spec (cur : U32) :
    ∃ align k, originalAlignSize cur = .ok align ∧ k < 32 ∧ align.toNat = 2 ^ k ∧
      2 ^ k ∣ cur.toNat := by
  unfold originalAlignSize
  by_cases start : cur = 0
  · rw [if_pos start]
    exact ⟨1, 0, rfl, by decide, rfl, Nat.one_dvd _⟩
  · rw [if_neg start]
    have small := BitVec.lt_def.mp (BitVec.ctz_lt_iff_ne_zero.mpr start)
    rcases checkedShl_returns (a := (1 : U32)) small with ⟨align, run⟩
    have alignEq := checkedShl_one_eq_ok.mp run
    exact ⟨align, _, run, alignEq.1, alignEq.2, (dvd_two_pow_ctz start).1⟩

/-- A pass does not panic: it takes an aligned block that ends before the last key. -/
theorem originalBlockSize_spec {cur remaining : U32} (nonzero : remaining ≠ 0) :
    ∃ size exp, originalBlockSize cur remaining = .ok size ∧ size.toNat = 2 ^ exp ∧ exp < 32 ∧
      2 ^ exp ∣ cur.toNat ∧ 2 ^ exp ≤ remaining.toNat := by
  have thirtyOne : (31 : U32).toNat = 31 := rfl
  rcases two_pow_clz_bounds nonzero with ⟨clzLe, fits, _⟩
  rcases checkedSub_returns (a := 31) (b := remaining.clz) (by omega) with ⟨exponent, exponentRun⟩
  have exponentEq := checkedSub_eq_ok.mp exponentRun
  rw [show 31 - remaining.clz.toNat = exponent.toNat by omega] at fits
  rcases checkedShl_returns (a := (1 : U32)) (n := exponent) (by omega) with ⟨maxBlock, maxRun⟩
  have maxEq := (checkedShl_one_eq_ok.mp maxRun).2
  rcases originalAlignSize_spec cur with ⟨align, k, alignRun, kLt, alignEq, divides⟩
  unfold originalBlockSize
  simp only [exponentRun, maxRun, alignRun, Fallible.ok_bind]
  rcases Decidable.em (maxBlock ≤ align) with small | large
  · -- the distance limits the block
    have le : maxBlock.toNat ≤ align.toNat := small
    rw [maxEq, alignEq] at le
    have expLe : exponent.toNat ≤ k := (Nat.pow_le_pow_iff_right (by decide)).mp le
    rw [if_pos small]
    exact ⟨maxBlock, exponent.toNat, rfl, maxEq, by omega, (Nat.pow_dvd_pow 2 expLe).trans divides,
      fits⟩
  · -- the alignment of `cur` limits the block
    have lt : align.toNat < maxBlock.toNat := Nat.lt_of_not_le large
    rw [if_neg large]
    exact ⟨align, k, rfl, alignEq, kLt, divides, by omega⟩

/-! ## The whole loop -/

/-- Both loops return, with the entries of a tiling and their number.  No block contains the last
key before the final pass, so `cur += size` stays within the range. -/
theorem ternaryEntriesLoop_tiles {fuel : Nat} {cur last : U32} (le : cur.toNat ≤ last.toNat)
    (enough : last.toNat + 1 ≤ fuel + cur.toNat) :
    ∃ es bs, (∀ entries, ternaryEntriesLoop fuel cur last entries = .ok (entries ++ es)) ∧
      (∀ count, countTernaryEntriesLoop fuel cur last count = .ok (count + es.length)) ∧
      Tiles cur.toNat (last.toNat + 1) bs ∧ List.Forall₂ IsEntry es bs := by
  induction fuel generalizing cur with
  | zero => omega
  | succ fuel ih =>
    have more : cur ≤ last := le
    rcases checkedSub_returns le with ⟨remaining, remainingRun⟩
    have remainingEq := checkedSub_eq_ok.mp remainingRun
    by_cases final : remaining = 0
    · -- the last key
      have base_eq : last.toNat = cur.toNat := by
        rw [remainingEq, final]
        rfl
      let b : Block := ⟨cur.toNat, 0, Nat.one_dvd _⟩
      have done : Tiles b.stop (last.toNat + 1) [] := base_eq ▸ .nil _
      refine ⟨[(cur, 0xFFFFFFFF)], [b], fun entries => ?_, fun count => ?_, .cons done,
        .cons ⟨rfl, rfl, Nat.zero_lt_succ 31, cur.isLt⟩ .nil⟩
      · rw [ternaryEntriesLoop, if_pos more, remainingRun, Fallible.ok_bind, if_pos final]
      · rw [countTernaryEntriesLoop, if_pos more, remainingRun, Fallible.ok_bind, if_pos final]
        rfl
    · rcases originalBlockSize_spec final with ⟨size, exp, sizeRun, sizeEq, expLt, aligned, fits⟩
      have positive := Nat.two_pow_pos exp
      have bound := last.isLt
      rcases checkedSub_returns (a := size) (b := 1) (sizeEq ▸ positive) with ⟨below, belowRun⟩
      rcases checkedAdd_returns (a := cur) (b := size) (by omega) with ⟨next, nextRun⟩
      have nextEq := checkedAdd_eq_ok.mp nextRun
      have mask := toNat_not_pred sizeEq (checkedSub_eq_ok.mp belowRun)
      let b : Block := ⟨cur.toNat, exp, aligned⟩
      have stop : b.stop = next.toNat := by
        rw [nextEq, sizeEq]
        rfl
      have rest : ∃ es bs,
          (∀ entries, ternaryEntriesLoop fuel next last entries = .ok (entries ++ es)) ∧
            (∀ count, countTernaryEntriesLoop fuel next last count = .ok (count + es.length)) ∧
            Tiles next.toNat (last.toNat + 1) bs ∧ List.Forall₂ IsEntry es bs :=
        ih (by omega) (by omega)
      rcases rest with ⟨es, bs, entriesRun, countRun, tiles, isEntries⟩
      refine ⟨(cur, ~~~below) :: es, b :: bs, fun entries => ?_, fun count => ?_,
        .cons (stop ▸ tiles), .cons ⟨rfl, mask, expLt, cur.isLt⟩ isEntries⟩
      · rw [ternaryEntriesLoop, if_pos more, remainingRun, Fallible.ok_bind, if_neg final, sizeRun,
          Fallible.ok_bind, belowRun, Fallible.ok_bind, nextRun, Fallible.ok_bind, entriesRun,
          List.append_assoc, List.singleton_append]
      · rw [countTernaryEntriesLoop, if_pos more, remainingRun, Fallible.ok_bind, if_neg final,
          sizeRun, Fallible.ok_bind, nextRun, Fallible.ok_bind, countRun, List.length_cons,
          Nat.add_assoc, Nat.add_comm 1]

theorem ternaryEntries_tiles {start last : U32} (le : start.toNat ≤ last.toNat) :
    ∃ es bs, ternaryEntries start last = .ok es ∧
      countTernaryEntries start last = .ok es.length ∧
      Tiles start.toNat (last.toNat + 1) bs ∧ List.Forall₂ IsEntry es bs := by
  have inOrder : ¬ start > last := Nat.not_lt_of_le le
  have enough : last.toNat + 1 ≤ last.toNat - start.toNat + 2 + start.toNat := by omega
  rcases ternaryEntriesLoop_tiles le enough with ⟨es, bs, entriesRun, countRun, tiles, isEntries⟩
  refine ⟨es, bs, ?_, ?_, tiles, isEntries⟩
  · unfold ternaryEntries
    rw [if_neg inOrder, entriesRun, List.nil_append]
  · unfold countTernaryEntries
    rw [if_neg inOrder, countRun, Nat.zero_add]

/-- Some entry accepts the key. -/
def Accepts (es : List (U32 × U32)) (x : U32) : Prop :=
  ∃ e ∈ es, Matches e.1.toNat e.2.toNat x.toNat

theorem accepts_iff {es : List (U32 × U32)} {x : U32} :
    Accepts es x ↔ (accepting x.toNat es).length ≠ 0 := by
  unfold Accepts accepting
  rw [ne_eq, List.length_eq_zero_iff, List.filter_eq_nil_iff]
  simp only [decide_eq_true_eq, not_forall, not_not, exists_prop]

/-- The original loops return on every range, with entries of which one accepts a key of the range
and none any other key, and with their number.  On a range that ends below `u32::MAX` the optimised
entries accept the same keys, and are at most as many. -/
theorem ternaryEntries_equivalent (start last : U32) :
    ∃ entries, ternaryEntries start last = .ok entries ∧
      (∀ x : U32, (accepting x.toNat entries).length =
        if start ≤ x ∧ x ≤ last then 1 else 0) ∧
      countTernaryEntries start last = .ok entries.length ∧
      (last.toNat < 2 ^ 32 - 1 → ∃ optimized, ternaryEntriesOptimized start last = .ok optimized ∧
        (∀ x, Accepts optimized x ↔ Accepts entries x) ∧ optimized.length ≤ entries.length) := by
  rcases Nat.lt_or_ge last.toNat start.toNat with reversed | le
  · -- no pass at all
    have empty : start > last := reversed
    refine ⟨[], if_pos empty, fun x => ?_, if_pos empty, fun _ => ?_⟩
    · have outside : ¬ (start ≤ x ∧ x ≤ last) := by
        intro inside
        have lower : start.toNat ≤ x.toNat := inside.1
        have upper : x.toNat ≤ last.toNat := inside.2
        omega
      rw [if_neg outside]
      rfl
    · exact ⟨[], if_pos empty, fun x => Iff.rfl, le_refl _⟩
  · rcases ternaryEntries_tiles le with ⟨es, bs, entriesRun, countRun, tiles, isEntries⟩
    have counted : ∀ x : U32, (accepting x.toNat es).length =
        if start ≤ x ∧ x ≤ last then 1 else 0 := by
      intro x
      have accepted := accepting_of_tiles tiles isEntries x.toNat
      rw [Nat.mod_eq_of_lt x.isLt] at accepted
      exact accepted
    refine ⟨es, entriesRun, counted, countRun, fun below => ?_⟩
    rcases (ternaryBlocks_returns below : ∃ es, ternaryBlocks start last = .ok es) with ⟨os, run⟩
    rcases ternaryBlocks_greedy le run with ⟨cs, greedy, isOptimized⟩
    refine ⟨os, (ternaryEntriesOptimized_eq start last).trans run, fun x => ?_, ?_⟩
    · have accepted := ternaryBlocks_accepting run x.toNat
      rw [Nat.mod_eq_of_lt x.isLt] at accepted
      rw [accepts_iff, accepts_iff, counted x, accepted]
      exact Iff.rfl
    · rw [isEntries.length_eq, isOptimized.length_eq]
      exact greedy.length_le_of_tiles tiles

end EvaluateTernaryEntries

end P4Tas.Controller
