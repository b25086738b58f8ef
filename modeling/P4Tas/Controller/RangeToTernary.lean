import P4Tas.Lib.KeyedList
import P4Tas.Lib.TernaryCover
import P4Tas.Request
import P4Tas.Rust

/-!
# The decomposition of a range into ternary entries

`TAS::range_to_ternary_entries` and `StreamGateControlList::range_to_ternary_entries` run the same
loop and differ only in the request they build for each entry.  `ternaryBlocks` is that loop with
the `(value, mask)` pairs as its result.

* `ternaryBlocks_greedy`: a run that returns has emitted the greedy tiling of the range.
* `ternaryBlocks_accepting`: hence every key in the range is accepted by exactly one entry, and
  every other key by none.
* `ternaryBlocks_hits`: and so a packet hits exactly one of the entries built for a range that
  contains its key.
* `ternaryBlocks_nodup`, `ternaryBlocks_common_iff`: no entry is emitted twice for one range, and
  two ranges have an entry in common when they share a maximal block.
* `ternaryBlocks_returns`: the loop returns whenever the range ends below `u32::MAX`.
-/

namespace P4Tas.Controller

open TernaryCover

/-! ## The loop -/

/-- `align_size`: a start of 0 is maximally aligned. -/
def alignSize (cur : U32) : Rust U32 :=
  if cur = 0 then checkedShl 1 31 else checkedShl 1 cur.ctz

/-- `max_block_size.min(align_size)` of one pass with `cur < end`. -/
def blockSize (cur last : U32) : Rust U32 := do
  let distance ← checkedSub last cur
  let numRemaining ← checkedAdd distance 1
  let exponent ← checkedSub 31 numRemaining.clz
  let maxBlockSize ← checkedShl 1 exponent
  let align ← alignSize cur
  return if maxBlockSize ≤ align then maxBlockSize else align

/-- `while cur <= end`, with a bound on the number of passes. -/
def ternaryBlocksLoop : Nat → U32 → U32 → Rust (List (U32 × U32))
  | 0, _, _ => .error .outOfFuel
  | fuel + 1, cur, last =>
    if cur ≤ last then
      if cur = last then
        .ok [(cur, 0xFFFFFFFF)]
      else do
        let size ← blockSize cur last
        let below ← checkedSub size 1
        let next ← checkedAdd cur size
        let rest ← ternaryBlocksLoop fuel next last
        return (cur, ~~~below) :: rest
    else
      .ok []

/-- The pairs of value and mask emitted for `[start, end]`. -/
def ternaryBlocks (start last : U32) : Rust (List (U32 × U32)) :=
  ternaryBlocksLoop (last.toNat - start.toNat + 2) start last

example : ternaryBlocks 6 13 =
    .ok [(6, 0xFFFFFFFE), (8, 0xFFFFFFFC), (12, 0xFFFFFFFE)] := by decide +kernel

/-! ## One pass -/

/-- A word is a multiple of two to the number of its trailing zeros, and of no higher power. -/
theorem dvd_two_pow_ctz {x : U32} (nonzero : x ≠ 0) :
    2 ^ x.ctz.toNat ∣ x.toNat ∧ ¬ 2 ^ (x.ctz.toNat + 1) ∣ x.toNat := by
  refine ⟨?_, ?_⟩
  · apply Nat.dvd_of_mod_eq_zero
    apply Nat.eq_of_testBit_eq
    intro i
    rw [Nat.testBit_mod_two_pow, Nat.zero_testBit, Bool.and_eq_false_iff]
    by_cases low : i < x.ctz.toNat
    · exact .inr (BitVec.getLsbD_false_of_lt_ctz low)
    · exact .inl (decide_eq_false low)
  · intro divides
    obtain ⟨n, multiple⟩ := divides
    have set : x.toNat.testBit x.ctz.toNat = true := BitVec.getLsbD_true_ctz_of_ne_zero nonzero
    rw [multiple, Nat.testBit_two_pow_mul] at set
    simp at set

/-- `1 << (31 - n.leading_zeros())` is the largest power of two up to `n`. -/
theorem two_pow_clz_bounds {n : U32} (nonzero : n ≠ 0) :
    n.clz.toNat ≤ 31 ∧ 2 ^ (31 - n.clz.toNat) ≤ n.toNat ∧
      n.toNat < 2 ^ (31 - n.clz.toNat + 1) := by
  have lower := BitVec.two_pow_sub_clz_le_toNat_of_ne_zero (w := 32) (by decide) nonzero
  have upper := BitVec.toNat_lt_two_pow_sub_clz (x := n)
  have small : n.clz.toNat ≤ 31 := by
    by_contra large
    have zero : 32 - n.clz.toNat = 0 := by omega
    rw [zero] at upper
    exact nonzero (BitVec.eq_of_toNat_eq (by simpa using upper))
  refine ⟨small, lower, ?_⟩
  rwa [show 31 - n.clz.toNat + 1 = 32 - n.clz.toNat by omega]

/-- `align_size` divides `cur`, and a larger power of two does not unless it exceeds `u32`. -/
theorem alignSize_spec {cur align : U32} (run : alignSize cur = .ok align) :
    ∃ k, k < 32 ∧ align.toNat = 2 ^ k ∧ 2 ^ k ∣ cur.toNat ∧
      (2 ^ (k + 1) ∣ cur.toNat → 2 ^ 32 ≤ 2 ^ (k + 1)) := by
  unfold alignSize at run
  by_cases start : cur = 0
  · rw [if_pos start] at run
    have alignEq := checkedShl_one_eq_ok.mp run
    exact ⟨31, by decide, alignEq.2, by rw [start]; exact Nat.dvd_zero _, fun _ => le_refl _⟩
  · rw [if_neg start] at run
    have alignEq := checkedShl_one_eq_ok.mp run
    have divides := dvd_two_pow_ctz start
    exact ⟨_, alignEq.1, alignEq.2, divides.1, fun more => absurd more divides.2⟩

/-- The size of one pass is the largest power of two that is aligned at `cur` and fits. -/
structure IsBlockSize (cur last size exp : Nat) : Prop where
  size_eq : size = 2 ^ exp
  exp_lt : exp < 32
  aligned : 2 ^ exp ∣ cur
  fits : cur + 2 ^ exp ≤ last + 1
  maximal : ¬ (2 ^ (exp + 1) ∣ cur ∧ cur + 2 ^ (exp + 1) ≤ last + 1)

/-- What `blockSize` returns, if it returns. -/
theorem blockSize_spec {cur last size : U32} (lt : cur.toNat < last.toNat)
    (run : blockSize cur last = .ok size) :
    ∃ exp, IsBlockSize cur.toNat last.toNat size.toNat exp := by
  unfold blockSize at run
  obtain ⟨distance, distanceRun, run⟩ := Fallible.bind_eq_ok.mp run
  obtain ⟨remaining, remainingRun, run⟩ := Fallible.bind_eq_ok.mp run
  obtain ⟨exponent, exponentRun, run⟩ := Fallible.bind_eq_ok.mp run
  obtain ⟨maxBlock, maxRun, run⟩ := Fallible.bind_eq_ok.mp run
  obtain ⟨align, alignRun, run⟩ := Fallible.bind_eq_ok.mp run
  have distanceEq := checkedSub_eq_ok.mp distanceRun
  have remainingEq := checkedAdd_eq_ok.mp remainingRun
  have exponentEq := checkedSub_eq_ok.mp exponentRun
  have maxEq := (checkedShl_one_eq_ok.mp maxRun).2
  have one : (1 : U32).toNat = 1 := rfl
  have thirtyOne : (31 : U32).toNat = 31 := rfl
  have nonzero : remaining ≠ 0 := by
    intro zero
    have : remaining.toNat = 0 := by rw [zero]; rfl
    omega
  obtain ⟨_, below, above⟩ := two_pow_clz_bounds nonzero
  rw [show 31 - remaining.clz.toNat = exponent.toNat by omega] at below above
  obtain ⟨k, kLt, alignEq, divides, exact⟩ := alignSize_spec alignRun
  have sizeEq := Except.ok.inj run
  by_cases small : maxBlock ≤ align
  · -- the remaining count limits the block
    rw [if_pos small] at sizeEq
    have le : maxBlock.toNat ≤ align.toNat := small
    have expLe : exponent.toNat ≤ k := by
      rw [maxEq, alignEq] at le
      exact (Nat.pow_le_pow_iff_right (by decide)).mp le
    refine ⟨exponent.toNat, by rw [← sizeEq, maxEq], by omega,
      (Nat.pow_dvd_pow 2 expLe).trans divides, by omega, ?_⟩
    intro bigger
    omega
  · -- the alignment of `cur` limits the block
    rw [if_neg small] at sizeEq
    have gt : align.toNat < maxBlock.toNat := Nat.lt_of_not_le small
    refine ⟨k, by rw [← sizeEq, alignEq], kLt, divides, by omega, ?_⟩
    intro bigger
    have overshoot := exact bigger.1
    have expLt : k + 1 ≤ exponent.toNat := by
      rw [alignEq, maxEq] at gt
      exact (Nat.pow_lt_pow_iff_right (by decide)).mp gt
    have wider : 2 ^ (k + 1) ≤ 2 ^ exponent.toNat := Nat.pow_le_pow_right (by decide) expLt
    omega

/-- A pass does not panic, except for the full range `[0, u32::MAX]`. -/
theorem blockSize_returns {cur last : U32} (lt : cur.toNat < last.toNat)
    (bound : last.toNat < 2 ^ 32 - 1) : ∃ size, blockSize cur last = .ok size := by
  have thirtyOne : (31 : U32).toNat = 31 := rfl
  obtain ⟨distance, distanceRun⟩ := checkedSub_returns (a := last) (b := cur) (by omega)
  have distanceEq := checkedSub_eq_ok.mp distanceRun
  obtain ⟨remaining, remainingRun, remainingEq⟩ :=
    checkedAdd_one_returns (a := distance) (by omega)
  have nonzero : remaining ≠ 0 := by
    intro zero
    have : remaining.toNat = 0 := by rw [zero]; rfl
    omega
  have clzLe := (two_pow_clz_bounds nonzero).1
  obtain ⟨exponent, exponentRun⟩ := checkedSub_returns (a := 31) (b := remaining.clz) (by omega)
  have exponentEq := checkedSub_eq_ok.mp exponentRun
  obtain ⟨maxBlock, maxRun⟩ := checkedShl_returns (a := (1 : U32)) (n := exponent) (by omega)
  have alignReturns : ∃ align, alignSize cur = .ok align := by
    unfold alignSize
    by_cases start : cur = 0
    · rw [if_pos start]
      exact checkedShl_returns (by decide)
    · rw [if_neg start]
      have small := BitVec.lt_def.mp (BitVec.ctz_lt_iff_ne_zero.mpr start)
      exact checkedShl_returns small
  obtain ⟨align, alignRun⟩ := alignReturns
  unfold blockSize
  simp only [distanceRun, remainingRun, exponentRun, maxRun, alignRun, Fallible.ok_bind]
  exact ⟨_, rfl⟩

/-! ## The whole loop -/

/-- The complement of `size - 1` fixes the bits from the exponent of the size upwards. -/
theorem toNat_not_pred {below size : U32} {exp : Nat} (sizeEq : size.toNat = 2 ^ exp)
    (belowEq : size.toNat = (1 : U32).toNat + below.toNat) :
    (~~~below).toNat = prefixMask 32 exp := by
  have one : (1 : U32).toNat = 1 := rfl
  rw [BitVec.toNat_not, prefixMask]
  omega

/-- An emitted pair is the entry of a block. -/
def IsEntry (e : U32 × U32) (b : Block) : Prop :=
  e.1.toNat = b.base ∧ e.2.toNat = prefixMask 32 b.exp ∧ b.exp < 32 ∧ b.base < 2 ^ 32

/-- One pass emits the largest aligned block at `cur`; the loop emits the greedy tiling. -/
theorem ternaryBlocksLoop_greedy {fuel : Nat} {cur last : U32} {es : List (U32 × U32)}
    (le : cur.toNat ≤ last.toNat + 1) (run : ternaryBlocksLoop fuel cur last = .ok es) :
    ∃ bs, Greedy cur.toNat (last.toNat + 1) bs ∧ List.Forall₂ IsEntry es bs := by
  induction fuel generalizing cur es with
  | zero => cases run
  | succ fuel ih =>
    rw [ternaryBlocksLoop] at run
    by_cases more : cur ≤ last
    · rw [if_pos more] at run
      by_cases final : cur = last
      · -- the remaining range is a single key
        rw [if_pos final] at run
        cases run
        subst final
        let b : Block := ⟨cur.toNat, 0, Nat.one_dvd _⟩
        have done : Greedy b.stop (cur.toNat + 1) [] := .nil _
        have maximal : ¬ (2 ^ (b.exp + 1) ∣ b.base ∧ b.base + 2 ^ (b.exp + 1) ≤ cur.toNat + 1) := by
          intro bigger
          have : cur.toNat + 2 ≤ cur.toNat + 1 := bigger.2
          omega
        exact ⟨[b], .cons maximal done, .cons ⟨rfl, rfl, Nat.zero_lt_succ 31, cur.isLt⟩ .nil⟩
      · rw [if_neg final] at run
        have lt : cur.toNat < last.toNat := by
          have le : cur.toNat ≤ last.toNat := more
          have ne : cur.toNat ≠ last.toNat := fun same => final (BitVec.eq_of_toNat_eq same)
          omega
        obtain ⟨size, sizeRun, run⟩ := Fallible.bind_eq_ok.mp run
        obtain ⟨below, belowRun, run⟩ := Fallible.bind_eq_ok.mp run
        obtain ⟨next, nextRun, run⟩ := Fallible.bind_eq_ok.mp run
        obtain ⟨rest, restRun, run⟩ := Fallible.bind_eq_ok.mp run
        cases run
        obtain ⟨exp, isSize⟩ := blockSize_spec lt sizeRun
        have nextEq := checkedAdd_eq_ok.mp nextRun
        let b : Block := ⟨cur.toNat, exp, isSize.aligned⟩
        have stop : b.stop = next.toNat := by
          rw [nextEq, isSize.size_eq]
          rfl
        have nextLe : next.toNat ≤ last.toNat + 1 := by
          rw [nextEq, isSize.size_eq]
          exact isSize.fits
        obtain ⟨bs, greedy, entries⟩ := ih nextLe restRun
        have mask := toNat_not_pred isSize.size_eq (checkedSub_eq_ok.mp belowRun)
        exact ⟨b :: bs, .cons isSize.maximal (stop ▸ greedy),
          .cons ⟨rfl, mask, isSize.exp_lt, cur.isLt⟩ entries⟩
    · rw [if_neg more] at run
      cases run
      have eq : cur.toNat = last.toNat + 1 := by
        have : ¬ cur.toNat ≤ last.toNat := more
        omega
      exact ⟨[], eq ▸ .nil _, .nil⟩

/-- The loop needs at most one pass for each key of the range, and one to leave. -/
theorem ternaryBlocksLoop_returns {fuel : Nat} {cur last : U32}
    (bound : last.toNat < 2 ^ 32 - 1) (enough : last.toNat + 2 ≤ fuel + cur.toNat)
    (pos : 0 < fuel) : ∃ es, ternaryBlocksLoop fuel cur last = .ok es := by
  induction fuel generalizing cur with
  | zero => omega
  | succ fuel ih =>
    rw [ternaryBlocksLoop]
    by_cases more : cur ≤ last
    · rw [if_pos more]
      by_cases final : cur = last
      · rw [if_pos final]
        exact ⟨_, rfl⟩
      · rw [if_neg final]
        have lt : cur.toNat < last.toNat := by
          have le : cur.toNat ≤ last.toNat := more
          have ne : cur.toNat ≠ last.toNat := fun same => final (BitVec.eq_of_toNat_eq same)
          omega
        obtain ⟨size, sizeRun⟩ := blockSize_returns lt bound
        obtain ⟨exp, isSize⟩ := blockSize_spec lt sizeRun
        have sizePos : 0 < size.toNat := isSize.size_eq ▸ Nat.two_pow_pos exp
        have fits : cur.toNat + size.toNat ≤ last.toNat + 1 := isSize.size_eq ▸ isSize.fits
        obtain ⟨below, belowRun⟩ := checkedSub_returns (a := size) (b := 1) sizePos
        obtain ⟨next, nextRun⟩ := checkedAdd_returns (a := cur) (b := size) (by omega)
        have nextEq := checkedAdd_eq_ok.mp nextRun
        obtain ⟨rest, restRun⟩ : ∃ es, ternaryBlocksLoop fuel next last = .ok es :=
          ih (by omega) (by omega)
        simp only [sizeRun, belowRun, nextRun, restRun, Fallible.ok_bind]
        exact ⟨_, rfl⟩
    · rw [if_neg more]
      exact ⟨_, rfl⟩

/-! ## What the entries accept -/

/-- A range that starts after its end has no entries. -/
theorem ternaryBlocks_empty {start last : U32} (gt : last.toNat < start.toNat) :
    ternaryBlocks start last = .ok [] := by
  have done : ¬ start ≤ last := Nat.not_le_of_lt gt
  unfold ternaryBlocks
  rw [show last.toNat - start.toNat + 2 = 1 + 1 by omega, ternaryBlocksLoop, if_neg done]

/-- A run that returns has emitted the greedy tiling of the range. -/
theorem ternaryBlocks_greedy {start last : U32} {es : List (U32 × U32)}
    (le : start.toNat ≤ last.toNat) (run : ternaryBlocks start last = .ok es) :
    ∃ bs, Greedy start.toNat (last.toNat + 1) bs ∧ List.Forall₂ IsEntry es bs :=
  ternaryBlocksLoop_greedy (by omega) run

theorem ternaryBlocks_returns {start last : U32} (bound : last.toNat < 2 ^ 32 - 1) :
    ∃ es, ternaryBlocks start last = .ok es :=
  ternaryBlocksLoop_returns bound (by omega) (by omega)

/-- The entry of a block accepts the keys whose low 32 bits lie in the block. -/
theorem IsEntry.matches_iff {e : U32 × U32} {b : Block} (isEntry : IsEntry e b) (key : Nat) :
    Matches e.1.toNat e.2.toNat key ↔ key % 2 ^ 32 ∈ b := by
  obtain ⟨value, mask, expLt, baseLt⟩ := isEntry
  rw [value, mask, matches_prefixMask_iff (by omega) b.aligned baseLt]
  exact Iff.rfl

/-- The entries that accept a key. -/
def accepting (key : Nat) (es : List (U32 × U32)) : List (U32 × U32) :=
  es.filter fun e => decide (Matches e.1.toNat e.2.toNat key)

theorem accepting_length {es : List (U32 × U32)} {bs : List Block}
    (entries : List.Forall₂ IsEntry es bs) (key : Nat) :
    (accepting key es).length = (bs.filter fun b => decide (key % 2 ^ 32 ∈ b)).length := by
  induction entries with
  | nil => rfl
  | @cons e b es bs isEntry _ ih =>
    unfold accepting at ih ⊢
    by_cases member : key % 2 ^ 32 ∈ b
    · have accepts := (isEntry.matches_iff key).mpr member
      rw [List.filter_cons_of_pos (by simpa using accepts),
        List.filter_cons_of_pos (by simpa using member), List.length_cons, List.length_cons, ih]
    · have rejects := mt (isEntry.matches_iff key).mp member
      rw [List.filter_cons_of_neg (by simpa using rejects),
        List.filter_cons_of_neg (by simpa using member), ih]

/-- Of the entries of a tiling, one accepts a key of the range, and none a key outside it. -/
theorem accepting_of_tiles {start last : U32} {es : List (U32 × U32)} {bs : List Block}
    (tiles : Tiles start.toNat (last.toNat + 1) bs) (entries : List.Forall₂ IsEntry es bs)
    (key : Nat) :
    (accepting key es).length =
      if start.toNat ≤ key % 2 ^ 32 ∧ key % 2 ^ 32 ≤ last.toNat then 1 else 0 := by
  rw [accepting_length entries]
  by_cases inside : start.toNat ≤ key % 2 ^ 32 ∧ key % 2 ^ 32 ≤ last.toNat
  · obtain ⟨b, _, single⟩ := tiles.filter_eq_singleton inside.1 (by omega)
    rw [if_pos inside, single, List.length_singleton]
  · rw [if_neg inside, tiles.filter_eq_nil (by omega), List.length_nil]

/-- Exactly one entry accepts a key in the range, and none a key outside it. -/
theorem ternaryBlocks_accepting {start last : U32} {es : List (U32 × U32)}
    (run : ternaryBlocks start last = .ok es) (key : Nat) :
    (accepting key es).length =
      if start.toNat ≤ key % 2 ^ 32 ∧ key % 2 ^ 32 ≤ last.toNat then 1 else 0 := by
  by_cases le : start.toNat ≤ last.toNat
  · obtain ⟨bs, greedy, entries⟩ := ternaryBlocks_greedy le run
    exact accepting_of_tiles greedy.tiles entries key
  · have none := Except.ok.inj (run.symm.trans (ternaryBlocks_empty (by omega)))
    rw [none, if_neg (by omega)]
    rfl

/-- Entries are built from the blocks of a range so that each accepts the keys of its block, under
a condition `own` that is the same for all, and all apply the same decision.  Then a packet hits
one of them when the condition holds and the range contains its key, and none otherwise. -/
theorem ternaryBlocks_hits {δ : Type} {start last : U32} {es : List (U32 × U32)}
    (run : ternaryBlocks start last = .ok es) {build : U32 × U32 → Request}
    {fields : Request.Fields} {key : Nat} {own : Prop} [Decidable own]
    (accepts : ∀ e, (build e).Matches fields ↔ Matches e.1.toNat e.2.toNat key ∧ own)
    {decision : Request → δ} {d : δ} (applies : ∀ e, decision (build e) = d) :
    (Request.hits fields (es.map build)).map decision =
      if own ∧ start.toNat ≤ key % 2 ^ 32 ∧ key % 2 ^ 32 ≤ last.toNat then [d] else [] := by
  unfold Request.hits
  rw [List.filter_map, List.map_map]
  rcases Decidable.em own with holds | fails
  · -- only the block decides
    have same : es.filter ((fun r => decide (r.Matches fields)) ∘ build) = accepting key es := by
      unfold accepting
      congr 1
      funext e
      simp only [Function.comp_apply, accepts, holds, and_true]
    have constant : (accepting key es).map (decision ∘ build) =
        List.replicate (accepting key es).length d := by
      rw [List.eq_replicate_iff]
      refine ⟨List.length_map _, fun d' member => ?_⟩
      obtain ⟨e, _, rfl⟩ := List.mem_map.mp member
      exact applies e
    rw [same, constant, ternaryBlocks_accepting run]
    split
    · rename_i inside
      rw [if_pos ⟨holds, inside⟩]
      rfl
    · rename_i outside
      rw [if_neg fun all => outside all.2]
      rfl
  · have none : es.filter ((fun r => decide (r.Matches fields)) ∘ build) = [] := by
      rw [List.filter_eq_nil_iff]
      intro e _ matched
      exact fails ((accepts e).mp (of_decide_eq_true matched)).2
    rw [none, if_neg fun all => fails all.1]
    rfl

/-! ## Entries of several ranges -/

/-- An entry is that of one block. -/
theorem IsEntry.block_eq {e : U32 × U32} {b c : Block} (left : IsEntry e b) (right : IsEntry e c) :
    b = c := by
  have base_eq : b.base = c.base := left.1.symm.trans right.1
  have masks : prefixMask 32 b.exp = prefixMask 32 c.exp := left.2.1.symm.trans right.2.1
  have powB : 2 ^ b.exp < 2 ^ 32 := Nat.pow_lt_pow_right (by decide) left.2.2.1
  have powC : 2 ^ c.exp < 2 ^ 32 := Nat.pow_lt_pow_right (by decide) right.2.2.1
  have pow_eq : 2 ^ b.exp = 2 ^ c.exp := by
    unfold prefixMask at masks
    omega
  exact Block.eq_of_mem (Nat.pow_right_injective (le_refl 2) pow_eq) b.base_mem
    (base_eq ▸ c.base_mem)

/-- A block has one entry. -/
theorem IsEntry.entry_eq {e e' : U32 × U32} {b : Block} (left : IsEntry e b)
    (right : IsEntry e' b) : e = e' :=
  Prod.ext (BitVec.eq_of_toNat_eq (left.1.trans right.1.symm))
    (BitVec.eq_of_toNat_eq (left.2.1.trans right.2.1.symm))

/-- The entries of a range are those of its maximal blocks. -/
theorem ternaryBlocks_mem_iff {start last : U32} {es : List (U32 × U32)}
    (le : start.toNat ≤ last.toNat) (run : ternaryBlocks start last = .ok es) :
    (∀ e ∈ es, ∃ b, Maximal start.toNat (last.toNat + 1) b ∧ IsEntry e b) ∧
      ∀ b, Maximal start.toNat (last.toNat + 1) b → ∃ e ∈ es, IsEntry e b := by
  obtain ⟨bs, greedy, entries⟩ := ternaryBlocks_greedy le run
  refine ⟨fun e member => ?_, fun b maximal => ?_⟩
  · rcases KeyedList.exists_related entries member with ⟨b, memberB, isEntry⟩
    exact ⟨b, greedy.mem_iff.mp memberB, isEntry⟩
  · exact KeyedList.exists_related entries.flip (greedy.mem_iff.mpr maximal)

theorem ternaryBlocks_nodup {start last : U32} {es : List (U32 × U32)}
    (le : start.toNat ≤ last.toNat) (run : ternaryBlocks start last = .ok es) : es.Nodup := by
  obtain ⟨bs, greedy, entries⟩ := ternaryBlocks_greedy le run
  refine KeyedList.pairwise_related entries.flip ?_ greedy.tiles.pairwise
  intro b e c e' isEntry isEntry' before same
  have base_eq : b.base = c.base := by rw [← isEntry.1, same, isEntry'.1]
  have nonempty := b.base_lt_stop
  omega

/-- Two ranges have an entry in common when they share a maximal block. -/
theorem ternaryBlocks_common_iff {start last start' last' : U32} {es es' : List (U32 × U32)}
    (le : start.toNat ≤ last.toNat) (run : ternaryBlocks start last = .ok es)
    (le' : start'.toNat ≤ last'.toNat) (run' : ternaryBlocks start' last' = .ok es') :
    (∃ e ∈ es, e ∈ es') ↔
      ShareBlock start.toNat (last.toNat + 1) start'.toNat (last'.toNat + 1) := by
  have blocks := ternaryBlocks_mem_iff le run
  have blocks' := ternaryBlocks_mem_iff le' run'
  refine ⟨?_, ?_⟩
  · intro common
    rcases common with ⟨e, member, member'⟩
    rcases blocks.1 e member with ⟨b, maximal, isEntry⟩
    rcases blocks'.1 e member' with ⟨c, maximal', isEntry'⟩
    exact ⟨b, maximal, isEntry.block_eq isEntry' ▸ maximal'⟩
  · intro share
    rcases share with ⟨b, maximal, maximal'⟩
    rcases blocks.2 b maximal with ⟨e, member, isEntry⟩
    rcases blocks'.2 b maximal' with ⟨e', member', isEntry'⟩
    exact ⟨e, member, isEntry.entry_eq isEntry' ▸ member'⟩

/-- Entries built from the blocks of one range, so that each has the key of its block. -/
theorem ternaryBlocks_noDuplicates {start last : U32} {es : List (U32 × U32)}
    (le : start.toNat ≤ last.toNat) (run : ternaryBlocks start last = .ok es)
    {build : U32 × U32 → Request} (tells : ∀ e e', (build e).SameKey (build e') → e = e') :
    Request.NoDuplicates (es.map build) :=
  .of_distinct build id tells (by rw [List.map_id]; exact ternaryBlocks_nodup le run)

/-- Entries built from the blocks of two ranges, with the same key when the blocks are the same and
`own` holds. -/
theorem ternaryBlocks_apart_iff {start last start' last' : U32} {es es' : List (U32 × U32)}
    (le : start.toNat ≤ last.toNat) (run : ternaryBlocks start last = .ok es)
    (le' : start'.toNat ≤ last'.toNat) (run' : ternaryBlocks start' last' = .ok es')
    {build build' : U32 × U32 → Request} {own : Prop}
    (same : ∀ e e', (build e).SameKey (build' e') ↔ own ∧ e = e') :
    (∀ r ∈ es.map build, ∀ r' ∈ es'.map build', ¬ r.SameKey r') ↔
      (own → ¬ ShareBlock start.toNat (last.toNat + 1) start'.toNat (last'.toNat + 1)) := by
  rw [← ternaryBlocks_common_iff le run le' run']
  simp only [List.forall_mem_map, same]
  refine ⟨?_, ?_⟩
  · intro apart holds common
    rcases common with ⟨e, member, member'⟩
    exact apart e member e member' ⟨holds, rfl⟩
  · intro apart e member e' member' h
    exact apart h.1 ⟨e, member, h.2 ▸ member'⟩

end P4Tas.Controller
