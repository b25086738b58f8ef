import Mathlib.Algebra.Order.BigOperators.Group.Finset
import P4Tas.Lib.TernaryCover

/-!
# The greedy tiling is a smallest cover

A set of blocks covers a range when its blocks together contain the keys of the range and no
others; they may overlap.

* `Greedy.length_le_card`: a cover has a block in each maximal block of the range, and different
  ones in different maximal blocks, so it is not smaller than the greedy tiling.
* `Maximal.not_three`: a range has at most two maximal blocks of one size, since between two of
  them there is room for the parent of a third.
* `Greedy.length_le`: hence the greedy tiling of a range that leaves out a key of `[0, 2 ^ w)` has
  at most `2 * w - 2` blocks.
-/

namespace TernaryCover

/-- The blocks contain the keys of `[lo, hi)` and no others. -/
def Covers (lo hi : Nat) (cover : Finset Block) : Prop :=
  ∀ x, (∃ b ∈ cover, x ∈ b) ↔ lo ≤ x ∧ x < hi

variable {lo hi w : Nat} {bs : List Block} {cover : Finset Block}

/-! ## Every cover is as large -/

/-- A block of a cover lies in the range. -/
theorem Covers.bounds (covers : Covers lo hi cover) {b : Block} (member : b ∈ cover) :
    lo ≤ b.base ∧ b.stop ≤ hi := by
  have nonempty := b.base_lt_stop
  have first := (covers b.base).mp ⟨b, member, b.base_mem⟩
  have last := (covers (b.stop - 1)).mp ⟨b, member, by omega, by omega⟩
  exact ⟨first.1, by omega⟩

/-- Each block of a cover meets one maximal block at most. -/
theorem Covers.maximal_eq (covers : Covers lo hi cover) {b c d : Block}
    (left : Maximal lo hi b) (right : Maximal lo hi c) (member : d ∈ cover) {x y : Nat}
    (inB : x ∈ b) (inD : x ∈ d) (inC : y ∈ c) (inD' : y ∈ d) : b = c := by
  have bounds := covers.bounds member
  rcases d.exists_maximal bounds.1 bounds.2 with ⟨m, maximal, within⟩
  have left_eq := left.eq_of_mem maximal inB (within x inD)
  have right_eq := right.eq_of_mem maximal inC (within y inD')
  exact left_eq.trans right_eq.symm

theorem Tiles.nodup (tiles : Tiles lo hi bs) : bs.Nodup := by
  refine tiles.pairwise.imp ?_
  intro b c before same
  have nonempty := b.base_lt_stop
  rw [← same] at before
  omega

/-- No cover of a range has fewer blocks than its greedy tiling. -/
theorem Greedy.length_le_card (greedy : Greedy lo hi bs) (covers : Covers lo hi cover) :
    bs.length ≤ cover.card := by
  classical
  have covered : ∀ b ∈ bs, ∃ c ∈ cover, b.base ∈ c := by
    intro b member
    have maximal := greedy.mem_iff.mp member
    exact (covers b.base).mpr ⟨maximal.lower, b.base_lt_stop.trans_le maximal.upper⟩
  choose! pick pickMember pickBase using covered
  rw [← List.toFinset_card_of_nodup greedy.tiles.nodup]
  refine Finset.card_le_card_of_injOn pick ?_ ?_
  · intro b member
    exact pickMember b (List.mem_toFinset.mp member)
  · intro b inB c inC same
    have inB := List.mem_toFinset.mp inB
    have inC := List.mem_toFinset.mp inC
    have baseC := pickBase c inC
    rw [← same] at baseC
    exact covers.maximal_eq (greedy.mem_iff.mp inB) (greedy.mem_iff.mp inC) (pickMember b inB)
      b.base_mem (pickBase b inB) c.base_mem baseC

/-- The blocks of a tiling cover the range. -/
theorem Tiles.covers [DecidableEq Block] (tiles : Tiles lo hi bs) :
    Covers lo hi bs.toFinset := by
  intro x
  refine ⟨?_, ?_⟩
  · intro covered
    rcases covered with ⟨b, member, inside⟩
    have bounds := tiles.block_bounds (List.mem_toFinset.mp member)
    exact ⟨bounds.1.trans inside.1, inside.2.trans_le bounds.2⟩
  · intro inside
    rcases tiles.filter_eq_singleton inside.1 inside.2 with ⟨b, member, single⟩
    have accepted := List.mem_filter.mp (single ▸ List.mem_singleton_self b)
    exact ⟨b, List.mem_toFinset.mpr member, of_decide_eq_true accepted.2⟩

theorem Greedy.length_le_of_tiles {cs : List Block} (greedy : Greedy lo hi bs)
    (tiles : Tiles lo hi cs) : bs.length ≤ cs.length := by
  classical
  exact (greedy.length_le_card tiles.covers).trans (List.toFinset_card_le cs)

/-! ## The size of the greedy tiling -/

/-- Of two blocks of one size, the first stops before the second begins. -/
theorem Block.stop_le_of_lt {b c : Block} (size : b.exp = c.exp) (lt : b.base < c.base) :
    b.stop ≤ c.base := by
  by_contra overlap
  have common : c.base ∈ b := ⟨lt.le, Nat.lt_of_not_le overlap⟩
  have same := Block.eq_of_mem size common c.base_mem
  rw [same] at lt
  exact lt.false

theorem Block.base_ne {b c : Block} (size : b.exp = c.exp) (differ : b ≠ c) : b.base ≠ c.base := by
  intro same
  exact differ (Block.eq_of_mem size b.base_mem (same ▸ c.base_mem))

/-- The parent of a block between two others of its size lies in the range. -/
theorem Maximal.not_between {b c d : Block} (first : Maximal lo hi b) (middle : Maximal lo hi c)
    (last : Maximal lo hi d) (size : b.exp = c.exp) (size' : c.exp = d.exp)
    (before : b.base < c.base) (after : c.base < d.base) : False := by
  have left := Block.stop_le_of_lt size before
  have right := Block.stop_le_of_lt size' after
  have bounds := c.parent_bounds
  have lower := first.lower
  have upper := last.upper
  unfold Block.stop at left right upper
  rw [size] at left
  rw [← size'] at upper
  unfold Block.stop at bounds
  exact middle.maximal ⟨by omega, by unfold Block.stop; omega⟩

/-- A range has at most two maximal blocks of one size. -/
theorem Maximal.not_three {b c d : Block} (maxB : Maximal lo hi b) (maxC : Maximal lo hi c)
    (maxD : Maximal lo hi d) (sizeC : b.exp = c.exp) (sizeD : b.exp = d.exp) (bc : b ≠ c)
    (bd : b ≠ d) (cd : c ≠ d) : False := by
  have size := sizeC.symm.trans sizeD
  rcases Nat.lt_or_gt_of_ne (Block.base_ne sizeC bc) with bc | cb
  · rcases Nat.lt_or_gt_of_ne (Block.base_ne size cd) with cd | dc
    · exact maxB.not_between maxC maxD sizeC size bc cd
    · rcases Nat.lt_or_gt_of_ne (Block.base_ne sizeD bd) with bd | db
      · exact maxB.not_between maxD maxC sizeD size.symm bd dc
      · exact maxD.not_between maxB maxC sizeD.symm sizeC db bc
  · rcases Nat.lt_or_gt_of_ne (Block.base_ne sizeD bd) with bd | db
    · exact maxC.not_between maxB maxD sizeC.symm sizeD cb bd
    · rcases Nat.lt_or_gt_of_ne (Block.base_ne size cd) with cd | dc
      · exact maxC.not_between maxD maxB size sizeD.symm cd db
      · exact maxD.not_between maxC maxB size.symm sizeC.symm dc cb

/-- A range from 0 has at most one maximal block of each size. -/
theorem Maximal.eq_of_start {b c : Block} (maxB : Maximal 0 hi b) (maxC : Maximal 0 hi c)
    (size : b.exp = c.exp) : b = c := by
  have ordered {d e : Block} (maxD : Maximal 0 hi d) (maxE : Maximal 0 hi e)
      (size : d.exp = e.exp) : ¬ d.base < e.base := by
    intro before
    have left := Block.stop_le_of_lt size before
    have bounds := d.parent_bounds
    have upper := maxE.upper
    have stop : e.stop = e.base + 2 ^ d.exp := by rw [size]; rfl
    exact maxD.maximal ⟨Nat.zero_le _, by omega⟩
  by_contra differ
  rcases Nat.lt_or_gt_of_ne (Block.base_ne size differ) with before | after
  · exact ordered maxB maxC size before
  · exact ordered maxC maxB size.symm after

/-- The number of blocks, from a bound on their exponents and on the blocks of one size. -/
theorem length_le_mul (nodup : bs.Nodup) (most : Nat) {top : Nat} (below : ∀ b ∈ bs, b.exp < top)
    (few : ∀ k, ∀ bucket : Finset Block, (∀ b ∈ bucket, b ∈ bs ∧ b.exp = k) →
      bucket.card ≤ most) : bs.length ≤ most * top := by
  classical
  rw [← List.toFinset_card_of_nodup nodup, ← Finset.card_range top]
  refine Finset.card_le_mul_card_image_of_maps_to (f := Block.exp) ?_ most ?_
  · intro b member
    exact Finset.mem_coe.mpr (Finset.mem_range.mpr (below b (List.mem_toFinset.mp member)))
  · intro k _
    refine few k _ fun b member => ?_
    have both := Finset.mem_filter.mp member
    exact ⟨List.mem_toFinset.mp both.1, both.2⟩

/-- The greedy tiling of a range that is not all of `[0, 2 ^ w)`. -/
theorem Greedy.length_le (greedy : Greedy lo hi bs) (proper : hi < 2 ^ w) (wide : 2 ≤ w) :
    bs.length ≤ 2 * w - 2 := by
  have maximal : ∀ b ∈ bs, Maximal lo hi b := fun b member => greedy.mem_iff.mp member
  have below : ∀ b ∈ bs, b.exp < w := by
    intro b member
    have upper := (maximal b member).upper
    have small : 2 ^ b.exp < 2 ^ w := by
      unfold Block.stop at upper
      omega
    exact (Nat.pow_lt_pow_iff_right (by decide)).mp small
  rcases Nat.eq_zero_or_pos lo with rfl | positive
  · have count := length_le_mul greedy.tiles.nodup 1 below fun k bucket inBucket => by
      refine Finset.card_le_one.mpr fun b inB c inC => ?_
      have both := inBucket b inB
      have both' := inBucket c inC
      exact (maximal b both.1).eq_of_start (maximal c both'.1) (both.2.trans both'.2.symm)
    omega
  · -- no block has half the size of `[0, 2 ^ w)`: it would begin at 0
    have below : ∀ b ∈ bs, b.exp < w - 1 := by
      intro b member
      by_contra large
      have exp_eq : b.exp = w - 1 := by
        have small := below b member
        omega
      have half : 2 ^ w = 2 * 2 ^ b.exp := by
        rw [exp_eq, ← Nat.pow_succ', Nat.succ_eq_add_one, Nat.sub_add_cancel (by omega)]
      have lower := (maximal b member).lower
      have upper := (maximal b member).upper
      unfold Block.stop at upper
      have base_eq : b.base = 0 := Nat.eq_zero_of_dvd_of_lt b.aligned (by omega)
      omega
    have count := length_le_mul greedy.tiles.nodup 2 below fun k bucket inBucket => by
      by_contra many
      rcases Finset.two_lt_card.mp (Nat.lt_of_not_le many) with ⟨b, inB, c, inC, d, inD, differ⟩
      have bothB := inBucket b inB
      have bothC := inBucket c inC
      have bothD := inBucket d inD
      exact (maximal b bothB.1).not_three (maximal c bothC.1) (maximal d bothD.1)
        (bothB.2.trans bothC.2.symm) (bothB.2.trans bothD.2.symm) differ.1 differ.2.1 differ.2.2
    omega

end TernaryCover
