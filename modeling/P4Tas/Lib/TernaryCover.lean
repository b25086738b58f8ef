import Mathlib.Data.Nat.Bitwise
import Mathlib.Data.List.Basic
import Mathlib.Tactic.Ring

/-!
# Ternary entries and tilings by aligned blocks

A ternary table entry is a pair of a value and a mask: it accepts the keys that agree with the
value on every bit of the mask.  A mask that fixes the bits from `k` upwards accepts exactly an
aligned block of `2 ^ k` keys, so a list of such entries is a list of aligned blocks.

* `Matches`, `prefixMask`: the acceptance test and the masks of aligned blocks;
  `matches_prefixMask_iff` is the only fact about bits that later proofs need.
* `Tiles lo hi bs`: the blocks `bs` cover `[lo, hi)` in increasing order, without gap or overlap.
* `Greedy lo hi bs`: the tiling in which every block is the largest aligned one that still fits.
* `Greedy.mem_iff`: its blocks are the maximal ones of the range, those whose parent does not fit.
* `not_shareBlock`: so neighbouring ranges of several keys have no block in common.
-/

namespace TernaryCover

/-! ## Ternary acceptance -/

/-- A key is accepted by the entry `(value, mask)`. -/
def Matches (value mask key : Nat) : Prop :=
  key &&& mask = value &&& mask

instance (value mask key : Nat) : Decidable (Matches value mask key) :=
  inferInstanceAs (Decidable (_ = _))

/-- The mask over `w` bits that fixes the bits from `k` upwards. -/
def prefixMask (w k : Nat) : Nat :=
  2 ^ w - 2 ^ k

theorem testBit_prefixMask {w k : Nat} (le : k ≤ w) (i : Nat) :
    (prefixMask w k).testBit i = (decide (k ≤ i) && decide (i < w)) := by
  have split : prefixMask w k = 2 ^ k * (2 ^ (w - k) - 1) := by
    rw [prefixMask, Nat.mul_sub, ← Nat.pow_add, Nat.mul_one, Nat.add_sub_cancel' le]
  rw [split, Nat.testBit_two_pow_mul, Nat.testBit_two_pow_sub_one]
  by_cases low : k ≤ i
  · simp only [low, decide_true, Bool.true_and, decide_eq_decide]
    omega
  · simp [low]

/-- Masking keeps the block number and clears the offset within the block. -/
theorem and_prefixMask {w k : Nat} (le : k ≤ w) (x : Nat) :
    x &&& prefixMask w k = x % 2 ^ w / 2 ^ k * 2 ^ k := by
  apply Nat.eq_of_testBit_eq
  intro i
  rw [Nat.testBit_and, testBit_prefixMask le, Nat.mul_comm, Nat.testBit_two_pow_mul]
  by_cases low : k ≤ i
  · rw [Nat.testBit_div_two_pow, Nat.testBit_mod_two_pow, Nat.sub_add_cancel low]
    simp [low, Bool.and_comm]
  · simp [low]

/-- The keys of an aligned block share their block number. -/
theorem div_eq_iff_mem {k base x : Nat} (aligned : 2 ^ k ∣ base) :
    x / 2 ^ k = base / 2 ^ k ↔ base ≤ x ∧ x < base + 2 ^ k := by
  obtain ⟨n, rfl⟩ := aligned
  have pos := Nat.two_pow_pos k
  rw [Nat.mul_div_cancel_left n pos, Nat.div_eq_iff pos, Nat.mul_comm]
  omega

/-- An entry with a prefix mask accepts exactly the keys whose low `w` bits lie in the block. -/
theorem matches_prefixMask_iff {w k value key : Nat} (le : k ≤ w) (aligned : 2 ^ k ∣ value)
    (bound : value < 2 ^ w) :
    Matches value (prefixMask w k) key ↔
      value ≤ key % 2 ^ w ∧ key % 2 ^ w < value + 2 ^ k := by
  have pos := Nat.two_pow_pos k
  unfold Matches
  rw [and_prefixMask le, and_prefixMask le, Nat.mod_eq_of_lt bound,
    Nat.mul_right_cancel_iff pos]
  exact div_eq_iff_mem aligned

/-- Acceptance, bit by bit. -/
theorem matches_iff_testBit {value mask key : Nat} :
    Matches value mask key ↔ ∀ i, mask.testBit i = true → key.testBit i = value.testBit i := by
  unfold Matches
  refine ⟨?_, ?_⟩
  · intro same i set
    have bits := congrArg (Nat.testBit · i) same
    simpa only [Nat.testBit_and, set, Bool.and_true] using bits
  · intro same
    apply Nat.eq_of_testBit_eq
    intro i
    rw [Nat.testBit_and, Nat.testBit_and]
    cases set : mask.testBit i with
    | true => rw [same i set]
    | false => rw [Bool.and_false, Bool.and_false]

/-- A number is larger than another exactly when it has a one where the other has a zero, and they
agree on all higher bits. -/
theorem lt_iff_testBit {t x : Nat} :
    t < x ↔ ∃ i, t.testBit i = false ∧ x.testBit i = true ∧
      ∀ j, i < j → t.testBit j = x.testBit j := by
  refine ⟨?_, ?_⟩
  · intro lt
    have differ : t ^^^ x ≠ 0 := Nat.xor_ne_zero_iff.mpr lt.ne
    obtain ⟨i, top, above⟩ := Nat.exists_most_significant_bit differ
    have agree : ∀ j, i < j → t.testBit j = x.testBit j := by
      intro j later
      have bit := above j later
      rw [Nat.testBit_xor] at bit
      exact bne_eq_false_iff_eq.mp bit
    rw [Nat.testBit_xor] at top
    cases bitT : t.testBit i with
    | true =>
      -- then the other number would be the larger one
      rw [bitT, Bool.true_xor, Bool.not_eq_true'] at top
      have gt := Nat.lt_of_testBit i top bitT fun j later => (agree j later).symm
      exact absurd gt (Nat.not_lt_of_gt lt)
    | false =>
      rw [bitT, Bool.false_xor] at top
      exact ⟨i, bitT, top, agree⟩
  · intro h
    obtain ⟨i, zero, one, agree⟩ := h
    exact Nat.lt_of_testBit i zero one agree

/-! ## Blocks and tilings -/

/-- `2 ^ exp` consecutive keys starting at a multiple of `2 ^ exp`. -/
structure Block where
  base : Nat
  exp : Nat
  aligned : 2 ^ exp ∣ base

namespace Block

/-- The first key after the block. -/
def stop (b : Block) : Nat :=
  b.base + 2 ^ b.exp

instance : Membership Nat Block :=
  ⟨fun b x => b.base ≤ x ∧ x < b.stop⟩

theorem mem_iff {b : Block} {x : Nat} : x ∈ b ↔ b.base ≤ x ∧ x < b.stop :=
  Iff.rfl

instance (b : Block) (x : Nat) : Decidable (x ∈ b) :=
  decidable_of_iff _ mem_iff.symm

theorem base_lt_stop (b : Block) : b.base < b.stop :=
  Nat.lt_add_of_pos_right (Nat.two_pow_pos b.exp)

end Block

/-- The blocks cover `[lo, hi)` in increasing order, without gap or overlap. -/
inductive Tiles : Nat → Nat → List Block → Prop
  | nil (lo : Nat) : Tiles lo lo []
  | cons {b : Block} {hi : Nat} {bs : List Block} :
    Tiles b.stop hi bs → Tiles b.base hi (b :: bs)

/-- The tiling that always takes the largest aligned block that still fits. -/
inductive Greedy : Nat → Nat → List Block → Prop
  | nil (lo : Nat) : Greedy lo lo []
  | cons {b : Block} {hi : Nat} {bs : List Block} :
    ¬ (2 ^ (b.exp + 1) ∣ b.base ∧ b.base + 2 ^ (b.exp + 1) ≤ hi) →
    Greedy b.stop hi bs → Greedy b.base hi (b :: bs)

theorem Greedy.tiles {lo hi : Nat} {bs : List Block} (greedy : Greedy lo hi bs) :
    Tiles lo hi bs := by
  induction greedy with
  | nil lo => exact .nil lo
  | cons _ _ ih => exact .cons ih

namespace Tiles

variable {lo hi : Nat} {bs : List Block}

theorem le (tiles : Tiles lo hi bs) : lo ≤ hi := by
  induction tiles with
  | nil lo => exact Nat.le_refl lo
  | @cons b hi bs _ ih => exact (Nat.le_of_lt b.base_lt_stop).trans ih

/-- Every block of a tiling lies within the tiled range. -/
theorem block_bounds (tiles : Tiles lo hi bs) {b : Block} (member : b ∈ bs) :
    lo ≤ b.base ∧ b.stop ≤ hi := by
  induction tiles with
  | nil lo => cases member
  | @cons c hi cs rest ih =>
    rcases List.mem_cons.mp member with rfl | later
    · exact ⟨Nat.le_refl _, rest.le⟩
    · have bounds := ih later
      exact ⟨(Nat.le_of_lt c.base_lt_stop).trans bounds.1, bounds.2⟩

/-- No block of a tiling contains a key outside the tiled range. -/
theorem filter_eq_nil (tiles : Tiles lo hi bs) {x : Nat} (outside : x < lo ∨ hi ≤ x) :
    bs.filter (fun b => decide (x ∈ b)) = [] := by
  rw [List.filter_eq_nil_iff]
  intro b member
  have bounds := tiles.block_bounds member
  rw [decide_eq_true_eq, Block.mem_iff]
  omega

/-- Exactly one block of a tiling contains a key of the tiled range. -/
theorem filter_eq_singleton (tiles : Tiles lo hi bs) {x : Nat} (lower : lo ≤ x) (upper : x < hi) :
    ∃ b ∈ bs, bs.filter (fun b => decide (x ∈ b)) = [b] := by
  induction tiles with
  | nil lo => omega
  | @cons c hi cs rest ih =>
    by_cases inside : x < c.stop
    · refine ⟨c, List.mem_cons_self, ?_⟩
      have member : x ∈ c := ⟨lower, inside⟩
      rw [List.filter_cons_of_pos (by simpa using member), rest.filter_eq_nil (.inl inside)]
    · obtain ⟨b, later, single⟩ := ih (Nat.le_of_not_lt inside) upper
      refine ⟨b, List.mem_cons_of_mem c later, ?_⟩
      have away : ¬ x ∈ c := fun member => inside member.2
      rw [List.filter_cons_of_neg (by simpa using away), single]

/-- A block of a tiling stops where a later one begins, or before. -/
theorem pairwise (tiles : Tiles lo hi bs) : bs.Pairwise fun b c => b.stop ≤ c.base := by
  induction tiles with
  | nil lo => exact .nil
  | cons rest ih => exact .cons (fun c later => (rest.block_bounds later).1) ih

end Tiles

/-! ## The greedy tiling as a set of blocks -/

namespace Block

/-- The block of twice the size that contains the block. -/
def parent (b : Block) : Block where
  base := b.base / 2 ^ (b.exp + 1) * 2 ^ (b.exp + 1)
  exp := b.exp + 1
  aligned := Nat.dvd_mul_left _ _

theorem mem_iff_div {b : Block} {x : Nat} : x ∈ b ↔ x / 2 ^ b.exp = b.base / 2 ^ b.exp :=
  (div_eq_iff_mem b.aligned).symm

theorem base_mem (b : Block) : b.base ∈ b :=
  ⟨le_refl _, b.base_lt_stop⟩

theorem base_mem_parent (b : Block) : b.base ∈ b.parent :=
  mem_iff_div.mpr (Nat.mul_div_cancel _ (Nat.two_pow_pos _)).symm

/-- Of two blocks with a common key, the larger contains the smaller. -/
theorem nested {b c : Block} (smaller : b.exp ≤ c.exp) {x : Nat} (left : x ∈ b) (right : x ∈ c) :
    c.base ≤ b.base ∧ b.stop ≤ c.stop := by
  have inside : ∀ y ∈ b, y ∈ c := by
    intro y member
    have same : y / 2 ^ b.exp = x / 2 ^ b.exp :=
      (mem_iff_div.mp member).trans (mem_iff_div.mp left).symm
    have split : 2 ^ c.exp = 2 ^ b.exp * 2 ^ (c.exp - b.exp) := by
      rw [← Nat.pow_add, Nat.add_sub_cancel' smaller]
    rw [mem_iff_div] at right ⊢
    rw [← right, split, ← Nat.div_div_eq_div_mul, ← Nat.div_div_eq_div_mul, same]
  have first := inside b.base b.base_mem
  have nonempty := b.base_lt_stop
  have last := inside (b.stop - 1) ⟨by omega, by omega⟩
  have lower := first.1
  have upper := last.2
  exact ⟨lower, by omega⟩

/-- Blocks of one size with a common key are the same. -/
theorem eq_of_mem {b c : Block} (size : b.exp = c.exp) {x : Nat} (left : x ∈ b) (right : x ∈ c) :
    b = c := by
  have base_eq : b.base = c.base :=
    le_antisymm (nested size.ge right left).1 (nested size.le left right).1
  cases b
  cases c
  cases base_eq
  cases size
  rfl

/-- The parent reaches at most one block further in either direction. -/
theorem parent_bounds (b : Block) :
    b.parent.base ≤ b.base ∧ b.base ≤ b.parent.base + 2 ^ b.exp ∧
      b.stop ≤ b.parent.stop ∧ b.parent.stop ≤ b.stop + 2 ^ b.exp := by
  have within := nested (Nat.le_succ b.exp) b.base_mem b.base_mem_parent
  have wider : b.parent.stop = b.parent.base + 2 ^ b.exp * 2 :=
    congrArg (b.parent.base + ·) (Nat.pow_succ 2 b.exp)
  have own : b.stop = b.base + 2 ^ b.exp := rfl
  omega

theorem mem_parent (b : Block) {x : Nat} (member : x ∈ b) : x ∈ b.parent := by
  have bounds := b.parent_bounds
  exact ⟨bounds.1.trans member.1, member.2.trans_le bounds.2.2.1⟩

end Block

/-- The block lies in `[lo, hi)`, and its parent does not. -/
structure Maximal (lo hi : Nat) (b : Block) : Prop where
  lower : lo ≤ b.base
  upper : b.stop ≤ hi
  maximal : ¬ (lo ≤ b.parent.base ∧ b.parent.stop ≤ hi)

namespace Maximal

variable {lo hi lo' hi' : Nat} {b c : Block}

/-- Maximal blocks of one range that have a common key are the same. -/
theorem eq_of_mem (left : Maximal lo hi b) (right : Maximal lo hi c) {x : Nat} (inB : x ∈ b)
    (inC : x ∈ c) : b = c := by
  -- otherwise the parent of the smaller one lies in the larger one
  have fits {d e : Block} (inRange : Maximal lo hi e) (less : d.exp < e.exp) (inD : x ∈ d)
      (inE : x ∈ e) : lo ≤ d.parent.base ∧ d.parent.stop ≤ hi := by
    have within := Block.nested less.le inD inE
    have base_mem : d.base ∈ e := ⟨within.1, d.base_lt_stop.trans_le within.2⟩
    have above := Block.nested (b := d.parent) less d.base_mem_parent base_mem
    exact ⟨inRange.lower.trans above.1, above.2.trans inRange.upper⟩
  rcases lt_trichotomy b.exp c.exp with less | same | greater
  · exact absurd (fits right less inB inC) left.maximal
  · exact Block.eq_of_mem same inB inC
  · exact absurd (fits left greater inC inB) right.maximal

end Maximal

/-- Every block in a range lies in a maximal one. -/
theorem Block.exists_maximal {lo hi : Nat} (b : Block) (lower : lo ≤ b.base)
    (upper : b.stop ≤ hi) : ∃ c, Maximal lo hi c ∧ ∀ x ∈ b, x ∈ c := by
  -- ascend to the parent as long as that fits
  have ascend : ∀ room (c : Block), hi - 2 ^ c.exp ≤ room → lo ≤ c.base → c.stop ≤ hi →
      (∀ x ∈ b, x ∈ c) → ∃ d, Maximal lo hi d ∧ ∀ x ∈ b, x ∈ d := by
    intro room
    induction room with
    | zero =>
      intro c full lower upper within
      refine ⟨c, ⟨lower, upper, fun fits => ?_⟩, within⟩
      have wider : 2 ^ c.parent.exp = 2 ^ c.exp * 2 := Nat.pow_succ 2 c.exp
      have pos := Nat.two_pow_pos c.exp
      have stop := fits.2
      unfold Block.stop at stop
      omega
    | succ room ih =>
      intro c space lower upper within
      rcases Decidable.em (lo ≤ c.parent.base ∧ c.parent.stop ≤ hi) with fits | maximal
      · have wider : 2 ^ c.parent.exp = 2 ^ c.exp * 2 := Nat.pow_succ 2 c.exp
        have pos := Nat.two_pow_pos c.exp
        exact ih c.parent (by omega) fits.1 fits.2 fun x member => c.mem_parent (within x member)
      · exact ⟨c, ⟨lower, upper, maximal⟩, within⟩
  exact ascend hi b (Nat.sub_le _ _) lower upper fun _ member => member

/-- A range with a key has a maximal block. -/
theorem exists_maximal {lo hi : Nat} (nonempty : lo < hi) : ∃ b, Maximal lo hi b := by
  let first : Block := ⟨lo, 0, Nat.one_dvd lo⟩
  rcases first.exists_maximal (le_refl lo) nonempty with ⟨b, maximal, _⟩
  exact ⟨b, maximal⟩

/-- The parent of a block of the greedy tiling does not lie in the range. -/
theorem Greedy.maximal {lo hi : Nat} {bs : List Block} (greedy : Greedy lo hi bs) {c : Block}
    (member : c ∈ bs) : ¬ (lo ≤ c.parent.base ∧ c.parent.stop ≤ hi) := by
  induction greedy with
  | nil lo => cases member
  | @cons first hi bs largest rest ih =>
    intro fits
    have stop := fits.2
    unfold Block.stop at stop
    rcases List.mem_cons.mp member with rfl | later
    · -- the first block's parent begins before it, or is too large
      have start : c.parent.base = c.base := le_antisymm c.base_mem_parent.1 fits.1
      rw [start] at stop
      exact largest ⟨start ▸ c.parent.aligned, stop⟩
    · have after := (rest.tiles.block_bounds later).1
      rcases Nat.lt_or_ge c.parent.base first.stop with overlaps | beyond
      · -- the parent meets the first block and goes beyond it
        have common : c.parent.base ∈ first := ⟨fits.1, overlaps⟩
        have larger : first.exp < c.parent.exp := by
          by_contra notLarger
          have within := Block.nested (Nat.le_of_not_lt notLarger) c.parent.base_mem common
          have inside := c.base_mem_parent.2
          omega
        have above := Block.nested larger.le common c.parent.base_mem
        have start : c.parent.base = first.base := le_antisymm above.1 fits.1
        have wider : 2 ^ (first.exp + 1) ≤ 2 ^ c.parent.exp :=
          Nat.pow_le_pow_right (by decide) larger
        refine largest ⟨(Nat.pow_dvd_pow 2 larger).trans (start ▸ c.parent.aligned), ?_⟩
        omega
      · exact ih later ⟨beyond, fits.2⟩

/-- The blocks of the greedy tiling are the maximal blocks of the range. -/
theorem Greedy.mem_iff {lo hi : Nat} {bs : List Block} (greedy : Greedy lo hi bs) {b : Block} :
    b ∈ bs ↔ Maximal lo hi b := by
  have isMaximal : ∀ c ∈ bs, Maximal lo hi c := by
    intro c member
    have bounds := greedy.tiles.block_bounds member
    exact ⟨bounds.1, bounds.2, greedy.maximal member⟩
  refine ⟨?_, ?_⟩
  · exact isMaximal b
  · intro maximal
    have first := b.base_lt_stop.trans_le maximal.upper
    obtain ⟨c, member, single⟩ := greedy.tiles.filter_eq_singleton maximal.lower first
    have accepted := List.mem_filter.mp (single ▸ List.mem_singleton_self c)
    rw [maximal.eq_of_mem (isMaximal c member) b.base_mem (of_decide_eq_true accepted.2)]
    exact member

/-- The greedy tilings of two ranges have a block in common. -/
def ShareBlock (lo hi lo' hi' : Nat) : Prop :=
  ∃ b, Maximal lo hi b ∧ Maximal lo' hi' b

theorem ShareBlock.symm {lo hi lo' hi' : Nat} (share : ShareBlock lo hi lo' hi') :
    ShareBlock lo' hi' lo hi := by
  rcases share with ⟨b, left, right⟩
  exact ⟨b, right, left⟩

theorem shareBlock_self {lo hi : Nat} (nonempty : lo < hi) : ShareBlock lo hi lo hi := by
  rcases exists_maximal nonempty with ⟨b, maximal⟩
  exact ⟨b, maximal, maximal⟩

/-- The larger block of a block of one key. -/
theorem parent_of_single {b : Block} (single : b.exp = 0) :
    b.parent.base = b.base / 2 * 2 ∧ b.parent.stop = b.base / 2 * 2 + 2 := by
  have parentBase : b.parent.base = b.base / 2 ^ (b.exp + 1) * 2 ^ (b.exp + 1) := rfl
  have parentExp : b.parent.exp = b.exp + 1 := rfl
  unfold Block.stop
  rw [parentBase, parentExp, single]
  exact ⟨rfl, rfl⟩

/-- Two ranges of several keys that have at most one key in common, which ends the first and begins
the second, share no block: the one key lies in a larger block of the one range or the other. -/
theorem not_shareBlock {lo hi lo' hi' : Nat} (wide : lo + 1 < hi) (wide' : lo' + 1 < hi')
    (meet : hi ≤ lo' + 1) : ¬ ShareBlock lo hi lo' hi' := by
  intro share
  rcases share with ⟨b, left, right⟩
  have pos := Nat.two_pow_pos b.exp
  have lower := right.lower
  have upper := left.upper
  unfold Block.stop at upper
  have base_eq : b.base = lo' := by omega
  have single : 2 ^ b.exp = 2 ^ 0 := by omega
  have exp_eq : b.exp = 0 := Nat.pow_right_injective (le_refl 2) single
  have parent_eq := parent_of_single exp_eq
  have outLeft := left.maximal
  have outRight := right.maximal
  omega

end TernaryCover
