import Mathlib.Algebra.BigOperators.Group.List.Basic
import Mathlib.Data.Nat.ModEq
import P4Tas.Lib.BigEndian

/-!
# Ones' complement checksums

The sum of words with the carry brought back to the lowest bit, and the checksum that goes with it.
In this arithmetic zero has two representations: no bit and all bits.  A list of words is valid when
its sum is the second.

* `valid_iff`: valid words have a total that is a multiple of `2 ^ w - 1`, and are not all zero;
* `checksum_eq_iff`: the checksum is the word, all bits apart, that makes the words valid;
* `valid_append_iff`: words can be appended to valid words when they are neutral.
-/

namespace OnesComplement

variable {w : Nat} {a b c : BitVec w} {xs ys : List (BitVec w)}

/-- The sum of two words, with the carry brought back. -/
def add (a b : BitVec w) : BitVec w :=
  BitVec.ofNat w ((a.toNat + b.toNat) % 2 ^ w + (a.toNat + b.toNat) / 2 ^ w)

def sum (xs : List (BitVec w)) : BitVec w :=
  xs.foldr add 0#w

def checksum (xs : List (BitVec w)) : BitVec w :=
  ~~~ sum xs

/-- The sum is the zero that has all bits. -/
def Valid (xs : List (BitVec w)) : Prop :=
  sum xs = BitVec.allOnes w

/-- The sum is a zero. -/
def Neutral (xs : List (BitVec w)) : Prop :=
  sum xs = 0#w ∨ sum xs = BitVec.allOnes w

instance (xs : List (BitVec w)) : Decidable (Valid xs) :=
  inferInstanceAs (Decidable (sum xs = BitVec.allOnes w))

instance (xs : List (BitVec w)) : Decidable (Neutral xs) :=
  inferInstanceAs (Decidable (sum xs = 0#w ∨ sum xs = BitVec.allOnes w))

/-- The sum of the words as numbers. -/
def total (xs : List (BitVec w)) : Nat :=
  (xs.map BitVec.toNat).sum

@[simp] theorem sum_cons (x : BitVec w) (xs : List (BitVec w)) : sum (x :: xs) = add x (sum xs) :=
  rfl

@[simp] theorem total_cons (x : BitVec w) (xs : List (BitVec w)) :
    total (x :: xs) = x.toNat + total xs := by
  simp [total]

@[simp] theorem total_append (xs ys : List (BitVec w)) :
    total (xs ++ ys) = total xs + total ys := by
  simp [total]

/-! ## The sum as a number -/

/-- The carry is brought back by taking the modulus off. -/
theorem toNat_add (a b : BitVec w) :
    (add a b).toNat =
      if a.toNat + b.toNat < 2 ^ w then a.toNat + b.toNat
      else a.toNat + b.toNat - (2 ^ w - 1) := by
  have below := a.isLt
  have below' := b.isLt
  unfold add
  rw [BitVec.toNat_ofNat]
  split
  · rename_i fits
    rw [Nat.mod_eq_of_lt fits, Nat.div_eq_of_lt fits, Nat.add_zero, Nat.mod_eq_of_lt fits]
  · rename_i carries
    have carry : (a.toNat + b.toNat) / 2 ^ w = 1 :=
      Nat.div_eq_of_lt_le (by omega) (by omega)
    have low : (a.toNat + b.toNat) % 2 ^ w = a.toNat + b.toNat - 2 ^ w := by
      rw [Nat.mod_eq_sub_mod (by omega), Nat.mod_eq_of_lt (by omega)]
    rw [carry, low, Nat.mod_eq_of_lt (by omega)]
    omega

theorem add_modEq (a b : BitVec w) : (add a b).toNat ≡ a.toNat + b.toNat [MOD 2 ^ w - 1] := by
  rw [toNat_add]
  split
  · exact Nat.ModEq.refl _
  · rename_i carries
    have split : a.toNat + b.toNat = a.toNat + b.toNat - (2 ^ w - 1) + (2 ^ w - 1) := by omega
    conv => rhs; rw [split]
    exact (Nat.add_mod_right _ _).symm

theorem add_eq_zero : add a b = 0#w ↔ a = 0#w ∧ b = 0#w := by
  have below := a.isLt
  have below' := b.isLt
  rw [← BitVec.toNat_inj, ← BitVec.toNat_inj, ← BitVec.toNat_inj, toNat_add]
  simp only [BitVec.toNat_zero]
  split <;> omega

theorem sum_modEq (xs : List (BitVec w)) : (sum xs).toNat ≡ total xs [MOD 2 ^ w - 1] := by
  induction xs with
  | nil => exact Nat.ModEq.refl _
  | cons x xs ih =>
    rw [sum_cons, total_cons]
    exact (add_modEq x (sum xs)).trans (Nat.ModEq.add_left x.toNat ih)

/-- The zero without bits is the sum of nothing but such zeros. -/
theorem sum_eq_zero : sum xs = 0#w ↔ ∀ x ∈ xs, x = 0#w := by
  induction xs with
  | nil => exact iff_of_true rfl nofun
  | cons x xs ih => rw [sum_cons, add_eq_zero, ih, List.forall_mem_cons]

theorem neutral_iff : Neutral xs ↔ 2 ^ w - 1 ∣ total xs := by
  have below := (sum xs).isLt
  have multiple : 2 ^ w - 1 ∣ total xs ↔ 2 ^ w - 1 ∣ (sum xs).toNat :=
    (Nat.ModEq.dvd_iff (sum_modEq xs) (Nat.dvd_refl _)).symm
  unfold Neutral
  rw [multiple, ← BitVec.toNat_inj, ← BitVec.toNat_inj, BitVec.toNat_allOnes, BitVec.toNat_zero]
  refine ⟨?_, ?_⟩
  · rintro (zero | ones)
    · exact zero ▸ Nat.dvd_zero _
    · exact ones ▸ Nat.dvd_refl _
  · intro divides
    rcases Nat.eq_zero_or_pos (sum xs).toNat with zero | positive
    · exact .inl zero
    · exact .inr (Nat.le_antisymm (by omega) (Nat.le_of_dvd positive divides))

/-- Valid words, by their total. -/
theorem valid_iff (positive : 0 < w) :
    Valid xs ↔ 2 ^ w - 1 ∣ total xs ∧ ∃ x ∈ xs, x ≠ 0#w := by
  have apart : BitVec.allOnes w ≠ 0#w := by
    intro same
    have bits := congrArg BitVec.toNat same
    have two := Nat.one_lt_two_pow (Nat.ne_of_gt positive)
    simp only [BitVec.toNat_allOnes, BitVec.toNat_zero] at bits
    omega
  have nonzero : sum xs ≠ 0#w ↔ ∃ x ∈ xs, x ≠ 0#w := by
    rw [Ne, sum_eq_zero]
    push Not
    rfl
  rw [← neutral_iff, ← nonzero]
  unfold Valid Neutral
  refine ⟨?_, ?_⟩
  · intro ones
    exact ⟨.inr ones, ones ▸ apart⟩
  · rintro ⟨zero | ones, other⟩
    · exact absurd zero other
    · exact ones

/-- The order of the words does not matter. -/
theorem valid_perm (positive : 0 < w) (perm : xs.Perm ys) : Valid xs ↔ Valid ys := by
  have totals : total xs = total ys := (perm.map BitVec.toNat).sum_eq
  rw [valid_iff positive, valid_iff positive, totals]
  exact and_congr_right fun _ => exists_congr fun x => and_congr_left fun _ => perm.mem_iff

/-! ## Checksums -/

/-- The checksum is the word, all bits apart, that makes the words valid. -/
theorem checksum_eq_iff (nonzero : ∃ x ∈ xs, x ≠ 0#w) :
    checksum xs = c ↔ c ≠ BitVec.allOnes w ∧ Valid (c :: xs) := by
  have positive : (sum xs).toNat ≠ 0 := by
    intro zero
    obtain ⟨x, member, other⟩ := nonzero
    exact other (sum_eq_zero.mp (BitVec.eq_of_toNat_eq zero) x member)
  have below := (sum xs).isLt
  have below' := c.isLt
  unfold checksum Valid
  rw [sum_cons, Ne, ← BitVec.toNat_inj, ← BitVec.toNat_inj, ← BitVec.toNat_inj, toNat_add,
    BitVec.toNat_not, BitVec.toNat_allOnes]
  split <;> omega

/-- What can be appended to valid words. -/
theorem valid_append_iff (positive : 0 < w) (nonzero : ∃ x ∈ xs, x ≠ 0#w)
    (valid : Valid (xs ++ ys)) : Valid xs ↔ Neutral ys := by
  have divides := ((valid_iff positive).mp valid).1
  rw [total_append] at divides
  rw [valid_iff positive, neutral_iff, and_iff_left nonzero]
  exact ⟨fun left => (Nat.dvd_add_right left).mp divides,
    fun right => (Nat.dvd_add_left right).mp divides⟩

/-! ## The words of a byte string -/

/-- The words of 16 bits of a byte string; a last single byte is filled up with zeros. -/
def words : List (BitVec 8) → List (BitVec 16)
  | hi :: lo :: bytes => (hi ++ lo) :: words bytes
  | [hi] => [hi ++ 0#8]
  | [] => []

theorem words_append (n : Nat) {bytes : List (BitVec 8)} (even : bytes.length = 2 * n)
    (more : List (BitVec 8)) : words (bytes ++ more) = words bytes ++ words more := by
  induction n generalizing bytes with
  | zero => rw [List.length_eq_zero_iff.mp even, List.nil_append, words, List.nil_append]
  | succ n ih =>
    match bytes, even with
    | hi :: lo :: bytes, even =>
      simp only [List.length_cons] at even
      have rest : bytes.length = 2 * n := by omega
      rw [List.cons_append, List.cons_append, words, words, ih rest, List.cons_append]

/-- The bytes of a word make up this word. -/
theorem words_bytes (x : BitVec 16) (more : List (BitVec 8)) :
    words (BigEndian.bytes 2 x.toNat ++ more) = x :: words more :=
  congrArg (· :: words more) BitVec.extractLsb'_append_extractLsb'

theorem append_eq_zero {hi lo : BitVec 8} (zero : hi ++ lo = 0#16) : hi = 0#8 ∧ lo = 0#8 := by
  have left := BitVec.extractLsb'_append_eq_left (a := hi) (b := lo)
  have right := BitVec.extractLsb'_append_eq_right (a := hi) (b := lo)
  rw [zero] at left right
  exact ⟨left.symm, right.symm⟩

/-- A string of zero words denotes zero. -/
theorem value_of_zeros {bytes : List (BitVec 8)} (zeros : ∀ x ∈ words bytes, x = 0#16) :
    BigEndian.value bytes = 0 := by
  induction bytes using words.induct with
  | case1 hi lo bytes ih =>
    rw [words, List.forall_mem_cons] at zeros
    obtain ⟨rfl, rfl⟩ := append_eq_zero zeros.1
    rw [BigEndian.value_cons, BigEndian.value_cons, ih zeros.2]
    simp
  | case2 hi =>
    rw [words, List.forall_mem_cons] at zeros
    obtain ⟨rfl, _⟩ := append_eq_zero zeros.1
    rfl
  | case3 => rfl

end OnesComplement
