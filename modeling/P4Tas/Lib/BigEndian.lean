import Mathlib.Data.Nat.ModEq
import Mathlib.Tactic.Ring

/-!
# Big-endian numbers

The number a byte string denotes, most significant byte first, and the byte strings of a given
length that denote a number.

* `value_append`, `value_cons`: the value of a string, by its parts;
* `value_bytes`, `bytes_value`: the two directions are inverse to each other, up to the length;
* `bytes_append`: the bytes of a number, by those of its high and its low part.
-/

namespace BigEndian

/-- The number a byte string denotes. -/
def value (xs : List (BitVec 8)) : Nat :=
  xs.foldl (fun value x => value * 256 + x.toNat) 0

/-- The `n` low bytes of a number. -/
def bytes (n v : Nat) : List (BitVec 8) :=
  (List.range n).map fun i => BitVec.ofNat 8 (v >>> (8 * (n - 1 - i)))

variable {n v : Nat} {x : BitVec 8} {xs ys : List (BitVec 8)}

@[simp] theorem value_nil : value [] = 0 := rfl

@[simp] theorem length_bytes (n v : Nat) : (bytes n v).length = n := by
  simp [bytes]

theorem foldl_eq (xs : List (BitVec 8)) (v : Nat) :
    xs.foldl (fun value x => value * 256 + x.toNat) v = v * 256 ^ xs.length + value xs := by
  unfold value
  induction xs generalizing v with
  | nil => simp
  | cons x xs ih =>
    rw [List.foldl_cons, List.foldl_cons, ih, ih (0 * 256 + x.toNat), List.length_cons, pow_succ]
    ring

theorem value_append (xs ys : List (BitVec 8)) :
    value (xs ++ ys) = value xs * 256 ^ ys.length + value ys := by
  rw [← foldl_eq]
  exact List.foldl_append

theorem value_cons (x : BitVec 8) (xs : List (BitVec 8)) :
    value (x :: xs) = x.toNat * 256 ^ xs.length + value xs := by
  rw [← foldl_eq]
  simp [value]

theorem value_lt (xs : List (BitVec 8)) : value xs < 256 ^ xs.length := by
  induction xs with
  | nil => decide
  | cons x xs ih =>
    have small : x.toNat < 256 := x.isLt
    have le := Nat.mul_le_mul_right (256 ^ xs.length) (Nat.le_of_lt_succ small)
    rw [value_cons, List.length_cons, pow_succ]
    omega

theorem shiftRight_bytes (n v : Nat) : v >>> (8 * n) = v / 256 ^ n := by
  rw [Nat.shiftRight_eq_div_pow, pow_mul]
  rfl

theorem bytes_succ (n v : Nat) :
    bytes (n + 1) v = BitVec.ofNat 8 (v / 256 ^ n) :: bytes n v := by
  unfold bytes
  rw [List.range_succ_eq_map, List.map_cons, List.map_map, ← shiftRight_bytes]
  refine List.cons_eq_cons.mpr ⟨rfl, List.map_congr_left fun i member => ?_⟩
  have inside := List.mem_range.mp member
  rw [Function.comp_apply, show n + 1 - 1 - (i + 1) = n - 1 - i by omega]

/-- The bytes of a number denote it, as far as they go. -/
theorem value_bytes (n v : Nat) : value (bytes n v) = v % 256 ^ n := by
  induction n with
  | zero => exact (Nat.mod_one v).symm
  | succ n ih =>
    rw [bytes_succ, value_cons, ih, length_bytes, BitVec.toNat_ofNat,
      Nat.mod_pow_succ (x := v) (b := 256), Nat.mul_comm (256 ^ n), Nat.add_comm]

/-- What lies above the bytes does not matter. -/
theorem bytes_add_mul (n a v : Nat) : bytes n (a * 256 ^ n + v) = bytes n v := by
  induction n generalizing a with
  | zero => rfl
  | succ n ih =>
    have split : a * 256 ^ (n + 1) + v = a * 256 * 256 ^ n + v := by ring
    have high : (a * 256 * 256 ^ n + v) / 256 ^ n = v / 256 ^ n + 256 * a := by
      rw [Nat.add_comm, Nat.add_mul_div_right _ _ (Nat.pow_pos (by decide)), Nat.mul_comm a]
    rw [bytes_succ, bytes_succ, split, ih, high]
    refine List.cons_eq_cons.mpr ⟨BitVec.eq_of_toNat_eq ?_, rfl⟩
    rw [BitVec.toNat_ofNat, BitVec.toNat_ofNat]
    exact Nat.add_mul_mod_self_left _ _ _

/-- A string is the bytes of its value. -/
theorem bytes_value (xs : List (BitVec 8)) : bytes xs.length (value xs) = xs := by
  induction xs with
  | nil => rfl
  | cons x xs ih =>
    have high : (x.toNat * 256 ^ xs.length + value xs) / 256 ^ xs.length = x.toNat := by
      rw [Nat.add_comm, Nat.add_mul_div_right _ _ (Nat.pow_pos (by decide)),
        Nat.div_eq_of_lt (value_lt xs), Nat.zero_add]
    rw [List.length_cons, bytes_succ, value_cons, bytes_add_mul, ih, high, BitVec.ofNat_toNat,
      BitVec.setWidth_eq]

/-- Some bytes of a number are the bytes of what is left after a shift. -/
theorem drop_take_bytes {m n i : Nat} (fits : i + m ≤ n) (v : Nat) :
    ((bytes n v).drop i).take m = bytes m (v >>> (8 * (n - i - m))) := by
  refine List.ext_getElem (by simp; omega) fun k inside inside' => ?_
  have small : k < m := by simpa using inside'
  have shift : 8 * (n - 1 - (i + k)) = 8 * (n - i - m) + 8 * (m - 1 - k) := by omega
  simp only [bytes, List.getElem_take, List.getElem_drop, List.getElem_map, List.getElem_range,
    shift, Nat.shiftRight_add]

/-- The bytes of a number that has a high and a low part. -/
theorem bytes_append (m n a : Nat) {b : Nat} (low : b < 256 ^ n) :
    bytes (m + n) (a * 256 ^ n + b) = bytes m a ++ bytes n b := by
  have parts : value (bytes m a ++ bytes n b) = a % 256 ^ m * 256 ^ n + b := by
    rw [value_append, value_bytes, value_bytes, length_bytes, Nat.mod_eq_of_lt low]
  have length : (bytes m a ++ bytes n b).length = m + n := by simp
  have high : a * 256 ^ n + b = a / 256 ^ m * 256 ^ (m + n) + (a % 256 ^ m * 256 ^ n + b) := by
    conv => lhs; rw [← Nat.div_add_mod a (256 ^ m)]
    rw [pow_add]
    ring
  rw [high, bytes_add_mul, ← parts, ← length, bytes_value]

end BigEndian
