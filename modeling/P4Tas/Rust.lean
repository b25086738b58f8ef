import Mathlib.Algebra.Group.Int.Defs
import Mathlib.Algebra.Group.Nat.Defs
import P4Tas.Lib.Fallible

/-!
# The controller's machine arithmetic

The controller is a debug build (`cargo run`), in which an arithmetic overflow panics.  A fallible
controller function is modelled as a computation in `Rust`, whose errors are the panics.

Unsigned integers are bit vectors: an `as` cast between them is `BitVec.setWidth`, and the checked
operations below are the operators `+`, `-`, `*` and `<<`.
-/

namespace P4Tas

abbrev U8 := BitVec 8
abbrev U16 := BitVec 16
abbrev U32 := BitVec 32
abbrev U64 := BitVec 64

/-- Why a controller function does not return. -/
inductive Panic
  /-- An arithmetic operation overflowed. -/
  | overflow
  /-- The divisor was zero. -/
  | divideByZero
  /-- An `unwrap` or `expect` met an absent value. -/
  | unwrap
  /-- A slice index, a slice range or the length of a copy was out of bounds. -/
  | outOfBounds
  /-- The bound the model puts on a loop was reached. -/
  | outOfFuel
  deriving DecidableEq, Repr

abbrev Rust := Except Panic

instance {α : Type} [DecidableEq α] : DecidableEq (Rust α) := fun
  | .ok a, .ok b => decidable_of_iff (a = b) (by simp)
  | .error p, .error q => decidable_of_iff (p = q) (by simp)
  | .ok _, .error _ => isFalse (by simp)
  | .error _, .ok _ => isFalse (by simp)

/-- `Option::unwrap` and `Option::expect`. -/
def unwrap {α : Type} : Option α → Rust α
  | some a => .ok a
  | none => .error .unwrap

@[simp] theorem unwrap_eq_ok {α : Type} {o : Option α} {a : α} :
    unwrap o = .ok a ↔ o = some a := by
  cases o <;> simp [unwrap]

section Checked

variable {w : Nat}

def checkedAdd (a b : BitVec w) : Rust (BitVec w) :=
  if a.toNat + b.toNat < 2 ^ w then .ok (a + b) else .error .overflow

def checkedSub (a b : BitVec w) : Rust (BitVec w) :=
  if b.toNat ≤ a.toNat then .ok (a - b) else .error .overflow

def checkedMul (a b : BitVec w) : Rust (BitVec w) :=
  if a.toNat * b.toNat < 2 ^ w then .ok (a * b) else .error .overflow

def checkedDiv (a b : BitVec w) : Rust (BitVec w) :=
  if b = 0 then .error .divideByZero else .ok (a / b)

/-- `a << n`, which panics when the shift amount reaches the width. -/
def checkedShl (a : BitVec w) (n : U32) : Rust (BitVec w) :=
  if n.toNat < w then .ok (a <<< n.toNat) else .error .overflow

theorem checkedAdd_eq_ok {a b c : BitVec w} :
    checkedAdd a b = .ok c ↔ c.toNat = a.toNat + b.toNat := by
  unfold checkedAdd
  split
  · rename_i fits
    rw [Except.ok.injEq, ← BitVec.toNat_inj, BitVec.toNat_add, Nat.mod_eq_of_lt fits, eq_comm]
  · rename_i overflows
    have bound := c.isLt
    simp only [reduceCtorEq, false_iff]
    omega

theorem checkedSub_eq_ok {a b c : BitVec w} :
    checkedSub a b = .ok c ↔ a.toNat = b.toNat + c.toNat := by
  unfold checkedSub
  split
  · rename_i le
    rw [Except.ok.injEq, ← BitVec.toNat_inj, BitVec.toNat_sub_of_le (by exact le)]
    omega
  · rename_i underflows
    simp only [reduceCtorEq, false_iff]
    omega

theorem checkedMul_eq_ok {a b c : BitVec w} :
    checkedMul a b = .ok c ↔ c.toNat = a.toNat * b.toNat := by
  unfold checkedMul
  split
  · rename_i fits
    rw [Except.ok.injEq, ← BitVec.toNat_inj, BitVec.toNat_mul, Nat.mod_eq_of_lt fits, eq_comm]
  · rename_i overflows
    have bound := c.isLt
    simp only [reduceCtorEq, false_iff]
    omega

theorem checkedDiv_eq_ok {a b c : BitVec w} :
    checkedDiv a b = .ok c ↔ b.toNat ≠ 0 ∧ c.toNat = a.toNat / b.toNat := by
  unfold checkedDiv
  split
  · rename_i zero
    simp [zero]
  · rename_i nonzero
    have positive : b.toNat ≠ 0 := fun zero => nonzero (BitVec.eq_of_toNat_eq zero)
    rw [Except.ok.injEq, ← BitVec.toNat_inj, BitVec.toNat_udiv, eq_comm]
    simp only [positive, ne_eq, not_false_eq_true, true_and]

theorem checkedAdd_returns {a b : BitVec w} (fits : a.toNat + b.toNat < 2 ^ w) :
    ∃ c, checkedAdd a b = .ok c :=
  ⟨a + b, if_pos fits⟩

/-- `a + 1` -/
theorem checkedAdd_one_returns {a : BitVec w} (fits : a.toNat + 1 < 2 ^ w) :
    ∃ next, checkedAdd a 1 = .ok next ∧ next.toNat = a.toNat + 1 := by
  have one : (1 : BitVec w).toNat = 1 :=
    Nat.mod_eq_of_lt (Nat.lt_of_le_of_lt (Nat.le_add_left 1 a.toNat) fits)
  obtain ⟨next, run⟩ := checkedAdd_returns (a := a) (b := 1) (by rwa [one])
  exact ⟨next, run, (checkedAdd_eq_ok.mp run).trans (by rw [one])⟩

theorem checkedSub_returns {a b : BitVec w} (le : b.toNat ≤ a.toNat) :
    ∃ c, checkedSub a b = .ok c :=
  ⟨a - b, if_pos le⟩

theorem checkedMul_returns {a b : BitVec w} (fits : a.toNat * b.toNat < 2 ^ w) :
    ∃ c, checkedMul a b = .ok c :=
  ⟨a * b, if_pos fits⟩

theorem checkedShl_returns {a : BitVec w} {n : U32} (small : n.toNat < w) :
    ∃ c, checkedShl a n = .ok c :=
  ⟨a <<< n.toNat, if_pos small⟩

/-- Shifting a one by less than the width gives the power of two. -/
theorem checkedShl_one_eq_ok {n : U32} {c : BitVec w} :
    checkedShl 1 n = .ok c ↔ n.toNat < w ∧ c.toNat = 2 ^ n.toNat := by
  unfold checkedShl
  split
  · rename_i small
    have one : (1 : BitVec w).toNat = 1 :=
      Nat.mod_eq_of_lt (Nat.one_lt_two_pow (by omega))
    have shifted : ((1 : BitVec w) <<< n.toNat).toNat = 2 ^ n.toNat := by
      rw [BitVec.toNat_shiftLeft, one, Nat.one_shiftLeft,
        Nat.mod_eq_of_lt (Nat.pow_lt_pow_right (by decide) small)]
    rw [Except.ok.injEq, ← BitVec.toNat_inj, shifted]
    simp only [small, true_and, eq_comm]
  · rename_i large
    simp [large]

end Checked

/-- The computation returns, or panics for an overflow. -/
def OnlyOverflow {α : Type} (x : Rust α) : Prop :=
  ∀ p, x = .error p → p = .overflow

namespace OnlyOverflow

variable {w : Nat} {α β : Type}

theorem ok (a : α) : OnlyOverflow (.ok a) := by
  intro p failed
  cases failed

theorem bind {x : Rust α} {f : α → Rust β} (first : OnlyOverflow x)
    (rest : ∀ a, x = .ok a → OnlyOverflow (f a)) : OnlyOverflow (x >>= f) := by
  intro p failed
  rcases Fallible.bind_eq_error.mp failed with inFirst | ⟨a, run, inRest⟩
  · exact first p inFirst
  · exact rest a run p inRest

theorem checkedAdd (a b : BitVec w) : OnlyOverflow (P4Tas.checkedAdd a b) := by
  intro p failed
  unfold P4Tas.checkedAdd at failed
  split at failed
  · cases failed
  · exact (Except.error.inj failed).symm

theorem checkedSub (a b : BitVec w) : OnlyOverflow (P4Tas.checkedSub a b) := by
  intro p failed
  unfold P4Tas.checkedSub at failed
  split at failed
  · cases failed
  · exact (Except.error.inj failed).symm

theorem checkedShl (a : BitVec w) (n : U32) : OnlyOverflow (P4Tas.checkedShl a n) := by
  intro p failed
  unfold P4Tas.checkedShl at failed
  split at failed
  · cases failed
  · exact (Except.error.inj failed).symm

end OnlyOverflow

/-! ## Signed integers

A signed integer of `w` bits is a number in its range. -/

/-- The result of a signed operation of `w` bits. -/
def checkedSigned (w : Nat) (x : Int) : Rust Int :=
  if -2 ^ (w - 1) ≤ x ∧ x < 2 ^ (w - 1) then .ok x else .error .overflow

/-- An `as` cast to a signed integer of `w` bits. -/
def asSigned (w : Nat) (x : Int) : Int :=
  x.bmod (2 ^ w)

theorem checkedSigned_eq_ok {w : Nat} {x y : Int} :
    checkedSigned w x = .ok y ↔ y = x ∧ -2 ^ (w - 1) ≤ x ∧ x < 2 ^ (w - 1) := by
  unfold checkedSigned
  split
  · rename_i fits
    simp [fits, eq_comm]
  · rename_i overflows
    simp [overflows]

/-- A cast leaves a number alone that is in the range. -/
theorem asSigned_eq {w : Nat} {x : Int} (positive : 0 < w) (lower : -2 ^ (w - 1) ≤ x)
    (upper : x < 2 ^ (w - 1)) : asSigned w x = x := by
  rcases Nat.exists_eq_succ_of_ne_zero (Nat.ne_of_gt positive) with ⟨v, rfl⟩
  have double : (2 : Int) ^ (v + 1) = 2 * 2 ^ v := by rw [Int.pow_succ, Int.mul_comm]
  rw [Nat.succ_sub_one] at lower upper
  unfold asSigned
  apply Int.bmod_eq_of_le
  all_goals
    push_cast
    omega

/-- The number is in the range of a signed integer of `w` bits. -/
def FitsSigned (w : Nat) (x : Int) : Prop :=
  -2 ^ (w - 1) ≤ x ∧ x < 2 ^ (w - 1)

instance (w : Nat) (x : Int) : Decidable (FitsSigned w x) :=
  inferInstanceAs (Decidable (_ ∧ _))

theorem checkedSigned_of_fits {w : Nat} {x : Int} (fits : FitsSigned w x) :
    checkedSigned w x = .ok x :=
  if_pos fits

/-- A cast leaves alone exactly what is in the range. -/
theorem asSigned_eq_iff {w : Nat} {x : Int} (positive : 0 < w) :
    asSigned w x = x ↔ FitsSigned w x := by
  refine ⟨?_, fun fits => asSigned_eq positive fits.1 fits.2⟩
  intro same
  rcases Nat.exists_eq_succ_of_ne_zero (Nat.ne_of_gt positive) with ⟨v, rfl⟩
  have double : (2 : Int) ^ (v + 1) = 2 * 2 ^ v := by rw [Int.pow_succ, Int.mul_comm]
  have modulus : 0 < 2 ^ (v + 1) := Nat.two_pow_pos _
  have lower := @Int.le_bmod x (2 ^ (v + 1)) modulus
  have upper := @Int.bmod_lt x (2 ^ (v + 1)) modulus
  unfold asSigned at same
  rw [same] at lower upper
  unfold FitsSigned
  rw [Nat.succ_sub_one]
  push_cast at lower upper
  omega

end P4Tas
