import Mathlib.Algebra.Group.Nat.Defs

/-!
# Fields of a word

A field of a machine word is a span of its bits.  Setting it clears the span and puts the low bits
of a value there, and getting it moves the span to the bottom of the word.

* `get_set_same`, `get_set_of_apart`: a field that was set holds the low bits of the value, and a
  field apart from it what it held before;
* `get_setAll`: so after any number of settings a field holds the value it was set to last.
-/

/-- The bits from `shift` on, `width` of them. -/
structure WordField where
  shift : Nat
  width : Nat
  deriving DecidableEq, Repr

namespace WordField

variable {n : Nat}

/-- The bit is one of the field. -/
def Covers (f : WordField) (i : Nat) : Prop :=
  f.shift ≤ i ∧ i < f.shift + f.width

instance (f : WordField) (i : Nat) : Decidable (f.Covers i) :=
  inferInstanceAs (Decidable (_ ∧ _))

/-- The fields have no bit in common. -/
def Apart (f g : WordField) : Prop :=
  f.shift + f.width ≤ g.shift ∨ g.shift + g.width ≤ f.shift

instance (f g : WordField) : Decidable (f.Apart g) :=
  inferInstanceAs (Decidable (_ ∨ _))

def mask (n : Nat) (f : WordField) : BitVec n :=
  BitVec.ofNat n (2 ^ f.width - 1) <<< f.shift

def set (f : WordField) (word value : BitVec n) : BitVec n :=
  (word &&& ~~~f.mask n) ||| ((value <<< f.shift) &&& f.mask n)

def get (f : WordField) (word : BitVec n) : BitVec n :=
  (word &&& f.mask n) >>> f.shift

/-! ## Bits -/

theorem getLsbD_mask (f : WordField) {i : Nat} (inside : i < n) :
    (f.mask n).getLsbD i = decide (f.Covers i) := by
  unfold mask Covers
  simp only [BitVec.getLsbD_shiftLeft, BitVec.getLsbD_ofNat, Nat.testBit_two_pow_sub_one, inside,
    decide_true, Bool.true_and]
  rcases Nat.lt_or_ge i f.shift with below | above
  · have outside : ¬ (f.shift ≤ i ∧ i < f.shift + f.width) := by omega
    simp [below, outside]
  · have moved : i - f.shift < n := by omega
    have same : (i - f.shift < f.width) ↔ i < f.shift + f.width := by omega
    simp [above, moved, same]

/-- The bits of the field are those of the value, and the others stay. -/
theorem getLsbD_set (f : WordField) (word value : BitVec n) {i : Nat} (inside : i < n) :
    (f.set word value).getLsbD i =
      if f.Covers i then value.getLsbD (i - f.shift) else word.getLsbD i := by
  unfold set
  simp only [BitVec.getLsbD_or, BitVec.getLsbD_and, BitVec.getLsbD_not, BitVec.getLsbD_shiftLeft,
    f.getLsbD_mask inside, inside, decide_true, Bool.true_and]
  split
  · rename_i covered
    have above : ¬ i < f.shift := Nat.not_lt.mpr covered.1
    simp [covered, above]
  · rename_i apart
    simp [apart]

theorem getLsbD_get (f : WordField) (word : BitVec n) (i : Nat) :
    (f.get word).getLsbD i = (decide (i < f.width) && word.getLsbD (f.shift + i)) := by
  unfold get
  rw [BitVec.getLsbD_ushiftRight, BitVec.getLsbD_and]
  rcases Nat.lt_or_ge (f.shift + i) n with inside | outside
  · have covers : f.Covers (f.shift + i) ↔ i < f.width := by
      unfold Covers
      omega
    rw [f.getLsbD_mask inside, decide_eq_decide.mpr covers, Bool.and_comm]
  · rw [BitVec.getLsbD_of_ge word _ outside, Bool.false_and, Bool.and_false]

/-! ## Fields -/

/-- What a field holds is its span of the word. -/
theorem get_eq (f : WordField) (word : BitVec n) :
    f.get word = (word.extractLsb' f.shift f.width).setWidth n := by
  apply BitVec.eq_of_getLsbD_eq
  intro i inside
  rw [getLsbD_get, BitVec.getLsbD_setWidth, BitVec.getLsbD_extractLsb']
  simp only [inside, decide_true, Bool.true_and]

theorem get_set_same (f : WordField) (word value : BitVec n) (fits : f.shift + f.width ≤ n) :
    f.get (f.set word value) = (value.setWidth f.width).setWidth n := by
  apply BitVec.eq_of_getLsbD_eq
  intro i inside
  rw [getLsbD_get, BitVec.getLsbD_setWidth, BitVec.getLsbD_setWidth]
  rcases Nat.lt_or_ge i f.width with low | high
  · have covered : f.Covers (f.shift + i) := ⟨Nat.le_add_right _ _, Nat.add_lt_add_left low _⟩
    rw [f.getLsbD_set _ _ (by omega), if_pos covered, Nat.add_sub_cancel_left]
    simp [low, inside]
  · simp [Nat.not_lt.mpr high]

theorem get_set_of_apart {f g : WordField} (apart : f.Apart g) (word value : BitVec n) :
    f.get (g.set word value) = f.get word := by
  apply BitVec.eq_of_getLsbD_eq
  intro i _
  rw [getLsbD_get, getLsbD_get]
  rcases Nat.lt_or_ge i f.width with low | high
  · rcases Nat.lt_or_ge (f.shift + i) n with inside | outside
    · have uncovered : ¬ g.Covers (f.shift + i) := by
        unfold Apart at apart
        unfold Covers
        omega
      rw [g.getLsbD_set _ _ inside, if_neg uncovered]
    · rw [BitVec.getLsbD_of_ge _ _ outside, BitVec.getLsbD_of_ge _ _ outside]
  · simp [Nat.not_lt.mpr high]

/-! ## Several fields -/

variable {ι : Type} {fields : ι → WordField}

/-- The named fields are set, one after the other. -/
def setAll (fields : ι → WordField) (word : BitVec n) : List (ι × BitVec n) → BitVec n
  | [] => word
  | call :: calls => setAll fields ((fields call.1).set word call.2) calls

/-- The value a field is set to last. -/
def lastSet [DecidableEq ι] (i : ι) : List (ι × BitVec n) → Option (BitVec n)
  | [] => none
  | call :: calls => (lastSet i calls).or (if call.1 = i then some call.2 else none)

/-- The fields share no bit and lie in a word of `n` bits. -/
structure Layout (n : Nat) (fields : ι → WordField) : Prop where
  fits : ∀ i, (fields i).shift + (fields i).width ≤ n
  apart : ∀ i j, i ≠ j → (fields i).Apart (fields j)

/-- A field holds the value it was set to last, or what it held before. -/
theorem get_setAll [DecidableEq ι] (layout : Layout n fields) (i : ι) (word : BitVec n)
    (calls : List (ι × BitVec n)) :
    (fields i).get (setAll fields word calls) =
      match lastSet i calls with
      | some value => (value.setWidth (fields i).width).setWidth n
      | none => (fields i).get word := by
  induction calls generalizing word with
  | nil => rfl
  | cons call calls ih =>
    unfold setAll lastSet
    rw [ih]
    cases lastSet i calls with
    | some value => rfl
    | none =>
      rw [Option.none_or]
      rcases Decidable.em (call.1 = i) with rfl | other
      · rw [if_pos rfl]
        exact get_set_same _ _ _ (layout.fits _)
      · rw [if_neg other]
        exact get_set_of_apart (layout.apart _ _ (Ne.symm other)) _ _

/-- A bit outside all fields stays. -/
theorem getLsbD_setAll {i : Nat} (inside : i < n) (outside : ∀ j, ¬ (fields j).Covers i)
    (word : BitVec n) (calls : List (ι × BitVec n)) :
    (setAll fields word calls).getLsbD i = word.getLsbD i := by
  induction calls generalizing word with
  | nil => rfl
  | cons call calls ih =>
    unfold setAll
    rw [ih, (fields call.1).getLsbD_set _ _ inside, if_neg (outside call.1)]

end WordField
