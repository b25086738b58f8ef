import P4Tas.Ptp.Activation

/-!
# The configured activation time

The activation time is configured as a text of seconds and a fraction, separated by a dot.
`ptp_time_plus_2min` takes the digits after the dot for a number of nanoseconds.

* `ptpTimePlus2min_text`: what it returns for a text of this form;
* `ptpTimePlus2min_exact_iff`: this is the time that the text denotes, and two minutes, exactly when
  the fraction has nine digits or is zero.
-/

namespace P4Tas.Ptp

/-! ## Digits -/

/-- The number with these digits. -/
def decimal (digits : List (Fin 10)) : Nat :=
  digits.foldl (fun (n : Nat) (d : Fin 10) => n * 10 + d.val) 0

def digitChar (d : Fin 10) : Char :=
  Nat.digitChar d

theorem digitChar_isDigit : ∀ d, (digitChar d).isDigit = true := by
  decide

theorem digitChar_value : ∀ d, (digitChar d).toNat - '0'.toNat = d := by
  decide

theorem digitChar_ne_plus : ∀ d, digitChar d ≠ '+' := by
  decide

theorem digitChar_ne_dot : ∀ d, digitChar d ≠ '.' := by
  decide

/-- A digit is no sign. -/
theorem unsignedDigits_map (digits : List (Fin 10)) :
    unsignedDigits (digits.map digitChar) = digits.map digitChar := by
  cases digits with
  | nil => rfl
  | cons d digits =>
    unfold unsignedDigits
    split
    · rename_i signed
      exact absurd (List.cons.inj signed).1 (digitChar_ne_plus d)
    · rfl

theorem foldl_digitChar (digits : List (Fin 10)) :
    (digits.map digitChar).foldl (fun n c => n * 10 + (c.toNat - '0'.toNat)) 0 =
      decimal digits := by
  rw [List.foldl_map]
  simp only [digitChar_value]
  rfl

theorem parseU64_digits {digits : List (Fin 10)} (nonempty : digits ≠ [])
    (fits : decimal digits < 2 ^ 64) :
    parseU64 (digits.map digitChar) = some (BitVec.ofNat 64 (decimal digits)) := by
  have all : (digits.map digitChar).all Char.isDigit = true := by
    rw [List.all_map, List.all_eq_true]
    intro d _
    exact digitChar_isDigit d
  have some_digit : digits.map digitChar ≠ [] := by
    rwa [ne_eq, List.map_eq_nil_iff]
  unfold parseU64
  dsimp only
  rw [unsignedDigits_map, foldl_digitChar]
  exact if_pos ⟨some_digit, all, fits⟩

/-- A text without a dot is split off at the first dot after it. -/
theorem splitOnce_append {before : List Char} (noDot : ∀ c ∈ before, c ≠ '.')
    (after : List Char) : splitOnce (before ++ '.' :: after) = some (before, after) := by
  have passes : ∀ c ∈ before, decide (c ≠ '.') = true := fun c member =>
    decide_eq_true (noDot c member)
  unfold splitOnce
  rw [List.dropWhile_append_of_pos passes, List.takeWhile_append_of_pos passes]
  simp

/-! ## Activation times -/

/-- A time as it is configured: the digits of its seconds, and up to nine digits of its
fraction. -/
structure GmTime where
  secs : List (Fin 10)
  nanos : List (Fin 10)
  secs_ne_nil : secs ≠ []
  nanos_ne_nil : nanos ≠ []
  nanos_le : nanos.length ≤ 9

namespace GmTime

variable {t t' : GmTime}

def text (t : GmTime) : List Char :=
  t.secs.map digitChar ++ '.' :: t.nanos.map digitChar

/-- The time that the text denotes, in nanoseconds. -/
def ns (t : GmTime) : Nat :=
  decimal t.secs * 10 ^ 9 + decimal t.nanos * 10 ^ (9 - t.nanos.length)

/-- The digits of the fraction are those of its nanoseconds. -/
def Padded (t : GmTime) : Prop :=
  t.nanos.length = 9 ∨ decimal t.nanos = 0

instance (t : GmTime) : Decidable t.Padded :=
  inferInstanceAs (Decidable (_ ∨ _))

/-- What the digits of the text amount to when those of the fraction are not scaled. -/
def unscaled (t : GmTime) : Nat :=
  decimal t.secs * 10 ^ 9 + decimal t.nanos

theorem unscaled_le_ns : t.unscaled ≤ t.ns := by
  have scale := Nat.pow_pos (n := 9 - t.nanos.length) (show 0 < 10 by decide)
  have le := Nat.le_mul_of_pos_right (decimal t.nanos) scale
  unfold unscaled ns
  omega

theorem unscaled_eq_ns_iff : t.unscaled = t.ns ↔ t.Padded := by
  have short := t.nanos_le
  unfold unscaled ns Padded
  rw [Nat.add_left_cancel_iff]
  refine ⟨?_, ?_⟩
  · intro same
    rcases Nat.eq_zero_or_pos (decimal t.nanos) with zero | positive
    · exact .inr zero
    · have one : 10 ^ (9 - t.nanos.length) = 1 := by
        rw [eq_comm, Nat.mul_eq_left positive.ne'] at same
        exact same
      have none : 9 - t.nanos.length = 0 := (Nat.pow_eq_one.mp one).resolve_left (by decide)
      exact .inl (by omega)
  · intro padded
    rcases padded with full | zero
    · rw [full, Nat.sub_self, Nat.pow_zero, Nat.mul_one]
    · rw [zero, Nat.zero_mul]

/-- The digits after the dot are added as they stand. -/
theorem ptpTimePlus2min_text (fits : t.ns + 120000000000 < 2 ^ 64) :
    ptpTimePlus2min t.text = .ok (BitVec.ofNat 64 (t.unscaled + 120000000000)) := by
  have le := t.unscaled_le_ns
  unfold unscaled at le ⊢
  have noDot : ∀ c ∈ t.secs.map digitChar, c ≠ '.' := by
    intro c member
    rcases List.mem_map.mp member with ⟨d, _, rfl⟩
    exact digitChar_ne_dot d
  have billion : (1000000000 : U64).toNat = 1000000000 := rfl
  have twoMinutes : (120000000000 : U64).toNat = 120000000000 := rfl
  have splitRun : unwrap (splitOnce t.text) =
      .ok (t.secs.map digitChar, t.nanos.map digitChar) :=
    unwrap_eq_ok.mpr (splitOnce_append noDot _)
  have secsRun := unwrap_eq_ok.mpr (parseU64_digits t.secs_ne_nil (by omega))
  have nanosRun := unwrap_eq_ok.mpr (parseU64_digits t.nanos_ne_nil (by omega))
  have secsNat : (BitVec.ofNat 64 (decimal t.secs)).toNat = decimal t.secs :=
    Nat.mod_eq_of_lt (by omega)
  have nanosNat : (BitVec.ofNat 64 (decimal t.nanos)).toNat = decimal t.nanos :=
    Nat.mod_eq_of_lt (by omega)
  rcases checkedMul_returns (a := BitVec.ofNat 64 (decimal t.secs)) (b := 1000000000)
    (by rw [secsNat, billion]; omega) with ⟨ns, nsRun⟩
  have nsEq := checkedMul_eq_ok.mp nsRun
  rw [secsNat, billion] at nsEq
  rcases checkedAdd_returns (a := ns) (b := BitVec.ofNat 64 (decimal t.nanos))
    (by omega) with ⟨sum, sumRun⟩
  have sumEq := checkedAdd_eq_ok.mp sumRun
  rcases checkedAdd_returns (a := sum) (b := 120000000000) (by omega) with ⟨total, totalRun⟩
  have totalEq := checkedAdd_eq_ok.mp totalRun
  have result : total = BitVec.ofNat 64 (decimal t.secs * 10 ^ 9 + decimal t.nanos +
      120000000000) := by
    apply BitVec.eq_of_toNat_eq
    rw [BitVec.toNat_ofNat, Nat.mod_eq_of_lt (by omega)]
    omega
  unfold ptpTimePlus2min
  rw [splitRun, Fallible.ok_bind]
  dsimp only
  rw [secsRun, Fallible.ok_bind, nsRun, Fallible.ok_bind, nanosRun, Fallible.ok_bind, sumRun,
    Fallible.ok_bind, totalRun, result]

/-- For a time that fits in 64 bits, two minutes later, the result is this time exactly when the
fraction has nine digits or is zero; and among such texts a later time has the larger result. -/
theorem ptpTimePlus2min_exact_iff (fits : t.ns + 120000000000 < 2 ^ 64) :
    (ptpTimePlus2min t.text = .ok (BitVec.ofNat 64 (t.ns + 120000000000)) ↔ t.Padded) ∧
      ∀ t' : GmTime, t'.ns + 120000000000 < 2 ^ 64 → t.Padded → t'.Padded →
        ∃ target target', ptpTimePlus2min t.text = .ok target ∧
          ptpTimePlus2min t'.text = .ok target' ∧ (t.ns < t'.ns ↔ target < target') := by
  have le := t.unscaled_le_ns
  refine ⟨?_, ?_⟩
  · rw [ptpTimePlus2min_text fits, ← unscaled_eq_ns_iff, Except.ok.injEq, ← BitVec.toNat_inj,
      BitVec.toNat_ofNat, BitVec.toNat_ofNat, Nat.mod_eq_of_lt (by omega),
      Nat.mod_eq_of_lt (by omega), Nat.add_right_cancel_iff]
  · intro t' fits' padded padded'
    refine ⟨_, _, ptpTimePlus2min_text fits, ptpTimePlus2min_text fits', ?_⟩
    rw [unscaled_eq_ns_iff.mpr padded, unscaled_eq_ns_iff.mpr padded', BitVec.lt_def,
      BitVec.toNat_ofNat, BitVec.toNat_ofNat, Nat.mod_eq_of_lt (by omega),
      Nat.mod_eq_of_lt (by omega), Nat.add_lt_add_iff_right]

/-- 5.250000000 -/
def nineDigits : GmTime where
  secs := [5]
  nanos := [2, 5, 0, 0, 0, 0, 0, 0, 0]
  secs_ne_nil := List.cons_ne_nil _ _
  nanos_ne_nil := List.cons_ne_nil _ _
  nanos_le := le_refl 9

/-- 5.25 -/
def twoDigits : GmTime where
  secs := [5]
  nanos := [2, 5]
  secs_ne_nil := List.cons_ne_nil _ _
  nanos_ne_nil := List.cons_ne_nil _ _
  nanos_le := by decide

theorem ptpTimePlus2min_exact_iff_sample :
    ptpTimePlus2min nineDigits.text = .ok (BitVec.ofNat 64 (nineDigits.ns + 120000000000)) :=
  (ptpTimePlus2min_exact_iff (t := nineDigits) (by decide)).1.mpr (by decide)

/-- The result for 5.25 is that for 5.000000025, and below that for 5.250000000. -/
theorem twoDigits_early :
    String.ofList twoDigits.text = "5.25" ∧
      ptpTimePlus2min twoDigits.text = .ok 125000000025 ∧
      ptpTimePlus2min twoDigits.text ≠ .ok (BitVec.ofNat 64 (twoDigits.ns + 120000000000)) ∧
      twoDigits.ns = nineDigits.ns ∧
      ptpTimePlus2min nineDigits.text = .ok 125250000000 := by
  decide +kernel

end GmTime

end P4Tas.Ptp
