import P4Tas.Ptp.SyncTimes

/-!
# The 64-bit time behind the hardware timestamps

The tracker counts the wraps of the 48-bit clock in its upper half, which starts at the upper half
of the system time.

* `combine_steady_iff`: it counts a wrap exactly when the timestamp decreases;
* `combineAll_unwraps`: as long as the times it is fed go forward by less than the range of the
  clock, what it returns differs from them by a constant.
-/

namespace P4Tas.Ptp

/-! ## One timestamp -/

namespace TimestampTracker

/-- The hardware time in a timestamp. -/
def low48 (hwTs : U64) : U64 := hwTs &&& MASK_48

theorem low48_toNat (hwTs : U64) : (low48 hwTs).toNat = hwTs.toNat % 2 ^ 48 := by
  have mask : MASK_48 = BitVec.ofNat 64 (2 ^ 48 - 1) := rfl
  unfold low48
  rw [mask, BitVec.toNat_and, BitVec.toNat_ofNat, Nat.mod_eq_of_lt (by omega),
    Nat.and_two_pow_sub_one_eq_mod]

/-- The upper half and the hardware time do not overlap. -/
theorem toNat_fullTimestamp (swTsNs : U16) {hwTs : U64} (small : hwTs.toNat < 2 ^ 48) :
    (fullTimestamp swTsNs hwTs).toNat = swTsNs.toNat * 2 ^ 48 + hwTs.toNat := by
  have upper := swTsNs.isLt
  unfold fullTimestamp
  rw [BitVec.toNat_or, BitVec.toNat_shiftLeft, BitVec.toNat_setWidth,
    Nat.mod_eq_of_lt (by omega : swTsNs.toNat < 2 ^ 64), Nat.shiftLeft_eq,
    Nat.mod_eq_of_lt (by omega), Nat.mul_comm, ← Nat.two_pow_add_eq_or_of_lt small]

variable {tracker : TimestampTracker} {hwTs : U64}

theorem lastHwTs_combine : (tracker.combine hwTs).1.lastHwTs = some (low48 hwTs) := rfl

/-- The upper half stays exactly when the timestamp has not decreased. -/
theorem combine_steady_iff :
    (tracker.combine hwTs).1.swTsNs = tracker.swTsNs ↔
      ∀ last, tracker.lastHwTs = some last → last ≤ low48 hwTs := by
  have counted : tracker.swTsNs + 1 ≠ tracker.swTsNs := by
    intro same
    have nat := congrArg BitVec.toNat same
    rw [BitVec.toNat_add] at nat
    have bound := tracker.swTsNs.isLt
    have one : (1 : U16).toNat = 1 := rfl
    omega
  have combined : (tracker.combine hwTs).1.swTsNs = tracker.nextSwTs (low48 hwTs) := rfl
  rw [combined]
  unfold nextSwTs
  cases tracker.lastHwTs with
  | none => simp
  | some last =>
    dsimp only
    split
    · rename_i decreased
      refine iff_of_false counted fun ordered => ?_
      exact absurd (ordered last rfl) (BitVec.not_le.mpr decreased)
    · rename_i ordered
      refine iff_of_true rfl fun last' same => ?_
      cases same
      exact BitVec.not_lt.mp ordered

theorem low48_lt (hwTs : U64) : (low48 hwTs).toNat < 2 ^ 48 := by
  rw [low48_toNat]
  exact Nat.mod_lt _ (by omega)

/-- What is returned is what the tracker keeps. -/
theorem combine_eq_fullTimestamp :
    (tracker.combine hwTs).2 = fullTimestamp (tracker.combine hwTs).1.swTsNs (low48 hwTs) :=
  rfl

theorem lastFullTimestamp_combine :
    (tracker.combine hwTs).1.lastFullTimestamp = some (tracker.combine hwTs).2 :=
  rfl

/-- The upper 16 bits of a full timestamp are those of the tracker. -/
theorem combine_upper :
    (tracker.combine hwTs).2.toNat / 2 ^ 48 = (tracker.combine hwTs).1.swTsNs.toNat := by
  have lower := low48_lt hwTs
  rw [combine_eq_fullTimestamp, toNat_fullTimestamp _ lower]
  omega

/-! ## Timestamps of a clock that goes forward -/

/-- `combine`, fed one word after the other. -/
def combineAll (tracker : TimestampTracker) : List U64 → TimestampTracker × List U64
  | [] => (tracker, [])
  | word :: words =>
    let (next, full) := tracker.combine word
    let (last, rest) := next.combineAll words
    (last, full :: rest)

/-- What the upper half is ahead of the wraps of the clock. -/
def ahead (swTsNs : U16) (first : Nat) : U16 :=
  swTsNs - BitVec.ofNat 16 (first / 2 ^ 48)

/-- The difference between what is returned and the true time. -/
def offset (swTsNs : U16) (first : Nat) : U64 :=
  (ahead swTsNs first).setWidth 64 <<< 48

/-- The tracker has last been fed time `x`, and its upper half has counted the wraps up to it. -/
structure CountedTo (k : U16) (x : Nat) (tracker : TimestampTracker) : Prop where
  upper : tracker.swTsNs = BitVec.ofNat 16 (x / 2 ^ 48) + k
  last : ∃ hw : U64, tracker.lastHwTs = some hw ∧ hw.toNat = x % 2 ^ 48

/-- The upper half of the true time, ahead by `k`, over the hardware time. -/
theorem fullTimestamp_eq {k : U16} {x : Nat} {hw : U64} (low : hw.toNat = x % 2 ^ 48) :
    fullTimestamp (BitVec.ofNat 16 (x / 2 ^ 48) + k) hw =
      BitVec.ofNat 64 x + k.setWidth 64 <<< 48 := by
  have small : hw.toNat < 2 ^ 48 := low ▸ Nat.mod_lt _ (by omega)
  have bound := k.isLt
  apply BitVec.eq_of_toNat_eq
  rw [toNat_fullTimestamp _ small, BitVec.toNat_add, BitVec.toNat_add, BitVec.toNat_ofNat,
    BitVec.toNat_ofNat, BitVec.toNat_shiftLeft, BitVec.toNat_setWidth,
    Nat.mod_eq_of_lt (by omega : k.toNat < 2 ^ 64), Nat.shiftLeft_eq,
    Nat.mod_eq_of_lt (by omega : k.toNat * 2 ^ 48 < 2 ^ 64), low]
  omega

/-- The time goes forward, by less than the range of the clock. -/
def Advances (x y : Nat) : Prop :=
  x ≤ y ∧ y < x + 2 ^ 48

/-- A step forward: the timestamp decreases exactly when the clock has wrapped. -/
theorem CountedTo.combine {k : U16} {x y : Nat} (counted : CountedTo k x tracker)
    (advances : Advances x y) (stamped : hwTs.toNat % 2 ^ 48 = y % 2 ^ 48) :
    CountedTo k y (tracker.combine hwTs).1 := by
  rcases counted.last with ⟨hw, lastHw, low⟩
  rcases advances with ⟨forward, near⟩
  have lowNow : (low48 hwTs).toNat = y % 2 ^ 48 := (low48_toNat hwTs).trans stamped
  refine ⟨?_, low48 hwTs, rfl, lowNow⟩
  have combined : (tracker.combine hwTs).1.swTsNs = tracker.nextSwTs (low48 hwTs) := rfl
  rw [combined]
  unfold nextSwTs
  rw [lastHw, counted.upper]
  dsimp only
  split
  · rename_i decreased
    have wrapped : y / 2 ^ 48 = x / 2 ^ 48 + 1 := by
      have less : (low48 hwTs).toNat < hw.toNat := decreased
      omega
    rw [wrapped, BitVec.ofNat_add, BitVec.add_assoc, BitVec.add_assoc, BitVec.add_comm k]
    rfl
  · rename_i ordered
    have same : y / 2 ^ 48 = x / 2 ^ 48 := by
      have le : ¬ (low48 hwTs).toNat < hw.toNat := ordered
      omega
    rw [same]

/-- The first timestamp leaves the upper half as it is. -/
theorem countedTo_first (swTsNs : U16) {first : Nat}
    (stamped : hwTs.toNat % 2 ^ 48 = first % 2 ^ 48) :
    CountedTo (ahead swTsNs first) first
      (TimestampTracker.combine { swTsNs, lastHwTs := none } hwTs).1 := by
  refine ⟨?_, low48 hwTs, rfl, (low48_toNat hwTs).trans stamped⟩
  unfold ahead
  rw [BitVec.add_comm, BitVec.sub_add_cancel]
  rfl

/-- What a step that has counted up to `x` returns. -/
theorem CountedTo.returned {k : U16} {x : Nat} (counted : CountedTo k x (tracker.combine hwTs).1) :
    (tracker.combine hwTs).2 = BitVec.ofNat 64 x + k.setWidth 64 <<< 48 := by
  rcases counted.last with ⟨hw, lastHw, low⟩
  cases lastHw
  rw [combine_eq_fullTimestamp, counted.upper]
  exact fullTimestamp_eq low

theorem lastFullTimestamp_combineAll (words : List U64) :
    (tracker.combineAll words).1.lastFullTimestamp =
      (tracker.lastFullTimestamp.toList ++ (tracker.combineAll words).2).getLast? := by
  induction words generalizing tracker with
  | nil =>
    unfold combineAll
    cases tracker.lastFullTimestamp with
    | none => rfl
    | some full => rfl
  | cons word words ih =>
    have after : ((tracker.combine word).1.combineAll words).1.lastFullTimestamp = _ := ih
    rw [lastFullTimestamp_combine] at after
    rw [combineAll]
    dsimp only
    rw [after, Option.toList_some, List.singleton_append, List.getLast?_append,
      List.getLast?_cons, Option.some_or]

/-- The timestamps after the first. -/
theorem CountedTo.combineAll {k : U16} {x : Nat} (counted : CountedTo k x tracker)
    {times : List Nat} {words : List U64} (advance : (x :: times).IsChain Advances)
    (stamped : List.Forall₂ (fun word y => word.toNat % 2 ^ 48 = y % 2 ^ 48) words times) :
    (tracker.combineAll words).2 =
      times.map fun y => BitVec.ofNat 64 y + k.setWidth 64 <<< 48 := by
  induction stamped generalizing tracker x with
  | nil => rfl
  | @cons word y words times stamp _ ih =>
    rw [List.isChain_cons_cons] at advance
    have next := counted.combine advance.1 stamp
    have rest : ((tracker.combine word).1.combineAll words).2 = _ := ih next advance.2
    rw [TimestampTracker.combineAll]
    dsimp only
    rw [rest, next.returned, List.map_cons]

/-- A tracker that is fed the low 48 bits of times that go forward by less than `2 ^ 48` each
returns the times, all with the same offset, and its last full timestamp is the last of them. -/
theorem combineAll_unwraps (swTsNs : U16) {first : Nat} {times : List Nat} {words : List U64}
    (advance : (first :: times).IsChain Advances)
    (stamped : List.Forall₂ (fun word x => word.toNat % 2 ^ 48 = x % 2 ^ 48) words
      (first :: times)) :
    (combineAll { swTsNs, lastHwTs := none } words).2 =
        ((first :: times).map fun x => BitVec.ofNat 64 x + offset swTsNs first) ∧
      (combineAll { swTsNs, lastHwTs := none } words).1.lastFullTimestamp =
        (combineAll { swTsNs, lastHwTs := none } words).2.getLast? := by
  refine ⟨?_, lastFullTimestamp_combineAll words⟩
  cases stamped with
  | @cons word _ words _ stamp rest =>
    have counted := countedTo_first swTsNs stamp
    have after := counted.combineAll advance rest
    rw [combineAll]
    dsimp only
    rw [after, counted.returned]
    rfl

/-- Both halves wrap with the second timestamp. -/
theorem combineAll_unwraps_sample :
    (combineAll { swTsNs := 0xFFFF, lastHwTs := none } [0xABCDFFFFFFFFFFFF, 4]).2 =
        ([2 ^ 48 - 1, 2 ^ 48 + 4].map fun x => BitVec.ofNat 64 x + offset 0xFFFF (2 ^ 48 - 1)) ∧
      (combineAll { swTsNs := 0xFFFF, lastHwTs := none }
          [0xABCDFFFFFFFFFFFF, 4]).1.lastFullTimestamp =
        (combineAll { swTsNs := 0xFFFF, lastHwTs := none } [0xABCDFFFFFFFFFFFF, 4]).2.getLast? :=
  combineAll_unwraps 0xFFFF (.cons_cons (by unfold Advances; omega) (.singleton _))
    (.cons (by decide) (.cons (by decide) .nil))

end TimestampTracker

end P4Tas.Ptp
