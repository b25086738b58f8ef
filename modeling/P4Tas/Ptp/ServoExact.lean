import P4Tas.Lib.History
import P4Tas.Ptp.ServoRuns

/-!
# The servo in exact integers

`ExactServo` is the servo as its comments describe it, over integers without a width: the correction
falls by the offset of a sample, and the increment moves against the mean of the last three applied
offsets, by a step that grows with it.  The servo of the source narrows offsets and means to 64 and
32 bits on the way.

* `fits_of_processesExactly`, `processesExactly_of_fits`: a sample is processed exactly when what is
  computed for it fits;
* `ExactServo.fits_of_small`: offsets of less than `2 ^ 31` ns fit for `2 ^ 24` samples;
* `servo_exact_iff`: a sequence of samples is processed exactly when each of them fits;
* `narrowed_tier`: a mean of four seconds that moves the increment by one.
-/

namespace P4Tas.Ptp

open Transition (Run)
open Machine (Steps)

/-! ## The exact servo -/

structure ExactServo where
  counter : Nat
  applied : Int
  base : Option Int
  increment : Int
  /-- The offsets that were applied, the last one at the end. -/
  offsets : List Int

/-- The size of a step of the increment, for the magnitude of a mean. -/
def tier (magnitude : Nat) : Int :=
  if magnitude > 1000 then 50
  else if magnitude > 500 then 20
  else if magnitude > 100 then 10
  else if magnitude > 50 then 5
  else 1

/-- The last three. -/
def window (offsets : List Int) : List Int :=
  offsets.drop (offsets.length - 3)

/-- The mean of the last three, rounded towards zero. -/
def mean (offsets : List Int) : Int :=
  (window offsets).sum.tdiv (window offsets).length

namespace ExactServo

def new : ExactServo where
  counter := 0
  applied := 0
  base := none
  increment := DEFAULT_INCREMENT
  offsets := []

def offset (servo : ExactServo) (sample : PtpServoSample) : Int :=
  sample.rawOffset - servo.base.getD 0

def Adopts (servo : ExactServo) (sample : PtpServoSample) : Prop :=
  servo.base = none ∧ sample.rawOffset.natAbs > 1000000000

def Outlier (servo : ExactServo) (sample : PtpServoSample) : Prop :=
  servo.counter ≥ 100 ∧ (servo.offset sample).natAbs > OUTLIER_THRESHOLD_NS

instance (servo : ExactServo) (sample : PtpServoSample) : Decidable (servo.Adopts sample) :=
  inferInstanceAs (Decidable (_ ∧ _))

instance (servo : ExactServo) (sample : PtpServoSample) : Decidable (servo.Outlier sample) :=
  inferInstanceAs (Decidable (_ ∧ _))

/-- The applied offsets with that of the sample. -/
def pushed (servo : ExactServo) (sample : PtpServoSample) : List Int :=
  servo.offsets ++ [servo.offset sample]

/-- The increment after a step against the mean. -/
def moved (servo : ExactServo) (sample : PtpServoSample) : Int :=
  servo.increment -
    (mean (servo.pushed sample)).sign * tier (mean (servo.pushed sample)).natAbs

def status (offsetNs : Int) (ptpTimeNs : U64) : PtpSyncStatus :=
  if offsetNs.natAbs < 100 then
    .synchronized offsetNs ptpTimeNs
  else
    .syncing offsetNs ptpTimeNs

def step (servo : ExactServo) (m : Measurement) : ExactServo × Effects :=
  let offset := servo.offset m.sample
  if servo.Adopts m.sample then
    ({ servo with base := some m.sample.rawOffset }, {})
  else if servo.Outlier m.sample then
    ({ servo with counter := servo.counter + 1 }, { logged := some offset })
  else if m.acks.offsetSet then
    ({ servo with
        counter := servo.counter + 1
        applied := servo.applied - offset
        increment := servo.moved m.sample
        offsets := servo.pushed m.sample },
      { logged := some offset
        offsetWrite := some (servo.applied - offset)
        incWrite := some (servo.moved m.sample)
        status := some (status offset m.sample.ptpTimeNs) })
  else
    ({ servo with counter := servo.counter + 1 },
      { logged := some offset, offsetWrite := some (servo.applied - offset) })

variable {servo : ExactServo} {m : Measurement}

theorem step_adopted (adopts : servo.Adopts m.sample) :
    servo.step m = ({ servo with base := some m.sample.rawOffset }, {}) :=
  if_pos adopts

theorem step_outlier (keeps : ¬ servo.Adopts m.sample) (outlier : servo.Outlier m.sample) :
    servo.step m = ({ servo with counter := servo.counter + 1 },
      { logged := some (servo.offset m.sample) }) :=
  (if_neg keeps).trans (if_pos outlier)

theorem step_applied (keeps : ¬ servo.Adopts m.sample) (usual : ¬ servo.Outlier m.sample)
    (accepted : m.acks.offsetSet = true) :
    servo.step m = ({ servo with
        counter := servo.counter + 1
        applied := servo.applied - servo.offset m.sample
        increment := servo.moved m.sample
        offsets := servo.pushed m.sample },
      { logged := some (servo.offset m.sample)
        offsetWrite := some (servo.applied - servo.offset m.sample)
        incWrite := some (servo.moved m.sample)
        status := some (status (servo.offset m.sample) m.sample.ptpTimeNs) }) :=
  ((if_neg keeps).trans (if_neg usual)).trans (if_pos accepted)

theorem step_rejected (keeps : ¬ servo.Adopts m.sample) (usual : ¬ servo.Outlier m.sample)
    (refused : m.acks.offsetSet = false) :
    servo.step m = ({ servo with counter := servo.counter + 1 },
      { logged := some (servo.offset m.sample)
        offsetWrite := some (servo.applied - servo.offset m.sample) }) :=
  ((if_neg keeps).trans (if_neg usual)).trans (if_neg (ne_true_of_eq_false refused))

theorem pushed_ne_nil (servo : ExactServo) (sample : PtpServoSample) : servo.pushed sample ≠ [] :=
  List.append_ne_nil_of_right_ne_nil _ (List.cons_ne_nil _ _)

/-- The exact servo after a sequence of samples. -/
def run (ms : List Measurement) : ExactServo :=
  ms.foldl (fun servo m => (servo.step m).1) new

/-- The mean with the offset of the sample, the sums it is computed by and the step against it fit
the widths of the source. -/
structure FitsMean (servo : ExactServo) (sample : PtpServoSample) : Prop where
  sums : ∀ k < (window (servo.pushed sample)).length,
    FitsSigned 64 ((window (servo.pushed sample)).take (k + 1)).sum
  mean : (mean (servo.pushed sample)).natAbs < 2 ^ 31
  increment : FitsSigned 32 (servo.moved sample)

/-- What the servo computes for the sample fits the widths of the source. -/
def Fits (servo : ExactServo) (m : Measurement) : Prop :=
  servo.Adopts m.sample ∨
    FitsSigned 64 (servo.offset m.sample) ∧ servo.counter + 1 < 2 ^ 32 ∧
      (servo.Outlier m.sample ∨
        FitsSigned 64 (servo.applied - servo.offset m.sample) ∧
          (m.acks.offsetSet = true → servo.FitsMean m.sample))

end ExactServo

/-- The servo holds what the exact servo does. -/
structure Servo.Represents (servo : Servo) (exact : ExactServo) : Prop where
  counter : servo.syncCounter.toNat = exact.counter
  applied : servo.appliedCorrection = exact.applied
  base : servo.baseEpochOffset = exact.base
  increment : servo.currentIncrement = exact.increment
  /-- The increment is an `i32`. -/
  inRange : FitsSigned 32 exact.increment
  history : servo.offsetHistory = ⟨window exact.offsets, 3⟩

/-! ## The mean -/

theorem tier_le {a b : Nat} (le : a ≤ b) : tier a ≤ tier b := by
  unfold tier
  split_ifs
  all_goals omega

theorem window_length_le (offsets : List Int) : (window offsets).length ≤ 3 := by
  unfold window
  rw [List.length_drop]
  omega

/-- The history keeps the last three. -/
theorem push_window (offsets : List Int) (offset : Int) :
    (⟨window offsets, 3⟩ : OffsetHistory).push offset = ⟨window (offsets ++ [offset]), 3⟩ := by
  unfold OffsetHistory.push window
  dsimp only
  rw [List.length_drop, List.length_append, List.length_singleton]
  split
  · rename_i full
    have shift : offsets.length - 3 + 1 = offsets.length + 1 - 3 := by omega
    rw [List.tail_drop, shift, ← List.drop_append_of_le_length (by omega)]
  · rename_i short
    have none : offsets.length - 3 = 0 ∧ offsets.length + 1 - 3 = 0 := by omega
    rw [none.1, none.2, List.drop_zero, List.drop_zero]

/-- A sum of 64-bit numbers is computed exactly when each partial sum fits. -/
theorem foldlM_sum_eq_ok {values : List Int} {acc s : Int} :
    values.foldlM (fun sum value => checkedSigned 64 (sum + value)) acc = .ok s ↔
      s = acc + values.sum ∧
        ∀ k < values.length, FitsSigned 64 (acc + (values.take (k + 1)).sum) := by
  induction values generalizing acc with
  | nil => simp [pure, Except.pure, eq_comm]
  | cons value values ih =>
    rw [List.foldlM_cons, Fallible.bind_eq_ok]
    refine ⟨?_, ?_⟩
    · rintro ⟨first, added, rest⟩
      rcases checkedSigned_eq_ok.mp added with ⟨rfl, fits⟩
      rcases ih.mp rest with ⟨rfl, later⟩
      refine ⟨by rw [List.sum_cons, Int.add_assoc], fun k inside => ?_⟩
      rw [List.take_succ_cons, List.sum_cons, ← Int.add_assoc]
      cases k with
      | zero =>
        rw [List.take_zero, List.sum_nil, Int.add_zero]
        exact fits
      | succ k => exact later k (by simpa using inside)
    · rintro ⟨rfl, fits⟩
      have first := fits 0 (Nat.succ_pos _)
      rw [List.take_succ_cons, List.take_zero, List.sum_singleton] at first
      refine ⟨acc + value, checkedSigned_of_fits first, ih.mpr ⟨?_, fun k inside => ?_⟩⟩
      · rw [List.sum_cons, Int.add_assoc]
      · have later := fits (k + 1) (by simpa using inside)
        rwa [List.take_succ_cons, List.sum_cons, ← Int.add_assoc] at later

/-- The mean of the history is computed exactly when each sum on the way fits. -/
theorem average_eq_ok {offsets : List Int} (nonempty : offsets ≠ []) {average : Option Int} :
    (⟨window offsets, 3⟩ : OffsetHistory).average = .ok average ↔
      average = some (mean offsets) ∧
        ∀ k < (window offsets).length, FitsSigned 64 ((window offsets).take (k + 1)).sum := by
  have some_left : (window offsets).isEmpty = false := by
    have positive := List.length_pos_of_ne_nil nonempty
    rw [List.isEmpty_eq_false_iff, ← List.length_pos_iff_ne_nil]
    unfold window
    rw [List.length_drop]
    omega
  unfold OffsetHistory.average OffsetHistory.sum
  dsimp only
  rw [some_left, if_neg Bool.false_ne_true, Fallible.bind_eq_ok]
  simp only [foldlM_sum_eq_ok, Int.zero_add]
  refine ⟨?_, ?_⟩
  · rintro ⟨s, ⟨rfl, fits⟩, result⟩
    cases result
    exact ⟨rfl, fits⟩
  · rintro ⟨rfl, fits⟩
    exact ⟨_, ⟨rfl, fits⟩, rfl⟩

/-- The cast of the magnitude of a mean. -/
def Narrowed (average : Int) : Prop :=
  asSigned 32 average.natAbs = average.natAbs

theorem narrowed_iff (average : Int) : Narrowed average ↔ average.natAbs < 2 ^ 31 := by
  unfold Narrowed
  rw [asSigned_eq_iff (by decide)]
  unfold FitsSigned
  omega

theorem adjustment_eq {average : Int} (small : average.natAbs < 2 ^ 31) :
    adjustment average = .ok (tier average.natAbs) := by
  have fits : FitsSigned 64 average.natAbs := by
    unfold FitsSigned
    omega
  have cast := (narrowed_iff average).mpr small
  unfold Narrowed at cast
  unfold adjustment tier
  rw [checkedSigned_of_fits fits, Fallible.ok_bind, cast]
  simp only [pure, Except.pure, Except.ok.injEq]
  split_ifs
  all_goals omega

/-- A mean that is not cut off moves the increment by its tier. -/
theorem adjustIncrement_eq_ok {increment average increment' : Int}
    (small : average.natAbs < 2 ^ 31) (inRange : FitsSigned 32 increment) :
    adjustIncrement increment average = .ok increment' ↔
      increment' = increment - average.sign * tier average.natAbs ∧ FitsSigned 32 increment' := by
  unfold adjustIncrement
  rw [adjustment_eq small, Fallible.ok_bind]
  rcases lt_trichotomy average 0 with behind | zero | ahead
  · have value : increment - average.sign * tier average.natAbs =
        increment + tier average.natAbs := by
      rw [Int.sign_eq_neg_one_of_neg behind]
      omega
    rw [if_pos behind, checkedSigned_eq_ok, value]
    exact and_congr_right fun same => by rw [same]; rfl
  · have value : increment - average.sign * tier average.natAbs = increment := by
      rw [zero, Int.sign_zero]
      omega
    rw [if_neg (by omega), if_neg (by omega), value]
    simp only [pure, Except.pure, Except.ok.injEq]
    refine ⟨fun same => ⟨same.symm, same ▸ inRange⟩, fun h => h.1.symm⟩
  · have value : increment - average.sign * tier average.natAbs =
        increment - tier average.natAbs := by
      rw [Int.sign_eq_one_of_pos ahead]
      omega
    rw [if_neg (by omega), if_pos ahead, checkedSigned_eq_ok, value]
    exact and_congr_right fun same => by rw [same]; rfl

/-! ## One sample -/

variable {servo servo' : Servo} {exact : ExactServo} {sample : PtpServoSample} {acks : Acks}
  {effects : Effects}

/-- The offset of the sample is applied. -/
def ExactServo.Applies (exact : ExactServo) (m : Measurement) : Prop :=
  ¬ exact.Adopts m.sample ∧ ¬ exact.Outlier m.sample ∧ m.acks.offsetSet = true

/-- The servo makes of the sample what the exact servo does, and the cast of the magnitude of the
mean does not change it. -/
def ProcessesExactly (servo : Servo) (exact : ExactServo) (m : Measurement) : Prop :=
  ∃ servo', processServoSample m.acks servo m.sample = .ok (servo', (exact.step m).2) ∧
    servo'.Represents (exact.step m).1 ∧
    (exact.Applies m → Narrowed (mean (exact.pushed m.sample)))

namespace Servo.Represents

theorem offset_eq (represents : servo.Represents exact) (sample : PtpServoSample) :
    servo.offset sample = exact.offset sample := by
  unfold Servo.offset ExactServo.offset
  rw [represents.base]
  cases exact.base with
  | none => exact (Int.sub_zero _).symm
  | some base => rfl

theorem adopts_iff (represents : servo.Represents exact) (sample : PtpServoSample) :
    servo.Adopts sample ↔ exact.Adopts sample := by
  unfold Servo.Adopts ExactServo.Adopts
  rw [represents.base]

theorem outlier_iff (represents : servo.Represents exact) (sample : PtpServoSample) :
    servo.Outlier sample ↔ exact.Outlier sample := by
  unfold Servo.Outlier ExactServo.Outlier
  rw [represents.offset_eq, ge_iff_le, BitVec.le_def, represents.counter]
  rfl

/-- The mean is computed exactly when each sum on the way fits. -/
theorem average_eq_ok (represents : servo.Represents exact)
    (offset : asSigned 64 (exact.offset sample) = exact.offset sample) {average : Int} :
    servo.average sample = .ok average ↔ average = mean (exact.pushed sample) ∧
      ∀ k < (window (exact.pushed sample)).length,
        FitsSigned 64 ((window (exact.pushed sample)).take (k + 1)).sum := by
  have nonempty := exact.pushed_ne_nil sample
  unfold Servo.average
  rw [represents.history, represents.offset_eq, offset, push_window]
  change (OffsetHistory.average ⟨window (exact.pushed sample), 3⟩ >>= _) = _ ↔ _
  rw [Fallible.bind_eq_ok]
  refine ⟨?_, ?_⟩
  · rintro ⟨average', averaged, result⟩
    rcases (P4Tas.Ptp.average_eq_ok nonempty).mp averaged with ⟨rfl, fits⟩
    cases result
    exact ⟨rfl, fits⟩
  · rintro ⟨rfl, fits⟩
    exact ⟨_, (P4Tas.Ptp.average_eq_ok nonempty).mpr ⟨rfl, fits⟩, rfl⟩

/-- The servo with the next value of the counter, whatever else the sample changes. -/
theorem counted (represents : servo.Represents exact) {counter : U32}
    (next : counter.toNat = servo.syncCounter.toNat + 1) :
    ({ servo with syncCounter := counter } : Servo).Represents
      { exact with counter := exact.counter + 1 } :=
  { represents with counter := by rw [next, represents.counter] }

end Servo.Represents

/-- The correction of a sample that is processed fits. -/
theorem correction_fits (run : processServoSample acks servo sample = .ok (servo', effects))
    (keeps : ¬ servo.Adopts sample) (usual : ¬ servo.Outlier sample) :
    FitsSigned 64 (servo.correction sample) := by
  unfold processServoSample at run
  rw [if_neg keeps, if_neg usual] at run
  rcases Fallible.bind_eq_ok.mp run with ⟨_, corrected, _⟩
  exact (checkedSigned_eq_ok.mp corrected).2

/-- A sample that is not adopted is logged and counted. -/
theorem ServoRound.logged (round : ServoRound acks servo sample servo' effects)
    (keeps : ¬ servo.Adopts sample) :
    effects.logged = some (asSigned 64 (servo.offset sample)) ∧
      servo.syncCounter.toNat + 1 < 2 ^ 32 := by
  cases round with
  | adopted adopts => exact absurd adopts keeps
  | @outlier counter _ _ counted => exact ⟨rfl, counted ▸ counter.isLt⟩
  | @rejected counter _ _ _ counted => exact ⟨rfl, counted ▸ counter.isLt⟩
  | @adjusted counter _ _ _ _ _ counted _ _ => exact ⟨rfl, counted ▸ counter.isLt⟩

theorem ExactServo.step_logged {m : Measurement} (keeps : ¬ exact.Adopts m.sample) :
    (exact.step m).2.logged = some (exact.offset m.sample) := by
  unfold ExactServo.step
  dsimp only
  rw [if_neg keeps]
  split_ifs
  all_goals rfl

theorem Servo.Represents.correction_eq (represents : servo.Represents exact)
    (offset : asSigned 64 (exact.offset sample) = exact.offset sample) :
    servo.correction sample = exact.applied - exact.offset sample := by
  unfold Servo.correction
  rw [represents.applied, represents.offset_eq, offset]

/-- What is processed exactly fits. -/
theorem fits_of_processesExactly {m : Measurement} (represents : servo.Represents exact)
    (exactly : ProcessesExactly servo exact m) : exact.Fits m := by
  rcases exactly with ⟨servo', run, _, narrowed⟩
  by_cases adopts : exact.Adopts m.sample
  · exact .inl adopts
  have keeps := mt (represents.adopts_iff m.sample).mp adopts
  have round := processServoSample_round run
  rcases round.logged keeps with ⟨logged, counted⟩
  rw [ExactServo.step_logged adopts, represents.offset_eq] at logged
  have offset := (Option.some.inj logged).symm
  refine .inr ⟨(asSigned_eq_iff (by decide)).mp offset, represents.counter ▸ counted, ?_⟩
  by_cases outlier : exact.Outlier m.sample
  · exact .inl outlier
  have usual := mt (represents.outlier_iff m.sample).mp outlier
  refine .inr ⟨represents.correction_eq offset ▸ correction_fits run keeps usual, ?_⟩
  intro accepted
  generalize (exact.step m).2 = effects at round
  cases round with
  | adopted adopts' => exact absurd adopts' keeps
  | outlier _ outlier' _ => exact absurd outlier' usual
  | rejected _ _ refused _ => exact absurd (accepted.symm.trans refused) nofun
  | adjusted _ _ _ _ averaged changed =>
    rcases (represents.average_eq_ok offset).mp averaged with ⟨rfl, sums⟩
    have small := (narrowed_iff _).mp (narrowed ⟨adopts, outlier, accepted⟩)
    rw [represents.increment] at changed
    rcases (adjustIncrement_eq_ok small represents.inRange).mp changed with ⟨rfl, fits⟩
    exact ⟨sums, small, fits⟩

/-- The writes for a mean that fits. -/
theorem writeCorrection_eq (represents : servo.Represents exact) (accepted : acks.offsetSet = true)
    (offset : asSigned 64 (exact.offset sample) = exact.offset sample)
    (fits : exact.FitsMean sample) {correction : Int} {ptpTimeNs : U64} :
    writeCorrection acks servo correction (exact.offset sample) ptpTimeNs =
      .ok ({ servo with
          appliedCorrection := correction
          offsetHistory := ⟨window (exact.pushed sample), 3⟩
          currentIncrement := exact.moved sample },
        { logged := some (exact.offset sample)
          offsetWrite := some correction
          incWrite := some (exact.moved sample)
          status := some (ExactServo.status (exact.offset sample) ptpTimeNs) }) := by
  have nonempty := exact.pushed_ne_nil sample
  have averaged := (average_eq_ok nonempty).mpr ⟨rfl, fits.sums⟩
  have changed := (adjustIncrement_eq_ok fits.mean represents.inRange).mpr ⟨rfl, fits.increment⟩
  have pushed : (⟨window exact.offsets, 3⟩ : OffsetHistory).push (exact.offset sample) =
      ⟨window (exact.pushed sample), 3⟩ := push_window exact.offsets (exact.offset sample)
  have status : syncStatus (exact.offset sample) ptpTimeNs =
      ExactServo.status (exact.offset sample) ptpTimeNs := by
    unfold syncStatus ExactServo.status
    rw [offset]
  unfold writeCorrection
  rw [if_pos accepted, represents.history, offset, pushed]
  dsimp only
  rw [averaged, Fallible.ok_bind]
  dsimp only [Option.getD_some]
  rw [represents.increment, changed, Fallible.ok_bind, status]
  rfl

/-- What fits is processed exactly. -/
theorem processesExactly_of_fits {m : Measurement} (represents : servo.Represents exact)
    (fits : exact.Fits m) : ProcessesExactly servo exact m := by
  unfold ProcessesExactly processServoSample
  by_cases adopts : exact.Adopts m.sample
  · rw [ExactServo.step_adopted adopts, if_pos ((represents.adopts_iff m.sample).mpr adopts)]
    exact ⟨_, rfl, { represents with base := rfl }, fun applies => absurd adopts applies.1⟩
  have keeps := mt (represents.adopts_iff m.sample).mp adopts
  rcases fits.resolve_left adopts with ⟨offsetFits, counterFits, rest⟩
  have offset := (asSigned_eq_iff (by decide)).mpr offsetFits
  rcases checkedAdd_one_returns (a := servo.syncCounter)
    (by rw [represents.counter]; exact counterFits) with ⟨counter, counted, next⟩
  rw [if_neg keeps]
  by_cases outlier : exact.Outlier m.sample
  · rw [ExactServo.step_outlier adopts outlier,
      if_pos ((represents.outlier_iff m.sample).mpr outlier), counted, represents.offset_eq, offset]
    exact ⟨_, rfl, represents.counted next, fun applies => absurd outlier applies.2.1⟩
  have usual := mt (represents.outlier_iff m.sample).mp outlier
  rcases rest.resolve_left outlier with ⟨corrected, mean⟩
  rw [if_neg usual]
  unfold adjustSlaveClock
  rw [represents.offset_eq, represents.applied, offset, checkedSigned_of_fits corrected,
    Fallible.ok_bind]
  cases accepted : m.acks.offsetSet with
  | false =>
    unfold writeCorrection
    rw [ExactServo.step_rejected adopts outlier accepted,
      if_neg (accepted ▸ Bool.false_ne_true), Fallible.ok_bind]
    dsimp only
    rw [counted, offset]
    exact ⟨_, rfl, represents.counted next, fun applies => absurd applies.2.2 (accepted ▸ nofun)⟩
  | true =>
    rw [ExactServo.step_applied adopts outlier accepted,
      writeCorrection_eq represents accepted offset (mean accepted), Fallible.ok_bind]
    dsimp only
    rw [counted]
    refine ⟨_, rfl, ?_, fun _ => (narrowed_iff _).mpr (mean accepted).mean⟩
    exact {
      counter := by rw [next, represents.counter]
      applied := rfl
      base := represents.base
      increment := rfl
      inRange := (mean accepted).increment
      history := rfl }

/-! ## Sequences of samples -/

variable {hardware : Hardware} {ms before : List Measurement} {m : Measurement}

namespace ExactServo

theorem run_append (ms : List Measurement) (m : Measurement) :
    run (ms ++ [m]) = ((run ms).step m).1 :=
  List.foldl_append

theorem step_base (servo : ExactServo) (m : Measurement) :
    (servo.step m).1.base =
      if servo.Adopts m.sample then some m.sample.rawOffset else servo.base := by
  unfold step
  dsimp only
  split_ifs
  all_goals rfl

end ExactServo

theorem new_represents : Servo.new.Represents .new where
  counter := rfl
  applied := rfl
  base := rfl
  increment := rfl
  inRange := by decide
  history := rfl

theorem Slave.step_of_processed {s : Slave}
    (processed : processServoSample m.acks s.servo m.sample = .ok (servo', effects)) :
    ∃ s', Steps Slave.process s ⟨m, effects⟩ s' ∧ s'.servo = servo' := by
  refine ⟨⟨servo', s.hardware.accept m.acks effects, effects.status.getD s.published⟩, ?_, rfl⟩
  unfold Steps Slave.process
  rw [processed]
  rfl

/-- While all fits, the servo holds what the exact servo does. -/
theorem run_represents (hardware : Hardware) (acks : Acks)
    (fits : ∀ earlier m later, before = earlier ++ m :: later → (ExactServo.run earlier).Fits m) :
    ∃ es s, Run (Steps Slave.process) (.start hardware acks) es s ∧
      es.map Machine.Event.input = before ∧ s.servo.Represents (ExactServo.run before) := by
  induction before using List.reverseRecOn with
  | nil => exact ⟨[], _, .nil _, rfl, new_represents⟩
  | append_singleton before m ih =>
    rcases ih fun earlier m' later split => fits earlier m' (later ++ [m]) (by simp [split]) with
      ⟨es, s, left, inputs, represents⟩
    rcases processesExactly_of_fits represents (fits before m [] rfl) with
      ⟨servo', processed, next, _⟩
    rcases Slave.step_of_processed processed with ⟨s', taken, rfl⟩
    have last : Run (Steps Slave.process) s [⟨m, ((ExactServo.run before).step m).2⟩] s' :=
      .cons taken (.nil s')
    refine ⟨_, s', Run.append_iff.mpr ⟨s, left, last⟩, ?_, ?_⟩
    · rw [List.map_append, inputs]
      rfl
    · rw [ExactServo.run_append]
      exact next

/-- After the samples `before`, the servo processes the next as the exact servo does. -/
def ExactAfter (hardware : Hardware) (acks : Acks) (before : List Measurement) (m : Measurement) :
    Prop :=
  ∃ es s, Run (Steps Slave.process) (.start hardware acks) es s ∧
    es.map Machine.Event.input = before ∧ s.servo.Represents (ExactServo.run before) ∧
    ProcessesExactly s.servo (ExactServo.run before) m

/-! ## Offsets of less than two seconds -/

theorem natAbs_sum_le {xs : List Int} {b : Nat} (bounded : ∀ x ∈ xs, x.natAbs ≤ b) :
    xs.sum.natAbs ≤ xs.length * b := by
  induction xs with
  | nil => simp
  | cons x xs ih =>
    rcases List.forall_mem_cons.mp bounded with ⟨first, others⟩
    have rest := ih others
    rw [List.sum_cons, List.length_cons, Nat.succ_mul]
    omega

theorem natAbs_mean_le {offsets : List Int} {b : Nat} (bounded : ∀ x ∈ offsets, x.natAbs ≤ b) :
    (mean offsets).natAbs ≤ b := by
  have sum : (window offsets).sum.natAbs ≤ (window offsets).length * b :=
    natAbs_sum_le fun x member => bounded x (List.mem_of_mem_drop member)
  unfold mean
  rw [Int.natAbs_tdiv, Int.natAbs_natCast]
  exact Nat.div_le_of_le_mul sum

namespace ExactServo

/-- What `n` samples with offsets of less than `2 ^ 31` ns can have made of the variables. -/
structure Within (servo : ExactServo) (n : Nat) : Prop where
  counter : servo.counter ≤ n
  applied : servo.applied.natAbs ≤ n * 2147483648
  increment : (servo.increment - DEFAULT_INCREMENT).natAbs ≤ n * 50
  offsets : ∀ x ∈ servo.offsets, x.natAbs ≤ 2 ^ 31 - 1

variable {servo : ExactServo} {n : Nat}

theorem Within.pushed (within : servo.Within n) {sample : PtpServoSample}
    (small : (servo.offset sample).natAbs < 2 ^ 31) :
    ∀ x ∈ servo.pushed sample, x.natAbs ≤ 2 ^ 31 - 1 := by
  unfold ExactServo.pushed
  intro x member
  rcases List.mem_append.mp member with old | new
  · exact within.offsets x old
  · rw [List.mem_singleton.mp new]
    exact Nat.le_sub_one_of_lt small

theorem moved_le (servo : ExactServo) (sample : PtpServoSample) :
    (servo.moved sample - servo.increment).natAbs ≤ 50 := by
  have step_le : ((mean (servo.pushed sample)).sign *
      tier (mean (servo.pushed sample)).natAbs).natAbs ≤ 50 := by
    rw [Int.natAbs_mul]
    have sign : (mean (servo.pushed sample)).sign.natAbs ≤ 1 := by
      rw [Int.natAbs_sign]
      split_ifs
      all_goals decide
    have size : (tier (mean (servo.pushed sample)).natAbs).natAbs ≤ 50 := by
      unfold tier
      split_ifs
      all_goals decide
    exact (Nat.mul_le_mul sign size).trans_eq (Nat.one_mul 50)
  unfold moved
  omega

theorem Within.step (within : servo.Within n) {m : Measurement}
    (small : (servo.offset m.sample).natAbs < 2 ^ 31) : (servo.step m).1.Within (n + 1) := by
  have counter : servo.counter + 1 ≤ n + 1 := Nat.succ_le_succ within.counter
  have applied := within.applied
  have increment := within.increment
  have moved := servo.moved_le m.sample
  have same : servo.Within (n + 1) := {
    counter := Nat.le_succ_of_le within.counter
    applied := applied.trans (Nat.mul_le_mul_right _ (Nat.le_succ n))
    increment := increment.trans (Nat.mul_le_mul_right _ (Nat.le_succ n))
    offsets := within.offsets }
  have applied' : (servo.applied - servo.offset m.sample).natAbs ≤ (n + 1) * 2147483648 := by omega
  have increment' : (servo.moved m.sample - DEFAULT_INCREMENT).natAbs ≤ (n + 1) * 50 := by omega
  unfold ExactServo.step
  dsimp only
  split_ifs
  · exact ⟨same.counter, same.applied, same.increment, same.offsets⟩
  · exact ⟨counter, same.applied, same.increment, same.offsets⟩
  · exact ⟨counter, applied', increment', within.pushed small⟩
  · exact ⟨counter, same.applied, same.increment, same.offsets⟩

/-- Within these bounds the next sample fits. -/
theorem Within.fits (within : servo.Within n) (few : n < 2 ^ 24) {m : Measurement}
    (small : (servo.offset m.sample).natAbs < 2 ^ 31) : servo.Fits m := by
  have counter := within.counter
  have applied := within.applied
  have increment := within.increment
  have moved := servo.moved_le m.sample
  have default : DEFAULT_INCREMENT = 204520207 := rfl
  have pushed := within.pushed small
  refine .inr ⟨?_, by omega, .inr ⟨?_, fun _ => ⟨fun k inside => ?_, ?_, ?_⟩⟩⟩
  · unfold FitsSigned
    omega
  · unfold FitsSigned
    omega
  · have length := window_length_le (servo.pushed m.sample)
    have taken : ∀ x ∈ (window (servo.pushed m.sample)).take (k + 1), x.natAbs ≤ 2 ^ 31 - 1 :=
      fun x member => pushed x (List.mem_of_mem_drop (List.mem_of_mem_take member))
    have sum := natAbs_sum_le taken
    rw [List.length_take] at sum
    have three := Nat.mul_le_mul_right (2 ^ 31 - 1)
      ((Nat.min_le_right (k + 1) _).trans length)
    unfold FitsSigned
    omega
  · have mean := natAbs_mean_le pushed
    omega
  · unfold FitsSigned
    omega

/-- Samples whose offsets stay below `2 ^ 31` ns all fit, for as long as `2 ^ 24` of them. -/
theorem fits_of_small (few : ms.length ≤ 2 ^ 24)
    (small : ∀ before m after, ms = before ++ m :: after →
      ((run before).offset m.sample).natAbs < 2 ^ 31) :
    ∀ before m after, ms = before ++ m :: after → (run before).Fits m := by
  have within : ∀ before after, ms = before ++ after → (run before).Within before.length := by
    intro before
    induction before using List.reverseRecOn with
    | nil => exact fun _ _ => ⟨Nat.le_refl 0, Nat.le_refl 0, Nat.le_refl 0, nofun⟩
    | append_singleton before m ih =>
      intro after split
      have split' := split.trans (List.append_cons before m after).symm
      rw [run_append, List.length_append]
      exact (ih _ split').step (small before m after split')
  intro before m after split
  refine (within before _ split).fits ?_ (small before m after split)
  rw [split, List.length_append, List.length_cons] at few
  omega

end ExactServo

/-! ## 128 bits are enough -/

namespace PtpServoSample

/-- The corrections of a sample from the wire have 48 bits. -/
structure Wire (s : PtpServoSample) : Prop where
  followUp : FitsSigned 48 s.cfFollowupNs
  delayResp : FitsSigned 48 s.cfDelayrespNs

/-- The numbers of 128 bits that are computed for a sample. -/
def intermediates (s : PtpServoSample) (base : Option Int) : List Int :=
  [s.t2.rawNs.toNat - s.t1.rawNs.toNat, s.fwdLeg, s.t4.rawNs.toNat - s.t3.rawNs.toNat, s.revLeg,
   s.fwdLeg + s.revLeg, s.pathDelay, s.rawOffset, s.t2.rawNs.toNat - s.rawOffset,
   s.rawOffset.natAbs, s.rawOffset - base.getD 0, (s.rawOffset - base.getD 0).natAbs]

theorem Wire.legs_lt {s : PtpServoSample} (wire : s.Wire) :
    s.fwdLeg.natAbs < 2 ^ 65 ∧ s.revLeg.natAbs < 2 ^ 65 := by
  have t1 := s.t1.rawNs.isLt
  have t2 := s.t2.rawNs.isLt
  have t3 := s.t3.rawNs.isLt
  have t4 := s.t4.rawNs.isLt
  rcases wire with ⟨⟨followUpLow, followUpHigh⟩, ⟨delayRespLow, delayRespHigh⟩⟩
  unfold fwdLeg revLeg
  omega

theorem Wire.rawOffset_lt {s : PtpServoSample} (wire : s.Wire) :
    s.pathDelay.natAbs < 2 ^ 66 ∧ s.rawOffset.natAbs < 2 ^ 67 := by
  rcases wire.legs_lt with ⟨fwd, rev⟩
  have half : s.pathDelay.natAbs = (s.fwdLeg + s.revLeg).natAbs / 2 := by
    unfold pathDelay
    rw [Int.natAbs_tdiv]
    rfl
  have delay : s.pathDelay.natAbs < 2 ^ 66 := by omega
  refine ⟨delay, ?_⟩
  unfold rawOffset
  omega

theorem Wire.intermediates_fit {s : PtpServoSample} (wire : s.Wire) {base : Option Int}
    (bounded : ∀ b ∈ base, b.natAbs < 2 ^ 67) :
    ∀ x ∈ s.intermediates base, FitsSigned 128 x := by
  have t1 := s.t1.rawNs.isLt
  have t2 := s.t2.rawNs.isLt
  have t3 := s.t3.rawNs.isLt
  have t4 := s.t4.rawNs.isLt
  rcases wire.legs_lt with ⟨fwd, rev⟩
  rcases wire.rawOffset_lt with ⟨delay, raw⟩
  have base_lt : (base.getD 0).natAbs < 2 ^ 67 := by
    cases base with
    | none => exact Nat.two_pow_pos 67
    | some b => exact bounded b rfl
  have fits {x : Int} (small : x.natAbs < 2 ^ 68) : FitsSigned 128 x := by
    unfold FitsSigned
    omega
  unfold intermediates
  simp only [List.forall_mem_cons, List.not_mem_nil, false_imp_iff, implies_true, and_true]
  refine ⟨fits ?_, fits ?_, fits ?_, fits ?_, fits ?_, fits ?_, fits ?_, fits ?_, fits ?_, fits ?_,
    fits ?_⟩
  all_goals omega

end PtpServoSample

theorem ExactServo.base_lt (wire : ∀ m ∈ ms, m.sample.Wire) :
    ∀ b ∈ (run ms).base, b.natAbs < 2 ^ 67 := by
  induction ms using List.reverseRecOn with
  | nil => exact nofun
  | append_singleton ms m ih =>
    intro b stored
    rw [run_append, step_base] at stored
    split at stored
    · cases stored
      exact (wire m (by simp)).rawOffset_lt.2
    · exact ih (fun m' member => wire m' (List.mem_append_left _ member)) b stored

/-- Of any samples from the wire and any answers of the hardware: the steps of the increment grow
with the mean, no number of 128 bits overflows, and each sample is processed as by the exact servo
exactly when each fits. -/
theorem servo_exact_iff (hardware : Hardware) (acks : Acks)
    (wire : ∀ m ∈ ms, m.sample.Wire) :
    (∀ a b, a ≤ b → tier a ≤ tier b) ∧
      (∀ before m after, ms = before ++ m :: after →
        ∀ x ∈ m.sample.intermediates (ExactServo.run before).base, FitsSigned 128 x) ∧
      ((∀ before m after, ms = before ++ m :: after → ExactAfter hardware acks before m) ↔
        ∀ before m after, ms = before ++ m :: after → (ExactServo.run before).Fits m) := by
  refine ⟨fun _ _ => tier_le, ?_, ?_, ?_⟩
  · rintro before m after rfl
    have early := ExactServo.base_lt fun m' member => wire m' (List.mem_append_left _ member)
    exact (wire m (by simp)).intermediates_fit early
  · intro exact before m after split
    rcases exact before m after split with ⟨es, s, _, _, represents, processed⟩
    exact fits_of_processesExactly represents processed
  · intro fits before m after split
    have early : ∀ earlier m' later, before = earlier ++ m' :: later →
        (ExactServo.run earlier).Fits m' := fun earlier m' later split' =>
      fits earlier m' (later ++ m :: after) (by simp [split, split'])
    rcases run_represents hardware acks early with ⟨es, s, run, inputs, represents⟩
    exact ⟨es, s, run, inputs, represents,
      processesExactly_of_fits represents (fits before m after split)⟩

/-- Four samples, the last of which pushes the first out of the window. -/
def servoSamples : List Measurement :=
  [⟨sampleOf 120, allSet⟩, ⟨sampleOf (-80), allSet⟩, ⟨sampleOf 900, allSet⟩,
    ⟨sampleOf (-2000), allSet⟩]

theorem servo_exact_iff_sample :
    (ExactServo.run servoSamples).offsets.length = 4 ∧
      ∀ before m after, servoSamples = before ++ m :: after →
        ExactAfter { offset := 0, increment := 0 } allSet before m := by
  have wire : ∀ m ∈ servoSamples, m.sample.Wire := by
    have zero : ∀ m ∈ servoSamples,
        m.sample.cfFollowupNs = 0 ∧ m.sample.cfDelayrespNs = 0 := by
      decide
    intro m member
    obtain ⟨followup, delayresp⟩ := zero m member
    exact ⟨by rw [followup]; decide, by rw [delayresp]; decide⟩
  have offsets : ∀ i < 4, ∀ m ∈ servoSamples[i]?,
      ((ExactServo.run (servoSamples.take i)).offset m.sample).natAbs < 2 ^ 31 := by
    decide +kernel
  refine ⟨by decide +kernel, (servo_exact_iff _ _ wire).2.2.mpr
    (ExactServo.fits_of_small (by decide) fun before m after split => ?_)⟩
  obtain ⟨inside, taken, here⟩ := History.position_of_split split
  have small := offsets before.length inside m here
  rw [taken] at small
  exact small

/-- The offset of a sample from a base of two seconds is 40 ns more than `2 ^ 32`.  The mean is this
offset, and the increment falls by 1 and not by 50. -/
theorem narrowed_tier :
    ∃ es u first second, [first, second] = [(⟨sampleOf 2000000000, allSet⟩ : Measurement),
        ⟨sampleOf 6294967336, allSet⟩] ∧
      (∀ m ∈ [first, second], m.sample.Wire) ∧
      Run (Steps Slave.process) sampleStart es u ∧ es.map Machine.Event.input = [first, second] ∧
      u.servo.currentIncrement = DEFAULT_INCREMENT - 1 ∧
      (ExactServo.run [first, second]).increment = DEFAULT_INCREMENT - 50 ∧
      ¬ ExactAfter { offset := 0, increment := 0 } allSet [first] second := by
  have evaluated : (Machine.exec Slave.process sampleStart [⟨sampleOf 2000000000, allSet⟩,
      ⟨sampleOf 6294967336, allSet⟩]).toOption.any
        (fun r => decide (r.2.servo.currentIncrement = DEFAULT_INCREMENT - 1)) = true := by
    decide +kernel
  rcases Fallible.exists_of_any evaluated with ⟨⟨es, u⟩, executed, moved⟩
  rcases Machine.exec_eq_ok.mp executed with ⟨run, inputs⟩
  refine ⟨es, u, _, _, rfl, ?_, run, inputs, of_decide_eq_true moved, by decide +kernel, ?_⟩
  · intro m member
    rcases List.mem_cons.mp member with rfl | member
    · exact ⟨by decide, by decide⟩
    · rw [List.mem_singleton.mp member]
      exact ⟨by decide, by decide⟩
  · rintro ⟨_, s, _, _, represents, processed⟩
    have fits := fits_of_processesExactly represents processed
    rcases fits.resolve_left (by decide +kernel) with ⟨_, _, rest⟩
    have small := ((rest.resolve_left (by decide +kernel)).2 rfl).mean
    exact absurd small (by decide +kernel)

end P4Tas.Ptp
