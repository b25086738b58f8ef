import P4Tas.Ptp.Servo

/-!
# Runs of the servo

The servo on sequences of samples, with any answers of the hardware, from the state in which the
monitor begins to listen.

* `base_fixed_iff`: the base is the first sample's for good exactly when that sample stores one, or
  no later sample has an offset of more than a second;
* `mirrored_iff`: the variables of the servo are the values the hardware accepted last exactly when
  no change of the increment is rejected;
* `warm_step_bounded`: after the warm-up, what a sample changes.
-/

namespace P4Tas.Ptp

open Transition (Run)
open Machine (Steps)

variable {hardware : Hardware} {acks : Acks} {s s' t u : Slave}
  {e first : Machine.Event Measurement Effects}
  {es rest before after : List (Machine.Event Measurement Effects)}

/-- A sample with the offset, over a path without delay. -/
def sampleOf (offset : Int) : PtpServoSample where
  t1 := .fromNs (BitVec.ofInt 64 10000000000)
  t2 := .fromNs (BitVec.ofInt 64 (10000000000 + offset))
  t3 := .fromNs (BitVec.ofInt 64 (10000000005 + offset))
  t4 := .fromNs (BitVec.ofInt 64 10000000005)
  cfFollowupNs := 0
  cfDelayrespNs := 0

/-- The hardware accepts every write. -/
def allSet : Acks where
  offsetSet := true
  incSet := true

def sampleStart : Slave :=
  .start { offset := 0, increment := 0 } allSet

/-! ## The base epoch offset -/

/-- The base that the first sample stores. -/
def PtpServoSample.base (sample : PtpServoSample) : Option Int :=
  if sample.rawOffset.natAbs > 1000000000 then some sample.rawOffset else none

theorem base_step (taken : Steps Slave.process s e s') :
    s'.servo.baseEpochOffset =
      if s.servo.Adopts e.input.sample then some e.input.sample.rawOffset
      else s.servo.baseEpochOffset :=
  (Slave.step_cases taken).1.base

theorem base_first (taken : Steps Slave.process (.start hardware acks) first s) :
    s.servo.baseEpochOffset = first.input.sample.base := by
  rw [base_step taken]
  unfold PtpServoSample.base
  by_cases huge : first.input.sample.rawOffset.natAbs > 1000000000
  · rw [if_pos huge]
    exact if_pos ⟨rfl, huge⟩
  · rw [if_neg huge]
    exact if_neg fun adopts => huge adopts.2

/-- A step keeps the first base unless that is absent and the sample is off by more than a
second. -/
theorem base_step_iff {m : PtpServoSample} (kept : s.servo.baseEpochOffset = m.base)
    (taken : Steps Slave.process s e s') :
    s'.servo.baseEpochOffset = m.base ↔
      m.rawOffset.natAbs > 1000000000 ∨ e.input.sample.rawOffset.natAbs ≤ 1000000000 := by
  rw [base_step taken]
  by_cases huge : m.rawOffset.natAbs > 1000000000
  · have stored : m.base = some m.rawOffset := if_pos huge
    have keeps : ¬ s.servo.Adopts e.input.sample := by
      rintro ⟨unset, _⟩
      rw [kept, stored] at unset
      cases unset
    rw [if_neg keeps]
    exact iff_of_true kept (.inl huge)
  · have unset : m.base = none := if_neg huge
    by_cases late : e.input.sample.rawOffset.natAbs > 1000000000
    · have adopts : s.servo.Adopts e.input.sample := ⟨kept.trans unset, late⟩
      rw [if_pos adopts, unset]
      exact iff_of_false nofun (by omega)
    · have keeps : ¬ s.servo.Adopts e.input.sample := fun adopts => late adopts.2
      rw [if_neg keeps]
      exact iff_of_true kept (.inr (Nat.le_of_not_lt late))

/-- Whatever the hardware answers, the base epoch offset stays what the first sample made it exactly
when the first sample stored it, or no later sample is off by more than a second. -/
theorem base_fixed_iff (run : Run (Steps Slave.process) (.start hardware acks) (first :: es) u) :
    (∀ before after t, es = before ++ after →
        Run (Steps Slave.process) (.start hardware acks) (first :: before) t →
        t.servo.baseEpochOffset = first.input.sample.base) ↔
      first.input.sample.rawOffset.natAbs > 1000000000 ∨
        ∀ e ∈ es, e.input.sample.rawOffset.natAbs ≤ 1000000000 := by
  rcases Run.cons_iff.mp run with ⟨s, begin, run⟩
  have always := Machine.always_iff
    (I := fun t => t.servo.baseEpochOffset = first.input.sample.base)
    (Q := fun _ m => first.input.sample.rawOffset.natAbs > 1000000000 ∨
      m.sample.rawOffset.natAbs ≤ 1000000000)
    run (base_first begin) (fun _ _ _ kept taken => base_step_iff kept taken)
  refine ⟨?_, ?_⟩
  · intro fixed
    have guarded := always.mp fun before after t split left =>
      fixed before after t split (Run.cons_iff.mpr ⟨s, begin, left⟩)
    rcases Nat.lt_or_ge 1000000000 first.input.sample.rawOffset.natAbs with huge | small
    · exact .inl huge
    · refine .inr fun e member => ?_
      rcases List.append_of_mem member with ⟨before, after, rfl⟩
      rcases Run.append_iff.mp run with ⟨t, left, _⟩
      exact (guarded before e after t rfl left).resolve_left (Nat.not_lt_of_ge small)
  · intro condition before after t split left
    rcases Run.cons_iff.mp left with ⟨s', begin', left⟩
    cases begin.unique begin'
    refine always.mpr ?_ before after t split left
    rintro before' e after' t' rfl _
    exact condition.imp_right fun small => small e (by simp)

theorem base_fixed_iff_sample :
    ∃ first es u, (first :: es).map Machine.Event.input =
        [⟨sampleOf 2000000000, allSet⟩, ⟨sampleOf 2000000040, allSet⟩, ⟨sampleOf 5, allSet⟩] ∧
      Run (Steps Slave.process) sampleStart (first :: es) u ∧
      ∀ before after t, es = before ++ after →
        Run (Steps Slave.process) sampleStart (first :: before) t →
        t.servo.baseEpochOffset = first.input.sample.base := by
  have returned : (Machine.exec Slave.process sampleStart [⟨sampleOf 2000000000, allSet⟩,
      ⟨sampleOf 2000000040, allSet⟩, ⟨sampleOf 5, allSet⟩]).isOk = true := by
    decide +kernel
  rcases Machine.exec_returns returned with ⟨es, u, run, inputs⟩
  rcases List.map_eq_cons_iff.mp inputs with ⟨first, rest, rfl, input, _⟩
  refine ⟨first, rest, u, inputs, run, (base_fixed_iff run).mpr (.inl ?_)⟩
  rw [input]
  decide +kernel

/-- A second sample that is off by two seconds becomes the base. -/
theorem late_base_adopted :
    ∃ first es u, (first :: es).map Machine.Event.input =
        [⟨sampleOf 0, allSet⟩, ⟨sampleOf 2000000000, allSet⟩] ∧
      Run (Steps Slave.process) sampleStart (first :: es) u ∧
      first.input.sample.base = none ∧ u.servo.baseEpochOffset = some 2000000000 := by
  have evaluated : (Machine.exec Slave.process sampleStart [⟨sampleOf 0, allSet⟩,
      ⟨sampleOf 2000000000, allSet⟩]).toOption.any
        (fun r => decide (r.2.servo.baseEpochOffset = some 2000000000)) = true := by
    decide +kernel
  rcases Fallible.exists_of_any evaluated with ⟨⟨es, u⟩, executed, adopted⟩
  rcases Machine.exec_eq_ok.mp executed with ⟨run, inputs⟩
  rcases List.map_eq_cons_iff.mp inputs with ⟨first, rest, rfl, input, _⟩
  refine ⟨first, rest, u, inputs, run, ?_, of_decide_eq_true adopted⟩
  rw [input]
  decide +kernel

/-! ## The registers of the hardware -/

/-- The variables of the servo are the values that the hardware accepted last. -/
def Slave.Mirrors (s : Slave) : Prop :=
  s.servo.appliedCorrection = s.hardware.offset ∧
    s.servo.currentIncrement = s.hardware.increment

/-- The offset of the sample is accepted, but the change of the increment that follows is not. -/
def Servo.LosesIncrement (servo : Servo) (m : Measurement) : Prop :=
  ¬ servo.Adopts m.sample ∧ ¬ servo.Outlier m.sample ∧ m.acks.offsetSet = true ∧
    m.acks.incSet = false ∧ servo.average m.sample ≠ .ok 0

theorem start_mirrors (accepted : acks = allSet) : (Slave.start hardware acks).Mirrors := by
  subst accepted
  exact ⟨rfl, rfl⟩

/-- The offset is mirrored whatever the hardware answers. -/
theorem applied_step (mirrored : s.servo.appliedCorrection = s.hardware.offset)
    (taken : Steps Slave.process s e s') : s'.servo.appliedCorrection = s'.hardware.offset := by
  rcases Slave.step_cases taken with ⟨round, registers, _⟩
  rw [registers]
  unfold Hardware.accept
  generalize e.output = effects at round
  generalize s'.servo = servo' at round
  cases round with
  | adopted _ => simp [mirrored]
  | outlier _ _ _ => simp [mirrored]
  | rejected _ _ refused _ => simp [mirrored, refused]
  | adjusted _ _ accepted _ _ _ => simp [accepted]

theorem mirrors_step_iff (mirrored : s.Mirrors) (taken : Steps Slave.process s e s') :
    s'.Mirrors ↔ ¬ s.servo.LosesIncrement e.input := by
  have applied := applied_step mirrored.1 taken
  have increment := mirrored.2
  rcases Slave.step_cases taken with ⟨round, registers, _⟩
  unfold Slave.Mirrors
  rw [and_iff_right applied, registers]
  unfold Hardware.accept Servo.LosesIncrement
  generalize e.output = effects at round
  generalize s'.servo = servo' at round
  cases round with
  | adopted adopts => simp [increment, adopts]
  | outlier _ outlier _ => simp [increment, outlier]
  | rejected _ _ refused _ => simp [increment, refused]
  | adjusted keeps usual accepted _ averaged changed =>
    cases answer : e.input.acks.incSet with
    | true => simp
    | false =>
      have same := adjustIncrement_eq_iff changed
      rw [increment] at same
      simp [keeps, usual, accepted, averaged, same]

/-- From two initial writes that succeed on, the variables of the servo are the values the hardware
accepted last throughout a run exactly when the hardware rejects no change of the increment. -/
theorem mirrored_iff (accepted : acks = allSet)
    (run : Run (Steps Slave.process) (.start hardware acks) es u) :
    (∀ before after t, es = before ++ after →
        Run (Steps Slave.process) (.start hardware acks) before t → t.Mirrors) ↔
      ∀ before e after t, es = before ++ e :: after →
        Run (Steps Slave.process) (.start hardware acks) before t →
        ¬ t.servo.LosesIncrement e.input :=
  Machine.always_iff (I := Slave.Mirrors) (Q := fun t m => ¬ t.servo.LosesIncrement m) run
    (start_mirrors accepted) (fun _ _ _ mirrored taken => mirrors_step_iff mirrored taken)

theorem mirrored_iff_sample :
    ∃ es u, es.map Machine.Event.input = [⟨sampleOf 120, allSet⟩, ⟨sampleOf (-60), allSet⟩] ∧
      Run (Steps Slave.process) sampleStart es u ∧
      ∀ before after t, es = before ++ after → Run (Steps Slave.process) sampleStart before t →
        t.Mirrors := by
  have returned : (Machine.exec Slave.process sampleStart
      [⟨sampleOf 120, allSet⟩, ⟨sampleOf (-60), allSet⟩]).isOk = true := by
    decide +kernel
  rcases Machine.exec_returns returned with ⟨es, u, run, inputs⟩
  refine ⟨es, u, inputs, run, (mirrored_iff rfl run).mpr ?_⟩
  rintro before e after t rfl _ ⟨_, _, _, lost, _⟩
  have member : e.input ∈ (before ++ e :: after).map Machine.Event.input :=
    List.mem_map_of_mem (by simp)
  rw [inputs] at member
  rcases List.mem_cons.mp member with first | member
  · rw [first] at lost
    cases lost
  · rw [List.mem_singleton.mp member] at lost
    cases lost

/-- The hardware accepts the offset of a sample and rejects the increment. -/
theorem rejected_increment_kept :
    ∃ es u, es.map Machine.Event.input = [⟨sampleOf 120, { offsetSet := true, incSet := false }⟩] ∧
      Run (Steps Slave.process) sampleStart es u ∧ ¬ u.Mirrors := by
  have evaluated : (Machine.exec Slave.process sampleStart
      [⟨sampleOf 120, { offsetSet := true, incSet := false }⟩]).toOption.any
        (fun r => decide (r.2.servo.currentIncrement ≠ r.2.hardware.increment)) = true := by
    decide +kernel
  rcases Fallible.exists_of_any evaluated with ⟨⟨es, u⟩, executed, lost⟩
  rcases Machine.exec_eq_ok.mp executed with ⟨run, inputs⟩
  exact ⟨es, u, inputs, run, fun mirrors => of_decide_eq_true lost mirrors.2⟩

/-! ## After the warm-up -/

/-- What the servo sets for a sample whose offset is not applied. -/
structure Slave.Unadjusted (s s' : Slave) : Prop where
  applied : s'.servo.appliedCorrection = s.servo.appliedCorrection
  increment : s'.servo.currentIncrement = s.servo.currentIncrement
  history : s'.servo.offsetHistory = s.servo.offsetHistory
  published : s'.published = s.published

theorem counter_step (taken : Steps Slave.process s e s') :
    s.servo.syncCounter ≤ s'.servo.syncCounter := by
  rcases Slave.step_cases taken with ⟨round, _, _⟩
  rw [BitVec.le_def]
  generalize e.output = effects at round
  generalize s'.servo = servo' at round
  cases round with
  | adopted _ => exact Nat.le_refl _
  | outlier _ _ counted => exact counted ▸ Nat.le_succ _
  | rejected _ _ _ counted => exact counted ▸ Nat.le_succ _
  | adjusted _ _ _ counted _ _ => exact counted ▸ Nat.le_succ _

/-- A large offset adjusts nothing after the warm-up, be it an outlier or a base that is set
late. -/
theorem large_unadjusted (warm : WARMUP_SAMPLES ≤ s.servo.syncCounter)
    (large : OUTLIER_THRESHOLD_NS < (s.servo.offset e.input.sample).natAbs)
    (taken : Steps Slave.process s e s') : s.Unadjusted s' := by
  rcases e with ⟨m, effects⟩
  rcases s' with ⟨servo', hardware', published'⟩
  rcases Slave.step_cases taken with ⟨round, _, published⟩
  dsimp only at large round published
  cases round with
  | adopted _ => exact ⟨rfl, rfl, rfl, published⟩
  | outlier _ _ _ => exact ⟨rfl, rfl, rfl, published⟩
  | rejected _ usual _ _ => exact absurd ⟨warm, large⟩ usual
  | adjusted _ usual _ _ _ _ => exact absurd ⟨warm, large⟩ usual

/-- Any sample changes the correction by its offset at most, or not at all. -/
theorem applied_le (taken : Steps Slave.process s e s')
    (warm : WARMUP_SAMPLES ≤ s.servo.syncCounter) :
    (s'.servo.appliedCorrection - s.servo.appliedCorrection).natAbs ≤ OUTLIER_THRESHOLD_NS := by
  rcases Nat.lt_or_ge OUTLIER_THRESHOLD_NS (s.servo.offset e.input.sample).natAbs with large | small
  · rw [(large_unadjusted warm large taken).applied, Int.sub_self]
    exact Nat.zero_le _
  · rcases e with ⟨m, effects⟩
    rcases s' with ⟨servo', hardware', published'⟩
    rcases Slave.step_cases taken with ⟨round, _, _⟩
    dsimp only at small round ⊢
    unfold OUTLIER_THRESHOLD_NS at small ⊢
    cases round with
    | adopted _ => simp
    | outlier _ _ _ => simp
    | rejected _ _ _ _ => simp
    | adjusted _ _ _ _ _ _ =>
      have cast : asSigned 64 (s.servo.offset m.sample) = s.servo.offset m.sample :=
        asSigned_eq (by omega) (by omega) (by omega)
      unfold Servo.correction
      rw [cast]
      dsimp only
      omega

/-- At every event of every run the counter does not decrease, and after the warm-up the correction
changes by at most 150, the increment by at most 50, and nothing for a larger offset. -/
theorem bounded_after_warmup
    (run : Run (Steps Slave.process) (.start hardware acks) (before ++ e :: after) u) :
    ∃ s s', Run (Steps Slave.process) (.start hardware acks) before s ∧ Steps Slave.process s e s' ∧
      s.servo.syncCounter ≤ s'.servo.syncCounter ∧
      (WARMUP_SAMPLES ≤ s.servo.syncCounter →
        (s'.servo.appliedCorrection - s.servo.appliedCorrection).natAbs ≤ 150 ∧
        (s'.servo.currentIncrement - s.servo.currentIncrement).natAbs ≤ 50 ∧
        ((s.servo.offset e.input.sample).natAbs > 150 → s.Unadjusted s')) := by
  rcases Run.append_iff.mp run with ⟨s, left, right⟩
  rcases Run.cons_iff.mp right with ⟨s', taken, _⟩
  refine ⟨s, s', left, taken, counter_step taken, fun warm => ⟨applied_le taken warm, ?_, ?_⟩⟩
  · exact (Slave.step_cases taken).1.increment_le
  · exact fun large => large_unadjusted warm large taken

theorem bounded_after_warmup_sample :
    ∃ before e u, (before ++ [e]).map Machine.Event.input =
        List.replicate 100 ⟨sampleOf 3, allSet⟩ ++ [⟨sampleOf 500, allSet⟩] ∧
      Run (Steps Slave.process) sampleStart (before ++ [e]) u ∧
      ∃ s s', Run (Steps Slave.process) sampleStart before s ∧ Steps Slave.process s e s' ∧
        s.servo.syncCounter = WARMUP_SAMPLES ∧ s.Unadjusted s' := by
  have returned : (Machine.exec Slave.process sampleStart
      (List.replicate 100 ⟨sampleOf 3, allSet⟩ ++ [⟨sampleOf 500, allSet⟩])).isOk = true := by
    decide +kernel
  have counted : (Machine.exec Slave.process sampleStart
      (List.replicate 100 ⟨sampleOf 3, allSet⟩)).toOption.any (fun r =>
        decide (r.2.servo.syncCounter = WARMUP_SAMPLES ∧ r.2.servo.baseEpochOffset = none)) =
          true := by
    decide +kernel
  rcases Machine.exec_returns returned with ⟨es, u, run, inputs⟩
  rcases List.map_eq_append_iff.mp inputs with ⟨before, last, rfl, early, late⟩
  rcases List.map_eq_cons_iff.mp late with ⟨e, rest, rfl, input, ended⟩
  cases List.map_eq_nil_iff.mp ended
  rcases bounded_after_warmup run with ⟨s, s', left, taken, _, bounded⟩
  rcases of_decide_eq_true (Machine.run_satisfies (s := sampleStart)
    (p := fun s => decide (s.servo.syncCounter = WARMUP_SAMPLES ∧ s.servo.baseEpochOffset = none))
    left early counted) with ⟨hundred, unset⟩
  refine ⟨before, e, u, inputs, run, s, s', left, taken, hundred, ?_⟩
  have warm : WARMUP_SAMPLES ≤ s.servo.syncCounter := by
    rw [hundred]
    exact BitVec.le_refl _
  refine (bounded warm).2.2 ?_
  unfold Servo.offset
  rw [unset, input]
  decide +kernel

end P4Tas.Ptp
