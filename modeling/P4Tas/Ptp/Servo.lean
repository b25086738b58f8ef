import P4Tas.Lib.Machine
import P4Tas.Rust
import P4Tas.Ptp.SyncTimes

/-!
# The servo

`process_servo_sample` and `adjust_slave_clock`, and the clock they adjust.  The hardware accepts or
rejects each of the two writes a sample may cause; the servo is told, and its variables and what it
publishes depend on the answers.  Signed integers are numbers, with the checks and casts of their
widths where the source has them.  No operation on `i128` can leave its range, as the times are 64
bits wide.

* `ServoRound`, `processServoSample_round`: what the servo makes of a sample, by its four outcomes;
* `ServoRound.base`: it stores a base only for a sample it adopts;
* `ServoRound.increment_le`: it changes the increment by at most 50;
* `Slave.step_cases`: a step of the servo with the hardware and the published status.
-/

namespace P4Tas.Ptp

inductive PtpSyncStatus
  | initializing
  | syncing (offsetNs : Int) (ptpTimeNs : U64)
  | synchronized (offsetNs : Int) (ptpTimeNs : U64)
  deriving DecidableEq

/-! ## The offsets of the last samples -/

structure OffsetHistory where
  values : List Int
  capacity : Nat
  deriving DecidableEq

namespace OffsetHistory

def new (capacity : Nat) : OffsetHistory where
  values := []
  capacity

def push (history : OffsetHistory) (offset : Int) : OffsetHistory :=
  if history.values.length ≥ history.capacity then
    { history with values := history.values.tail ++ [offset] }
  else
    { history with values := history.values ++ [offset] }

/-- The sum of 64-bit numbers, from the left. -/
def sum (values : List Int) : Rust Int :=
  values.foldlM (fun sum value => checkedSigned 64 (sum + value)) 0

/-- The mean, rounded towards zero. -/
def average (history : OffsetHistory) : Rust (Option Int) :=
  if history.values.isEmpty then
    .ok none
  else do
    let sum ← sum history.values
    return some (sum.tdiv history.values.length)

end OffsetHistory

/-! ## Samples -/

namespace PtpServoSample

def fwdLeg (s : PtpServoSample) : Int :=
  s.t2.rawNs.toNat - s.t1.rawNs.toNat - s.cfFollowupNs

def revLeg (s : PtpServoSample) : Int :=
  s.t4.rawNs.toNat - s.t3.rawNs.toNat - s.cfDelayrespNs

def pathDelay (s : PtpServoSample) : Int :=
  (s.fwdLeg + s.revLeg).tdiv 2

def rawOffset (s : PtpServoSample) : Int :=
  s.fwdLeg - s.pathDelay

/-- The estimate of the time of the grandmaster at the reception of the Sync, as a `u64`. -/
def ptpTimeNs (s : PtpServoSample) : U64 :=
  let estimate := s.t2.rawNs.toNat - s.rawOffset
  if estimate ≤ 0 then
    0
  else if estimate ≥ 2 ^ 64 - 1 then
    BitVec.ofNat 64 (2 ^ 64 - 1)
  else
    BitVec.ofNat 64 estimate.toNat

end PtpServoSample

/-! ## The servo -/

/-- The variables of `monitor_ptp_l2` that belong to the servo. -/
structure Servo where
  syncCounter : U32
  appliedCorrection : Int
  baseEpochOffset : Option Int
  currentIncrement : Int
  offsetHistory : OffsetHistory
  deriving DecidableEq

def DEFAULT_INCREMENT : Int := 0x0c30bb0f

def OUTLIER_THRESHOLD_NS : Nat := 150

def WARMUP_SAMPLES : U32 := 100

namespace Servo

def new : Servo where
  syncCounter := 0
  appliedCorrection := 0
  baseEpochOffset := none
  currentIncrement := DEFAULT_INCREMENT
  offsetHistory := .new 3

/-- The sample is taken for a mismatch of the time domains: no base is stored, and its offset
exceeds one second. -/
def Adopts (servo : Servo) (sample : PtpServoSample) : Prop :=
  servo.baseEpochOffset = none ∧ sample.rawOffset.natAbs > 1000000000

instance (servo : Servo) (sample : PtpServoSample) : Decidable (servo.Adopts sample) :=
  inferInstanceAs (Decidable
    (servo.baseEpochOffset = none ∧ sample.rawOffset.natAbs > 1000000000))

/-- The offset of a sample from the base. -/
def offset (servo : Servo) (sample : PtpServoSample) : Int :=
  match servo.baseEpochOffset with
  | some base => sample.rawOffset - base
  | none => sample.rawOffset

/-- After the warm-up, a large offset is an outlier. -/
def Outlier (servo : Servo) (sample : PtpServoSample) : Prop :=
  servo.syncCounter ≥ WARMUP_SAMPLES ∧ (servo.offset sample).natAbs > OUTLIER_THRESHOLD_NS

instance (servo : Servo) (sample : PtpServoSample) : Decidable (servo.Outlier sample) :=
  inferInstanceAs (Decidable (servo.syncCounter ≥ WARMUP_SAMPLES ∧
    (servo.offset sample).natAbs > OUTLIER_THRESHOLD_NS))

end Servo

/-- Whether the hardware accepts the writes of the offset and of the increment. -/
structure Acks where
  offsetSet : Bool
  incSet : Bool
  deriving DecidableEq

/-- What a sample causes: the offset that is logged, the values written to the hardware, and the
status that is published. -/
structure Effects where
  logged : Option Int := none
  offsetWrite : Option Int := none
  incWrite : Option Int := none
  status : Option PtpSyncStatus := none
  deriving DecidableEq

/-- The size of the change of the increment, for an average offset. -/
def adjustment (avgOffset : Int) : Rust Int := do
  let abs ← checkedSigned 64 avgOffset.natAbs
  let absAvgOffset := asSigned 32 abs
  return if absAvgOffset > 1000 then 50
    else if absAvgOffset > 500 then 20
    else if absAvgOffset > 100 then 10
    else if absAvgOffset > 50 then 5
    else 1

/-- A clock that is behind is made faster, one that is ahead slower. -/
def adjustIncrement (currentIncrement avgOffset : Int) : Rust Int := do
  let adjustment ← adjustment avgOffset
  if avgOffset < 0 then
    checkedSigned 32 (currentIncrement + adjustment)
  else if avgOffset > 0 then
    checkedSigned 32 (currentIncrement - adjustment)
  else
    return currentIncrement

/-- The status that is published for an offset. -/
def syncStatus (offsetNs : Int) (ptpTimeNs : U64) : PtpSyncStatus :=
  if offsetNs.natAbs < 100 then
    .synchronized (asSigned 64 offsetNs) ptpTimeNs
  else
    .syncing (asSigned 64 offsetNs) ptpTimeNs

/-- The writes of `adjust_slave_clock`: the increment is adjusted only where the offset was. -/
def writeCorrection (acks : Acks) (servo : Servo) (newCorrection offsetNs : Int)
    (ptpTimeNs : U64) : Rust (Servo × Effects) :=
  if acks.offsetSet then do
    let offsetHistory := servo.offsetHistory.push (asSigned 64 offsetNs)
    let average ← offsetHistory.average
    let avgOffset := average.getD (asSigned 64 offsetNs)
    let currentIncrement ← adjustIncrement servo.currentIncrement avgOffset
    return ({ servo with appliedCorrection := newCorrection, offsetHistory, currentIncrement },
      { logged := some (asSigned 64 offsetNs)
        offsetWrite := some newCorrection
        incWrite := some currentIncrement
        status := some (syncStatus offsetNs ptpTimeNs) })
  else
    .ok (servo, { logged := some (asSigned 64 offsetNs), offsetWrite := some newCorrection })

def adjustSlaveClock (acks : Acks) (servo : Servo) (offsetNs : Int) (ptpTimeNs : U64) :
    Rust (Servo × Effects) := do
  let newCorrection ← checkedSigned 64 (servo.appliedCorrection - asSigned 64 offsetNs)
  let (servo, effects) ← writeCorrection acks servo newCorrection offsetNs ptpTimeNs
  let syncCounter ← checkedAdd servo.syncCounter 1
  return ({ servo with syncCounter }, effects)

def processServoSample (acks : Acks) (servo : Servo) (sample : PtpServoSample) :
    Rust (Servo × Effects) :=
  if servo.Adopts sample then
    .ok ({ servo with baseEpochOffset := some sample.rawOffset }, {})
  else if servo.Outlier sample then do
    let syncCounter ← checkedAdd servo.syncCounter 1
    return ({ servo with syncCounter }, { logged := some (asSigned 64 (servo.offset sample)) })
  else
    adjustSlaveClock acks servo (servo.offset sample) sample.ptpTimeNs

/-! ## The outcomes of a sample -/

/-- The moving average with the offset of the sample. -/
def Servo.average (servo : Servo) (sample : PtpServoSample) : Rust Int := do
  let average ← (servo.offsetHistory.push (asSigned 64 (servo.offset sample))).average
  return average.getD (asSigned 64 (servo.offset sample))

/-- The correction with the offset of the sample. -/
def Servo.correction (servo : Servo) (sample : PtpServoSample) : Int :=
  servo.appliedCorrection - asSigned 64 (servo.offset sample)

/-- What the servo makes of a sample. -/
inductive ServoRound (acks : Acks) (servo : Servo) (sample : PtpServoSample) :
    Servo → Effects → Prop
  | adopted : servo.Adopts sample → ServoRound acks servo sample
      { servo with baseEpochOffset := some sample.rawOffset } {}
  | outlier {counter : U32} : ¬ servo.Adopts sample → servo.Outlier sample →
      counter.toNat = servo.syncCounter.toNat + 1 →
      ServoRound acks servo sample { servo with syncCounter := counter }
        { logged := some (asSigned 64 (servo.offset sample)) }
  | rejected {counter : U32} : ¬ servo.Adopts sample → ¬ servo.Outlier sample →
      acks.offsetSet = false → counter.toNat = servo.syncCounter.toNat + 1 →
      ServoRound acks servo sample { servo with syncCounter := counter }
        { logged := some (asSigned 64 (servo.offset sample))
          offsetWrite := some (servo.correction sample) }
  | adjusted {counter : U32} {average increment : Int} :
      ¬ servo.Adopts sample → ¬ servo.Outlier sample → acks.offsetSet = true →
      counter.toNat = servo.syncCounter.toNat + 1 → servo.average sample = .ok average →
      adjustIncrement servo.currentIncrement average = .ok increment →
      ServoRound acks servo sample
        { servo with
          syncCounter := counter
          appliedCorrection := servo.correction sample
          currentIncrement := increment
          offsetHistory := servo.offsetHistory.push (asSigned 64 (servo.offset sample)) }
        { logged := some (asSigned 64 (servo.offset sample))
          offsetWrite := some (servo.correction sample)
          incWrite := some increment
          status := some (syncStatus (servo.offset sample) sample.ptpTimeNs) }

variable {acks : Acks} {servo servo' : Servo} {sample : PtpServoSample} {effects : Effects}

theorem processServoSample_round
    (run : processServoSample acks servo sample = .ok (servo', effects)) :
    ServoRound acks servo sample servo' effects := by
  unfold processServoSample at run
  split at run
  · rename_i adopts
    cases run
    exact .adopted adopts
  · rename_i keeps
    split at run
    · rename_i outlier
      rcases Fallible.bind_eq_ok.mp run with ⟨counter, counted, run⟩
      cases run
      exact .outlier keeps outlier (checkedAdd_eq_ok.mp counted)
    · rename_i usual
      rcases Fallible.bind_eq_ok.mp run with ⟨newCorrection, corrected, run⟩
      rcases Fallible.bind_eq_ok.mp run with ⟨⟨mid, written⟩, adjusted, run⟩
      rcases Fallible.bind_eq_ok.mp run with ⟨counter, counted, result⟩
      rcases (checkedSigned_eq_ok.mp corrected).1 with rfl
      cases result
      unfold writeCorrection at adjusted
      split at adjusted
      · rename_i accepted
        rcases Fallible.bind_eq_ok.mp adjusted with ⟨average, averaged, adjusted⟩
        rcases Fallible.bind_eq_ok.mp adjusted with ⟨increment, changed, adjusted⟩
        cases adjusted
        refine .adjusted keeps usual accepted (checkedAdd_eq_ok.mp counted) ?_ changed
        unfold Servo.average
        rw [averaged]
        rfl
      · rename_i refused
        cases adjusted
        exact .rejected keeps usual (eq_false_of_ne_true refused) (checkedAdd_eq_ok.mp counted)

theorem adjustment_le {average size : Int} (run : adjustment average = .ok size) :
    0 < size ∧ size ≤ 50 := by
  rcases Fallible.bind_eq_ok.mp run with ⟨abs, _, run⟩
  cases run
  split_ifs
  all_goals omega

/-- The increment grows for a negative average, falls for a positive one, and stays for zero. -/
theorem adjustIncrement_cases {increment average increment' : Int}
    (run : adjustIncrement increment average = .ok increment') :
    (∃ size, 0 < size ∧ size ≤ 50 ∧
      (average < 0 ∧ increment' = increment + size ∨
        0 < average ∧ increment' = increment - size)) ∨
      average = 0 ∧ increment' = increment := by
  rcases Fallible.bind_eq_ok.mp run with ⟨size, sized, run⟩
  rcases adjustment_le sized with ⟨positive, small⟩
  split at run
  · rename_i behind
    exact .inl ⟨size, positive, small, .inl ⟨behind, (checkedSigned_eq_ok.mp run).1⟩⟩
  · rename_i notBehind
    split at run
    · rename_i ahead
      exact .inl ⟨size, positive, small, .inr ⟨ahead, (checkedSigned_eq_ok.mp run).1⟩⟩
    · rename_i notAhead
      cases run
      exact .inr ⟨by omega, rfl⟩

theorem adjustIncrement_le {increment average increment' : Int}
    (run : adjustIncrement increment average = .ok increment') :
    (increment' - increment).natAbs ≤ 50 := by
  rcases adjustIncrement_cases run with ⟨size, _, _, ⟨_, rfl⟩ | ⟨_, rfl⟩⟩ | ⟨_, rfl⟩
  · omega
  · omega
  · omega

theorem adjustIncrement_eq_iff {increment average increment' : Int}
    (run : adjustIncrement increment average = .ok increment') :
    increment' = increment ↔ average = 0 := by
  rcases adjustIncrement_cases run with ⟨size, _, _, ⟨_, rfl⟩ | ⟨_, rfl⟩⟩ | ⟨_, rfl⟩
  · omega
  · omega
  · omega

/-- A round stores a base only for a sample that the servo adopts. -/
theorem ServoRound.base (round : ServoRound acks servo sample servo' effects) :
    servo'.baseEpochOffset =
      if servo.Adopts sample then some sample.rawOffset else servo.baseEpochOffset := by
  cases round with
  | adopted adopts => rw [if_pos adopts]
  | outlier keeps _ _ => rw [if_neg keeps]
  | rejected keeps _ _ _ => rw [if_neg keeps]
  | adjusted keeps _ _ _ _ _ => rw [if_neg keeps]

theorem ServoRound.increment_le (round : ServoRound acks servo sample servo' effects) :
    (servo'.currentIncrement - servo.currentIncrement).natAbs ≤ 50 := by
  cases round with
  | adopted _ => simp
  | outlier _ _ _ => simp
  | rejected _ _ _ _ => simp
  | adjusted _ _ _ _ _ changed => exact adjustIncrement_le changed

/-- A status is published only for an offset that the hardware was adjusted by. -/
theorem ServoRound.published {status : PtpSyncStatus}
    (round : ServoRound acks servo sample servo' effects)
    (published : effects.status = some status) :
    ¬ servo.Adopts sample ∧ status = syncStatus (servo.offset sample) sample.ptpTimeNs := by
  cases round with
  | adopted _ => cases published
  | outlier _ _ _ => cases published
  | rejected _ _ _ _ => cases published
  | adjusted keeps _ _ _ _ _ => exact ⟨keeps, (Option.some.inj published).symm⟩

/-! ## The adjusted clock -/

/-- The registers of the hardware clock: the last values it accepted. -/
structure Hardware where
  offset : Int
  increment : Int
  deriving DecidableEq

def Hardware.accept (hardware : Hardware) (acks : Acks) (effects : Effects) : Hardware where
  offset := if acks.offsetSet then effects.offsetWrite.getD hardware.offset else hardware.offset
  increment := if acks.incSet then effects.incWrite.getD hardware.increment else hardware.increment

/-- A sample, and the answers of the hardware to the writes it may cause. -/
structure Measurement where
  sample : PtpServoSample
  acks : Acks

/-- The servo, the clock it adjusts and the status it published last. -/
structure Slave where
  servo : Servo
  hardware : Hardware
  published : PtpSyncStatus
  deriving DecidableEq

namespace Slave

/-- The state in which `monitor_ptp_l2` begins to listen, after its two initial writes. -/
def start (hardware : Hardware) (acks : Acks) : Slave where
  servo := .new
  hardware := hardware.accept acks
    { offsetWrite := some 0, incWrite := some DEFAULT_INCREMENT }
  published := .initializing

def process (s : Slave) (m : Measurement) : Rust (Slave × Effects) := do
  let (servo, effects) ← processServoSample m.acks s.servo m.sample
  return ({ servo
            hardware := s.hardware.accept m.acks effects
            published := effects.status.getD s.published }, effects)

/-- A step of the slave: a round of the servo, the accepted writes and the published status. -/
theorem step_cases {s s' : Slave} {e : Machine.Event Measurement Effects}
    (taken : Machine.Steps process s e s') :
    ServoRound e.input.acks s.servo e.input.sample s'.servo e.output ∧
      s'.hardware = s.hardware.accept e.input.acks e.output ∧
      s'.published = e.output.status.getD s.published := by
  rcases e with ⟨m, output⟩
  rcases Fallible.bind_eq_ok.mp taken with ⟨⟨servo, effects⟩, processed, result⟩
  cases result
  exact ⟨processServoSample_round processed, rfl, rfl⟩

end Slave

end P4Tas.Ptp
