import P4Tas.Ptp.ServoRuns

/-!
# The estimate of the offset

A sample of a slave whose clock is ahead of the master's by `theta`, over paths that take `d1` to
the slave and `d2` back.  The servo estimates the offset from the two legs, and half a nanosecond is
lost when it halves an odd sum.

* `Measures.error_le`: the estimate is off by half the asymmetry of the paths, and its rounding;
* `Shifted.rawOffset_eq`: the epoch of the master enters it as a summand;
* `offsetEstimate_error`: hence the offset from the base of a sample with the same delays is the
  drift since then.
-/

namespace P4Tas.Ptp

/-- The time in a published status. -/
def PtpSyncStatus.ptpTimeNs? : PtpSyncStatus → Option U64
  | .initializing => none
  | .syncing _ ptpTimeNs => some ptpTimeNs
  | .synchronized _ ptpTimeNs => some ptpTimeNs

theorem syncStatus_ptpTimeNs? (offsetNs : Int) (ptpTimeNs : U64) :
    (syncStatus offsetNs ptpTimeNs).ptpTimeNs? = some ptpTimeNs := by
  unfold syncStatus
  split
  · rfl
  · rfl

namespace PtpServoSample

/-- The times of the sample, as numbers. -/
def ns1 (s : PtpServoSample) : Int := s.t1.rawNs.toNat

def ns2 (s : PtpServoSample) : Int := s.t2.rawNs.toNat

def ns3 (s : PtpServoSample) : Int := s.t3.rawNs.toNat

def ns4 (s : PtpServoSample) : Int := s.t4.rawNs.toNat

/-- The slave is ahead by `theta`, and the paths to it and back take `d1` and `d2`. -/
structure Measures (s : PtpServoSample) (theta d1 d2 : Int) : Prop where
  sync : s.ns2 = s.ns1 + s.cfFollowupNs + d1 + theta
  delayReq : s.ns4 = s.ns3 + s.cfDelayrespNs + d2 - theta

/-- The same sample with the master's times in another epoch. -/
structure Shifted (s s' : PtpServoSample) (c : Int) : Prop where
  t1_eq : s'.ns1 = s.ns1 + c
  t4_eq : s'.ns4 = s.ns4 + c
  others : s' = { s with t1 := s'.t1, t4 := s'.t4 }

variable {s s' : PtpServoSample} {theta theta' d1 d2 c : Int}

theorem fwdLeg_eq : s.fwdLeg = s.ns2 - s.ns1 - s.cfFollowupNs := rfl

theorem revLeg_eq : s.revLeg = s.ns4 - s.ns3 - s.cfDelayrespNs := rfl

/-- Half of the sum, which differs from twice its half by at most one, whatever its sign. -/
theorem two_mul_tdiv_le (x : Int) : (x - 2 * x.tdiv 2).natAbs ≤ 1 := by
  have parts := Int.mul_tdiv_add_tmod x 2
  have rest : x - 2 * x.tdiv 2 = x.tmod 2 := by omega
  rw [rest, Int.natAbs_tmod]
  exact Nat.le_of_lt_succ (Nat.mod_lt _ (by decide))

namespace Measures

theorem fwdLeg (measures : s.Measures theta d1 d2) : s.fwdLeg = d1 + theta := by
  have sync := measures.sync
  rw [fwdLeg_eq]
  omega

theorem revLeg (measures : s.Measures theta d1 d2) : s.revLeg = d2 - theta := by
  have delayReq := measures.delayReq
  rw [revLeg_eq]
  omega

/-- The offset cancels out of the sum of the legs. -/
theorem pathDelay (measures : s.Measures theta d1 d2) : s.pathDelay = (d1 + d2).tdiv 2 := by
  have sum : s.fwdLeg + s.revLeg = d1 + d2 := by
    rw [measures.fwdLeg, measures.revLeg]
    omega
  unfold PtpServoSample.pathDelay
  rw [sum]

theorem rawOffset (measures : s.Measures theta d1 d2) :
    s.rawOffset = theta + (d1 - (d1 + d2).tdiv 2) := by
  unfold PtpServoSample.rawOffset
  rw [measures.fwdLeg, measures.pathDelay]
  omega

theorem error_le (measures : s.Measures theta d1 d2) :
    (2 * (s.rawOffset - theta) - (d1 - d2)).natAbs ≤ 1 := by
  have rounding := two_mul_tdiv_le (d1 + d2)
  rw [measures.rawOffset]
  omega

theorem rawOffset_symmetric (measures : s.Measures theta d1 d2) (symmetric : d1 = d2) :
    s.rawOffset = theta := by
  have half : (d1 + d2).tdiv 2 = d1 := by
    rw [symmetric, ← Int.two_mul]
    exact Int.mul_tdiv_cancel_left d2 (by decide)
  rw [measures.rawOffset, half]
  omega

end Measures

/-- The estimate of the master's time is that of the Sync's departure, and the delay. -/
theorem toNat_ptpTimeNs (s : PtpServoSample) :
    (s.ptpTimeNs.toNat : Int) =
      max 0 (min (s.ns1 + s.cfFollowupNs + s.pathDelay) (2 ^ 64 - 1)) := by
  have estimate : (s.t2.rawNs.toNat : Int) - s.rawOffset =
      s.ns1 + s.cfFollowupNs + s.pathDelay := by
    have time : (s.t2.rawNs.toNat : Int) = s.ns2 := rfl
    unfold PtpServoSample.rawOffset
    rw [fwdLeg_eq, time]
    omega
  unfold ptpTimeNs
  dsimp only
  rw [estimate]
  split
  · rename_i early
    have zero : (0 : U64).toNat = 0 := rfl
    rw [zero]
    omega
  · rename_i positive
    split
    · rename_i late
      have top : (BitVec.ofNat 64 (2 ^ 64 - 1)).toNat = 2 ^ 64 - 1 := Nat.mod_eq_of_lt (by omega)
      rw [top]
      omega
    · rename_i inRange
      rw [BitVec.toNat_ofNat, Nat.mod_eq_of_lt (by omega)]
      omega

/-- The master's epoch cancels out of the delay and is subtracted from the offset. -/
theorem Shifted.estimates (shifted : s.Shifted s' c) :
    s'.rawOffset = s.rawOffset - c ∧ s'.pathDelay = s.pathDelay := by
  have t1_eq := shifted.t1_eq
  have t4_eq := shifted.t4_eq
  have ns2_eq : s'.ns2 = s.ns2 := by rw [shifted.others]; rfl
  have ns3_eq : s'.ns3 = s.ns3 := by rw [shifted.others]; rfl
  have followUp : s'.cfFollowupNs = s.cfFollowupNs := by rw [shifted.others]
  have delayResp : s'.cfDelayrespNs = s.cfDelayrespNs := by rw [shifted.others]
  have fwd : s'.fwdLeg = s.fwdLeg - c := by
    rw [fwdLeg_eq, fwdLeg_eq]
    omega
  have rev : s'.revLeg = s.revLeg + c := by
    rw [revLeg_eq, revLeg_eq]
    omega
  have sum : s'.fwdLeg + s'.revLeg = s.fwdLeg + s.revLeg := by omega
  have delay : s'.pathDelay = s.pathDelay := by
    unfold PtpServoSample.pathDelay
    rw [sum]
  refine ⟨?_, delay⟩
  unfold PtpServoSample.rawOffset
  rw [fwd, delay]
  omega

end PtpServoSample

theorem Servo.offset_of_base {servo : Servo} {base : Int}
    (stored : servo.baseEpochOffset = some base) (sample : PtpServoSample) :
    servo.offset sample = sample.rawOffset - base := by
  unfold Servo.offset
  rw [stored]

/-- What the servo estimates from a sample of a slave that is ahead by `theta`: the offset, within
half a nanosecond of half the asymmetry of the paths, and exactly for symmetric paths; the time it
publishes; and the offset from a base, which is the change of `theta` since a sample with the same
delays, in any epoch. -/
theorem offsetEstimate_error {s : PtpServoSample} {theta d1 d2 : Int}
    (measures : s.Measures theta d1 d2) :
    ((2 * (s.rawOffset - theta) - (d1 - d2)).natAbs ≤ 1 ∧ (d1 = d2 → s.rawOffset = theta)) ∧
      (∀ acks servo servo' effects status,
        processServoSample acks servo s = .ok (servo', effects) → effects.status = some status →
          ∃ time, status.ptpTimeNs? = some time ∧ (time.toNat : Int) =
            max 0 (min (s.ns1 + s.cfFollowupNs + s.pathDelay) (2 ^ 64 - 1))) ∧
      (∀ c s', s.Shifted s' c → s'.rawOffset = s.rawOffset - c ∧ s'.pathDelay = s.pathDelay) ∧
      ∀ (servo : Servo) (base : PtpServoSample) (theta' : Int), base.Measures theta' d1 d2 →
        servo.baseEpochOffset = some base.rawOffset → servo.offset s = theta - theta' ∧
          ∀ c s' base', s.Shifted s' c → base.Shifted base' c →
            ({ servo with baseEpochOffset := some base'.rawOffset } : Servo).offset s' =
              servo.offset s := by
  refine ⟨⟨measures.error_le, measures.rawOffset_symmetric⟩, ?_, ?_, ?_⟩
  · intro acks servo servo' effects status run published
    rcases (processServoSample_round run).published published with ⟨_, rfl⟩
    exact ⟨_, syncStatus_ptpTimeNs? _ _, s.toNat_ptpTimeNs⟩
  · exact fun c s' shifted => shifted.estimates
  · intro servo base theta' measuresBase stored
    rw [Servo.offset_of_base stored, measures.rawOffset, measuresBase.rawOffset]
    refine ⟨by omega, fun c s' base' shifted shiftedBase => ?_⟩
    rw [Servo.offset_of_base rfl, shifted.estimates.1, shiftedBase.estimates.1,
      measures.rawOffset, measuresBase.rawOffset]
    omega

/-- A slave that is behind by 7 ns, over paths of 5 ns and 8 ns. -/
def asymmetricSample : PtpServoSample where
  t1 := .fromNs 100
  t2 := .fromNs 98
  t3 := .fromNs 200
  t4 := .fromNs 215
  cfFollowupNs := 0
  cfDelayrespNs := 0

theorem offsetEstimate_error_sample :
    (2 * (asymmetricSample.rawOffset - -7) - (5 - 8)).natAbs ≤ 1 ∧
      asymmetricSample.rawOffset = -8 :=
  ⟨(@offsetEstimate_error asymmetricSample (-7) 5 8 ⟨by decide, by decide⟩).1.1, by decide⟩

end P4Tas.Ptp
