import P4Tas.Ptp.Header

/-!
# The state of the PTP monitor

The tracker that extends hardware timestamps to 64 bits, the times collected for a servo sample, and
the variables of `monitor_ptp_l2` that the handlers of frames read and write.  An `Instant` is a
number of nanoseconds.
-/

namespace P4Tas.Ptp

/-! ## Hardware timestamps -/

structure TimestampTracker where
  swTsNs : U16
  lastHwTs : Option U64
  deriving DecidableEq

namespace TimestampTracker

def MASK_48 : U64 := (1 <<< 48) - 1

/-- The upper 16 bits, counted up when the timestamp has decreased. -/
def nextSwTs (tracker : TimestampTracker) (hwTs : U64) : U16 :=
  match tracker.lastHwTs with
  | some prev => if hwTs < prev then tracker.swTsNs + 1 else tracker.swTsNs
  | none => tracker.swTsNs

def fullTimestamp (swTsNs : U16) (hwTs : U64) : U64 :=
  (swTsNs.setWidth 64 <<< 48) ||| hwTs

def combine (tracker : TimestampTracker) (hwTs : U64) : TimestampTracker × U64 :=
  let hwTs := hwTs &&& MASK_48
  let swTsNs := tracker.nextSwTs hwTs
  ({ swTsNs, lastHwTs := some hwTs }, fullTimestamp swTsNs hwTs)

def lastComponents (tracker : TimestampTracker) : Option (U16 × U64) :=
  tracker.lastHwTs.map fun hw => (tracker.swTsNs, hw)

def lastFullTimestamp (tracker : TimestampTracker) : Option U64 :=
  tracker.lastComponents.map fun (sw, hw) => fullTimestamp sw hw

end TimestampTracker

/-! ## Times -/

/-- The input of the servo. -/
structure PtpServoSample where
  t1 : PtpTime
  t2 : PtpTime
  t3 : PtpTime
  t4 : PtpTime
  cfFollowupNs : Int
  cfDelayrespNs : Int
  deriving DecidableEq

structure SyncTimes where
  t1 : Option PtpTime := none
  t2 : Option PtpTime := none
  lastFrame : Option (List U8) := none
  lastHeader : Option PtpHeader := none
  t3 : Option PtpTime := none
  t4 : Option PtpTime := none
  cfFollowupNs : Int := 0
  cfDelayrespNs : Int := 0
  /-- The sequence id of the Delay_Req that was sent. -/
  delayReqSeq : Option U16 := none
  /-- The id of the last egress timestamp, used to detect stale reads. -/
  lastEgressTsId : Option U32 := none
  deriving DecidableEq

namespace SyncTimes

/-- What taking a sample clears. -/
def clear (times : SyncTimes) : SyncTimes :=
  { times with
    t1 := none, t2 := none, t3 := none, t4 := none
    cfFollowupNs := 0, cfDelayrespNs := 0, delayReqSeq := none }

def takeCompleteSample (times : SyncTimes) : SyncTimes × Option PtpServoSample :=
  match times.t1, times.t2, times.t3, times.t4 with
  | some t1, some t2, some t3, some t4 =>
    (times.clear,
      some { t1, t2, t3, t4,
             cfFollowupNs := times.cfFollowupNs, cfDelayrespNs := times.cfDelayrespNs })
  | _, _, _, _ => (times, none)

/-- Taking a sample needs all four times and clears them; otherwise it changes nothing. -/
theorem takeCompleteSample_cases (times : SyncTimes) :
    (∃ t1 t2 t3 t4, times.t1 = some t1 ∧ times.t2 = some t2 ∧ times.t3 = some t3 ∧
      times.t4 = some t4 ∧ times.takeCompleteSample =
        (times.clear, some ⟨t1, t2, t3, t4, times.cfFollowupNs, times.cfDelayrespNs⟩)) ∨
      times.takeCompleteSample = (times, none) := by
  unfold takeCompleteSample
  split
  · rename_i t1 t2 t3 t4 first second third fourth
    exact .inl ⟨t1, t2, t3, t4, first, second, third, fourth, rfl⟩
  · exact .inr rfl

end SyncTimes

/-! ## The monitor -/

inductive SyncState
  | idle
  | waitingFollowUp (seq : U16) (src : PortIdentity) (deadline : Nat) (t2 : Option PtpTime)
  deriving DecidableEq

/-- The arguments of `monitor_ptp_l2`, and the MAC address of the interface. -/
structure Config where
  domainFilter : Option U8
  ifaceMac : Bytes 6

structure Monitor where
  state : SyncState
  lastSync : SyncTimes
  tsTracker : TimestampTracker
  delayReqSeq : U16
  deriving DecidableEq

/-- The monitor before the first frame; the upper half of timestamps starts at the system time's. -/
def Monitor.new (swTsNs : U16) : Monitor where
  state := .idle
  lastSync := {}
  tsTracker := { swTsNs, lastHwTs := none }
  delayReqSeq := 1

end P4Tas.Ptp
