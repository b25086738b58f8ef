import P4Tas.Ptp.ServoRuns

/-!
# Activation of packet generation

`wait_for_ptp_sync_and_enable_pktgen` next to the servo.  The two tasks share a watch channel, which
holds the last status only and remembers whether the receiver has seen it.  `changed` and `borrow`
are two steps of the receiver, and a status may be published between them.

An event of a run is a step of either task.  The time of an event is an `Instant`; nothing is
assumed of the time that passes between two events.

* `System.Step`: the steps of the two tasks;
* `calls_le_one`: `enable_pkt_gen` is called at most once;
* `enabled_once_heard`: and the status that the task took last is then of a sample with an offset
  below 100 ns.
-/

namespace P4Tas.Ptp

open Transition (Run)

/-! ## The activation time -/

/-- `str::split_once` at a dot. -/
def splitOnce (s : List Char) : Option (List Char × List Char) :=
  match s.dropWhile (· ≠ '.') with
  | [] => none
  | _ :: rest => some (s.takeWhile (· ≠ '.'), rest)

/-- The digits of a number that may be signed by a plus. -/
def unsignedDigits : List Char → List Char
  | '+' :: c :: rest => c :: rest
  | s => s

/-- `str::parse::<u64>`. -/
def parseU64 (s : List Char) : Option U64 :=
  let digits := unsignedDigits s
  let value := digits.foldl (fun n c => n * 10 + (c.toNat - '0'.toNat)) 0
  if digits ≠ [] ∧ digits.all Char.isDigit ∧ value < 2 ^ 64 then
    some (BitVec.ofNat 64 value)
  else
    none

def ptpTimePlus2min (s : List Char) : Rust U64 := do
  let (secs, nanos) ← unwrap (splitOnce s)
  let secs ← unwrap (parseU64 secs)
  let ns ← checkedMul secs 1000000000
  let nanos ← unwrap (parseU64 nanos)
  let sum ← checkedAdd ns nanos
  checkedAdd sum 120000000000

/-! ## The tasks -/

def PTP_ACTIVATION_SPIN_WINDOW_NS : Nat := 50000

/-- Where the activation task is: it waits for a status or for the deadline, it is about to read the
status, it spins until the deadline, or it has returned. -/
inductive Task
  | waiting (activationDeadline : Option Nat)
  | changed
  | spinning (deadline : Nat)
  | returned
  deriving DecidableEq

structure System where
  slave : Slave
  /-- The task of the servo, which owns the sender, has not ended. -/
  monitoring : Bool
  /-- The receiver has not seen the last status. -/
  unseen : Bool
  task : Task
  pktgenActivationPtpTimeNs : U64

/-- The tasks when the monitor has sent its first status. -/
def System.start (gmTime : List Char) (hardware : Hardware) (acks : Acks) : Rust System := do
  let target ← ptpTimePlus2min gmTime
  return { slave := .start hardware acks
           monitoring := true
           unseen := true
           task := .waiting none
           pktgenActivationPtpTimeNs := target }

/-- What the task does with a status: it enables the packet generator, or waits on. -/
inductive Decision
  | enable
  | wait (activationDeadline : Option Nat)
  deriving DecidableEq

def handleStatus (target : U64) (now : Nat) : PtpSyncStatus → Decision
  | .initializing => .wait none
  | .syncing _ _ => .wait none
  | .synchronized _ ptpTimeNs =>
    if ptpTimeNs ≥ target then
      .enable
    else
      .wait (some (now + (target.toNat - ptpTimeNs.toNat)))

/-- The end of the sleep before the spin window. -/
def wakeAt (deadline : Nat) : Nat :=
  if PTP_ACTIVATION_SPIN_WINDOW_NS ≤ deadline then deadline - PTP_ACTIVATION_SPIN_WINDOW_NS
  else deadline

/-- The steps of the tasks: a sample is processed, the monitor ends; the receiver is woken, takes
the status or finds the channel closed, the sleep ends, and the deadline is reached. -/
inductive Activity
  | sample (e : Machine.Event Measurement Effects)
  | stopped
  | changed
  | taken (now : Nat)
  | passed (now : Nat)
  | closed
  | slept (now : Nat)
  | expired (now : Nat)

namespace Activity

/-- The packet generator is enabled: the time of a status has already passed the target, or the
deadline is reached. -/
def calls : Activity → Bool
  | passed _ => true
  | expired _ => true
  | _ => false

/-- The receiver reads the status. -/
def takes : Activity → Bool
  | taken _ => true
  | passed _ => true
  | _ => false

def published : Activity → Option PtpSyncStatus
  | sample e => e.output.status
  | _ => none

end Activity

inductive System.Step (s : System) : Activity → System → Prop
  | sample {e : Machine.Event Measurement Effects} {slave : Slave} :
      s.monitoring = true → Machine.Steps Slave.process s.slave e slave →
      System.Step s (.sample e) { s with slave, unseen := s.unseen || e.output.status.isSome }
  | stopped : s.monitoring = true → System.Step s .stopped { s with monitoring := false }
  | changed {deadline : Option Nat} : s.task = .waiting deadline → s.unseen = true →
      System.Step s .changed { s with unseen := false, task := .changed }
  | taken {now : Nat} {deadline : Option Nat} : s.task = .changed →
      handleStatus s.pktgenActivationPtpTimeNs now s.slave.published = .wait deadline →
      System.Step s (.taken now) { s with task := .waiting deadline }
  | passed {now : Nat} : s.task = .changed →
      handleStatus s.pktgenActivationPtpTimeNs now s.slave.published = .enable →
      System.Step s (.passed now) { s with task := .returned }
  | closed {deadline : Option Nat} : s.task = .waiting deadline → s.unseen = false →
      s.monitoring = false → System.Step s .closed { s with task := .returned }
  | slept {now deadline : Nat} : s.task = .waiting (some deadline) → wakeAt deadline ≤ now →
      System.Step s (.slept now) { s with task := .spinning deadline }
  | expired {now deadline : Nat} : s.task = .spinning deadline → deadline ≤ now →
      System.Step s (.expired now) { s with task := .returned }

variable {s s' t u : System} {a : Activity} {as before after : List Activity}

/-! ## At most once -/

theorem returned_step (returned : s.task = .returned) (taken : s.Step a s') :
    s'.task = .returned ∧ a.calls = false := by
  cases taken with
  | sample _ _ => exact ⟨returned, rfl⟩
  | stopped _ => exact ⟨returned, rfl⟩
  | changed waits _ => cases returned.symm.trans waits
  | taken woken _ => cases returned.symm.trans woken
  | passed woken _ => cases returned.symm.trans woken
  | closed waits _ _ => cases returned.symm.trans waits
  | slept waits _ => cases returned.symm.trans waits
  | expired spins _ => cases returned.symm.trans spins

theorem returned_of_calls (calls : a.calls = true) (taken : s.Step a s') :
    s'.task = .returned := by
  cases taken with
  | passed _ _ => rfl
  | expired _ _ => rfl
  | sample _ _ => cases calls
  | stopped _ => cases calls
  | changed _ _ => cases calls
  | taken _ _ => cases calls
  | closed _ _ _ => cases calls
  | slept _ _ => cases calls

/-- The packet generator is enabled at most once, and the task has returned then. -/
theorem calls_le_one (run : Run System.Step s as u) :
    as.countP Activity.calls ≤ 1 ∧ (as.countP Activity.calls = 1 → u.task = .returned) := by
  refine run.history (I := fun before t => before.countP Activity.calls ≤ 1 ∧
    (before.countP Activity.calls = 1 → t.task = .returned)) ⟨by simp, by simp⟩ ?_
  rintro before t a t' ⟨bound, returned⟩ taken
  rw [List.countP_append, List.countP_singleton]
  by_cases done : before.countP Activity.calls = 1
  · rcases returned_step (returned done) taken with ⟨still, quiet⟩
    simp [done, quiet, still]
  · have none : before.countP Activity.calls = 0 := by omega
    rw [none]
    cases calls : a.calls with
    | false => simp
    | true => simp [returned_of_calls calls taken]

/-! ## The status that was taken last -/

/-- The sample of the last status that was published, in the state it was processed in. -/
structure LastPublished (start : System) (as : List Activity)
    (e : Machine.Event Measurement Effects)
    (t : System) : Prop where
  split : ∃ earlier later, as = earlier ++ .sample e :: later ∧ Run System.Step start earlier t ∧
    ∀ a ∈ later, a.published = none
  computed : ¬ t.slave.servo.Adopts e.input.sample
  status : e.output.status =
    some (syncStatus (t.slave.servo.offset e.input.sample) e.input.sample.ptpTimeNs)

/-- The task has taken a status, the last time that of a sample with an offset below 100 ns. -/
def HeardLocked (start : System) (as : List Activity) : Prop :=
  ∃ before take later e t, as = before ++ take :: later ∧ take.takes = true ∧
    (∀ a ∈ later, a.takes = false) ∧ LastPublished start before e t ∧
    (t.slave.servo.offset e.input.sample).natAbs < 100

variable {start : System}

theorem LastPublished.append {e : Machine.Event Measurement Effects}
    (last : LastPublished start as e t) (silent : a.published = none) :
    LastPublished start (as ++ [a]) e t := by
  rcases last.split with ⟨earlier, later, rfl, left, quiet⟩
  refine ⟨⟨earlier, later ++ [a], by simp, left, fun x member => ?_⟩, last.computed, last.status⟩
  rcases List.mem_append.mp member with old | new
  · exact quiet x old
  · rw [List.mem_singleton.mp new]
    exact silent

theorem HeardLocked.append (heard : HeardLocked start as) (quiet : a.takes = false) :
    HeardLocked start (as ++ [a]) := by
  rcases heard with ⟨before, take, later, e, t, rfl, takes, since, last, locked⟩
  refine ⟨before, take, later ++ [a], e, t, by simp, takes, fun x member => ?_, last, locked⟩
  rcases List.mem_append.mp member with old | new
  · exact since x old
  · rw [List.mem_singleton.mp new]
    exact quiet

/-- The status in the channel is the first one, or of the last sample that published one. -/
def FromLastPublished (start : System) (as : List Activity) (s : System) : Prop :=
  s.slave.published = .initializing ∨ ∃ e t, LastPublished start as e t ∧
    s.slave.published = syncStatus (t.slave.servo.offset e.input.sample) e.input.sample.ptpTimeNs

theorem FromLastPublished.append (from_last : FromLastPublished start as s)
    (same : s'.slave = s.slave) (silent : a.published = none) :
    FromLastPublished start (as ++ [a]) s' := by
  unfold FromLastPublished
  rw [same]
  rcases from_last with initial | ⟨e, t, last, status⟩
  · exact .inl initial
  · exact .inr ⟨e, t, last.append silent, status⟩

theorem FromLastPublished.sample {e : Machine.Event Measurement Effects} {slave : Slave}
    (from_last : FromLastPublished start as s) (run : Run System.Step start as s)
    (taken : Machine.Steps Slave.process s.slave e slave) (same : s'.slave = slave) :
    FromLastPublished start (as ++ [.sample e]) s' := by
  rcases Slave.step_cases taken with ⟨round, _, published⟩
  unfold FromLastPublished
  rw [same, published]
  cases status : e.output.status with
  | none =>
    rcases from_last with initial | ⟨e', t, last, status'⟩
    · exact .inl initial
    · exact .inr ⟨e', t, last.append status, status'⟩
  | some status' =>
    rcases round.published status with ⟨computed, rfl⟩
    exact .inr ⟨e, s, ⟨⟨as, [], rfl, run, List.forall_mem_nil _⟩, computed, status⟩, rfl⟩

/-- The task holds a deadline. -/
def Task.Armed : Task → Prop
  | .waiting (some _) => True
  | .spinning _ => True
  | _ => False

/-- What the task holds on to it has heard. -/
structure Informed (start : System) (as : List Activity) (s : System) : Prop where
  run : Run System.Step start as s
  status : FromLastPublished start as s
  armed : s.task.Armed → HeardLocked start as

theorem syncStatus_synchronized {offset offset' : Int} {ptpTimeNs ptpTimeNs' : U64}
    (status : syncStatus offset ptpTimeNs = .synchronized offset' ptpTimeNs') :
    offset.natAbs < 100 ∧ ptpTimeNs = ptpTimeNs' := by
  unfold syncStatus at status
  split at status
  · rename_i small
    cases status
    exact ⟨small, rfl⟩
  · cases status

/-- A status that makes the task enable the packet generator or wait for a deadline is of a sample
with a small offset. -/
theorem FromLastPublished.heard {now : Nat} {take : Activity}
    (from_last : FromLastPublished start as s) (takes : take.takes = true)
    (decides : handleStatus s.pktgenActivationPtpTimeNs now s.slave.published ≠ .wait none) :
    HeardLocked start (as ++ [take]) := by
  rcases from_last with initial | ⟨e, t, last, status⟩
  · rw [initial] at decides
    exact absurd rfl decides
  · cases kind : s.slave.published with
    | initializing =>
      rw [kind] at decides
      exact absurd rfl decides
    | syncing offset ptpTimeNs =>
      rw [kind] at decides
      exact absurd rfl decides
    | synchronized offset ptpTimeNs =>
      have locked := (syncStatus_synchronized (status.symm.trans kind)).1
      exact ⟨as, take, [], e, t, rfl, takes, List.forall_mem_nil _, last, locked⟩

theorem Informed.step (informed : Informed start as s) (taken : s.Step a s') :
    Informed start (as ++ [a]) s' := by
  have run : Run System.Step start (as ++ [a]) s' :=
    Run.append_iff.mpr ⟨s, informed.run, Run.cons_iff.mpr ⟨s', taken, .nil s'⟩⟩
  cases taken with
  | sample _ processed =>
    refine ⟨run, informed.status.sample informed.run processed rfl, fun armed => ?_⟩
    exact (informed.armed armed).append rfl
  | stopped _ =>
    exact ⟨run, informed.status.append rfl rfl, fun armed => (informed.armed armed).append rfl⟩
  | changed _ _ => exact ⟨run, informed.status.append rfl rfl, False.elim⟩
  | @taken now deadline _ waits =>
    refine ⟨run, informed.status.append rfl rfl, fun armed => ?_⟩
    cases deadline with
    | none => exact armed.elim
    | some deadline => exact informed.status.heard rfl (by rw [waits]; nofun)
  | passed _ _ => exact ⟨run, informed.status.append rfl rfl, False.elim⟩
  | closed _ _ _ => exact ⟨run, informed.status.append rfl rfl, False.elim⟩
  | slept waits _ =>
    refine ⟨run, informed.status.append rfl rfl, fun _ => (informed.armed ?_).append rfl⟩
    rw [waits]
    trivial
  | expired _ _ => exact ⟨run, informed.status.append rfl rfl, False.elim⟩

theorem informed {gmTime : List Char} {hardware : Hardware} {acks : Acks}
    (started : System.start gmTime hardware acks = .ok start) (run : Run System.Step start as s) :
    Informed start as s := by
  rcases Fallible.bind_eq_ok.mp started with ⟨target, _, started⟩
  cases started
  exact run.history (I := Informed _) ⟨.nil _, .inl rfl, False.elim⟩
    fun _ _ _ _ informed taken => informed.step taken

/-- When the packet generator is enabled, the status that the task took last was of a sample with a
small offset. -/
theorem Informed.called (informed : Informed start as s) (calls : a.calls = true)
    (taken : s.Step a s') : HeardLocked start (as ++ [a]) := by
  cases taken with
  | passed _ enables => exact informed.status.heard rfl (by rw [enables]; nofun)
  | expired spins _ =>
    refine (informed.armed ?_).append rfl
    rw [spins]
    trivial
  | sample _ _ => cases calls
  | stopped _ => cases calls
  | changed _ _ => cases calls
  | taken _ _ => cases calls
  | closed _ _ _ => cases calls
  | slept _ _ => cases calls

/-- In every run of the two tasks the packet generator is enabled at most once, and when it is, the
status that the activation task took last was of a sample with an offset below 100 ns. -/
theorem enabled_once_heard {gmTime : List Char} {hardware : Hardware} {acks : Acks}
    (started : System.start gmTime hardware acks = .ok start) (run : Run System.Step start as u) :
    as.countP Activity.calls ≤ 1 ∧
      ∀ before a after, as = before ++ a :: after → a.calls = true →
        HeardLocked start (before ++ [a]) := by
  refine ⟨(calls_le_one run).1, ?_⟩
  rintro before a after rfl calls
  rcases Run.append_iff.mp run with ⟨s, left, right⟩
  rcases Run.cons_iff.mp right with ⟨s', taken, _⟩
  exact (informed started left).called calls taken

/-! ## A run -/

def sampleGmTime : List Char := ['1', '0', '0', '.', '0']

/-- The tasks with a target of 220 seconds. -/
def sampleSystem : System where
  slave := sampleStart
  monitoring := true
  unseen := true
  task := .waiting none
  pktgenActivationPtpTimeNs := 220000000000

theorem sampleGmTime_plus2min : ptpTimePlus2min sampleGmTime = .ok 220000000000 := by
  decide +kernel

theorem sampleSystem_started :
    System.start sampleGmTime { offset := 0, increment := 0 } allSet = .ok sampleSystem := by
  unfold System.start
  rw [sampleGmTime_plus2min]
  rfl

/-- The task after a status of ten seconds that it took at `now`. -/
def sampleWaiting (slave : Slave) (now : Nat) : System where
  slave
  monitoring := true
  unseen := false
  task := .waiting (some (now + 210000000000))
  pktgenActivationPtpTimeNs := 220000000000

/-- A first sample that is in lock, whose status is taken; the second one will be 5 µs off. -/
theorem sample_taken (now : Nat) :
    ∃ e slave, e.input = ⟨sampleOf 0, allSet⟩ ∧
      e.output.status = some (.synchronized 0 10000000000) ∧
      slave.servo.baseEpochOffset = none ∧
      (∃ result, Slave.process slave ⟨sampleOf 5000, allSet⟩ = .ok result) ∧
      Run System.Step sampleSystem [.sample e, .changed, .taken now] (sampleWaiting slave now) := by
  have evaluated : (Slave.process sampleStart ⟨sampleOf 0, allSet⟩).toOption.any (fun r =>
      decide (r.1.published = .synchronized 0 10000000000 ∧
        r.2.status = some (.synchronized 0 10000000000) ∧
        r.1.servo.baseEpochOffset = none ∧
        (Slave.process r.1 ⟨sampleOf 5000, allSet⟩).isOk = true)) = true := by
    decide +kernel
  rcases Fallible.exists_of_any evaluated with ⟨⟨slave, effects⟩, processed, found⟩
  rcases of_decide_eq_true found with ⟨published, status, unset, returned⟩
  have waits : handleStatus 220000000000 now slave.published =
      .wait (some (now + 210000000000)) := by
    rw [published]
    rfl
  exact ⟨⟨_, effects⟩, slave, rfl, status, unset, Fallible.exists_of_isOk returned,
    .cons (.sample rfl processed) (.cons (.changed rfl rfl) (.cons (.taken rfl waits) (.nil _)))⟩

/-- A sample that is 5 µs off is processed while the task spins, and the deadline is reached. -/
theorem sample_called :
    ∃ e e' t u, e'.input = ⟨sampleOf 5000, allSet⟩ ∧ t.slave.servo.baseEpochOffset = none ∧
      Run System.Step sampleSystem [.sample e, .changed, .taken 0, .slept 210000000000] t ∧
      Run System.Step sampleSystem ([.sample e, .changed, .taken 0, .slept 210000000000] ++
        [.sample e', .expired 210000000000]) u := by
  rcases sample_taken 0 with ⟨e, slave, _, _, unset, ⟨⟨slave', effects⟩, processed⟩, run⟩
  have slept : Run System.Step sampleSystem [.sample e, .changed, .taken 0, .slept 210000000000]
      { sampleWaiting slave 0 with task := .spinning (0 + 210000000000) } :=
    Run.append_iff.mpr ⟨_, run, .cons (.slept rfl (by decide)) (.nil _)⟩
  exact ⟨e, ⟨_, effects⟩, _, _, rfl, unset, slept, Run.append_iff.mpr ⟨_, slept,
    .cons (.sample rfl processed) (.cons (.expired rfl (by decide)) (.nil _))⟩⟩

theorem enabled_once_heard_sample :
    ∃ as u, Run System.Step sampleSystem as u ∧ as.countP Activity.calls = 1 ∧
      ∃ before a, as = before ++ [a] ∧ HeardLocked sampleSystem (before ++ [a]) := by
  rcases sample_called with ⟨e, e', t, u, _, _, _, run⟩
  refine ⟨_, u, run, rfl, [.sample e, .changed, .taken 0, .slept 210000000000, .sample e'],
    .expired 210000000000, rfl, ?_⟩
  exact (enabled_once_heard sampleSystem_started run).2 _ _ [] rfl rfl

/-- The last sample before the packet generator is enabled can be off by more than 100 ns. -/
theorem enabled_off_lock :
    ∃ earlier e t u now, Run System.Step sampleSystem earlier t ∧
      Run System.Step sampleSystem (earlier ++ [.sample e, .expired now]) u ∧
      ¬ t.slave.servo.Adopts e.input.sample ∧
      (t.slave.servo.offset e.input.sample).natAbs = 5000 := by
  rcases sample_called with ⟨e, e', t, u, input, unset, left, run⟩
  refine ⟨_, e', t, u, _, left, run, ?_, ?_⟩
  · rintro ⟨_, huge⟩
    rw [input] at huge
    exact absurd huge (by decide +kernel)
  · unfold Servo.offset
    rw [unset, input]
    decide +kernel

end P4Tas.Ptp
