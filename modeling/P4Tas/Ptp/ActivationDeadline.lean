import P4Tas.Ptp.Activation
import P4Tas.Ptp.DelayReq

/-!
# The activation deadline

The status of a sample carries the time of the grandmaster at the reception of the Sync.  When the
activation task takes the status, the exchange is over, and it adds what remains to its own time.

* `Exchange.latency`: a complete exchange takes as long as `send_delay_request` sleeps;
* `deadline_eq`: the deadline is late by the duration of the exchange;
* `deadline_late`: it never lies at the target.
-/

namespace P4Tas.Ptp

open Transition (Run)

/-- Local and PTP time advance at the same rate: they differ by a constant. -/
structure Clocks where
  shift : Int

def Clocks.ptpTime (clocks : Clocks) (instant : Nat) : Int :=
  instant + clocks.shift

/-- The instants of an exchange: the Sync is received, the Delay_Req that follows the Follow_Up is
transmitted, the Delay_Resp is handled after the egress timestamp was read, and the status is taken
by the activation task. -/
structure Exchange where
  syncReceived : Nat
  requested : Nat
  lastId : Option U32
  reads : Nat → Option DelayReqTimestamp
  responded : Nat
  taken : Nat
  sync_le : syncReceived ≤ requested
  slept : requested + sleepNs lastId reads ≤ responded
  responded_le : responded ≤ taken

theorem Exchange.latency (x : Exchange) : x.syncReceived + 2000000 ≤ x.taken := by
  have sync_le := x.sync_le
  have slept := x.slept
  have responded_le := x.responded_le
  unfold sleepNs at slept
  omega

variable {gmTime : List Char} {hardware : Hardware} {acks : Acks} {start s u : System}
  {target ptpTimeNs : U64} {before quiet : List Activity} {e : Machine.Event Measurement Effects}
  {offset : Int}

/-- The status stays in the channel until the next one. -/
theorem published_of_quiet {as : List Activity} (run : Run System.Step s as u)
    (silent : ∀ a ∈ as, a.published = none) : u.slave.published = s.slave.published := by
  refine run.invariant (I := fun t => t.slave.published = s.slave.published) rfl ?_
  intro t a t' member same taken
  cases taken with
  | @sample e slave _ processed =>
    have none : e.output.status = none := silent _ member
    rw [(Slave.step_cases processed).2.2, none]
    exact same
  | stopped _ => exact same
  | changed _ _ => exact same
  | taken _ _ => exact same
  | passed _ _ => exact same
  | closed _ _ _ => exact same
  | slept _ _ => exact same
  | expired _ _ => exact same

theorem target_of_run {as : List Activity} (run : Run System.Step s as u) :
    u.pktgenActivationPtpTimeNs = s.pktgenActivationPtpTimeNs := by
  refine run.invariant (I := fun t => t.pktgenActivationPtpTimeNs = s.pktgenActivationPtpTimeNs)
    rfl ?_
  intro t a t' _ same taken
  cases taken with
  | sample _ _ => exact same
  | stopped _ => exact same
  | changed _ _ => exact same
  | taken _ _ => exact same
  | passed _ _ => exact same
  | closed _ _ _ => exact same
  | slept _ _ => exact same
  | expired _ _ => exact same

/-- The deadline that is set when the status of a sample is taken. -/
theorem deadline_of_taken {now : Nat}
    (run : Run System.Step start (before ++ .sample e :: (quiet ++ [.taken now])) u)
    (silent : ∀ a ∈ quiet, a.published = none)
    (status : e.output.status = some (.synchronized offset ptpTimeNs))
    (below : ptpTimeNs < start.pktgenActivationPtpTimeNs) :
    u.task = .waiting
      (some (now + (start.pktgenActivationPtpTimeNs.toNat - ptpTimeNs.toNat))) := by
  have target_eq := target_of_run run
  rcases Run.append_iff.mp run with ⟨s, _, run⟩
  rcases Run.cons_iff.mp run with ⟨s', processed, run⟩
  rcases Run.append_iff.mp run with ⟨t, middle, last⟩
  rcases Run.cons_iff.mp last with ⟨u', took, ended⟩
  cases Run.nil_iff.mp ended
  have published : s'.slave.published = .synchronized offset ptpTimeNs := by
    cases processed with
    | sample _ processed => rw [(Slave.step_cases processed).2.2, status, Option.getD_some]
  rw [← published_of_quiet middle silent] at published
  cases took with
  | taken _ waits =>
    dsimp only at target_eq
    rw [published, target_eq] at waits
    dsimp only [handleStatus] at waits
    rw [if_neg (BitVec.not_le.mpr below)] at waits
    rw [← Decision.wait.inj waits]

/-- The deadline is later than the target by the time from the reception of the Sync until the
status is taken. -/
theorem deadline_eq {clocks : Clocks} {x : Exchange}
    (started : System.start gmTime hardware acks = .ok start)
    (target_eq : ptpTimePlus2min gmTime = .ok target)
    (run : Run System.Step start (before ++ .sample e :: (quiet ++ [.taken x.taken])) u)
    (silent : ∀ a ∈ quiet, a.published = none)
    (status : e.output.status = some (.synchronized offset ptpTimeNs))
    (exact_time : ptpTimeNs.toNat = clocks.ptpTime x.syncReceived) (below : ptpTimeNs < target) :
    ∃ deadline, u.task = .waiting (some deadline) ∧ clocks.ptpTime deadline =
      target.toNat + (clocks.ptpTime x.taken - clocks.ptpTime x.syncReceived) := by
  have aim : start.pktgenActivationPtpTimeNs = target := by
    rcases Fallible.bind_eq_ok.mp started with ⟨target', parsed, built⟩
    cases parsed.symm.trans target_eq
    cases built
    rfl
  subst aim
  refine ⟨_, deadline_of_taken run silent status below, ?_⟩
  rw [BitVec.lt_def] at below
  unfold Clocks.ptpTime at exact_time ⊢
  push_cast [below.le]
  omega

/-- For every complete exchange whose status is taken before the target is reached, the activation
deadline is at least two milliseconds after the target. -/
theorem deadline_late {clocks : Clocks} {x : Exchange}
    (started : System.start gmTime hardware acks = .ok start)
    (target_eq : ptpTimePlus2min gmTime = .ok target)
    (run : Run System.Step start (before ++ .sample e :: (quiet ++ [.taken x.taken])) u)
    (silent : ∀ a ∈ quiet, a.published = none)
    (status : e.output.status = some (.synchronized offset ptpTimeNs))
    (exact_time : ptpTimeNs.toNat = clocks.ptpTime x.syncReceived) (below : ptpTimeNs < target) :
    ∃ deadline, u.task = .waiting (some deadline) ∧
      clocks.ptpTime deadline =
        target.toNat + (clocks.ptpTime x.taken - clocks.ptpTime x.syncReceived) ∧
      target.toNat + 2000000 ≤ clocks.ptpTime deadline ∧
      clocks.ptpTime deadline ≠ target.toNat := by
  rcases deadline_eq started target_eq run silent status exact_time below with
    ⟨deadline, waits, late⟩
  have latency := x.latency
  refine ⟨deadline, waits, late, ?_, ?_⟩
  all_goals
    rw [late]
    unfold Clocks.ptpTime
    omega

def sampleReads : Nat → Option DelayReqTimestamp :=
  fun _ => some { valid := true, rawHwNs := 5, id := 1 }

/-- An exchange that takes 2.002 ms, of which 2 ms are slept. -/
def sampleExchange : Exchange where
  syncReceived := 0
  requested := 1000
  lastId := none
  reads := sampleReads
  responded := 2001000
  taken := 2002000
  sync_le := Nat.zero_le _
  slept := by decide +kernel
  responded_le := by decide

theorem deadline_late_sample :
    ∃ e slave deadline, Run System.Step sampleSystem ([] ++ .sample e :: ([.changed] ++
        [.taken sampleExchange.taken])) (sampleWaiting slave sampleExchange.taken) ∧
      (sampleWaiting slave sampleExchange.taken).task = .waiting (some deadline) ∧
      220000000000 + 2000000 ≤ (Clocks.mk 10000000000).ptpTime deadline := by
  rcases sample_taken sampleExchange.taken with ⟨e, slave, _, status, _, _, run⟩
  have silent : ∀ a ∈ [Activity.changed], a.published = none := List.forall_mem_singleton.mpr rfl
  have exact_time : ((10000000000 : U64).toNat : Int) =
      (Clocks.mk 10000000000).ptpTime sampleExchange.syncReceived := by
    decide +kernel
  have below : (10000000000 : U64) < 220000000000 := by decide +kernel
  have split : Run System.Step sampleSystem ([] ++ .sample e :: ([.changed] ++
      [.taken sampleExchange.taken])) (sampleWaiting slave sampleExchange.taken) := run
  rcases deadline_late sampleSystem_started sampleGmTime_plus2min split silent status exact_time
    below with ⟨deadline, waits, _, late, _⟩
  exact ⟨e, slave, deadline, split, waits, late⟩

/-- The target is 220 s; the deadline that is set lies 2.002 ms after it. -/
theorem sample_deadline :
    ∃ e slave, Run System.Step sampleSystem
        [.sample e, .changed, .taken sampleExchange.taken]
        (sampleWaiting slave sampleExchange.taken) ∧
      e.output.status = some (.synchronized 0 10000000000) ∧
      (Clocks.mk 10000000000).ptpTime sampleExchange.syncReceived = 10000000000 ∧
      (sampleWaiting slave sampleExchange.taken).task = .waiting (some 210002002000) ∧
      ptpTimePlus2min sampleGmTime = .ok 220000000000 ∧
      (Clocks.mk 10000000000).ptpTime 210002002000 = 220002002000 := by
  rcases sample_taken sampleExchange.taken with ⟨e, slave, _, status, _, _, run⟩
  exact ⟨e, slave, run, status, rfl, rfl, sampleGmTime_plus2min, rfl⟩

end P4Tas.Ptp
