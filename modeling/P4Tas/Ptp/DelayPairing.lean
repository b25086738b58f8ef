import P4Tas.Ptp.Bounds
import P4Tas.Ptp.Provenance

/-!
# A sample pairs the times of one Delay_Req

The egress time of a Delay_Req and the Delay_Resp that answers it are paired by the sequence id.  A
sample uses the capture up, so the next one needs another Delay_Req.

* `run_delayPairing`: for every run of the monitor.
-/

namespace P4Tas.Ptp

open Transition (Run)

/-- How the samples of a run relate to its Delay_Reqs. -/
structure DelayPairing (es : List Event) (m : Monitor) : Prop where
  /-- An egress time is present together with the sequence id it was captured for. -/
  together : m.lastSync.t3.isSome ↔ m.lastSync.delayReqSeq.isSome
  /-- A sample takes `t4` from the Delay_Resp that completes it. -/
  received : ∀ before e after h s, es = before ++ e :: after →
    e.handled = .delayResp h (some s) → s.t4 = h.originTimestamp ∧ s.cfDelayrespNs = h.correctionNs
  /-- It takes `t3` from the last Delay_Req whose egress time was captured, and this is the one that
  the Delay_Resp answers. -/
  captured : ∀ before e after h s, es = before ++ e :: after →
    e.handled = .delayResp h (some s) →
    ∃ earlier c later d, before = earlier ++ c :: later ∧ c.delayReq = some d ∧
      d.t3 = some s.t3 ∧ d.seq = h.sequenceId ∧ ∀ c' ∈ later, c'.captured = none
  /-- Between two samples another egress time is captured and another Follow_Up matches. -/
  between : ∀ before e middle e' after h s h' s', es = before ++ e :: (middle ++ e' :: after) →
    e.handled = .delayResp h (some s) → e'.handled = .delayResp h' (some s') →
    (∃ c ∈ middle, ∃ d t3, c.delayReq = some d ∧ d.t3 = some t3) ∧
      ∃ f ∈ middle, ∃ hf, f.handled = .followUp hf true
  /-- No Delay_Resp is counted twice. -/
  once : delayReqs es < 2 ^ 16 → ∀ before e middle e' after h s h' s',
    es = before ++ e :: (middle ++ e' :: after) → e.handled = .delayResp h (some s) →
    e'.handled = .delayResp h' (some s') → h.sequenceId ≠ h'.sequenceId

variable {config : Config} {swTsNs : U16} {es before middle after : List Event} {e e' : Event}
  {m : Monitor} {h h' : PtpHeader} {s s' : PtpServoSample}

theorem delayReqs_lt (before after : List Event) {c : Event} {d : DelayReq}
    (sent : c.delayReq = some d) :
    delayReqs before < delayReqs (before ++ c :: after) := by
  simp only [delayReqs, List.countP_append, List.countP_cons, sent, Option.isSome_some, if_true]
  omega

/-- The Delay_Req of a capture, by its number. -/
theorem capture_numbered (before : List Event) {seq : U16} {t3 : PtpTime}
    (run : Run (step config) (Monitor.new swTsNs) (before ++ (middle ++ after)) m)
    (capture : lastCapture middle = some (seq, t3)) :
    ∃ earlier c later d, middle = earlier ++ c :: later ∧ c.delayReq = some d ∧
      d.t3 = some t3 ∧ d.seq = seq ∧ seq = BitVec.ofNat 16 (delayReqs (before ++ earlier) + 1) ∧
      ∀ c' ∈ later, c'.captured = none := by
  rcases History.held_source capture with ⟨earlier, c, later, rfl, wrote, quiet⟩
  rcases Event.captured_eq_some.mp wrote with ⟨d, sent, time, rfl⟩
  rw [List.append_assoc, List.cons_append, ← List.append_assoc] at run
  exact ⟨earlier, c, later, d, rfl, sent, time, rfl, run_seq run sent,
    fun c' member => (quiet c' member).1⟩

/-- A sample after another one uses what came in between. -/
theorem later_sources
    (run : Run (step config) (Monitor.new swTsNs) (before ++ e :: (middle ++ e' :: after)) m)
    (sample : e.handled = .delayResp h (some s)) (sample' : e'.handled = .delayResp h' (some s')) :
    lastCapture middle = some (h'.sequenceId, s'.t3) ∧ ∃ hf, lastMatched middle = some hf := by
  rw [← List.cons_append, ← List.append_assoc] at run
  have sources := sample_sources run sample'
  have emitted := Event.emits_of_sample sample
  have capture := sources.capture
  rcases sources.followUp with ⟨hf, followUp, _⟩
  rw [lastCapture, History.held_of_clears emitted] at capture
  rw [lastMatched, History.held_of_clears emitted] at followUp
  exact ⟨capture, hf, followUp⟩

theorem sample_between
    (run : Run (step config) (Monitor.new swTsNs) (before ++ e :: (middle ++ e' :: after)) m)
    (sample : e.handled = .delayResp h (some s)) (sample' : e'.handled = .delayResp h' (some s')) :
    (∃ c ∈ middle, ∃ d t3, c.delayReq = some d ∧ d.t3 = some t3) ∧
      ∃ f ∈ middle, ∃ hf, f.handled = .followUp hf true := by
  rcases later_sources run sample sample' with ⟨capture, hf, followUp⟩
  rcases History.held_source capture with ⟨_, c, _, rfl, captured, _⟩
  rcases Event.captured_eq_some.mp captured with ⟨d, sent, time, _⟩
  rcases History.held_source followUp with ⟨_, f, _, split, matched, _⟩
  refine ⟨⟨c, by simp, d, _, sent, time⟩, f, ?_, hf, Event.matched_eq_some.mp matched⟩
  rw [split]
  simp

theorem sample_once
    (run : Run (step config) (Monitor.new swTsNs) (before ++ e :: (middle ++ e' :: after)) m)
    (few : delayReqs (before ++ e :: (middle ++ e' :: after)) < 2 ^ 16)
    (sample : e.handled = .delayResp h (some s)) (sample' : e'.handled = .delayResp h' (some s')) :
    h.sequenceId ≠ h'.sequenceId := by
  have first := (sample_sources run sample).capture
  rcases capture_numbered [] run first with ⟨past, c, later, d, rfl, sent, _, _, seq, _⟩
  rcases later_sources run sample sample' with ⟨second, _⟩
  rw [List.append_cons] at run
  rcases capture_numbered _ run second with ⟨past', c', later', d', rfl, sent', _, _, seq', _⟩
  have count := delayReqs_lt past (later ++ [e] ++ past') sent
  have count' := delayReqs_lt (past ++ c :: later ++ [e] ++ past') (later' ++ e' :: after) sent'
  simp only [List.append_assoc, List.cons_append, List.nil_append] at count count' few seq seq'
  rw [seq, seq']
  intro same
  have numbers := congrArg BitVec.toNat same
  rw [BitVec.toNat_ofNat, BitVec.toNat_ofNat, Nat.mod_eq_of_lt (by omega),
    Nat.mod_eq_of_lt (by omega)] at numbers
  omega

/-- In every run of the monitor, an egress time is kept with the sequence id of its Delay_Req, a
sample pairs it with the Delay_Resp of that id, and the next sample needs a new one. -/
theorem run_delayPairing (run : Run (step config) (Monitor.new swTsNs) es m) :
    DelayPairing es m where
  together := by
    rw [(run_books run).t3, (run_books run).delayReqSeq]
    simp
  received := by
    rintro before e after h s rfl sample
    have sources := sample_sources run sample
    exact ⟨sources.t4, sources.cfDelayrespNs⟩
  captured := by
    rintro before e after h s rfl sample
    have capture := (sample_sources run sample).capture
    rcases capture_numbered [] run capture with
      ⟨earlier, c, later, d, rfl, sent, time, seq, _, quiet⟩
    exact ⟨earlier, c, later, d, rfl, sent, time, seq, quiet⟩
  between := by
    rintro before e middle e' after h s h' s' rfl sample sample'
    exact sample_between run sample sample'
  once := by
    rintro few before e middle e' after h s h' s' rfl sample sample'
    exact sample_once run few sample sample'

/-- Two exchanges; the first Delay_Resp arrives twice. -/
def sampleExchanges : List Input :=
  [sampleSync 7 10, sampleFollowUp 7 1 (20, 1), sampleDelayResp 1 30, sampleDelayResp 1 30,
   sampleSync 8 110, sampleFollowUp 8 101 (120, 2), sampleDelayResp 2 130]

theorem run_delayPairing_sample :
    ∃ es m, loop sampleConfig (Monitor.new 0) sampleExchanges = .ok (es, m) ∧
      (es.filterMap Event.sample).map (·.1.sequenceId) = [1, 2] ∧ DelayPairing es m := by
  have evaluated : (loop sampleConfig (Monitor.new 0) sampleExchanges).toOption.any (fun r =>
      (r.1.filterMap Event.sample).map (·.1.sequenceId) == [1, 2]) = true := by
    decide +kernel
  rcases Fallible.exists_of_any evaluated with ⟨⟨es, m⟩, looped, samples⟩
  exact ⟨es, m, looped, beq_iff_eq.mp samples, run_delayPairing (loop_eq_ok.mp looped).1⟩

end P4Tas.Ptp
