import P4Tas.Ptp.DelayPairing

/-!
# When a sample is of one Sync

The origin time of a sample is of the last Follow_Up that matched, and its ingress time is of the
last Sync that carried a timestamp.  Nothing ties the two together until the Delay_Resp arrives: a
Sync that arrives before it replaces the ingress time.

* `undisturbed_iff`: the two are of one Sync exactly when no timestamp of another Sync came since;
* `samples_ofOneSync`: every sample of a run is of one Sync if this is so whenever one is completed;
* `late_delayResp_mixed`: a Delay_Resp that arrives after the next Sync.
-/

namespace P4Tas.Ptp

open Transition (Run)

/-- The messages have the sequence id and the source port of one Sync. -/
def PtpHeader.SameSync (h h' : PtpHeader) : Prop :=
  h.sequenceId = h'.sequenceId ∧ h.sourcePortIdentity = h'.sourcePortIdentity

instance (h h' : PtpHeader) : Decidable (h.SameSync h') :=
  inferInstanceAs (Decidable (h.sequenceId = h'.sequenceId ∧
    h.sourcePortIdentity = h'.sourcePortIdentity))

/-- `t1` is the origin time of a Follow_Up that matched, and `t2` the ingress time of the Sync with
its ids. -/
def OfOneSync (before : List Event) (s : PtpServoSample) : Prop :=
  ∃ sync ∈ before.filterMap Event.stamped, ∃ hf ∈ before.filterMap Event.matched,
    s.t2 = sync.2 ∧ s.t1 = hf.originTimestamp ∧ sync.1.SameSync hf

instance (before : List Event) (s : PtpServoSample) : Decidable (OfOneSync before s) :=
  inferInstanceAs (Decidable (∃ sync ∈ before.filterMap Event.stamped,
    ∃ hf ∈ before.filterMap Event.matched,
      s.t2 = sync.2 ∧ s.t1 = hf.originTimestamp ∧ sync.1.SameSync hf))

/-- The Sync of the last Follow_Up that matched carried a timestamp, and none with other ids that
carried one has arrived since. -/
def Undisturbed (before : List Event) : Prop :=
  ∀ hf, lastMatched before = some hf → ∃ earlier sync later hs t2,
    before = earlier ++ sync :: later ∧ sync.handled = .sync hs (some t2) ∧ hs.SameSync hf ∧
      ∀ e ∈ later, ∀ hs' t2', e.handled = .sync hs' (some t2') → hs'.SameSync hf

/-- The input is a Delay_Resp that completes a sample. -/
def CompletesSample (config : Config) (m : Monitor) (input : Input) : Prop :=
  ∃ frame now env h ptpFrame, input = .frame frame now env ∧
    acceptFrame config frame = .ok (some (h, ptpFrame)) ∧ h.msgType = PTP_DELAY_RESP ∧
    h.RequestedBy (macToClockIdentity config.ifaceMac) ∧
    m.lastSync.delayReqSeq = some h.sequenceId ∧
    m.lastSync.t1 ≠ none ∧ m.lastSync.t2 ≠ none ∧ m.lastSync.t3 ≠ none

variable {config : Config} {swTsNs : U16} {es before after : List Event} {e : Event}
  {m m' : Monitor} {h hs hf : PtpHeader} {t2 : PtpTime} {s : PtpServoSample}

/-- The last timestamp is of the Sync of the last Follow_Up exactly when nothing came between. -/
theorem undisturbed_iff (stamped : lastStamped before = some (hs, t2))
    (matched : lastMatched before = some hf) : Undisturbed before ↔ hs.SameSync hf := by
  refine ⟨?_, ?_⟩
  · intro undisturbed
    rcases undisturbed hf matched with ⟨earlier, sync, later, h, t, rfl, handled, same, since⟩
    rcases History.held_since (Event.stamped_eq_some.mpr handled) stamped with
      last | ⟨e, member, newer⟩
    · cases last
      exact same
    · exact since e member hs t2 (Event.stamped_eq_some.mp newer)
  · intro same hf' matched'
    cases matched.symm.trans matched'
    rcases History.held_source stamped with ⟨earlier, sync, later, split, wrote, quiet⟩
    refine ⟨earlier, sync, later, hs, t2, split, Event.stamped_eq_some.mp wrote, same, ?_⟩
    intro e member hs' t2' handled
    rw [← Event.stamped_eq_some, (quiet e member).1] at handled
    cases handled

/-! ## The Delay_Resp of a sample -/

theorem handleFrame_delayResp {frame : List U8} {now : Nat} {sample : Option PtpServoSample}
    (run : handleFrame config m frame now = .ok (m', .delayResp h sample)) :
    (∃ ptpFrame, acceptFrame config frame = .ok (some (h, ptpFrame))) ∧
      h.msgType = PTP_DELAY_RESP ∧
      (handleDelayResp m.lastSync h (macToClockIdentity config.ifaceMac)).2 = sample := by
  rcases Fallible.bind_eq_ok.mp run with ⟨accepted, acceptRun, run⟩
  cases accepted with
  | none => cases run
  | some accepted =>
    rcases accepted with ⟨h', ptpFrame⟩
    rcases handleMessage_eq_ok run with ⟨_, _, _, _, handled, _⟩ | ⟨_, _, handled, _⟩ |
      ⟨_, _, handled, _⟩ | ⟨ofType, handled, _⟩ | ⟨handled, _⟩
    · cases handled
    · cases handled
    · cases handled
    · cases handled
      exact ⟨⟨ptpFrame, acceptRun⟩, ofType, rfl⟩
    · cases handled

theorem step_completesSample (taken : step config m e m')
    (sample : e.handled = .delayResp h (some s)) : CompletesSample config m e.input := by
  cases input : e.input with
  | tick now =>
    unfold step at taken
    rw [input, sample] at taken
    cases taken
  | frame frame now env =>
    have framed := step_handleFrame taken input (by simp [sample])
    rcases handleFrame_delayResp (sample ▸ framed) with ⟨⟨ptpFrame, accepted⟩, ofType, completed⟩
    rcases handleDelayResp_cases m.lastSync h (macToClockIdentity config.ifaceMac) with
      rejected | stored | ⟨t1, t2, t3, requested, seq, first, second, third, _⟩
    · rw [rejected] at completed
      cases completed
    · rw [stored] at completed
      cases completed
    · exact ⟨frame, now, env, h, ptpFrame, rfl, accepted, ofType, requested, seq, by simp [first],
        by simp [second], by simp [third]⟩

/-! ## Runs -/

theorem ofOneSync_of_undisturbed
    (run : Run (step config) (Monitor.new swTsNs) (before ++ e :: after) m)
    (sample : e.handled = .delayResp h (some s)) (undisturbed : Undisturbed before) :
    OfOneSync before s := by
  have sources := sample_sources run sample
  rcases sources.sync with ⟨hs, stamped⟩
  rcases sources.followUp with ⟨hf, matched, t1, _⟩
  have same := (undisturbed_iff stamped matched).mp undisturbed
  rcases History.held_source stamped with ⟨_, sync, _, split, wrote, _⟩
  rcases History.held_source matched with ⟨_, followUp, _, split', wrote', _⟩
  have sync_mem : sync ∈ before := by simp [split]
  have followUp_mem : followUp ∈ before := by simp [split']
  exact ⟨(hs, s.t2), List.mem_filterMap.mpr ⟨sync, sync_mem, wrote⟩, hf,
    List.mem_filterMap.mpr ⟨followUp, followUp_mem, wrote'⟩, rfl, t1, same⟩

/-- In every run in which no timestamp of another Sync arrives between a Follow_Up and the
Delay_Resp that completes its sample, each sample is of one Sync. -/
theorem samples_ofOneSync (run : Run (step config) (Monitor.new swTsNs) es m)
    (undisturbed : ∀ before e after t, es = before ++ e :: after →
      Run (step config) (Monitor.new swTsNs) before t → CompletesSample config t e.input →
      Undisturbed before) :
    ∀ before e after h s, es = before ++ e :: after → e.handled = .delayResp h (some s) →
      OfOneSync before s := by
  rintro before e after h s rfl sample
  rcases run_split run with ⟨t, t', left, taken⟩
  exact ofOneSync_of_undisturbed run sample
    (undisturbed before e after t rfl left (step_completesSample taken sample))

/-- Before each event, the last timestamp is of the Sync of the last Follow_Up. -/
def quietExchanges (es : List Event) : Bool :=
  (List.range es.length).all fun i => (lastMatched (es.take i)).all fun hf =>
    (lastStamped (es.take i)).any fun sync => decide (sync.1.SameSync hf)

theorem undisturbed_of_quietExchanges (quiet : quietExchanges (before ++ e :: after) = true) :
    Undisturbed before := by
  intro hf matched
  have here := List.all_eq_true.mp quiet before.length (by simp)
  rw [List.take_left' rfl, matched, Option.all_some] at here
  rcases (Option.any_eq_true _ _).mp here with ⟨⟨hs, t2⟩, stamped, same⟩
  exact (undisturbed_iff stamped matched).mpr (of_decide_eq_true same) hf matched

theorem samples_ofOneSync_sample :
    ∃ es m, loop sampleConfig (Monitor.new 0) sampleExchanges = .ok (es, m) ∧
      (es.filterMap Event.sample).length = 2 ∧
      ∀ before e after h s, es = before ++ e :: after → e.handled = .delayResp h (some s) →
        OfOneSync before s := by
  have evaluated : (loop sampleConfig (Monitor.new 0) sampleExchanges).toOption.any (fun r =>
      (r.1.filterMap Event.sample).length == 2 && quietExchanges r.1) = true := by
    decide +kernel
  rcases Fallible.exists_of_any evaluated with ⟨⟨es, m⟩, looped, found⟩
  rcases Bool.and_eq_true_iff.mp found with ⟨samples, quiet⟩
  refine ⟨es, m, looped, beq_iff_eq.mp samples,
    samples_ofOneSync (loop_eq_ok.mp looped).1 ?_⟩
  rintro before e after t rfl _ _
  exact undisturbed_of_quietExchanges quiet

/-- The Sync 8 arrives between the Follow_Up of Sync 7 and the Delay_Resp. -/
theorem late_delayResp_mixed :
    ∃ es m, loop sampleConfig (Monitor.new 0)
        [sampleSync 7 10, sampleFollowUp 7 1 (20, 1), sampleSync 8 110, sampleDelayResp 1 30] =
          .ok (es, m) ∧
      ∃ before e after h s, es = before ++ e :: after ∧ e.handled = .delayResp h (some s) ∧
        ¬ OfOneSync before s := by
  have evaluated : (loop sampleConfig (Monitor.new 0)
      [sampleSync 7 10, sampleFollowUp 7 1 (20, 1), sampleSync 8 110,
        sampleDelayResp 1 30]).toOption.any (fun r =>
          (r.1.drop 3).head?.any fun e => e.sample.any fun sample =>
            decide (¬ OfOneSync (r.1.take 3) sample.2)) = true := by
    decide +kernel
  rcases Fallible.exists_of_any evaluated with ⟨⟨es, m⟩, looped, found⟩
  rcases (Option.any_eq_true _ _).mp found with ⟨e, first, found⟩
  rcases (Option.any_eq_true _ _).mp found with ⟨⟨h, s⟩, sample, mixed⟩
  rcases List.head?_eq_some_iff.mp first with ⟨after, last⟩
  refine ⟨es, m, looped, es.take 3, e, after, h, s, ?_, Event.sample_eq_some.mp sample,
    of_decide_eq_true mixed⟩
  rw [← last, List.take_append_drop]

end P4Tas.Ptp
