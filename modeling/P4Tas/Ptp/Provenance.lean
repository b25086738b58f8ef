import P4Tas.Lib.History
import P4Tas.Ptp.Monitor

/-!
# Where the times of a sample come from

Each time the monitor holds was written while some event of its run was handled.  `Books` relates
the state to the events so far: which capture wrote `t3`, which Follow_Up wrote `t1`, which Sync
wrote `t2`.

* `round_books`, `run_books`: every step keeps the books;
* `run_seq`: the sequence ids of Delay_Reqs count up;
* `sample_sources`: the events whose times are in a sample.
-/

namespace P4Tas.Ptp

open History (held update)
open Transition (Run)

/-! ## What an event writes -/

namespace Event

variable (e : Event)

/-- The Delay_Resp that completes a sample, and the sample. -/
def sample : Option (PtpHeader × PtpServoSample) :=
  match e.handled with
  | .delayResp h (some s) => some (h, s)
  | _ => none

/-- The sequence id of a Delay_Req and the egress time captured for it. -/
def captured : Option (U16 × PtpTime) :=
  e.delayReq.bind fun d => d.t3.map fun t3 => (d.seq, t3)

/-- A Follow_Up that matches. -/
def matched : Option PtpHeader :=
  match e.handled with
  | .followUp h true => some h
  | _ => none

/-- A Sync that carries an ingress timestamp. -/
def stamped : Option (PtpHeader × PtpTime) :=
  match e.handled with
  | .sync h (some t2) => some (h, t2)
  | _ => none

/-- A sample is handed to the servo. -/
def emits : Bool := e.sample.isSome

variable {e : Event} {h : PtpHeader}

theorem sample_eq_some {s : PtpServoSample} :
    e.sample = some (h, s) ↔ e.handled = .delayResp h (some s) := by
  unfold sample
  split
  · rename_i handled
    simp [handled]
  · rename_i other
    simp only [reduceCtorEq, false_iff]
    exact other h s

theorem emits_of_sample {s : PtpServoSample} (sample : e.handled = .delayResp h (some s)) :
    e.emits = true := by
  simp [emits, sample_eq_some.mpr sample]

theorem captured_eq_some {c : U16 × PtpTime} :
    e.captured = some c ↔ ∃ d, e.delayReq = some d ∧ d.t3 = some c.2 ∧ d.seq = c.1 := by
  unfold captured
  refine ⟨?_, ?_⟩
  · intro captured
    rcases Option.bind_eq_some_iff.mp captured with ⟨d, sent, captured⟩
    rcases Option.map_eq_some_iff.mp captured with ⟨t3, time, rfl⟩
    exact ⟨d, sent, time, rfl⟩
  · rintro ⟨d, sent, time, seq⟩
    simp [sent, time, seq]

theorem matched_eq_some : e.matched = some h ↔ e.handled = .followUp h true := by
  unfold matched
  split
  · rename_i handled
    simp [handled]
  · rename_i other
    simp only [reduceCtorEq, false_iff]
    exact other h

theorem stamped_eq_some {t2 : PtpTime} :
    e.stamped = some (h, t2) ↔ e.handled = .sync h (some t2) := by
  unfold stamped
  split
  · rename_i handled
    simp [handled]
  · rename_i other
    simp only [reduceCtorEq, false_iff]
    exact other h t2

end Event

/-- The last capture that no sample has used. -/
abbrev lastCapture (es : List Event) : Option (U16 × PtpTime) := held Event.captured Event.emits es

/-- The last Follow_Up that matched and that no sample has used. -/
abbrev lastMatched (es : List Event) : Option PtpHeader := held Event.matched Event.emits es

/-- The last Sync that carried an ingress timestamp. -/
abbrev lastStamped (es : List Event) : Option (PtpHeader × PtpTime) :=
  held Event.stamped (fun _ => false) es

/-- How many Delay_Reqs were transmitted. -/
def delayReqs (es : List Event) : Nat := es.countP fun e => e.delayReq.isSome

/-- What the variables of the monitor hold after the events. -/
structure Books (es : List Event) (m : Monitor) : Prop where
  t3 : m.lastSync.t3 = (lastCapture es).map Prod.snd
  delayReqSeq : m.lastSync.delayReqSeq = (lastCapture es).map Prod.fst
  t1 : m.lastSync.t1 = (lastMatched es).map PtpHeader.originTimestamp
  cfFollowupNs : m.lastSync.cfFollowupNs = ((lastMatched es).map PtpHeader.correctionNs).getD 0
  t2 : ∀ t2, m.lastSync.t2 = some t2 → ∃ h, lastStamped es = some (h, t2)
  /-- The time kept for the Follow_Up is of the last Sync. -/
  waiting : ∀ t2, m.state.t2 = some t2 → ∃ h, lastStamped es = some (h, t2)
  nextSeq : m.delayReqSeq = BitVec.ofNat 16 (delayReqs es + 1)

theorem books_new (swTsNs : U16) : Books [] (Monitor.new swTsNs) where
  t3 := rfl
  delayReqSeq := rfl
  t1 := rfl
  cfFollowupNs := rfl
  t2 := nofun
  waiting := nofun
  nextSeq := rfl

/-! ## Every step keeps the books -/

variable {es : List Event} {m m' : Monitor} {own : Bytes 8} {input : Input} {h : PtpHeader}

theorem lastCapture_append (e : Event) :
    lastCapture (es ++ [e]) = if e.emits then none else e.captured.or (lastCapture es) :=
  History.held_append_singleton

theorem lastMatched_append (e : Event) :
    lastMatched (es ++ [e]) = if e.emits then none else e.matched.or (lastMatched es) :=
  History.held_append_singleton

theorem lastStamped_append (e : Event) :
    lastStamped (es ++ [e]) = e.stamped.or (lastStamped es) :=
  History.held_append_singleton

theorem delayReqs_append (e : Event) :
    delayReqs (es ++ [e]) = delayReqs es + if e.delayReq.isSome then 1 else 0 := by
  simp [delayReqs, List.countP_cons]

/-- An event without a capture, a matching Follow_Up, a timestamped Sync or a sample. -/
structure Event.Quiet (e : Event) : Prop where
  captured : e.captured = none
  matched : e.matched = none
  stamped : e.stamped = none
  emits : e.emits = false
  delayReq : e.delayReq = none

theorem Books.quiet {e : Event} (books : Books es m) (quiet : e.Quiet) : Books (es ++ [e]) m where
  t3 := by simpa [lastCapture_append, quiet.captured, quiet.emits] using books.t3
  delayReqSeq := by simpa [lastCapture_append, quiet.captured, quiet.emits] using books.delayReqSeq
  t1 := by simpa [lastMatched_append, quiet.matched, quiet.emits] using books.t1
  cfFollowupNs := by simpa [lastMatched_append, quiet.matched, quiet.emits] using books.cfFollowupNs
  t2 := by simpa [lastStamped_append, quiet.stamped] using books.t2
  waiting := by simpa [lastStamped_append, quiet.stamped] using books.waiting
  nextSeq := by simpa [delayReqs_append, quiet.delayReq] using books.nextSeq

/-- A Sync brings its timestamp, if it has one. -/
theorem Books.sync {ptpFrame : List U8} {t2 : Option PtpTime} {now : Nat} (books : Books es m)
    (state : m'.state = (handleSync m.lastSync h ptpFrame t2 now).1)
    (lastSync : m'.lastSync = (handleSync m.lastSync h ptpFrame t2 now).2)
    (delayReqSeq : m'.delayReqSeq = m.delayReqSeq) :
    Books (es ++ [⟨input, .sync h t2, none⟩]) m' := by
  have capture : lastCapture (es ++ [⟨input, .sync h t2, none⟩]) = lastCapture es := by
    simp [lastCapture_append, Event.emits, Event.sample, Event.captured]
  have matched : lastMatched (es ++ [⟨input, .sync h t2, none⟩]) = lastMatched es := by
    simp [lastMatched_append, Event.emits, Event.sample, Event.matched]
  have state_t2 : m'.state.t2 = t2 ∨ m'.state.t2 = none := by
    rw [state]
    unfold handleSync
    dsimp only
    split
    · exact .inl rfl
    · exact .inr rfl
  have stamped : ∀ time, t2 = some time →
      lastStamped (es ++ [⟨input, .sync h t2, none⟩]) = some (h, time) := by
    rintro time rfl
    simp [lastStamped_append, Event.stamped]
  exact {
    t3 := by
      rw [lastSync, capture]
      exact books.t3
    delayReqSeq := by
      rw [lastSync, capture]
      exact books.delayReqSeq
    t1 := by
      rw [lastSync, matched]
      exact books.t1
    cfFollowupNs := by
      rw [lastSync, matched]
      exact books.cfFollowupNs
    t2 := by
      rw [lastSync]
      intro time written
      cases t2 with
      | some _ => exact ⟨h, stamped time written⟩
      | none =>
        rw [lastStamped_append]
        exact books.t2 time written
    waiting := by
      intro time kept
      rcases state_t2 with same | none
      · exact ⟨h, stamped time (same.symm.trans kept)⟩
      · rw [none] at kept
        cases kept
    nextSeq := by
      rw [delayReqSeq, delayReqs_append]
      exact books.nextSeq }

/-- A matching Follow_Up brings the origin time and, at last, the timestamp of its Sync. -/
theorem Books.matched (books : Books es m) :
    Books (es ++ [⟨input, .followUp h true, none⟩]) (m.matched h) := by
  have capture : lastCapture (es ++ [⟨input, .followUp h true, none⟩]) = lastCapture es := by
    simp [lastCapture_append, Event.emits, Event.sample, Event.captured]
  have matched : lastMatched (es ++ [⟨input, .followUp h true, none⟩]) = some h := by
    simp [lastMatched_append, Event.emits, Event.sample, Event.matched]
  exact {
    t3 := by
      rw [capture]
      exact books.t3
    delayReqSeq := by
      rw [capture]
      exact books.delayReqSeq
    t1 := by
      rw [matched]
      rfl
    cfFollowupNs := by
      rw [matched]
      rfl
    t2 := by
      intro time written
      rw [lastStamped_append]
      rcases Option.or_eq_some_iff.mp written with kept | ⟨_, old⟩
      · exact books.waiting time kept
      · exact books.t2 time old
    waiting := nofun
    nextSeq := by
      rw [delayReqs_append]
      exact books.nextSeq }

/-- A Delay_Req takes the next sequence id, and its egress time may be captured. -/
theorem Books.requested {m : Monitor} (books : Books (es ++ [⟨input, .followUp h true, none⟩]) m)
    (reads : Nat → Option DelayReqTimestamp) :
    Books (es ++ [⟨input, .followUp h true, some (captureEgressTs m reads).2⟩])
      (captureEgressTs m reads).1 := by
  rcases captureEgressTs_cases m reads with ⟨seq, state, nextSeq, outcome⟩
  generalize (captureEgressTs m reads).1 = after, (captureEgressTs m reads).2 = d at *
  have matched : lastMatched (es ++ [⟨input, .followUp h true, some d⟩]) =
      lastMatched (es ++ [⟨input, .followUp h true, none⟩]) := by
    simp [lastMatched_append, Event.emits, Event.sample, Event.matched]
  have stamped : lastStamped (es ++ [⟨input, .followUp h true, some d⟩]) =
      lastStamped (es ++ [⟨input, .followUp h true, none⟩]) := by
    simp [lastStamped_append, Event.stamped]
  have counted : after.delayReqSeq =
      BitVec.ofNat 16 (delayReqs (es ++ [⟨input, .followUp h true, some d⟩]) + 1) := by
    rw [nextSeq, books.nextSeq, delayReqs_append, delayReqs_append]
    simp [BitVec.ofNat_add]
  -- whether or not the capture succeeds, the variables of the Sync stay as they are
  have t1 := books.t1
  have cfFollowupNs := books.cfFollowupNs
  have t2 := books.t2
  have waiting := books.waiting
  rw [← matched] at t1 cfFollowupNs
  rw [← stamped] at t2 waiting
  rw [← state] at waiting
  rcases outcome with ⟨t3, id, captured, lastSync⟩ | ⟨missed, lastSync⟩
  · have capture : lastCapture (es ++ [⟨input, .followUp h true, some d⟩]) =
        some (m.delayReqSeq, t3) := by
      simp [lastCapture_append, Event.emits, Event.sample, Event.captured, seq, captured]
    exact {
      t3 := by
        rw [lastSync, capture]
        rfl
      delayReqSeq := by
        rw [lastSync, capture]
        rfl
      t1 := lastSync ▸ t1
      cfFollowupNs := lastSync ▸ cfFollowupNs
      t2 := lastSync ▸ t2
      waiting
      nextSeq := counted }
  · have capture : lastCapture (es ++ [⟨input, .followUp h true, some d⟩]) =
        lastCapture (es ++ [⟨input, .followUp h true, none⟩]) := by
      simp [lastCapture_append, Event.emits, Event.sample, Event.captured, missed]
    exact {
      t3 := by
        rw [lastSync, capture]
        exact books.t3
      delayReqSeq := by
        rw [lastSync, capture]
        exact books.delayReqSeq
      t1 := lastSync ▸ t1
      cfFollowupNs := lastSync ▸ cfFollowupNs
      t2 := lastSync ▸ t2
      waiting
      nextSeq := counted }

/-- A sample uses the capture and the Follow_Up. -/
theorem Books.taken {s : PtpServoSample} (books : Books es m) :
    Books (es ++ [⟨input, .delayResp h (some s), none⟩])
      { m with lastSync := m.lastSync.clear } := by
  have capture : lastCapture (es ++ [⟨input, .delayResp h (some s), none⟩]) = none := by
    simp [lastCapture_append, Event.emits, Event.sample]
  have matched : lastMatched (es ++ [⟨input, .delayResp h (some s), none⟩]) = none := by
    simp [lastMatched_append, Event.emits, Event.sample]
  exact {
    t3 := capture ▸ rfl
    delayReqSeq := capture ▸ rfl
    t1 := matched ▸ rfl
    cfFollowupNs := matched ▸ rfl
    t2 := nofun
    waiting := by
      rw [lastStamped_append]
      exact books.waiting
    nextSeq := by
      rw [delayReqs_append]
      exact books.nextSeq }

theorem round_books {handled : Handled} {delayReq : Option DelayReq} (input : Input)
    (round : Round own m handled delayReq m') (books : Books es m) :
    Books (es ++ [⟨input, handled, delayReq⟩]) m' := by
  cases round with
  | ignored state lastSync delayReqSeq =>
    have kept : Books (es ++ [⟨input, .ignored, none⟩]) m := books.quiet ⟨rfl, rfl, rfl, rfl, rfl⟩
    have waiting : ∀ t2, m'.state.t2 = some t2 → m.state.t2 = some t2 := by
      rcases state with same | idle
      · rw [same]
        exact fun _ held => held
      · rw [idle]
        exact nofun
    exact {
      t3 := lastSync ▸ kept.t3
      delayReqSeq := lastSync ▸ kept.delayReqSeq
      t1 := lastSync ▸ kept.t1
      cfFollowupNs := lastSync ▸ kept.cfFollowupNs
      t2 := lastSync ▸ kept.t2
      waiting := fun t2 held => kept.waiting t2 (waiting t2 held)
      nextSeq := delayReqSeq ▸ kept.nextSeq }
  | sync _ _ state lastSync delayReqSeq => exact books.sync state lastSync delayReqSeq
  | unmatched _ => exact books.quiet ⟨rfl, rfl, rfl, rfl, rfl⟩
  | matched _ => exact books.matched
  | requested _ => exact books.matched.requested _
  | @delayResp h =>
    rcases handleDelayResp_cases m.lastSync h own with
      rejected | stored | ⟨t1, t2, t3, _, _, _, _, _, taken⟩
    · rw [rejected]
      exact books.quiet ⟨rfl, rfl, rfl, rfl, rfl⟩
    · rw [stored]
      have kept : Books (es ++ [⟨input, .delayResp h none, none⟩]) m :=
        books.quiet ⟨rfl, rfl, rfl, rfl, rfl⟩
      exact { kept with }
    · rw [taken]
      exact books.taken

theorem run_books {config : Config} {swTsNs : U16} {es : List Event}
    (run : Run (step config) (Monitor.new swTsNs) es m) : Books es m :=
  run.history (books_new swTsNs) fun _ _ e _ books taken =>
    round_books e.input (step_round taken) books

/-! ## Samples -/

/-- What a sample is made of: the times of the last capture, of the last Follow_Up that matched, of
the last Sync with a timestamp, and of the Delay_Resp. -/
structure Sources (before : List Event) (h : PtpHeader) (s : PtpServoSample) : Prop where
  capture : lastCapture before = some (h.sequenceId, s.t3)
  followUp : ∃ hf, lastMatched before = some hf ∧ s.t1 = hf.originTimestamp ∧
    s.cfFollowupNs = hf.correctionNs
  sync : ∃ hs, lastStamped before = some (hs, s.t2)
  t4 : s.t4 = h.originTimestamp
  cfDelayrespNs : s.cfDelayrespNs = h.correctionNs

theorem round_sources {s : PtpServoSample} {delayReq : Option DelayReq} (books : Books es m)
    (round : Round own m (.delayResp h (some s)) delayReq m') : Sources es h s := by
  generalize taken : Handled.delayResp h (some s) = handled at round
  cases round with
  | ignored => cases taken
  | sync => cases taken
  | unmatched => cases taken
  | matched => cases taken
  | requested => cases taken
  | @delayResp h' =>
    injection taken with header sample
    subst header
    rcases handleDelayResp_cases m.lastSync h own with
      rejected | stored | ⟨t1, t2, t3, _, seq, first, second, third, completed⟩
    · rw [rejected] at sample
      cases sample
    · rw [stored] at sample
      cases sample
    · rw [completed] at sample
      cases sample
      rw [books.delayReqSeq] at seq
      rw [books.t3] at third
      rw [books.t1] at first
      rcases Option.map_eq_some_iff.mp third with ⟨⟨seq', t3'⟩, capture, rfl⟩
      rcases Option.map_eq_some_iff.mp first with ⟨hf, followUp, rfl⟩
      rw [capture] at seq
      cases seq
      exact {
        capture
        followUp := ⟨hf, followUp, rfl, by
          rw [books.cfFollowupNs, followUp]
          rfl⟩
        sync := books.t2 t2 second
        t4 := rfl
        cfDelayrespNs := rfl }

variable {config : Config} {swTsNs : U16} {before after : List Event} {e : Event}

/-- A run up to one of its events. -/
theorem run_split (run : Run (step config) (Monitor.new swTsNs) (before ++ e :: after) m) :
    ∃ t t', Run (step config) (Monitor.new swTsNs) before t ∧ step config t e t' := by
  rcases Run.append_iff.mp run with ⟨t, left, right⟩
  rcases Run.cons_iff.mp right with ⟨t', taken, _⟩
  exact ⟨t, t', left, taken⟩

theorem sample_sources {s : PtpServoSample}
    (run : Run (step config) (Monitor.new swTsNs) (before ++ e :: after) m)
    (sample : e.handled = .delayResp h (some s)) : Sources before h s := by
  rcases run_split run with ⟨t, t', left, taken⟩
  have round := step_round taken
  rw [sample] at round
  exact round_sources (run_books left) round

/-- Delay_Reqs are numbered from 1, modulo 2^16. -/
theorem run_seq {d : DelayReq}
    (run : Run (step config) (Monitor.new swTsNs) (before ++ e :: after) m)
    (sent : e.delayReq = some d) : d.seq = BitVec.ofNat 16 (delayReqs before + 1) := by
  rcases run_split run with ⟨t, t', left, taken⟩
  have round := step_round taken
  rw [sent] at round
  generalize e.handled = handled, transmitted : some d = delayReq at round
  cases round with
  | ignored => cases transmitted
  | sync => cases transmitted
  | unmatched => cases transmitted
  | matched => cases transmitted
  | delayResp => cases transmitted
  | @requested h reads _ =>
    cases transmitted
    rw [(captureEgressTs_cases (t.matched h) reads).1]
    exact (run_books left).nextSeq

end P4Tas.Ptp
