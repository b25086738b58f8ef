import P4Tas.Lib.Transition
import P4Tas.Ptp.DelayReq

/-!
# The PTP monitor

The handlers of `monitor_ptp_l2` and its loop, as a step relation.  An event of a step is what
arrives, with the outcomes of the system calls made while it is handled, and what the handlers made
of it.

`handle_delay_resp` ends with the servo.  The servo shares no variable with the handlers, so here
the sample is handed out; a panic of the servo ends the task, and the runs of `step` include the
ones that end so.

* `loop_eq_ok`, `loop_error_iff`: the loop over a list of inputs, as a run of the step relation;
* `handleFrame_returns`: no handler of a frame panics;
* `Round`, `step_round`: what a step changes, by what became of the frame.
-/

namespace P4Tas.Ptp

/-! ## Frames -/

def parseEthertype (frame : List U8) : Rust (Option U16) :=
  if frame.length < 14 then
    .ok none
  else do
    let ethertype ← indexBe frame 12 2
    return some (BitVec.ofNat 16 ethertype)

/-- The part of `handle_frame` that decides whether a message is handled: its header, and the frame
up to the end of the message. -/
def acceptMessage (config : Config) (frame ptp : List U8) :
    Rust (Option (PtpHeader × List U8)) := do
  let header ← PtpHeader.parse ptp
  match header with
  | none => return none
  | some h =>
    if h.version ≠ 2 ∨ (∃ dom ∈ config.domainFilter, h.domain ≠ dom) ∨
        frame.length < ETH_HEADER_LEN + h.messageLength.toNat then
      return none
    else do
      let ptpFrame ← slice frame 0 (ETH_HEADER_LEN + h.messageLength.toNat)
      return some (h, ptpFrame)

def acceptFrame (config : Config) (frame : List U8) : Rust (Option (PtpHeader × List U8)) :=
  if frame.length < ETH_HEADER_LEN + 34 then
    .ok none
  else do
    let ethertype ← parseEthertype frame
    if ethertype = some ETH_P_1588 then do
      let ptp ← slice frame ETH_HEADER_LEN frame.length
      acceptMessage config frame ptp
    else
      return none

def extractIngressTimestamp (frame : List U8) (h : PtpHeader) : Rust (Option U64) :=
  let ptpEnd := ETH_HEADER_LEN + h.messageLength.toNat
  if frame.length < ptpEnd + APPENDED_TS_LEN then
    .ok none
  else do
    let bytes ← slice frame ptpEnd (ptpEnd + APPENDED_TS_LEN)
    let bytes ← copyFromSlice APPENDED_TS_LEN bytes
    return some (BitVec.ofNat 64 (fromBeBytes bytes.toList))

def reconstructT2 (tracker : TimestampTracker) (frame : List U8) (h : PtpHeader) :
    Rust (TimestampTracker × Option PtpTime) := do
  let hwTs ← extractIngressTimestamp frame h
  match hwTs with
  | none => return (tracker, none)
  | some hwTs =>
    let (tracker, fullTs) := tracker.combine hwTs
    return (tracker, some (.fromNs fullTs))

/-! ## Handlers -/

/-- A Sync is stored as the template of Delay_Reqs; a two-step one waits for its Follow_Up, for
300 ms. -/
def handleSync (times : SyncTimes) (h : PtpHeader) (frameWithoutTs : List U8)
    (t2 : Option PtpTime) (now : Nat) : SyncState × SyncTimes :=
  (if h.twoStep then
      .waitingFollowUp h.sequenceId h.sourcePortIdentity (now + 300000000) t2
    else
      .idle,
    { times with
      t2 := t2.or times.t2
      lastFrame := some frameWithoutTs
      lastHeader := some h })

/-- The Follow_Up is the one the state waits for. -/
def SyncState.Awaits (state : SyncState) (h : PtpHeader) : Prop :=
  match state with
  | .waitingFollowUp seq src _ _ => h.sequenceId = seq ∧ h.sourcePortIdentity = src
  | .idle => False

instance (state : SyncState) (h : PtpHeader) : Decidable (state.Awaits h) :=
  match state with
  | .waitingFollowUp seq src _ _ =>
    inferInstanceAs (Decidable (h.sequenceId = seq ∧ h.sourcePortIdentity = src))
  | .idle => inferInstanceAs (Decidable False)

/-- The ingress time of the Sync whose Follow_Up the state waits for. -/
def SyncState.t2 : SyncState → Option PtpTime
  | .waitingFollowUp _ _ _ t2 => t2
  | .idle => none

/-- Takes the origin time of the awaited Follow_Up; the result tells whether it was that one. -/
def handleFollowUp (state : SyncState) (times : SyncTimes) (h : PtpHeader) :
    SyncState × SyncTimes × Bool :=
  if state.Awaits h then
    (.idle,
      { times with
        t1 := some h.originTimestamp
        cfFollowupNs := h.correctionNs
        t2 := state.t2.or times.t2 },
      true)
  else
    (state, times, false)

/-- The requesting port of a Delay_Resp is our clock, or the frame is too short to tell. -/
def PtpHeader.RequestedBy (h : PtpHeader) (ownClockIdentity : Bytes 8) : Prop :=
  ∀ rpi ∈ h.requestingPortIdentity, rpi.toList.take 8 = ownClockIdentity.toList

instance (h : PtpHeader) (own : Bytes 8) : Decidable (h.RequestedBy own) :=
  match requested : h.requestingPortIdentity with
  | some rpi => decidable_of_iff (rpi.toList.take 8 = own.toList) (by
      unfold PtpHeader.RequestedBy
      simp [requested])
  | none => .isTrue (by
      unfold PtpHeader.RequestedBy
      simp [requested])

/-- `handle_delay_resp` up to the servo, with the sample the servo is given. -/
def handleDelayResp (times : SyncTimes) (h : PtpHeader) (ownClockIdentity : Bytes 8) :
    SyncTimes × Option PtpServoSample :=
  if h.RequestedBy ownClockIdentity ∧ times.delayReqSeq = some h.sequenceId then
    { times with t4 := some h.originTimestamp, cfDelayrespNs := h.correctionNs }.takeCompleteSample
  else
    (times, none)

/-- What became of a frame. -/
inductive Handled
  | ignored
  | sync (h : PtpHeader) (t2 : Option PtpTime)
  | followUp (h : PtpHeader) (matched : Bool)
  | delayResp (h : PtpHeader) (sample : Option PtpServoSample)
  deriving DecidableEq

/-- The dispatch on the message type. -/
def handleMessage (config : Config) (m : Monitor) (frame : List U8) (h : PtpHeader)
    (ptpFrame : List U8) (now : Nat) : Rust (Monitor × Handled) :=
  if h.msgType = PTP_SYNC then do
    let (tsTracker, t2) ← reconstructT2 m.tsTracker frame h
    let (state, lastSync) := handleSync m.lastSync h ptpFrame t2 now
    return ({ m with state, lastSync, tsTracker }, .sync h t2)
  else if h.msgType = PTP_FOLLOW_UP then
    let (state, lastSync, matched) := handleFollowUp m.state m.lastSync h
    .ok ({ m with state, lastSync }, .followUp h matched)
  else if h.msgType = PTP_DELAY_RESP then
    let (lastSync, sample) :=
      handleDelayResp m.lastSync h (macToClockIdentity config.ifaceMac)
    .ok ({ m with lastSync }, .delayResp h sample)
  else
    .ok (m, .ignored)

def handleFrame (config : Config) (m : Monitor) (frame : List U8) (now : Nat) :
    Rust (Monitor × Handled) := do
  let accepted ← acceptFrame config frame
  match accepted with
  | none => return (m, .ignored)
  | some (h, ptpFrame) => handleMessage config m frame h ptpFrame now

/-! ## The loop -/

/-- What wakes the monitor: its ticker, or a frame. -/
inductive Input
  | tick (now : Nat)
  | frame (bytes : List U8) (now : Nat) (env : SendEnv)

/-- Waiting for a Follow_Up ends at the deadline. -/
def Monitor.tick (m : Monitor) (now : Nat) : Monitor :=
  match m.state with
  | .waitingFollowUp _ _ deadline _ => if now > deadline then { m with state := .idle } else m
  | .idle => m

/-- One round of the loop: what became of the frame, and the Delay_Req that followed it. -/
def receive (config : Config) (m : Monitor) :
    Input → Rust (Monitor × Handled × Option DelayReq)
  | .tick now => .ok (m.tick now, .ignored, none)
  | .frame bytes now env => do
    let (m, handled) ← handleFrame config m bytes now
    match handled with
    | .followUp _ true => do
      let (m, delayReq) ← sendDelayRequest config m env
      return (m, handled, delayReq)
    | _ => return (m, handled, none)

structure Event where
  input : Input
  handled : Handled
  delayReq : Option DelayReq

def step (config : Config) (m : Monitor) (e : Event) (m' : Monitor) : Prop :=
  receive config m e.input = .ok (m', e.handled, e.delayReq)

/-- The loop, over the inputs of its rounds. -/
def loop (config : Config) (m : Monitor) : List Input → Rust (List Event × Monitor)
  | [] => .ok ([], m)
  | input :: inputs => do
    let (m', handled, delayReq) ← receive config m input
    let (es, last) ← loop config m' inputs
    return ({ input, handled, delayReq } :: es, last)

open Transition (Run)

theorem loop_eq_ok {config : Config} {m last : Monitor} {inputs : List Input} {es : List Event} :
    loop config m inputs = .ok (es, last) ↔
      Run (step config) m es last ∧ es.map Event.input = inputs := by
  induction inputs generalizing m es with
  | nil =>
    refine ⟨?_, ?_⟩
    · intro run
      cases run
      exact ⟨.nil _, rfl⟩
    · rintro ⟨run, none⟩
      cases List.map_eq_nil_iff.mp none
      rw [← Run.nil_iff.mp run]
      rfl
  | cons input inputs ih =>
    refine ⟨?_, ?_⟩
    · intro run
      rcases Fallible.bind_eq_ok.mp run with ⟨⟨m', handled, delayReq⟩, received, run⟩
      rcases Fallible.bind_eq_ok.mp run with ⟨⟨rest, last'⟩, looped, run⟩
      cases run
      rcases ih.mp looped with ⟨later, rfl⟩
      exact ⟨.cons received later, rfl⟩
    · rintro ⟨run, inputs_eq⟩
      cases es with
      | nil => cases inputs_eq
      | cons e es =>
        rcases Run.cons_iff.mp run with ⟨m', received, later⟩
        rcases List.cons_eq_cons.mp inputs_eq with ⟨rfl, rest_eq⟩
        have looped := ih.mpr ⟨later, rest_eq⟩
        unfold loop
        rw [received, Fallible.ok_bind]
        dsimp only
        rw [looped]
        rfl

/-- The loop panics when a round does, after rounds that return. -/
theorem loop_error_iff {config : Config} {m : Monitor} {inputs : List Input} {p : Panic} :
    loop config m inputs = .error p ↔
      ∃ before input after es m', inputs = before ++ input :: after ∧
        loop config m before = .ok (es, m') ∧ receive config m' input = .error p := by
  induction inputs generalizing m with
  | nil =>
    refine ⟨?_, ?_⟩
    · intro run
      cases run
    · rintro ⟨before, input, after, _, _, none, _⟩
      simp at none
  | cons input inputs ih =>
    refine ⟨?_, ?_⟩
    · intro run
      rcases Fallible.bind_eq_error.mp run with here | ⟨⟨m', handled, delayReq⟩, received, run⟩
      · exact ⟨[], input, inputs, [], m, rfl, rfl, here⟩
      · rcases Fallible.bind_eq_error.mp run with later | ⟨_, _, run⟩
        · rcases ih.mp later with ⟨before, input', after, es, last, rfl, looped, failed⟩
          refine ⟨input :: before, input', after, ⟨input, handled, delayReq⟩ :: es, last, rfl, ?_,
            failed⟩
          unfold loop
          rw [received, Fallible.ok_bind]
          dsimp only
          rw [looped]
          rfl
        · cases run
    · rintro ⟨before, input', after, es, last, inputs_eq, looped, failed⟩
      unfold loop
      cases before with
      | nil =>
        cases inputs_eq
        cases looped
        rw [failed]
        rfl
      | cons first before =>
        cases inputs_eq
        rcases Fallible.bind_eq_ok.mp looped with ⟨⟨m', handled, delayReq⟩, received, looped⟩
        rcases Fallible.bind_eq_ok.mp looped with ⟨⟨rest, last'⟩, later, looped⟩
        cases looped
        rw [received, Fallible.ok_bind]
        dsimp only
        rw [ih.mpr ⟨before, input', after, rest, last, rfl, later, failed⟩]
        rfl

/-! ## No handler panics -/

theorem parseEthertype_returns (frame : List U8) : ∃ ethertype, parseEthertype frame = .ok ethertype
    := by
  unfold parseEthertype
  split
  · exact ⟨none, rfl⟩
  · rw [indexBe_eq (by omega : 12 + 2 ≤ frame.length)]
    exact ⟨_, rfl⟩

/-- An accepted message ends within the frame. -/
theorem acceptMessage_returns (config : Config) (frame ptp : List U8) :
    ∃ accepted, acceptMessage config frame ptp = .ok accepted ∧
      ∀ h ptpFrame, accepted = some (h, ptpFrame) →
        ptpFrame.length = ETH_HEADER_LEN + h.messageLength.toNat := by
  rcases PtpHeader.parse_returns ptp with ⟨header, parsed⟩
  unfold acceptMessage
  rw [parsed, Fallible.ok_bind]
  cases header with
  | none => exact ⟨none, rfl, nofun⟩
  | some h =>
    dsimp only
    split
    · exact ⟨none, rfl, nofun⟩
    · rename_i accepted
      have fits : ETH_HEADER_LEN + h.messageLength.toNat ≤ frame.length :=
        Nat.le_of_not_lt fun short => accepted (.inr (.inr short))
      rw [slice_eq (Nat.zero_le _) fits, Fallible.ok_bind]
      refine ⟨_, rfl, fun h' ptpFrame same => ?_⟩
      cases same
      simp [fits]

theorem acceptFrame_returns (config : Config) (frame : List U8) :
    ∃ accepted, acceptFrame config frame = .ok accepted ∧
      ∀ h ptpFrame, accepted = some (h, ptpFrame) →
        ptpFrame.length = ETH_HEADER_LEN + h.messageLength.toNat := by
  unfold acceptFrame
  split
  · exact ⟨none, rfl, nofun⟩
  · rename_i long
    rcases parseEthertype_returns frame with ⟨ethertype, parsed⟩
    rw [parsed, Fallible.ok_bind]
    split
    · rw [slice_eq (by omega) (Nat.le_refl _), Fallible.ok_bind]
      exact acceptMessage_returns config frame _
    · exact ⟨none, rfl, nofun⟩

/-- The header of an accepted message is parsed from the frame, and the message ends in it. -/
theorem acceptFrame_eq_some {config : Config} {frame ptpFrame : List U8} {h : PtpHeader}
    (run : acceptFrame config frame = .ok (some (h, ptpFrame))) :
    PtpHeader.parse (frame.drop ETH_HEADER_LEN) = .ok (some h) ∧
      ETH_HEADER_LEN + h.messageLength.toNat ≤ frame.length ∧
      ptpFrame = frame.take (ETH_HEADER_LEN + h.messageLength.toNat) := by
  unfold acceptFrame at run
  split at run
  · cases run
  · rename_i long
    rcases Fallible.bind_eq_ok.mp run with ⟨ethertype, _, run⟩
    split at run
    · rw [slice_eq (by omega) (Nat.le_refl _), Fallible.ok_bind, List.take_length] at run
      rcases Fallible.bind_eq_ok.mp run with ⟨header, parsed, run⟩
      cases header with
      | none => cases run
      | some h' =>
        dsimp only at run
        split at run
        · cases run
        · rename_i accepted
          have fits : ETH_HEADER_LEN + h'.messageLength.toNat ≤ frame.length :=
            Nat.le_of_not_lt fun short => accepted (.inr (.inr short))
          rw [slice_eq (Nat.zero_le _) fits, Fallible.ok_bind] at run
          cases run
          exact ⟨parsed, fits, rfl⟩
    · cases run

/-- The timestamp is read behind the message. -/
theorem extractIngressTimestamp_eq (frame : List U8) (h : PtpHeader) :
    extractIngressTimestamp frame h =
      let rest := frame.drop (ETH_HEADER_LEN + h.messageLength.toNat)
      if rest.length < APPENDED_TS_LEN then .ok none
      else .ok (some (BitVec.ofNat 64 (fromBeBytes (rest.take APPENDED_TS_LEN)))) := by
  have size : APPENDED_TS_LEN = 8 := rfl
  unfold extractIngressTimestamp
  dsimp only
  rw [List.length_drop]
  split
  · rw [if_pos (by omega)]
  · rename_i long
    have fits : ((frame.take (ETH_HEADER_LEN + h.messageLength.toNat + APPENDED_TS_LEN)).drop
        (ETH_HEADER_LEN + h.messageLength.toNat)).length = APPENDED_TS_LEN := by
      simp
      omega
    have window : (frame.take (ETH_HEADER_LEN + h.messageLength.toNat + APPENDED_TS_LEN)).drop
        (ETH_HEADER_LEN + h.messageLength.toNat) =
        (frame.drop (ETH_HEADER_LEN + h.messageLength.toNat)).take APPENDED_TS_LEN := by
      rw [List.drop_take, Nat.add_sub_cancel_left]
    rw [slice_eq (by omega) (by omega), Fallible.ok_bind, copyFromSlice_eq fits, Fallible.ok_bind,
      if_neg (by omega), ← window]
    rfl

theorem extractIngressTimestamp_returns (frame : List U8) (h : PtpHeader) :
    ∃ hwTs, extractIngressTimestamp frame h = .ok hwTs := by
  rw [extractIngressTimestamp_eq]
  dsimp only
  split
  · exact ⟨none, rfl⟩
  · exact ⟨_, rfl⟩

theorem reconstructT2_returns (tracker : TimestampTracker) (frame : List U8) (h : PtpHeader) :
    ∃ t2, reconstructT2 tracker frame h = .ok t2 := by
  rcases extractIngressTimestamp_returns frame h with ⟨hwTs, extracted⟩
  unfold reconstructT2
  rw [extracted, Fallible.ok_bind]
  cases hwTs with
  | none => exact ⟨_, rfl⟩
  | some hwTs => exact ⟨_, rfl⟩

theorem handleMessage_returns (config : Config) (m : Monitor) (frame : List U8) (h : PtpHeader)
    (ptpFrame : List U8) (now : Nat) :
    ∃ result, handleMessage config m frame h ptpFrame now = .ok result := by
  rcases reconstructT2_returns m.tsTracker frame h with ⟨t2, reconstructed⟩
  unfold handleMessage
  rw [reconstructed]
  split
  · exact ⟨_, rfl⟩
  · split
    · exact ⟨_, rfl⟩
    · split
      · exact ⟨_, rfl⟩
      · exact ⟨_, rfl⟩

/-- No frame makes the handlers panic. -/
theorem handleFrame_returns (config : Config) (m : Monitor) (frame : List U8) (now : Nat) :
    ∃ result, handleFrame config m frame now = .ok result := by
  rcases acceptFrame_returns config frame with ⟨accepted, run, _⟩
  unfold handleFrame
  rw [run, Fallible.ok_bind]
  cases accepted with
  | none => exact ⟨_, rfl⟩
  | some accepted => exact handleMessage_returns config m frame accepted.1 accepted.2 now

/-! ## What a step changes -/

/-- A Delay_Resp is rejected, or its times are stored, or it completes a sample. -/
theorem handleDelayResp_cases (times : SyncTimes) (h : PtpHeader) (own : Bytes 8) :
    handleDelayResp times h own = (times, none) ∨
      handleDelayResp times h own = ({ times with
        t4 := some h.originTimestamp, cfDelayrespNs := h.correctionNs }, none) ∨
      ∃ t1 t2 t3, h.RequestedBy own ∧ times.delayReqSeq = some h.sequenceId ∧
        times.t1 = some t1 ∧ times.t2 = some t2 ∧ times.t3 = some t3 ∧
        handleDelayResp times h own = (times.clear,
          some ⟨t1, t2, t3, h.originTimestamp, times.cfFollowupNs, h.correctionNs⟩) := by
  unfold handleDelayResp
  split
  · rename_i accepted
    rcases SyncTimes.takeCompleteSample_cases { times with
      t4 := some h.originTimestamp, cfDelayrespNs := h.correctionNs } with
      ⟨t1, t2, t3, t4, first, second, third, fourth, taken⟩ | taken
    · cases fourth
      exact .inr (.inr ⟨t1, t2, t3, accepted.1, accepted.2, first, second, third, taken⟩)
    · exact .inr (.inl taken)
  · exact .inl rfl

/-- A Follow_Up that matches, before the Delay_Req. -/
def Monitor.matched (m : Monitor) (h : PtpHeader) : Monitor :=
  { m with
    state := .idle
    lastSync := { m.lastSync with
      t1 := some h.originTimestamp
      cfFollowupNs := h.correctionNs
      t2 := m.state.t2.or m.lastSync.t2 } }

/-- What the dispatch makes of a message, by its type. -/
theorem handleMessage_eq_ok {config : Config} {m m' : Monitor} {frame ptpFrame : List U8}
    {h : PtpHeader} {now : Nat} {handled : Handled}
    (run : handleMessage config m frame h ptpFrame now = .ok (m', handled)) :
    (h.msgType = PTP_SYNC ∧ ∃ tsTracker t2,
        reconstructT2 m.tsTracker frame h = .ok (tsTracker, t2) ∧ handled = .sync h t2 ∧
        m' = { m with
          state := (handleSync m.lastSync h ptpFrame t2 now).1
          lastSync := (handleSync m.lastSync h ptpFrame t2 now).2
          tsTracker }) ∨
      (h.msgType = PTP_FOLLOW_UP ∧ m.state.Awaits h ∧ handled = .followUp h true ∧
        m' = m.matched h) ∨
      (h.msgType = PTP_FOLLOW_UP ∧ ¬ m.state.Awaits h ∧ handled = .followUp h false ∧ m' = m) ∨
      (h.msgType = PTP_DELAY_RESP ∧
        handled = .delayResp h
          (handleDelayResp m.lastSync h (macToClockIdentity config.ifaceMac)).2 ∧
        m' = { m with
          lastSync := (handleDelayResp m.lastSync h (macToClockIdentity config.ifaceMac)).1 }) ∨
      handled = .ignored ∧ m' = m := by
  unfold handleMessage at run
  split at run
  · rename_i ofType
    rcases Fallible.bind_eq_ok.mp run with ⟨⟨tsTracker, t2⟩, reconstructed, run⟩
    cases run
    exact .inl ⟨ofType, tsTracker, t2, reconstructed, rfl, rfl⟩
  · split at run
    · rename_i ofType
      unfold handleFollowUp at run
      rcases Decidable.em (m.state.Awaits h) with awaited | other
      · rw [if_pos awaited] at run
        cases run
        exact .inr (.inl ⟨ofType, awaited, rfl, rfl⟩)
      · rw [if_neg other] at run
        cases run
        exact .inr (.inr (.inl ⟨ofType, other, rfl, rfl⟩))
    · split at run
      · rename_i ofType
        cases run
        exact .inr (.inr (.inr (.inl ⟨ofType, rfl, rfl⟩)))
      · cases run
        exact .inr (.inr (.inr (.inr ⟨rfl, rfl⟩)))

/-- A round of the loop, by what became of the frame; the timestamp tracker is left open. -/
inductive Round (ownClockIdentity : Bytes 8) (m : Monitor) :
    Handled → Option DelayReq → Monitor → Prop
  | ignored {m' : Monitor} :
    (m'.state = m.state ∨ m'.state = .idle) → m'.lastSync = m.lastSync →
    m'.delayReqSeq = m.delayReqSeq → Round ownClockIdentity m .ignored none m'
  | sync {m' : Monitor} {h : PtpHeader} {ptpFrame : List U8} {t2 : Option PtpTime} (now : Nat) :
    ptpFrame.length = ETH_HEADER_LEN + h.messageLength.toNat →
    m'.state = (handleSync m.lastSync h ptpFrame t2 now).1 →
    m'.lastSync = (handleSync m.lastSync h ptpFrame t2 now).2 →
    m'.delayReqSeq = m.delayReqSeq → Round ownClockIdentity m (.sync h t2) none m'
  | unmatched {h : PtpHeader} :
    ¬ m.state.Awaits h → Round ownClockIdentity m (.followUp h false) none m
  | matched {h : PtpHeader} :
    m.state.Awaits h → Round ownClockIdentity m (.followUp h true) none (m.matched h)
  | requested {h : PtpHeader} {reads : Nat → Option DelayReqTimestamp} :
    m.state.Awaits h →
    Round ownClockIdentity m (.followUp h true) (some (captureEgressTs (m.matched h) reads).2)
      (captureEgressTs (m.matched h) reads).1
  | delayResp {h : PtpHeader} :
    Round ownClockIdentity m
      (.delayResp h (handleDelayResp m.lastSync h ownClockIdentity).2) none
      { m with lastSync := (handleDelayResp m.lastSync h ownClockIdentity).1 }

/-- Handling a frame is a round without a Delay_Req, unless it is a Follow_Up that matches. -/
theorem handleMessage_cases {config : Config} {m m' : Monitor} {frame ptpFrame : List U8}
    {h : PtpHeader} {now : Nat} {handled : Handled}
    (fits : ptpFrame.length = ETH_HEADER_LEN + h.messageLength.toNat)
    (run : handleMessage config m frame h ptpFrame now = .ok (m', handled)) :
    ((∀ h', handled ≠ .followUp h' true) ∧
        Round (macToClockIdentity config.ifaceMac) m handled none m') ∨
      (m.state.Awaits h ∧ handled = .followUp h true ∧ m' = m.matched h) := by
  rcases handleMessage_eq_ok run with ⟨_, tsTracker, t2, _, rfl, rfl⟩ | ⟨_, awaited, rfl, rfl⟩ |
    ⟨_, other, rfl, rfl⟩ | ⟨_, rfl, rfl⟩ | ⟨rfl, rfl⟩
  · exact .inl ⟨nofun, .sync now fits rfl rfl rfl⟩
  · exact .inr ⟨awaited, rfl, rfl⟩
  · exact .inl ⟨nofun, .unmatched other⟩
  · exact .inl ⟨nofun, .delayResp⟩
  · exact .inl ⟨nofun, .ignored (.inl rfl) rfl rfl⟩

/-- The same for a frame that may not be accepted. -/
theorem handleFrame_cases {config : Config} {m m' : Monitor} {frame : List U8} {now : Nat}
    {handled : Handled} (run : handleFrame config m frame now = .ok (m', handled)) :
    ((∀ h', handled ≠ .followUp h' true) ∧
        Round (macToClockIdentity config.ifaceMac) m handled none m') ∨
      ∃ h, m.state.Awaits h ∧ handled = .followUp h true ∧ m' = m.matched h := by
  rcases acceptFrame_returns config frame with ⟨accepted, acceptRun, fits⟩
  unfold handleFrame at run
  rw [acceptRun, Fallible.ok_bind] at run
  cases accepted with
  | none =>
    cases run
    exact .inl ⟨nofun, .ignored (.inl rfl) rfl rfl⟩
  | some accepted =>
    rcases handleMessage_cases (fits accepted.1 accepted.2 rfl) run with quiet | matched
    · exact .inl quiet
    · exact .inr ⟨accepted.1, matched⟩

/-- A step that is not a Follow_Up that matches only handles the frame. -/
theorem step_handleFrame {config : Config} {m m' : Monitor} {e : Event}
    (taken : step config m e m') {bytes : List U8} {now : Nat} {env : SendEnv}
    (input : e.input = .frame bytes now env) (quiet : ∀ h, e.handled ≠ .followUp h true) :
    handleFrame config m bytes now = .ok (m', e.handled) := by
  unfold step at taken
  rw [input] at taken
  rcases Fallible.bind_eq_ok.mp taken with ⟨⟨mid, handled⟩, framed, taken⟩
  dsimp only at taken
  split at taken
  · rename_i h
    rcases Fallible.bind_eq_ok.mp taken with ⟨_, _, taken⟩
    exact absurd (congrArg (·.2.1) (Except.ok.inj taken)).symm (quiet h)
  · have result := Except.ok.inj taken
    have last : mid = m' := congrArg Prod.fst result
    have handled_eq : handled = e.handled := congrArg (·.2.1) result
    rw [framed, last, handled_eq]

theorem step_round {config : Config} {m m' : Monitor} {e : Event} (taken : step config m e m') :
    Round (macToClockIdentity config.ifaceMac) m e.handled e.delayReq m' := by
  unfold step at taken
  cases input : e.input with
  | tick now =>
    rw [input] at taken
    have result := Except.ok.inj taken
    have last : m' = m.tick now := (congrArg Prod.fst result).symm
    have handled : e.handled = .ignored := (congrArg (·.2.1) result).symm
    have none : e.delayReq = none := (congrArg (·.2.2) result).symm
    rw [handled, none, last]
    unfold Monitor.tick
    split
    · split
      · exact .ignored (.inr rfl) rfl rfl
      · exact .ignored (.inl rfl) rfl rfl
    · exact .ignored (.inl rfl) rfl rfl
  | frame bytes now env =>
    rw [input] at taken
    rcases Fallible.bind_eq_ok.mp taken with ⟨⟨mid, handled⟩, framed, taken⟩
    rcases handleFrame_cases framed with ⟨quiet, round⟩ | ⟨h, awaited, rfl, rfl⟩
    · dsimp only at taken
      split at taken
      · rename_i h
        exact absurd rfl (quiet h)
      · have result := Except.ok.inj taken
        have last : m' = mid := (congrArg Prod.fst result).symm
        have handled_eq : e.handled = handled := (congrArg (·.2.1) result).symm
        have none : e.delayReq = none := (congrArg (·.2.2) result).symm
        rw [handled_eq, none, last]
        exact round
    · rcases Fallible.bind_eq_ok.mp taken with ⟨⟨m'', delayReq⟩, sent, taken⟩
      have result := Except.ok.inj taken
      have last : m' = m'' := (congrArg Prod.fst result).symm
      have handled_eq : e.handled = .followUp h true := (congrArg (·.2.1) result).symm
      have delayReq_eq : e.delayReq = delayReq := (congrArg (·.2.2) result).symm
      rw [handled_eq, delayReq_eq, last]
      rcases sendDelayRequest_eq_ok sent with ⟨rfl, rfl⟩ | ⟨rfl, rfl⟩
      · exact .matched awaited
      · exact .requested awaited

end P4Tas.Ptp
