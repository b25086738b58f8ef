import P4Tas.Ptp.Monitor

/-!
# Which frames make the monitor panic

The parser and the handlers check the length of a frame before they read it, but a Delay_Req is
patched into a copy of the last Sync up to the length the Sync itself states.  A Sync that states
less than 44 bytes is stored all the same, and the Delay_Req after its Follow_Up panics.

* `receive_error_iff`: a round panics exactly in this case;
* `loop_inBounds_iff`: the loop stays within bounds exactly when no round completes a short Sync;
* `short_sync_panics`: two frames that make it panic.
-/

namespace P4Tas.Ptp

/-- The frame is the Follow_Up the monitor waits for. -/
def Answers (config : Config) (m : Monitor) (frame : List U8) (h : PtpHeader) : Prop :=
  (∃ ptpFrame, acceptFrame config frame = .ok (some (h, ptpFrame))) ∧ h.msgType = PTP_FOLLOW_UP ∧
    m.state.Awaits h

/-- The frame is the Follow_Up of a Sync that states less than 44 bytes, and some Sync carried a
hardware timestamp. -/
def CompletesShortSync (config : Config) (m : Monitor) (input : Input) : Prop :=
  ∃ frame now env h, input = .frame frame now env ∧ Answers config m frame h ∧
    m.tsTracker.lastHwTs ≠ none ∧ m.lastSync.ShortTemplate

variable {config : Config} {m m' : Monitor}

/-! ## One round -/

/-- Only the awaited Follow_Up is matched. -/
theorem handleFrame_matched_iff {frame : List U8} {now : Nat} {h : PtpHeader} :
    handleFrame config m frame now = .ok (m', .followUp h true) ↔
      Answers config m frame h ∧ m' = m.matched h := by
  unfold Answers handleFrame
  rcases acceptFrame_returns config frame with ⟨accepted, acceptRun, _⟩
  rw [acceptRun, Fallible.ok_bind]
  cases accepted with
  | none => simp [pure, Except.pure]
  | some accepted =>
    rcases accepted with ⟨h', ptpFrame⟩
    have distinct : PTP_FOLLOW_UP ≠ PTP_SYNC := by decide
    simp only [Except.ok.injEq, Option.some.injEq, Prod.mk.injEq, exists_and_left,
      exists_eq', and_true]
    refine ⟨?_, ?_⟩
    · intro run
      rcases handleMessage_eq_ok run with ⟨_, _, _, _, handled, _⟩ |
        ⟨ofType, awaited, handled, rfl⟩ | ⟨_, _, handled, _⟩ | ⟨_, handled, _⟩ | ⟨handled, _⟩
      · cases handled
      · cases handled
        exact ⟨⟨rfl, ofType, awaited⟩, rfl⟩
      · cases handled
      · cases handled
      · cases handled
    · rintro ⟨⟨rfl, ofType, awaited⟩, rfl⟩
      unfold handleMessage handleFollowUp
      rw [if_neg (ofType ▸ distinct), if_pos ofType, if_pos awaited]
      rfl

/-- A round panics exactly when it completes a short Sync, and then for a range out of bounds. -/
theorem receive_error_iff {input : Input} {p : Panic} (template : m.lastSync.TemplateFits) :
    receive config m input = .error p ↔ p = .outOfBounds ∧ CompletesShortSync config m input := by
  have short_iff (h : PtpHeader) : (m.matched h).lastSync.ShortTemplate ↔
      m.lastSync.ShortTemplate := Iff.rfl
  have sends (h : PtpHeader) (env : SendEnv) :
      sendDelayRequest config (m.matched h) env = .error p ↔
        p = .outOfBounds ∧ m.tsTracker.lastHwTs ≠ none ∧ m.lastSync.ShortTemplate :=
    sendDelayRequest_error_iff template
  refine ⟨?_, ?_⟩
  · intro failed
    cases input with
    | tick now => cases failed
    | frame frame now env =>
      rcases handleFrame_returns config m frame now with ⟨⟨mid, handled⟩, framed⟩
      unfold receive at failed
      dsimp only at failed
      rw [framed, Fallible.ok_bind] at failed
      cases handled with
      | ignored => cases failed
      | sync _ _ => cases failed
      | delayResp _ _ => cases failed
      | followUp h matched =>
        cases matched with
        | false => cases failed
        | true =>
          rcases handleFrame_matched_iff.mp framed with ⟨answers, rfl⟩
          rcases Fallible.bind_eq_error.mp failed with sending | ⟨_, _, returned⟩
          · rcases (sends h env).mp sending with ⟨reason, timestamp, short⟩
            exact ⟨reason, frame, now, env, h, rfl, answers, timestamp, short⟩
          · cases returned
  · rintro ⟨reason, frame, now, env, h, rfl, answers, timestamp, short⟩
    unfold receive
    dsimp only
    rw [handleFrame_matched_iff.mpr ⟨answers, rfl⟩, Fallible.ok_bind]
    dsimp only
    rw [(sends h env).mpr ⟨reason, timestamp, short⟩]
    rfl

/-! ## Runs -/

open Transition (Run)

theorem round_templateFits {own : Bytes 8} {handled : Handled} {delayReq : Option DelayReq}
    (round : Round own m handled delayReq m') (template : m.lastSync.TemplateFits) :
    m'.lastSync.TemplateFits := by
  cases round with
  | ignored _ same _ =>
    rw [same]
    exact template
  | sync _ fits _ same _ =>
    rw [same]
    intro header stored
    cases stored
    exact ⟨_, rfl, fits⟩
  | unmatched _ => exact template
  | matched _ => exact template
  | @requested h reads _ =>
    rcases captureEgressTs_cases (m.matched h) reads with ⟨_, _, _, captured | ⟨_, same⟩⟩
    · rcases captured with ⟨t3, id, _, same⟩
      rw [same]
      exact template
    · rw [same]
      exact template
  | @delayResp h =>
    rcases handleDelayResp_cases m.lastSync h own with
      rejected | stored | ⟨t1, t2, t3, _, _, _, _, _, taken⟩
    · rw [rejected]
      exact template
    · rw [stored]
      exact template
    · rw [taken]
      exact template

/-- The stored frame fits the stored header in every reachable state. -/
theorem run_templateFits {swTsNs : U16} {es : List Event}
    (run : Run (step config) (Monitor.new swTsNs) es m) : m.lastSync.TemplateFits :=
  run.invariant (I := fun m => m.lastSync.TemplateFits) nofun
    fun _ _ _ _ template taken => round_templateFits (step_round taken) template

/-- The loop stays within bounds exactly when it never receives, after a hardware timestamp was
seen, the Follow_Up of a Sync that states less than 44 bytes. -/
theorem loop_inBounds_iff (config : Config) (swTsNs : U16) (inputs : List Input) :
    loop config (Monitor.new swTsNs) inputs ≠ .error .outOfBounds ↔
      ∀ before input after es m, inputs = before ++ input :: after →
        loop config (Monitor.new swTsNs) before = .ok (es, m) →
          ¬ CompletesShortSync config m input := by
  refine ⟨?_, ?_⟩
  · intro inBounds before input after es m inputs_eq looped short
    have template := run_templateFits (loop_eq_ok.mp looped).1
    have failed := (receive_error_iff template).mpr ⟨rfl, short⟩
    exact inBounds (loop_error_iff.mpr ⟨before, input, after, es, m, inputs_eq, looped, failed⟩)
  · intro neverShort outOfBounds
    rcases loop_error_iff.mp outOfBounds with
      ⟨before, input, after, es, m, inputs_eq, looped, failed⟩
    have template := run_templateFits (loop_eq_ok.mp looped).1
    exact neverShort before input after es m inputs_eq looped
      ((receive_error_iff template).mp failed).2

/-- A two-step message of a port, with a one-byte length, sequence id and origin time. -/
def sampleMessage (msgType messageLength seq port origin : U8) (rest : List U8) : List U8 :=
  [0, 0, 0, 0, 0, 1] ++ [0, 0, 0, 0, 0, 2] ++ [0x88, 0xF7] ++
    [msgType, 2, 0, messageLength, 0, 0, 2, 0] ++ List.replicate 12 0 ++
    (List.replicate 9 0 ++ [port]) ++ [0, seq] ++ [0, 0] ++ (List.replicate 9 0 ++ [origin]) ++ rest

def sampleConfig : Config where
  domainFilter := some 0
  ifaceMac := array [0, 0, 0, 0, 0, 1] rfl

/-- The Delay_Req is sent, and its egress timestamp has an id and a value. -/
def sampleInput (frame : List U8) (t3 : Option (U64 × U32)) : Input :=
  .frame frame 0
    { transmitted := true, reads := fun _ => t3.map fun (hw, id) => ⟨true, hw, id⟩ }

/-- A Sync of port 1 with an appended timestamp. -/
def sampleSync (seq ts : U8) : Input :=
  sampleInput (sampleMessage PTP_SYNC 44 seq 1 0 [0, 0, 0, 0, 0, 0, 0, ts]) none

def sampleFollowUp (seq origin : U8) (t3 : U64 × U32) : Input :=
  sampleInput (sampleMessage PTP_FOLLOW_UP 44 seq 1 origin []) (some t3)

/-- A Delay_Resp for the clock of `sampleConfig`. -/
def sampleDelayResp (seq origin : U8) : Input :=
  sampleInput (sampleMessage PTP_DELAY_RESP 54 seq 1 origin [2, 0, 0, 0xFF, 0xFE, 0, 0, 1, 0, 1])
    none

/-- A Sync that states length 0 and its Follow_Up, both of 58 bytes. -/
theorem short_sync_panics :
    loop sampleConfig (Monitor.new 0)
        [sampleInput (sampleMessage PTP_SYNC 0 7 1 0 []) none,
         sampleInput (sampleMessage PTP_FOLLOW_UP 0 7 1 0 []) none] =
      .error .outOfBounds :=
  Fallible.error?_eq_some.mp (by decide +kernel)

end P4Tas.Ptp
