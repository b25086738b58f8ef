import P4Tas.Ptp.Bounds

/-!
# Which egress timestamp is captured

The egress timestamp of a Delay_Req is read up to five times, since a read may be invalid, fail, or
return the timestamp of an earlier packet, which has the id that was captured last.

* `readEgressTs_eq`: the loop takes the first read it accepts; that is a fresh one, but on the last
  attempt also a stale one.
* `sendDelayRequest_capturesFresh_iff`: so a call captures a fresh timestamp or none, unless a
  Delay_Req is sent, none of the first four reads is fresh, and the fifth is stale;
* `stale_capture`: a call that captures a stale one.
-/

namespace P4Tas.Ptp

variable {config : Config} {m m' : Monitor} {env : SendEnv} {lastId : Option U32}
  {reads : Nat → Option DelayReqTimestamp} {attempt : Nat} {ts : DelayReqTimestamp}

/-! ## Reads -/

/-- The read is valid and its id is not the last one. -/
def FreshRead (lastId : Option U32) (reads : Nat → Option DelayReqTimestamp) (attempt : Nat)
    (ts : DelayReqTimestamp) : Prop :=
  reads attempt = some ts ∧ ts.valid = true ∧ lastId ≠ some ts.id

/-- The read is valid and its id is the last one. -/
def StaleRead (lastId : Option U32) (reads : Nat → Option DelayReqTimestamp) (attempt : Nat)
    (ts : DelayReqTimestamp) : Prop :=
  reads attempt = some ts ∧ ts.valid = true ∧ lastId = some ts.id

/-- The read the loop takes on this attempt, if any. -/
def acceptedRead (lastId : Option U32) (reads : Nat → Option DelayReqTimestamp) (attempt : Nat) :
    Option DelayReqTimestamp :=
  (reads attempt).filter fun ts => ts.valid && !decide (lastId = some ts.id ∧ attempt < 4)

theorem readEgressTs_eq (lastId : Option U32) (reads : Nat → Option DelayReqTimestamp)
    (attempts : List Nat) :
    readEgressTs lastId reads attempts = attempts.findSome? (acceptedRead lastId reads) := by
  induction attempts with
  | nil => rfl
  | cons attempt attempts ih =>
    rw [readEgressTs, List.findSome?_cons, ih]
    unfold acceptedRead
    cases reads attempt with
    | none => rfl
    | some ts =>
      cases valid : ts.valid with
      | false => simp [Option.filter, valid]
      | true =>
        rcases Decidable.em (lastId = some ts.id ∧ attempt < 4) with stale | accepted
        · simp [Option.filter, valid, stale]
        · simp [Option.filter, valid, accepted]

/-- What is accepted is fresh, or stale on the last attempt. -/
theorem acceptedRead_eq_some :
    acceptedRead lastId reads attempt = some ts ↔
      FreshRead lastId reads attempt ts ∨ (4 ≤ attempt ∧ StaleRead lastId reads attempt ts) := by
  unfold acceptedRead FreshRead StaleRead
  rw [Option.filter_eq_some_iff, Bool.and_eq_true, Bool.not_eq_true', decide_eq_false_iff_not]
  rcases Decidable.em (lastId = some ts.id) with same | other
  · simp only [same, true_and, not_lt, not_true_eq_false, and_false, false_or, ne_eq]
    tauto
  · simp only [other, false_and, not_false_eq_true, and_true, or_false, and_false, ne_eq]

/-- A search over attempts returns what is found first. -/
theorem findSome?_range_eq_some {α : Type} {f : Nat → Option α} {n : Nat} {x : α}
    (found : (List.range n).findSome? f = some x) :
    ∃ i < n, f i = some x ∧ ∀ j < i, f j = none := by
  rcases List.findSome?_eq_some_iff.mp found with ⟨before, i, after, split, here, first⟩
  rw [List.range_eq_range', List.range'_eq_append_iff] at split
  rcases split with ⟨k, _, rfl, others⟩
  rcases List.range'_eq_cons_iff.mp others.symm with ⟨rfl, more, _⟩
  rw [Nat.mul_one, Nat.zero_add] at here
  exact ⟨k, by omega, here, fun j earlier => first j (List.mem_range'_1.mpr (by omega))⟩

/-- The outcome of the loop of `send_delay_request`. -/
theorem readEgressTs_cases (lastId : Option U32) (reads : Nat → Option DelayReqTimestamp) :
    (∃ attempt < 5, ∃ ts, readEgressTs lastId reads (List.range 5) = some ts ∧
        FreshRead lastId reads attempt ts) ∨
      ((∀ attempt < 5, ∀ ts, ¬ FreshRead lastId reads attempt ts) ∧
        ((∃ ts, readEgressTs lastId reads (List.range 5) = some ts ∧
            StaleRead lastId reads 4 ts) ∨
          readEgressTs lastId reads (List.range 5) = none ∧
            ∀ ts, ¬ StaleRead lastId reads 4 ts)) := by
  rw [readEgressTs_eq]
  cases found : (List.range 5).findSome? (acceptedRead lastId reads) with
  | some ts =>
    rcases findSome?_range_eq_some found with ⟨attempt, inside, accepted, first⟩
    rcases acceptedRead_eq_some.mp accepted with fresh | ⟨last, stale⟩
    · exact .inl ⟨attempt, inside, ts, rfl, fresh⟩
    · -- the last attempt is made when the others are not accepted
      have last : attempt = 4 := by omega
      subst last
      refine .inr ⟨fun earlier inside' ts' fresh => ?_, .inl ⟨ts, rfl, stale⟩⟩
      rcases Nat.lt_or_ge earlier 4 with before | late
      · have none := first earlier before
        rw [acceptedRead_eq_some.mpr (.inl fresh)] at none
        cases none
      · have same : earlier = 4 := by omega
        subst same
        cases fresh.1.symm.trans stale.1
        exact fresh.2.2 stale.2.2
  | none =>
    have never := List.findSome?_eq_none_iff.mp found
    refine .inr ⟨fun attempt inside ts fresh => ?_, .inr ⟨rfl, fun ts stale => ?_⟩⟩
    · have none := never attempt (List.mem_range.mpr inside)
      rw [acceptedRead_eq_some.mpr (.inl fresh)] at none
      cases none
    · have none := never 4 (List.mem_range.mpr (by decide))
      rw [acceptedRead_eq_some.mpr (.inr ⟨le_refl 4, stale⟩)] at none
      cases none

/-! ## Calls -/

/-- A Delay_Req is transmitted: there is a hardware timestamp, and a stored message that is long
enough to be patched. -/
structure Sends (m : Monitor) (env : SendEnv) : Prop where
  timestamp : m.tsTracker.lastHwTs ≠ none
  template : ∃ frame header, m.lastSync.lastFrame = some frame ∧
    m.lastSync.lastHeader = some header ∧ 44 ≤ header.messageLength.toNat ∧
      ETH_HEADER_LEN + header.messageLength.toNat ≤ frame.length
  transmitted : env.transmitted = true

theorem sendDelayRequest_of_sends (config : Config) (sends : Sends m env) :
    sendDelayRequest config m env =
      .ok ((captureEgressTs m env.reads).1, some (captureEgressTs m env.reads).2) := by
  rcases sends with ⟨timestamp, ⟨frame, header, storedFrame, storedHeader, long, fits⟩, transmitted⟩
  unfold sendDelayRequest TimestampTracker.lastComponents buildDelayReqPacket
  rcases Option.ne_none_iff_exists'.mp timestamp with ⟨hwTs, stored⟩
  rw [stored, storedFrame, storedHeader]
  dsimp only [Option.map_some]
  rw [if_neg (Nat.not_lt.mpr fits)]
  rcases (patchPacket_returns config.ifaceMac m.delayReqSeq
    (.fromNs (m.tsTracker.lastFullTimestamp.getD (TimestampTracker.fullTimestamp
      m.tsTracker.swTsNs (hwTs &&& TimestampTracker.MASK_48)))) fits).1 long with
    ⟨patched, run, length⟩
  rw [run]
  have header14 : ETH_HEADER_LEN ≤ patched.length := by omega
  change (transmitFrame patched env.transmitted >>= _) = _
  rw [transmitFrame_eq header14, Fallible.ok_bind, transmitted]
  rfl

/-- A transmission is one of these. -/
theorem sends_of_sendDelayRequest {d : DelayReq}
    (run : sendDelayRequest config m env = .ok (m', some d)) : Sends m env := by
  unfold sendDelayRequest at run
  split at run
  · cases run
  · rename_i swTs hwTs components
    have timestamp : m.tsTracker.lastHwTs ≠ none := by
      intro none
      unfold TimestampTracker.lastComponents at components
      rw [none] at components
      cases components
    rcases Fallible.bind_eq_ok.mp run with ⟨packet, built, run⟩
    cases packet with
    | none => cases run
    | some bytes =>
      rcases Fallible.bind_eq_ok.mp run with ⟨transmitted, sent, run⟩
      unfold buildDelayReqPacket at built
      split at built
      · rename_i frame header storedFrame storedHeader
        split at built
        · cases built
        · rename_i fits
          rcases Fallible.bind_eq_ok.mp built with ⟨patched, patching, _⟩
          have long : 44 ≤ header.messageLength.toNat := by
            by_contra short
            rw [(patchPacket_returns _ _ _ (Nat.not_lt.mp fits)).2 (Nat.not_le.mp short)]
              at patching
            cases patching
          refine ⟨timestamp,
            ⟨frame, header, storedFrame, storedHeader, long, Nat.not_lt.mp fits⟩, ?_⟩
          cases transmitted with
          | false => cases run
          | true =>
            unfold transmitFrame at sent
            split at sent
            · cases sent
            · rcases Fallible.bind_eq_ok.mp sent with ⟨_, _, sent⟩
              rcases Fallible.bind_eq_ok.mp sent with ⟨_, _, sent⟩
              exact Except.ok.inj sent
      · cases built

/-- The call sets `t3` from a fresh read only, and without one it leaves the three fields of a
capture alone. -/
structure CapturesFresh (m m' : Monitor) (delayReq : Option DelayReq)
    (reads : Nat → Option DelayReqTimestamp) : Prop where
  set : ∀ t3, delayReq.bind (·.t3) = some t3 → m'.lastSync.t3 = some t3 ∧
    ∃ attempt < 5, ∃ ts, FreshRead m.lastSync.lastEgressTsId reads attempt ts ∧
      t3 = .fromNs (m.tsTracker.combine ts.rawHwNs).2
  unset : delayReq.bind (·.t3) = none → m'.lastSync = m.lastSync
  unchanged : (∀ attempt < 5, ∀ ts, ¬ FreshRead m.lastSync.lastEgressTsId reads attempt ts) →
    m'.lastSync.t3 = m.lastSync.t3 ∧ m'.lastSync.delayReqSeq = m.lastSync.delayReqSeq ∧
      m'.lastSync.lastEgressTsId = m.lastSync.lastEgressTsId

/-- A Delay_Req is sent, and of the reads that follow none of the first four is fresh and the fifth
is stale. -/
structure StaleCapture (m : Monitor) (env : SendEnv) : Prop where
  sends : Sends m env
  early : ∀ attempt < 4, ∀ ts, ¬ FreshRead m.lastSync.lastEgressTsId env.reads attempt ts
  last : ∃ ts, StaleRead m.lastSync.lastEgressTsId env.reads 4 ts

theorem StaleCapture.never_fresh (stale : StaleCapture m env) :
    ∀ attempt < 5, ∀ ts, ¬ FreshRead m.lastSync.lastEgressTsId env.reads attempt ts := by
  intro attempt inside ts fresh
  rcases Nat.lt_or_ge attempt 4 with early | late
  · exact stale.early attempt early ts fresh
  · have same : attempt = 4 := by omega
    subst same
    rcases stale.last with ⟨ts', read, _, known⟩
    cases fresh.1.symm.trans read
    exact fresh.2.2 known

theorem captureEgressTs_capturesFresh (m : Monitor) (reads : Nat → Option DelayReqTimestamp)
    (useful : (∃ attempt < 4, ∃ ts, FreshRead m.lastSync.lastEgressTsId reads attempt ts) ∨
      ∀ ts, ¬ StaleRead m.lastSync.lastEgressTsId reads 4 ts) :
    CapturesFresh m (captureEgressTs m reads).1 (some (captureEgressTs m reads).2) reads := by
  unfold captureEgressTs
  rcases readEgressTs_cases m.lastSync.lastEgressTsId reads with
    ⟨attempt, inside, ts, run, fresh⟩ | ⟨never, ⟨ts, run, stale⟩ | ⟨run, _⟩⟩
  · rw [run]
    refine ⟨?_, nofun, fun never => absurd fresh (never attempt inside ts)⟩
    intro t3 captured
    cases captured
    exact ⟨rfl, attempt, inside, ts, fresh, rfl⟩
  · rcases useful with ⟨attempt, inside, ts', fresh⟩ | other
    · exact absurd fresh (never attempt (by omega) ts')
    · exact absurd stale (other ts)
  · rw [run]
    exact ⟨nofun, fun _ => rfl, fun _ => ⟨rfl, rfl, rfl⟩⟩

/-- Every call that returns captures a fresh timestamp or none, unless it is one that captures a
stale one. -/
theorem sendDelayRequest_capturesFresh_iff (config : Config) (m : Monitor) (env : SendEnv) :
    (∀ m' delayReq, sendDelayRequest config m env = .ok (m', delayReq) →
        CapturesFresh m m' delayReq env.reads) ↔
      ¬ StaleCapture m env := by
  refine ⟨?_, ?_⟩
  · intro captures stale
    have captured := captures _ _ (sendDelayRequest_of_sends config stale.sends)
    have never := stale.never_fresh
    rcases stale.last with ⟨ts, read, valid, known⟩
    rcases readEgressTs_cases m.lastSync.lastEgressTsId env.reads with
      ⟨attempt, inside, ts', _, fresh⟩ | ⟨_, ⟨ts', run, _⟩ | ⟨_, other⟩⟩
    · exact never attempt inside ts' fresh
    · have set : ((captureEgressTs m env.reads).2).t3 =
          some (.fromNs (m.tsTracker.combine ts'.rawHwNs).2) := by
        unfold captureEgressTs
        rw [run]
      rcases captured.set _ set with ⟨_, attempt, inside, ts'', fresh, _⟩
      exact never attempt inside ts'' fresh
    · exact other ts ⟨read, valid, known⟩
  · intro useful m' delayReq run
    rcases sendDelayRequest_eq_ok run with ⟨rfl, rfl⟩ | ⟨rfl, rfl⟩
    · exact ⟨nofun, fun _ => rfl, fun _ => ⟨rfl, rfl, rfl⟩⟩
    · refine captureEgressTs_capturesFresh m env.reads ?_
      by_contra both
      push Not at both
      exact useful ⟨sends_of_sendDelayRequest run, both.1, both.2⟩

/-- After a Sync and its Follow_Up the id 1 is known; a call that reads it five times captures
it. -/
theorem stale_capture :
    ∃ es m m' delayReq env,
      loop sampleConfig (Monitor.new 0) [sampleSync 1 10, sampleFollowUp 1 5 (20, 1)] =
        .ok (es, m) ∧
      sendDelayRequest sampleConfig m env = .ok (m', delayReq) ∧
      ¬ CapturesFresh m m' delayReq env.reads := by
  have evaluated : (loop sampleConfig (Monitor.new 0)
      [sampleSync 1 10, sampleFollowUp 1 5 (20, 1)]).toOption.any (fun r =>
        r.2.lastSync.lastEgressTsId = some 1 &&
          (sendDelayRequest sampleConfig r.2 ⟨true, fun _ => some ⟨true, 20, 1⟩⟩).toOption.any
            fun s => (s.2.bind (·.t3)).isSome) = true := by
    decide +kernel
  rcases Fallible.exists_of_any evaluated with ⟨⟨es, m⟩, looped, captured⟩
  rcases Bool.and_eq_true_iff.mp captured with ⟨known, captured⟩
  rcases Fallible.exists_of_any captured with ⟨⟨m', delayReq⟩, sent, captured⟩
  rcases Option.isSome_iff_exists.mp captured with ⟨t3, captured⟩
  refine ⟨es, m, m', delayReq, _, looped, sent, fun fresh => ?_⟩
  rcases (fresh.set t3 captured).2 with ⟨_, _, ts, ⟨read, _, other⟩, _⟩
  cases read
  exact other (of_decide_eq_true known)

end P4Tas.Ptp
