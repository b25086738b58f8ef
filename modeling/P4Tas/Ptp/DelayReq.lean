import P4Tas.Ptp.SyncTimes

/-!
# Delay requests

A Delay_Req is a patched copy of the last Sync.  After it is transmitted the monitor reads the
egress timestamp of the port, up to five times.

* `patchMessage_returns`, `patchMessage_short`: the patch fits a message of 44 bytes, and none that
  is shorter;
* `buildDelayReqPacket_spec`, `sendDelayRequest_error_iff`: so it is for the packet and for sending;
* `captureEgressTs_cases`, `sendDelayRequest_eq_ok`: what a transmission changes.
-/

namespace P4Tas.Ptp

def macToClockIdentity (mac : Bytes 6) : Bytes 8 :=
  array [mac.get 0 ^^^ 0x02, mac.get 1, mac.get 2, 0xFF, 0xFE, mac.get 3, mac.get 4, mac.get 5] rfl

/-! ## The packet -/

/-- The writes to `ptp_slice`. -/
def patchMessage (ptp : List U8) (clockIdentity : Bytes 8) (seq : U16) (origin : PtpTime) :
    Rust (List U8) := do
  let b0 ← index ptp 0
  let ptp ← assign ptp 0 ((b0 &&& 0xF0) ||| PTP_DELAY_REQ)
  let ptp ← assign ptp 30 ((seq >>> 8).setWidth 8)
  let ptp ← assign ptp 31 ((seq &&& 0xFF).setWidth 8)
  let ptp ← assign ptp 32 0x01
  let ptp ← copyInto ptp 8 16 (List.replicate 8 0)
  let ptp ← copyInto ptp 20 28 clockIdentity.toList
  let ptp ← copyInto ptp 28 30 (toBeBytes 2 1).toList
  let ptp ← copyInto ptp 34 40 (toBeBytes 6 origin.seconds.toNat).toList
  copyInto ptp 40 44 (toBeBytes 4 origin.nanoseconds.toNat).toList

def patchPacket (packet : List U8) (messageLength : Nat) (ifaceMac : Bytes 6) (seq : U16)
    (origin : PtpTime) : Rust (List U8) := do
  let source ← slice packet 6 12
  let masterMac ← copyFromSlice 6 source
  let packet ← copyInto packet 0 6 masterMac.toList
  let packet ← copyInto packet 6 12 ifaceMac.toList
  let ptp ← slice packet ETH_HEADER_LEN (ETH_HEADER_LEN + messageLength)
  let ptp ← patchMessage ptp (macToClockIdentity ifaceMac) seq origin
  copyInto packet ETH_HEADER_LEN (ETH_HEADER_LEN + messageLength) ptp

def buildDelayReqPacket (times : SyncTimes) (ifaceMac : Bytes 6) (seq : U16) (origin : PtpTime) :
    Rust (Option (List U8)) :=
  match times.lastFrame, times.lastHeader with
  | some template, some header =>
    if template.length < ETH_HEADER_LEN + header.messageLength.toNat then
      .ok none
    else do
      let packet ← patchPacket template header.messageLength.toNat ifaceMac seq origin
      return some packet
  | _, _ => .ok none

/-! ## Sending -/

/-- A reply to a read of the egress timestamp. -/
structure DelayReqTimestamp where
  valid : Bool
  rawHwNs : U64
  id : U32
  deriving DecidableEq

/-- The outcomes of the system calls of `send_delay_request`: whether `sendto` succeeds, and the
reply to each attempt to read the timestamp, `none` for an error. -/
structure SendEnv where
  transmitted : Bool
  reads : Nat → Option DelayReqTimestamp

/-- `transmit_frame`, and whether it succeeds. -/
def transmitFrame (frame : List U8) (transmitted : Bool) : Rust Bool :=
  if frame.length < ETH_HEADER_LEN then
    .ok false
  else do
    let destination ← slice frame 0 6
    let _ ← copyFromSlice 6 destination
    return transmitted

/-- The loop over the attempts: an id that was seen before is read again, but for the last time. -/
def readEgressTs (lastId : Option U32) (reads : Nat → Option DelayReqTimestamp) :
    List Nat → Option DelayReqTimestamp
  | [] => none
  | attempt :: attempts =>
    match reads attempt with
    | some ts =>
      if ts.valid then
        if lastId = some ts.id ∧ attempt < 4 then
          readEgressTs lastId reads attempts
        else
          some ts
      else
        readEgressTs lastId reads attempts
    | none => readEgressTs lastId reads attempts

/-- The nanoseconds slept between the attempts. -/
def retrySleepNs (lastId : Option U32) (reads : Nat → Option DelayReqTimestamp) : List Nat → Nat
  | [] => 0
  | attempt :: attempts =>
    let retry := (if attempt < 4 then 1000000 else 0) + retrySleepNs lastId reads attempts
    match reads attempt with
    | some ts =>
      if ts.valid then
        if lastId = some ts.id ∧ attempt < 4 then retry else 0
      else
        retry
    | none => retry

/-- The nanoseconds that `send_delay_request` sleeps after the transmission. -/
def sleepNs (lastId : Option U32) (reads : Nat → Option DelayReqTimestamp) : Nat :=
  2000000 + retrySleepNs lastId reads (List.range 5)

/-- A Delay_Req that was transmitted, and its egress time where that was captured. -/
structure DelayReq where
  seq : U16
  t3 : Option PtpTime
  deriving DecidableEq

/-- After the transmission: the capture of `t3`, and the next sequence id. -/
def captureEgressTs (m : Monitor) (reads : Nat → Option DelayReqTimestamp) : Monitor × DelayReq :=
  match readEgressTs m.lastSync.lastEgressTsId reads (List.range 5) with
  | some ts =>
    let (tsTracker, fullT3) := m.tsTracker.combine ts.rawHwNs
    let t3 := PtpTime.fromNs fullT3
    ({ m with
        tsTracker
        lastSync := { m.lastSync with
          t3 := some t3, delayReqSeq := some m.delayReqSeq, lastEgressTsId := some ts.id }
        delayReqSeq := m.delayReqSeq + 1 },
      { seq := m.delayReqSeq, t3 := some t3 })
  | none =>
    ({ m with delayReqSeq := m.delayReqSeq + 1 }, { seq := m.delayReqSeq, t3 := none })

def sendDelayRequest (config : Config) (m : Monitor) (env : SendEnv) :
    Rust (Monitor × Option DelayReq) :=
  match m.tsTracker.lastComponents with
  | none => .ok (m, none)
  | some (swTs, hwTs) => do
    let fullTs := m.tsTracker.lastFullTimestamp.getD
      (TimestampTracker.fullTimestamp swTs (hwTs &&& TimestampTracker.MASK_48))
    let packet ← buildDelayReqPacket m.lastSync config.ifaceMac m.delayReqSeq (.fromNs fullTs)
    match packet with
    | none => return (m, none)
    | some packet => do
      let transmitted ← transmitFrame packet env.transmitted
      if transmitted then
        let (m, delayReq) := captureEgressTs m env.reads
        return (m, some delayReq)
      else
        return (m, none)

/-! ## The packet fits, or panics -/

variable {ptp packet : List U8} {clockIdentity : Bytes 8} {ifaceMac : Bytes 6} {seq : U16}
  {origin : PtpTime} {messageLength : Nat}

/-- The writes to a message whose first byte is `b0`. -/
def messagePatch (b0 : U8) (clockIdentity : Bytes 8) (seq : U16) (origin : PtpTime) :
    List (Nat × List U8) :=
  [(0, [(b0 &&& 0xF0) ||| PTP_DELAY_REQ]),
   (30, [(seq >>> 8).setWidth 8]),
   (31, [(seq &&& 0xFF).setWidth 8]),
   (32, [0x01]),
   (8, List.replicate 8 0),
   (20, clockIdentity.toList),
   (28, (toBeBytes 2 1).toList),
   (34, (toBeBytes 6 origin.seconds.toNat).toList),
   (40, (toBeBytes 4 origin.nanoseconds.toNat).toList)]

theorem messagePatch_fits (b0 : U8) (clockIdentity : Bytes 8) (seq : U16) (origin : PtpTime)
    (long : 44 ≤ ptp.length) :
    ∀ w ∈ messagePatch b0 clockIdentity seq origin, Patch.Fits ptp w := by
  unfold messagePatch Patch.Fits
  simp only [List.forall_mem_cons, List.length_singleton, List.length_replicate,
    List.Vector.toList_length, List.not_mem_nil, false_imp_iff, implies_true, and_true]
  omega

theorem patchMessage_eq (clockIdentity : Bytes 8) (seq : U16) (origin : PtpTime)
    (long : 44 ≤ ptp.length) {b0 : U8} (first : index ptp 0 = .ok b0) :
    patchMessage ptp clockIdentity seq origin =
      .ok (Patch.writeAll ptp (messagePatch b0 clockIdentity seq origin)) := by
  rw [← copyAll_eq (messagePatch_fits b0 clockIdentity seq origin long)]
  unfold patchMessage copyAll messagePatch
  rw [first, Fallible.ok_bind]
  simp only [assign_eq_copyInto, List.foldlM_cons, List.foldlM_nil, bind_pure,
    List.length_singleton, List.length_replicate, List.Vector.toList_length]

theorem patchMessage_returns (clockIdentity : Bytes 8) (seq : U16) (origin : PtpTime)
    (long : 44 ≤ ptp.length) :
    ∃ patched, patchMessage ptp clockIdentity seq origin = .ok patched ∧
      patched.length = ptp.length := by
  have first := index_eq (by omega : 0 < ptp.length)
  exact ⟨_, patchMessage_eq clockIdentity seq origin long first,
    Patch.length_writeAll (messagePatch_fits _ clockIdentity seq origin long)⟩

theorem patchMessage_onlyOutOfBounds (ptp : List U8) (clockIdentity : Bytes 8) (seq : U16)
    (origin : PtpTime) : OnlyOutOfBounds (patchMessage ptp clockIdentity seq origin) :=
  .bind (.index _ _) fun _ => .bind (.assign _ _ _) fun _ => .bind (.assign _ _ _) fun _ =>
    .bind (.assign _ _ _) fun _ => .bind (.assign _ _ _) fun _ => .bind (.copyInto _ _ _ _) fun _ =>
      .bind (.copyInto _ _ _ _) fun _ => .bind (.copyInto _ _ _ _) fun _ =>
        .bind (.copyInto _ _ _ _) fun _ => .copyInto _ _ _ _

/-- The last write needs 44 bytes. -/
theorem patchMessage_short (clockIdentity : Bytes 8) (seq : U16) (origin : PtpTime)
    (short : ptp.length < 44) :
    patchMessage ptp clockIdentity seq origin = .error .outOfBounds := by
  cases run : patchMessage ptp clockIdentity seq origin with
  | error p => rw [patchMessage_onlyOutOfBounds ptp clockIdentity seq origin p run]
  | ok patched =>
    rcases Fallible.bind_eq_ok.mp run with ⟨b0, _, run⟩
    rcases Fallible.bind_eq_ok.mp run with ⟨ptp1, run1, run⟩
    rcases Fallible.bind_eq_ok.mp run with ⟨ptp2, run2, run⟩
    rcases Fallible.bind_eq_ok.mp run with ⟨ptp3, run3, run⟩
    rcases Fallible.bind_eq_ok.mp run with ⟨ptp4, run4, run⟩
    rcases Fallible.bind_eq_ok.mp run with ⟨ptp5, run5, run⟩
    rcases Fallible.bind_eq_ok.mp run with ⟨ptp6, run6, run⟩
    rcases Fallible.bind_eq_ok.mp run with ⟨ptp7, run7, run⟩
    rcases Fallible.bind_eq_ok.mp run with ⟨ptp8, run8, run⟩
    have length1 := (length_of_assign run1).2
    have length2 := (length_of_assign run2).2
    have length3 := (length_of_assign run3).2
    have length4 := (length_of_assign run4).2
    have length5 := (length_of_copyInto run5).2
    have length6 := (length_of_copyInto run6).2
    have length7 := (length_of_copyInto run7).2
    have length8 := (length_of_copyInto run8).2
    have fits := (length_of_copyInto run).1
    omega

/-- The writes to the addresses of a packet. -/
def addressPatch (packet : List U8) (ifaceMac : Bytes 6) : List (Nat × List U8) :=
  [(0, (packet.take 12).drop 6), (6, ifaceMac.toList)]

theorem addressPatch_fits (ifaceMac : Bytes 6) (long : ETH_HEADER_LEN ≤ packet.length) :
    ∀ w ∈ addressPatch packet ifaceMac, Patch.Fits packet w := by
  have header : ETH_HEADER_LEN = 14 := rfl
  unfold addressPatch Patch.Fits
  simp only [List.forall_mem_cons, List.length_drop, List.length_take, List.Vector.toList_length,
    List.not_mem_nil, false_imp_iff, implies_true, and_true]
  omega

/-- Nothing is written behind the addresses. -/
theorem addressPatch_apart (packet : List U8) (ifaceMac : Bytes 6) {i n : Nat}
    (begins : 12 ≤ i) : ∀ w ∈ addressPatch packet ifaceMac, Patch.Apart i n w := by
  unfold addressPatch Patch.Apart
  simp only [List.forall_mem_cons, List.length_drop, List.length_take, List.Vector.toList_length,
    List.not_mem_nil, false_imp_iff, implies_true, and_true]
  omega

/-- The message is patched as it lies in the template. -/
theorem patchPacket_eq_bind (ifaceMac : Bytes 6) (seq : U16) (origin : PtpTime)
    (fits : ETH_HEADER_LEN + messageLength ≤ packet.length) :
    patchPacket packet messageLength ifaceMac seq origin =
      (patchMessage ((packet.drop ETH_HEADER_LEN).take messageLength)
        (macToClockIdentity ifaceMac) seq origin >>= fun ptp =>
          copyInto (Patch.writeAll packet (addressPatch packet ifaceMac)) ETH_HEADER_LEN
            (ETH_HEADER_LEN + messageLength) ptp) := by
  have header : ETH_HEADER_LEN = 14 := rfl
  have source : ((packet.take 12).drop 6).length = 6 := by
    simp
    omega
  have addressed := addressPatch_fits ifaceMac (by omega : ETH_HEADER_LEN ≤ packet.length)
  have message : ((Patch.writeAll packet (addressPatch packet ifaceMac)).take
      (ETH_HEADER_LEN + messageLength)).drop ETH_HEADER_LEN =
        (packet.drop ETH_HEADER_LEN).take messageLength := by
    rw [List.drop_take, Nat.add_sub_cancel_left]
    exact Patch.writeAll_of_apart addressed (addressPatch_apart packet ifaceMac (by omega))
  have copies : (copyInto packet 0 6 ((packet.take 12).drop 6) >>= fun packet1 =>
      copyInto packet1 6 12 ifaceMac.toList) =
        .ok (Patch.writeAll packet (addressPatch packet ifaceMac)) := by
    rw [← copyAll_eq addressed]
    unfold copyAll addressPatch
    simp only [List.foldlM_cons, List.foldlM_nil, bind_pure, source, List.Vector.toList_length]
  unfold patchPacket
  rw [slice_eq (by omega) (by omega : 12 ≤ packet.length), Fallible.ok_bind,
    copyFromSlice_eq source, Fallible.ok_bind]
  rcases Fallible.bind_eq_ok.mp copies with ⟨packet1, destination, own⟩
  change (copyInto packet 0 6 ((packet.take 12).drop 6) >>= _) = _
  rw [destination, Fallible.ok_bind, own, Fallible.ok_bind, slice_eq (by omega) (by
    rw [Patch.length_writeAll addressed]
    exact fits), Fallible.ok_bind, message]

/-- The packet is as long as the template. -/
theorem patchPacket_returns (ifaceMac : Bytes 6) (seq : U16) (origin : PtpTime)
    (fits : ETH_HEADER_LEN + messageLength ≤ packet.length) :
    (44 ≤ messageLength → ∃ patched, patchPacket packet messageLength ifaceMac seq origin =
        .ok patched ∧ patched.length = packet.length) ∧
      (messageLength < 44 →
        patchPacket packet messageLength ifaceMac seq origin = .error .outOfBounds) := by
  have length : ((packet.drop ETH_HEADER_LEN).take messageLength).length = messageLength := by
    simp
    omega
  have addressed := addressPatch_fits ifaceMac (Nat.le_of_add_right_le fits)
  rw [patchPacket_eq_bind ifaceMac seq origin fits]
  refine ⟨?_, ?_⟩
  · intro long
    rcases patchMessage_returns (macToClockIdentity ifaceMac) seq origin
      (long.trans_eq length.symm) with ⟨ptp, run, same⟩
    rw [run, Fallible.ok_bind]
    rcases copyInto_returns (Patch.writeAll packet (addressPatch packet ifaceMac)) ptp
      (Nat.le_add_right ETH_HEADER_LEN messageLength)
      (fits.trans_eq (Patch.length_writeAll addressed).symm) (by omega) with
      ⟨patched, written, kept⟩
    exact ⟨patched, written, kept.trans (Patch.length_writeAll addressed)⟩
  · intro short
    rw [patchMessage_short _ _ _ (length.trans_lt short)]
    rfl

/-- The stored frame ends where the stored header says that the message ends. -/
def SyncTimes.TemplateFits (times : SyncTimes) : Prop :=
  ∀ header, times.lastHeader = some header → ∃ frame, times.lastFrame = some frame ∧
    frame.length = ETH_HEADER_LEN + header.messageLength.toNat

/-- There is a stored message, and it is too short to be patched. -/
def SyncTimes.ShortTemplate (times : SyncTimes) : Prop :=
  ∃ header, times.lastHeader = some header ∧ header.messageLength.toNat < 44

theorem buildDelayReqPacket_spec {times : SyncTimes} (ifaceMac : Bytes 6) (seq : U16)
    (origin : PtpTime) (template : times.TemplateFits) :
    (times.ShortTemplate →
        buildDelayReqPacket times ifaceMac seq origin = .error .outOfBounds) ∧
      (¬ times.ShortTemplate →
        ∃ packet, buildDelayReqPacket times ifaceMac seq origin = .ok packet ∧
          ∀ bytes ∈ packet, ETH_HEADER_LEN ≤ bytes.length) := by
  unfold buildDelayReqPacket SyncTimes.ShortTemplate
  cases stored : times.lastHeader with
  | none =>
    refine ⟨nofun, fun _ => ?_⟩
    cases times.lastFrame with
    | none => exact ⟨none, rfl, nofun⟩
    | some frame => exact ⟨none, rfl, nofun⟩
  | some header =>
    rcases template header stored with ⟨frame, storedFrame, length⟩
    rw [storedFrame]
    dsimp only
    rw [if_neg (by omega)]
    rcases patchPacket_returns ifaceMac seq origin length.ge with ⟨returns, panics⟩
    refine ⟨?_, ?_⟩
    · rintro ⟨header', same, short⟩
      cases same
      rw [panics short]
      rfl
    · intro long
      have enough : 44 ≤ header.messageLength.toNat := by
        rcases Nat.lt_or_ge header.messageLength.toNat 44 with short | enough
        · exact absurd ⟨header, rfl, short⟩ long
        · exact enough
      rcases returns enough with ⟨patched, run, same⟩
      rw [run]
      refine ⟨some patched, rfl, fun bytes member => ?_⟩
      cases member
      omega

theorem transmitFrame_eq {frame : List U8} (long : ETH_HEADER_LEN ≤ frame.length)
    (transmitted : Bool) : transmitFrame frame transmitted = .ok transmitted := by
  have header : ETH_HEADER_LEN = 14 := rfl
  have destination : ((frame.take 6).drop 0).length = 6 := by
    simp
    omega
  unfold transmitFrame
  rw [if_neg (Nat.not_lt_of_ge long), slice_eq (by omega) (by omega), Fallible.ok_bind,
    copyFromSlice_eq destination, Fallible.ok_bind]
  rfl

/-! ## Sending -/

/-- Sending panics exactly when there is a hardware timestamp and the stored message is too short,
and then for a range out of bounds. -/
theorem sendDelayRequest_error_iff {config : Config} {m : Monitor} {env : SendEnv} {p : Panic}
    (template : m.lastSync.TemplateFits) :
    sendDelayRequest config m env = .error p ↔
      p = .outOfBounds ∧ m.tsTracker.lastHwTs ≠ none ∧ m.lastSync.ShortTemplate := by
  unfold sendDelayRequest TimestampTracker.lastFullTimestamp TimestampTracker.lastComponents
  cases m.tsTracker.lastHwTs with
  | none => simp
  | some hwTs =>
    dsimp only [Option.map_some]
    rcases buildDelayReqPacket_spec config.ifaceMac m.delayReqSeq (.fromNs
      ((some (TimestampTracker.fullTimestamp m.tsTracker.swTsNs hwTs)).getD
        (TimestampTracker.fullTimestamp m.tsTracker.swTsNs
          (hwTs &&& TimestampTracker.MASK_48)))) template with ⟨panics, returns⟩
    rcases Classical.em m.lastSync.ShortTemplate with short | long
    · rw [panics short, Fallible.error_bind]
      simp [short, eq_comm]
    · rcases returns long with ⟨packet, built, lengths⟩
      rw [built, Fallible.ok_bind]
      cases packet with
      | none => simp [pure, Except.pure, long]
      | some bytes =>
        dsimp only
        rw [transmitFrame_eq (lengths bytes rfl), Fallible.ok_bind]
        cases env.transmitted with
        | true => simp [pure, Except.pure, long]
        | false => simp [pure, Except.pure, long]

/-- The capture either sets `t3` together with the sequence id of the Delay_Req, or leaves the times
alone. -/
theorem captureEgressTs_cases (m : Monitor) (reads : Nat → Option DelayReqTimestamp) :
    (captureEgressTs m reads).2.seq = m.delayReqSeq ∧
      (captureEgressTs m reads).1.state = m.state ∧
      (captureEgressTs m reads).1.delayReqSeq = m.delayReqSeq + 1 ∧
      ((∃ t3 id, (captureEgressTs m reads).2.t3 = some t3 ∧
          (captureEgressTs m reads).1.lastSync = { m.lastSync with
            t3 := some t3, delayReqSeq := some m.delayReqSeq, lastEgressTsId := some id }) ∨
        (captureEgressTs m reads).2.t3 = none ∧
          (captureEgressTs m reads).1.lastSync = m.lastSync) := by
  unfold captureEgressTs
  cases readEgressTs m.lastSync.lastEgressTsId reads (List.range 5) with
  | some ts => exact ⟨rfl, rfl, rfl, .inl ⟨_, ts.id, rfl, rfl⟩⟩
  | none => exact ⟨rfl, rfl, rfl, .inr ⟨rfl, rfl⟩⟩

/-- Sending changes nothing, or transmits a Delay_Req and captures its egress time. -/
theorem sendDelayRequest_eq_ok {config : Config} {m m' : Monitor} {env : SendEnv}
    {delayReq : Option DelayReq} (run : sendDelayRequest config m env = .ok (m', delayReq)) :
    (m' = m ∧ delayReq = none) ∨
      (m' = (captureEgressTs m env.reads).1 ∧
        delayReq = some (captureEgressTs m env.reads).2) := by
  unfold sendDelayRequest at run
  split at run
  · cases run
    exact .inl ⟨rfl, rfl⟩
  · rcases Fallible.bind_eq_ok.mp run with ⟨packet, _, run⟩
    cases packet with
    | none =>
      cases run
      exact .inl ⟨rfl, rfl⟩
    | some bytes =>
      rcases Fallible.bind_eq_ok.mp run with ⟨transmitted, _, run⟩
      cases transmitted with
      | true =>
        cases run
        exact .inr ⟨rfl, rfl⟩
      | false =>
        cases run
        exact .inl ⟨rfl, rfl⟩

end P4Tas.Ptp
