import P4Tas.Ptp.Bounds
import P4Tas.Ptp.Provenance

/-!
# What a Delay_Req says

A Delay_Req is built from the last Sync, whose frame and header the monitor stores.

* `run_template`: in every reachable state the template is the last Sync;
* `messagePatch_separate`: the writes to the message do not overlap, so each is read back;
* `buildDelayReqPacket_request`: what the parser reads from the packet, and which of its bytes are
  the Sync's.
-/

namespace P4Tas.Ptp

open History (held)
open Transition (Run)

/-! ## The template -/

/-- The frame of a Sync, and its header. -/
def Event.sync (e : Event) : Option (List U8 × PtpHeader) :=
  match e.input, e.handled with
  | .frame bytes _ _, .sync h _ => some (bytes, h)
  | _, _ => none

/-- The last Sync. -/
abbrev lastSyncFrame (es : List Event) : Option (List U8 × PtpHeader) :=
  held Event.sync (fun _ => false) es

/-- The header was parsed from the frame, and the message ends in it. -/
structure FrameOf (bytes : List U8) (h : PtpHeader) : Prop where
  parsed : PtpHeader.parse (bytes.drop ETH_HEADER_LEN) = .ok (some h)
  fits : ETH_HEADER_LEN + h.messageLength.toNat ≤ bytes.length
  ofType : h.msgType = PTP_SYNC

/-- The template is the last Sync, without what is appended to the message. -/
structure Template (es : List Event) (m : Monitor) : Prop where
  frame : m.lastSync.lastFrame = (lastSyncFrame es).map fun (bytes, h) =>
    bytes.take (ETH_HEADER_LEN + h.messageLength.toNat)
  header : m.lastSync.lastHeader = (lastSyncFrame es).map Prod.snd
  source : ∀ bytes h, lastSyncFrame es = some (bytes, h) → FrameOf bytes h

variable {config : Config} {m m' : Monitor} {e : Event} {es : List Event} {h : PtpHeader}
  {bytes : List U8}

theorem handleFrame_sync {now : Nat} {t2 : Option PtpTime}
    (run : handleFrame config m bytes now = .ok (m', .sync h t2)) :
    FrameOf bytes h ∧
      m'.lastSync.lastFrame = some (bytes.take (ETH_HEADER_LEN + h.messageLength.toNat)) ∧
      m'.lastSync.lastHeader = some h := by
  rcases Fallible.bind_eq_ok.mp run with ⟨accepted, acceptRun, run⟩
  cases accepted with
  | none => cases run
  | some accepted =>
    rcases accepted with ⟨h', ptpFrame⟩
    rcases acceptFrame_eq_some acceptRun with ⟨parsed, fits, rfl⟩
    rcases handleMessage_eq_ok run with ⟨ofType, _, _, _, handled, rfl⟩ | ⟨_, _, handled, _⟩ |
      ⟨_, _, handled, _⟩ | ⟨_, handled, _⟩ | ⟨handled, _⟩
    · cases handled
      exact ⟨⟨parsed, fits, ofType⟩, rfl, rfl⟩
    · cases handled
    · cases handled
    · cases handled
    · cases handled

/-- What is not a Sync leaves the template alone. -/
theorem round_template {own : Bytes 8} {handled : Handled} {delayReq : Option DelayReq}
    (round : Round own m handled delayReq m') (other : ∀ h t2, handled ≠ .sync h t2) :
    m'.lastSync.lastFrame = m.lastSync.lastFrame ∧
      m'.lastSync.lastHeader = m.lastSync.lastHeader := by
  cases round with
  | ignored _ same _ => exact ⟨by rw [same], by rw [same]⟩
  | sync _ _ _ _ _ => exact absurd rfl (other _ _)
  | unmatched _ => exact ⟨rfl, rfl⟩
  | matched _ => exact ⟨rfl, rfl⟩
  | @requested h reads _ =>
    rcases captureEgressTs_cases (m.matched h) reads with ⟨_, _, _, captured | ⟨_, same⟩⟩
    · rcases captured with ⟨t3, id, _, same⟩
      exact ⟨by rw [same]; rfl, by rw [same]; rfl⟩
    · exact ⟨by rw [same]; rfl, by rw [same]; rfl⟩
  | @delayResp h =>
    rcases handleDelayResp_cases m.lastSync h own with
      rejected | stored | ⟨t1, t2, t3, _, _, _, _, _, taken⟩
    · exact ⟨by rw [rejected], by rw [rejected]⟩
    · exact ⟨by rw [stored], by rw [stored]⟩
    · exact ⟨by rw [taken]; rfl, by rw [taken]; rfl⟩

theorem lastSyncFrame_append (e : Event) :
    lastSyncFrame (es ++ [e]) = e.sync.or (lastSyncFrame es) :=
  History.held_append_singleton

theorem step_template (template : Template es m) (taken : step config m e m') :
    Template (es ++ [e]) m' := by
  cases written : e.sync with
  | some sync =>
    rcases sync with ⟨bytes, h⟩
    unfold Event.sync at written
    split at written
    · rename_i bytes' now env h' t2 input handled
      cases written
      have quiet : ∀ h, e.handled ≠ .followUp h true := by simp [handled]
      have framed := step_handleFrame taken input quiet
      rw [handled] at framed
      rcases handleFrame_sync framed with ⟨frameOf, storedFrame, storedHeader⟩
      have last : lastSyncFrame (es ++ [e]) = some (bytes, h) := by
        rw [lastSyncFrame_append, Event.sync, input, handled, Option.some_or]
      exact {
        frame := by rw [storedFrame, last]; rfl
        header := by rw [storedHeader, last]; rfl
        source := by
          intro bytes' h' same
          cases last.symm.trans same
          exact frameOf }
    · cases written
  | none =>
    have last : lastSyncFrame (es ++ [e]) = lastSyncFrame es := by
      rw [lastSyncFrame_append, written, Option.none_or]
    have other : ∀ h t2, e.handled ≠ .sync h t2 := by
      intro h t2 handled
      cases input : e.input with
      | tick now =>
        unfold step at taken
        rw [input, handled] at taken
        cases taken
      | frame bytes now env =>
        unfold Event.sync at written
        rw [input, handled] at written
        cases written
    rcases round_template (step_round taken) other with ⟨frame, header⟩
    exact {
      frame := by rw [frame, last, template.frame]
      header := by rw [header, last, template.header]
      source := by
        rw [last]
        exact template.source }

theorem run_template {swTsNs : U16} (run : Run (step config) (Monitor.new swTsNs) es m) :
    Template es m :=
  run.history ⟨rfl, rfl, nofun⟩ fun _ _ _ _ template taken => step_template template taken

/-! ## The message -/

variable {ptp : List U8} {clockIdentity : Bytes 8} {seq : U16} {origin : PtpTime}

/-- No two writes overlap. -/
theorem messagePatch_separate (b0 : U8) (clockIdentity : Bytes 8) (seq : U16) (origin : PtpTime) :
    Patch.Separate (messagePatch b0 clockIdentity seq origin) := by
  unfold messagePatch Patch.Separate Patch.Apart
  simp only [List.pairwise_cons, List.forall_mem_cons, List.length_singleton,
    List.length_replicate, List.Vector.toList_length, List.not_mem_nil, false_imp_iff,
    implies_true, List.Pairwise.nil, and_true]
  omega

/-- The part of a message that is not written to. -/
def Kept (i n : Nat) : Prop :=
  (1 ≤ i ∧ i + n ≤ 8) ∨ (16 ≤ i ∧ i + n ≤ 20) ∨ (33 ≤ i ∧ i + n ≤ 34) ∨ 44 ≤ i

theorem messagePatch_apart {i n : Nat} (b0 : U8) (clockIdentity : Bytes 8) (seq : U16)
    (origin : PtpTime) (kept : Kept i n) :
    ∀ w ∈ messagePatch b0 clockIdentity seq origin, Patch.Apart i n w := by
  unfold Kept at kept
  unfold messagePatch Patch.Apart
  simp only [List.forall_mem_cons, List.length_singleton, List.length_replicate,
    List.Vector.toList_length, List.not_mem_nil, false_imp_iff, implies_true, and_true]
  omega

/-! ## The header -/

/-- The header of a Delay_Req, by the header of the Sync it was built from. -/
structure Requests (h h' : PtpHeader) (ifaceMac : Bytes 6) (seq : U16) (ns : U64) : Prop where
  msgType : h'.msgType = PTP_DELAY_REQ
  sequenceId : h'.sequenceId = seq
  correctionField : h'.correctionField = 0
  sourcePortIdentity :
    h'.sourcePortIdentity.toList = (macToClockIdentity ifaceMac).toList ++ [0, 1]
  origin : h'.originTimestampSeconds.toNat * 1000000000 + h'.originTimestampNanoseconds.toNat =
    ns.toNat
  requestingPortIdentity : h'.requestingPortIdentity = none
  version : h'.version = h.version
  domain : h'.domain = h.domain
  flags : h'.flags = h.flags
  messageLength : h'.messageLength = h.messageLength

/-- The low four bits are the message type, and the high four bits stay. -/
theorem typeByte (b0 : U8) :
    (((b0 &&& 0xF0) ||| PTP_DELAY_REQ) &&& 0x0F) = PTP_DELAY_REQ ∧
      (((b0 &&& 0xF0) ||| PTP_DELAY_REQ) &&& 0xF0) = b0 &&& 0xF0 := by
  have low : (0xF0 &&& 0x0F : U8) = 0 ∧ (PTP_DELAY_REQ &&& 0x0F : U8) = PTP_DELAY_REQ := by decide
  have high : (0xF0 &&& 0xF0 : U8) = 0xF0 ∧ (PTP_DELAY_REQ &&& 0xF0 : U8) = 0 := by decide
  refine ⟨?_, ?_⟩
  · rw [BitVec.and_or_distrib_right, BitVec.and_assoc, low.1, low.2]
    simp
  · rw [BitVec.and_or_distrib_right, BitVec.and_assoc, high.1, high.2]
    simp

theorem fromBeBytes_seq (seq : U16) :
    fromBeBytes [(seq >>> 8).setWidth 8, (seq &&& 0xFF).setWidth 8] = seq.toNat := by
  have bound := seq.isLt
  have low : seq.toNat &&& (0xFF : U16).toNat = seq.toNat % 256 :=
    Nat.and_two_pow_sub_one_eq_mod seq.toNat 8
  simp only [fromBeBytes, List.foldl_cons, List.foldl_nil, BitVec.toNat_setWidth,
    BitVec.toNat_ushiftRight, BitVec.toNat_and, Nat.shiftRight_eq_div_pow, low]
  omega

theorem fromNs_parts (ns : U64) :
    (PtpTime.fromNs ns).seconds.toNat < 256 ^ 6 ∧
      (PtpTime.fromNs ns).seconds.toNat * 1000000000 + (PtpTime.fromNs ns).nanoseconds.toNat =
        ns.toNat := by
  have bound := ns.isLt
  have second : (1000000000 : U64).toNat = 1000000000 := rfl
  unfold PtpTime.fromNs
  simp only [BitVec.toNat_udiv, BitVec.toNat_umod, BitVec.toNat_setWidth, second]
  omega

/-- What the parser reads from a patched message. -/
theorem parse_patched {buf : List U8} (ifaceMac : Bytes 6) (seq : U16) (ns : U64) {b0 : U8}
    (long : 44 ≤ ptp.length) (parsed : PtpHeader.parse ptp = .ok (some h))
    (patched : Patch.IsPatched ptp
      (messagePatch b0 (macToClockIdentity ifaceMac) seq (.fromNs ns)) buf) :
    ∃ h', PtpHeader.parse buf = .ok (some h') ∧ Requests h h' ifaceMac seq ns := by
  have long' : 44 ≤ buf.length := long.trans_eq patched.length.symm
  have kept {i n : Nat} (kept : Kept i n) : (buf.drop i).take n = (ptp.drop i).take n :=
    patched.kept i n (messagePatch_apart _ _ _ _ kept)
  obtain ⟨rpi, _, fields⟩ := PtpHeader.parseFields_eq long
  obtain ⟨rpi', requested, fields'⟩ := PtpHeader.parseFields_eq long'
  have same := Option.some.inj (Except.ok.inj (parsed.symm.trans (PtpHeader.parse_eq long fields)))
  have byte {i : Nat} {x : U8} (inside : i < buf.length) (window : (buf.drop i).take 1 = [x]) :
      buf[i] = x := by
    rw [List.take_one_drop_eq_of_lt_length inside] at window
    exact (List.cons.inj window).1
  have append {i m n : Nat} {xs ys : List U8} (front : (buf.drop i).take m = xs)
      (back : (buf.drop (i + m)).take n = ys) : (buf.drop i).take (m + n) = xs ++ ys := by
    rw [List.take_add, List.drop_drop, front, back]
  unfold messagePatch at patched
  have read := patched.read
  simp only [List.forall_mem_cons, List.length_singleton, List.length_replicate,
    List.Vector.toList_length, List.not_mem_nil, false_imp_iff, implies_true, and_true] at read
  obtain ⟨type, seqHigh, seqLow, _, correction, identity, port, seconds, nanoseconds⟩ := read
  have msgType : buf[0] &&& 0x0F = PTP_DELAY_REQ := by
    rw [byte (by omega) type]
    exact (typeByte b0).1
  have unwritten {i : Nat} (same : Kept i 1) (inside : i < 44 := by omega) : buf[i] = ptp[i] :=
    getElem_of_window (by omega) (by omega) (kept same).symm
  obtain ⟨small, total⟩ := fromNs_parts ns
  have nsSmall : (PtpTime.fromNs ns).nanoseconds.toNat < 256 ^ 4 :=
    (PtpTime.fromNs ns).nanoseconds.isLt
  refine ⟨_, PtpHeader.parse_eq long' fields', ?_⟩
  rw [same]
  exact {
    msgType := msgType
    sequenceId := by
      dsimp only
      rw [append seqHigh seqLow, List.singleton_append, fromBeBytes_seq, BitVec.ofNat_toNat,
        BitVec.setWidth_eq]
    correctionField := by
      dsimp only
      rw [correction]
      rfl
    sourcePortIdentity := by
      change (buf.take 30).drop 20 = _
      rw [List.drop_take]
      exact append identity port
    origin := by
      dsimp only
      rw [List.drop_take, seconds, nanoseconds, fromBeBytes_toBeBytes, fromBeBytes_toBeBytes,
        Nat.mod_eq_of_lt small, Nat.mod_eq_of_lt nsSmall,
        BitVec.ofNat_toNat, BitVec.ofNat_toNat, BitVec.setWidth_eq, BitVec.setWidth_eq]
      exact total
    requestingPortIdentity := by
      rw [msgType] at requested
      exact (Except.ok.inj requested).symm
    version := congrArg (· &&& 0x0F) (unwritten (.inl (by omega)))
    domain := unwritten (.inl (by omega))
    flags := congrArg (fun xs => BitVec.ofNat 16 (fromBeBytes xs)) (kept (.inl (by omega)))
    messageLength :=
      congrArg (fun xs => BitVec.ofNat 16 (fromBeBytes xs)) (kept (.inl (by omega))) }

/-! ## The packet -/

variable {packet sync : List U8} {ifaceMac : Bytes 6} {messageLength : Nat}

/-- The packet is patched by its addresses and a patched message. -/
theorem patchPacket_isPatched (ifaceMac : Bytes 6) (seq : U16) (origin : PtpTime)
    (fits : packet.length = ETH_HEADER_LEN + messageLength) (long : 44 ≤ messageLength) :
    ∃ patched b0 ptp, patchPacket packet messageLength ifaceMac seq origin = .ok patched ∧
      packet[ETH_HEADER_LEN]? = some b0 ∧
      Patch.IsPatched (packet.drop ETH_HEADER_LEN)
        (messagePatch b0 (macToClockIdentity ifaceMac) seq origin) ptp ∧
      Patch.IsPatched packet (addressPatch packet ifaceMac ++ [(ETH_HEADER_LEN, ptp)]) patched := by
  have header : ETH_HEADER_LEN = 14 := rfl
  have whole : (packet.drop ETH_HEADER_LEN).take messageLength = packet.drop ETH_HEADER_LEN :=
    List.take_of_length_le (by simp only [List.length_drop]; omega)
  have long' : 44 ≤ (packet.drop ETH_HEADER_LEN).length := by
    simp only [List.length_drop]
    omega
  have inside : ETH_HEADER_LEN < packet.length := by omega
  have first : index (packet.drop ETH_HEADER_LEN) 0 = .ok packet[ETH_HEADER_LEN] := by
    rw [index_eq (by omega), List.getElem_drop]
    rfl
  have message := Patch.writeAll_isPatched
    (messagePatch_separate packet[ETH_HEADER_LEN] (macToClockIdentity ifaceMac) seq origin)
    (messagePatch_fits _ _ _ _ long')
  have addressed := addressPatch_fits ifaceMac (by omega : ETH_HEADER_LEN ≤ packet.length)
  rw [patchPacket_eq_bind ifaceMac seq origin fits.ge, whole,
    patchMessage_eq (macToClockIdentity ifaceMac) seq origin long' first, Fallible.ok_bind]
  generalize Patch.writeAll (packet.drop ETH_HEADER_LEN) _ = ptp at message ⊢
  have length : ptp.length = messageLength := by
    rw [message.length, List.length_drop]
    omega
  have fitsAll : ∀ w ∈ addressPatch packet ifaceMac ++ [(ETH_HEADER_LEN, ptp)],
      Patch.Fits packet w := by
    intro w member
    rcases List.mem_append.mp member with address | body
    · exact addressed w address
    · rw [List.mem_singleton.mp body]
      change ETH_HEADER_LEN + ptp.length ≤ packet.length
      omega
  have separate : Patch.Separate (addressPatch packet ifaceMac ++ [(ETH_HEADER_LEN, ptp)]) := by
    unfold addressPatch Patch.Separate Patch.Apart
    simp only [List.cons_append, List.nil_append, List.pairwise_cons, List.forall_mem_cons,
      List.length_drop, List.length_take, List.Vector.toList_length, List.not_mem_nil,
      false_imp_iff, implies_true, List.Pairwise.nil, and_true]
    omega
  refine ⟨_, _, ptp, ?_, ?_, message, Patch.writeAll_isPatched separate fitsAll⟩
  · rw [Patch.writeAll_append]
    refine copyInto_eq_write ?_ (by rw [length])
    change ETH_HEADER_LEN + ptp.length ≤ _
    rw [Patch.length_writeAll addressed]
    omega
  · simp

/-- The packet is a Delay_Req for the time `ns` from the interface, in answer to the Sync. -/
structure DelayReqFor (sync : List U8) (h : PtpHeader) (ifaceMac : Bytes 6) (seq : U16) (ns : U64)
    (packet : List U8) : Prop where
  length : packet.length = ETH_HEADER_LEN + h.messageLength.toNat
  destination : packet.take 6 = (sync.drop 6).take 6
  source : (packet.drop 6).take 6 = ifaceMac.toList
  header : ∃ h', PtpHeader.parse (packet.drop ETH_HEADER_LEN) = .ok (some h') ∧
    Requests h h' ifaceMac seq ns
  control : packet[ETH_HEADER_LEN + 32]? = some 0x01
  /-- The high four bits beside the message type. -/
  typeByte : packet[ETH_HEADER_LEN]?.map (· &&& 0xF0) = sync[ETH_HEADER_LEN]?.map (· &&& 0xF0)
  others : ∀ i < packet.length, 12 ≤ i → (ETH_HEADER_LEN ≤ i → Kept (i - ETH_HEADER_LEN) 1) →
    packet[i]? = sync[i]?

theorem Requests.of_sameMessage {h1 h2 h' : PtpHeader} {ns : U64} (same : h1.SameMessage h2)
    (requests : Requests h1 h' ifaceMac seq ns) : Requests h2 h' ifaceMac seq ns :=
  { requests with
    version := requests.version.trans same.version.symm
    domain := requests.domain.trans same.domain.symm
    flags := requests.flags.trans same.flags.symm
    messageLength := requests.messageLength.trans same.messageLength.symm }

/-- The message of a frame is parsed alike without what is appended to it. -/
theorem FrameOf.parse_take (frameOf : FrameOf sync h) (long : 44 ≤ h.messageLength.toNat) :
    ∃ h', PtpHeader.parse ((sync.take (ETH_HEADER_LEN + h.messageLength.toNat)).drop
        ETH_HEADER_LEN) = .ok (some h') ∧ h'.SameMessage h := by
  have fits := frameOf.fits
  have body : (sync.take (ETH_HEADER_LEN + h.messageLength.toNat)).drop ETH_HEADER_LEN =
      (sync.drop ETH_HEADER_LEN).take h.messageLength.toNat := by
    rw [List.drop_take, Nat.add_sub_cancel_left]
  have window {i n : Nat} (inside : i + n ≤ 44) :
      (((sync.drop ETH_HEADER_LEN).take h.messageLength.toNat).drop i).take n =
        ((sync.drop ETH_HEADER_LEN).drop i).take n := by
    rw [List.drop_take, List.take_take, Nat.min_eq_left (by omega)]
  rw [body]
  obtain ⟨h1, h2, parsed1, parsed2, same, _⟩ :=
    @PtpHeader.parse_same ((sync.drop ETH_HEADER_LEN).take h.messageLength.toNat)
      (sync.drop ETH_HEADER_LEN) (by simp only [List.length_take, List.length_drop]; omega)
      (by simp only [List.length_drop]; omega) (window (by omega)) (window (by omega))
  have parsed := frameOf.parsed
  rw [parsed2] at parsed
  cases parsed
  exact ⟨h1, parsed1, same⟩

/-- A Sync cut to its message and patched is a Delay_Req. -/
theorem DelayReqFor.of_patched {ns : U64} {b0 : U8} {ptp : List U8} (frameOf : FrameOf sync h)
    (long : 44 ≤ h.messageLength.toNat)
    (first : (sync.take (ETH_HEADER_LEN + h.messageLength.toNat))[ETH_HEADER_LEN]? = some b0)
    (message : Patch.IsPatched
      ((sync.take (ETH_HEADER_LEN + h.messageLength.toNat)).drop ETH_HEADER_LEN)
      (messagePatch b0 (macToClockIdentity ifaceMac) seq (.fromNs ns)) ptp)
    (patched : Patch.IsPatched (sync.take (ETH_HEADER_LEN + h.messageLength.toNat))
      (addressPatch (sync.take (ETH_HEADER_LEN + h.messageLength.toNat)) ifaceMac ++
        [(ETH_HEADER_LEN, ptp)]) packet) :
    DelayReqFor sync h ifaceMac seq ns packet := by
  have header : ETH_HEADER_LEN = 14 := rfl
  have fits := frameOf.fits
  have length : (sync.take (ETH_HEADER_LEN + h.messageLength.toNat)).length =
      ETH_HEADER_LEN + h.messageLength.toNat := List.length_take_of_le fits
  have body : packet.drop ETH_HEADER_LEN = ptp := by
    have read := patched.read (ETH_HEADER_LEN, ptp) (by simp)
    have whole : (packet.drop ETH_HEADER_LEN).length = ptp.length := by
      rw [message.length, List.length_drop, List.length_drop, patched.length]
    rwa [List.take_of_length_le whole.le] at read
  have inBody (i : Nat) : packet[ETH_HEADER_LEN + i]? = ptp[i]? := by
    rw [← body, List.getElem?_drop]
  have inSync {i : Nat} (inside : i < ETH_HEADER_LEN + h.messageLength.toNat) :
      (sync.take (ETH_HEADER_LEN + h.messageLength.toNat))[i]? = sync[i]? :=
    List.getElem?_take_of_lt inside
  exact {
    length := patched.length.trans length
    destination := by
      have read := patched.read (0, _) (List.mem_append_left _ List.mem_cons_self)
      have six : (((sync.take (ETH_HEADER_LEN + h.messageLength.toNat)).take 12).drop 6).length =
          6 := by
        simp only [List.length_drop, List.length_take]
        omega
      dsimp only at read
      rw [six, List.drop_zero] at read
      rw [read, List.take_take, Nat.min_eq_left (by omega), List.drop_take]
    source := by
      have read := patched.read (6, ifaceMac.toList) (by simp [addressPatch])
      rwa [List.Vector.toList_length] at read
    header := by
      rw [body]
      obtain ⟨h1, parsed, same⟩ := frameOf.parse_take long
      obtain ⟨h', parsed', requests⟩ := parse_patched ifaceMac seq ns
        (by simp only [List.length_drop]; omega) parsed message
      exact ⟨h', parsed', requests.of_sameMessage same⟩
    control := by
      rw [inBody]
      exact Patch.getElem?_of_window (message.read (32, [0x01]) (by simp [messagePatch]))
    typeByte := by
      have written := Patch.getElem?_of_window (message.read (0, [_]) List.mem_cons_self)
      rw [← inSync (by omega), first, ← Nat.add_zero ETH_HEADER_LEN, inBody, written]
      exact congrArg some (P4Tas.Ptp.typeByte b0).2
    others := by
      intro i inside begins kept
      have inTemplate : i < ETH_HEADER_LEN + h.messageLength.toNat := by
        rw [← length, ← patched.length]
        exact inside
      rw [← inSync inTemplate]
      rcases Nat.lt_or_ge i ETH_HEADER_LEN with front | back
      · refine patched.getElem? fun w member => ?_
        rcases List.mem_append.mp member with address | message
        · exact addressPatch_apart _ ifaceMac begins w address
        · rw [List.mem_singleton.mp message]
          exact .inl front
      · obtain ⟨j, rfl⟩ := Nat.exists_eq_add_of_le back
        rw [inBody, message.getElem? (messagePatch_apart _ _ _ _ (by simpa using kept back)),
          List.getElem?_drop] }

/-- A Delay_Req that is built in any reachable state, after a Sync of at least 44 bytes, for any
interface, sequence id and time. -/
theorem buildDelayReqPacket_request {swTsNs : U16}
    (run : Run (step config) (Monitor.new swTsNs) es m)
    (last : lastSyncFrame es = some (sync, h)) (long : 44 ≤ h.messageLength.toNat)
    (ifaceMac : Bytes 6) (seq : U16) (ns : U64) :
    ∃ packet, buildDelayReqPacket m.lastSync ifaceMac seq (.fromNs ns) = .ok (some packet) ∧
      DelayReqFor sync h ifaceMac seq ns packet := by
  have template := run_template run
  have frameOf := template.source sync h last
  have storedFrame := template.frame
  have storedHeader := template.header
  rw [last] at storedFrame storedHeader
  obtain ⟨packet, b0, ptp, built, first, message, patched⟩ :=
    patchPacket_isPatched ifaceMac seq (.fromNs ns) (List.length_take_of_le frameOf.fits) long
  refine ⟨packet, ?_, .of_patched frameOf long first message patched⟩
  unfold buildDelayReqPacket
  rw [storedFrame, storedHeader]
  dsimp only [Option.map_some]
  rw [if_neg (by simp only [List.length_take_of_le frameOf.fits]; omega), built]
  rfl

/-- After a Sync of 44 bytes, with 8 appended to them, and its Follow_Up. -/
theorem buildDelayReqPacket_request_sample :
    ∃ es m, loop sampleConfig (Monitor.new 0) [sampleSync 7 10, sampleFollowUp 7 1 (20, 1)] =
        .ok (es, m) ∧
      ∃ packet, buildDelayReqPacket m.lastSync sampleConfig.ifaceMac 1 (.fromNs 1000000005) =
          .ok (some packet) ∧ packet.length = 58 := by
  have evaluated : (loop sampleConfig (Monitor.new 0)
      [sampleSync 7 10, sampleFollowUp 7 1 (20, 1)]).toOption.any (fun r =>
        (lastSyncFrame r.1).any fun sync => sync.2.messageLength = 44) = true := by
    decide +kernel
  rcases Fallible.exists_of_any evaluated with ⟨⟨es, m⟩, looped, found⟩
  rcases (Option.any_eq_true _ _).mp found with ⟨⟨sync, h⟩, last, stated⟩
  have length : h.messageLength = 44 := of_decide_eq_true stated
  rcases buildDelayReqPacket_request (loop_eq_ok.mp looped).1 last (by rw [length]; decide)
    sampleConfig.ifaceMac 1 1000000005 with ⟨packet, built, request⟩
  exact ⟨es, m, looped, packet, built, request.length.trans (by rw [length]; rfl)⟩

end P4Tas.Ptp
