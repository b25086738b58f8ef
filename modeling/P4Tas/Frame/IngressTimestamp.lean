import P4Tas.Frame.PtpFrame
import P4Tas.Ptp.Monitor

/-!
# The ingress timestamp of a Sync

The ingress deparser emits the timestamp behind the origin timestamp of a Sync, before its TLVs.
The controller looks for it where the message ends, after `messageLength` bytes.

* `parse_delivered`: the message the controller parses, whatever was put behind it;
* `timestamp_read_iff`: when the controller finds the timestamp;
* `timestamp_before_tlvs`: a Sync with a TLV, of which it reads the end.
-/

namespace P4Tas.Frame

open Header (emit)
open Ptp (Populated Stamps Adds Captures PtpHeader extractIngressTimestamp ETH_HEADER_LEN
  APPENDED_TS_LEN)

namespace PtpFrame

/-- `messageLength` -/
def messageLength (frame : PtpFrame) : Nat :=
  frame.ptp1.msgLength.toNat

/-- What the frame has of the message behind its origin timestamp. -/
def tlvs (frame : PtpFrame) : List U8 :=
  frame.payload.take (frame.messageLength - 44)

/-- The message does not end behind the frame. -/
def Complete (frame : PtpFrame) : Prop :=
  frame.messageLength - 44 ≤ frame.payload.length

instance (frame : PtpFrame) : Decidable frame.Complete :=
  inferInstanceAs (Decidable (_ ≤ _))

end PtpFrame

/-- The timestamp as it lies in a frame. -/
def stamp (ts : BitVec 48) : List U8 :=
  BigEndian.bytes APPENDED_TS_LEN ts.toNat

/-- The controller reads the timestamp from the delivered frame, and the message that was
received. -/
def ReadsBack (received delivered : List U8) (ts : BitVec 48) : Prop :=
  ∃ h h', PtpHeader.parse (received.drop ETH_HEADER_LEN) = .ok (some h) ∧
    PtpHeader.parse (delivered.drop ETH_HEADER_LEN) = .ok (some h') ∧
    extractIngressTimestamp delivered h' = .ok (some (ts.setWidth 64)) ∧ h.SameMessage h'

/-! ## The delivered frame -/

theorem emit_timestamp (ts : BitVec 48) :
    emit (⟨PTP.ingressTimestamp ts >>> 16⟩ : GclTime) = stamp ts := by
  have shifted : (PTP.ingressTimestamp ts >>> 16).toNat = ts.toNat := by
    rw [BitVec.toNat_ushiftRight, PTP.ingressTimestamp_toNat, Nat.shiftRight_eq_div_pow]
    exact Nat.mul_div_cancel _ (Nat.two_pow_pos 16)
  exact congrArg (BigEndian.bytes 8) shifted

namespace PtpFrame

/-- The copy of a Sync for the controller. -/
theorem delivered_bytes (frame : PtpFrame) (stamps : Stamps frame.msgType frame.clockIdentity)
    (ts : BitVec 48) (egressPort : BitVec 9) :
    ((frame.received ts).copy egressPort).bytes =
      { frame with cf := ⟨0⟩, payload := stamp ts ++ frame.payload }.bytes := by
  have notAdds : ¬ Adds frame.msgType frame.clockIdentity egressPort.toNat :=
    fun adds => stamps.not_subtracts adds.subtracts
  have received : frame.received ts = { frame with payload := stamp ts ++ frame.payload } := by
    rw [← emit_timestamp]
    exact if_pos stamps
  rw [received]
  exact copy_missed notAdds stamps.not_captures

theorem length_bytes (frame : PtpFrame) : frame.bytes.length = 58 + frame.payload.length := by
  simp [bytes, Header.size]
  omega

/-- The message of a frame. -/
theorem drop_bytes (frame : PtpFrame) :
    frame.bytes.drop ETH_HEADER_LEN =
      emit frame.ptp1 ++ (emit frame.cf ++ (emit frame.ptp2 ++ frame.payload)) :=
  List.drop_left' (Header.length_emit frame.ethernet)

theorem drop_payload (frame : PtpFrame) (n : Nat) :
    frame.bytes.drop (58 + n) = frame.payload.drop n := by
  have size : (emit frame.ethernet ++
      (emit frame.ptp1 ++ (emit frame.cf ++ emit frame.ptp2))).length = 58 := by
    simp [Header.size]
  have split : frame.bytes =
      emit frame.ethernet ++ (emit frame.ptp1 ++ (emit frame.cf ++ emit frame.ptp2)) ++
        frame.payload := by
    simp [bytes]
  rw [← List.drop_drop, split, List.drop_left' size]

/-- The length the controller parses. -/
theorem parsed_length (frame : PtpFrame) :
    BitVec.ofNat 16 (fromBeBytes (((frame.bytes.drop ETH_HEADER_LEN).drop 2).take 2)) =
      frame.ptp1.msgLength := by
  have size : (emit frame.ptp1).length = 8 := Header.length_emit frame.ptp1
  have length : (Header.bits frame.ptp1).extractLsb' 32 16 = frame.ptp1.msgLength := by
    trans (frame.ptp1.msgLength ++ (frame.ptp1.domainNumber ++
      (frame.ptp1.minor ++ frame.ptp1.flags))).extractLsb' 32 16
    · iterate 4 refine Eq.trans (BitVec.extractLsb'_append_eq_of_add_le (by decide)) ?_
      rfl
    · exact BitVec.extractLsb'_append_eq_left
  rw [drop_bytes, List.drop_append_of_le_length (by omega), List.take_append_of_le_length
    (by simp [size])]
  unfold emit
  rw [BigEndian.drop_take_bytes (by decide), ← length]
  apply BitVec.eq_of_toNat_eq
  rw [BitVec.extractLsb'_toNat, BitVec.toNat_ofNat]
  refine (congrArg (· % 2 ^ 16) (BigEndian.value_bytes 2 _)).trans ?_
  exact Nat.mod_mod _ _

/-- The controller parses the message that was received. -/
theorem parse_delivered (frame : PtpFrame) (cf : PtpCorrectionField) (payload : List U8) :
    ∃ h h', PtpHeader.parse (frame.bytes.drop ETH_HEADER_LEN) = .ok (some h) ∧
      PtpHeader.parse ({ frame with cf, payload }.bytes.drop ETH_HEADER_LEN) = .ok (some h') ∧
      h.SameMessage h' ∧ h.messageLength = frame.ptp1.msgLength := by
  have long (frame : PtpFrame) : 44 ≤ (frame.bytes.drop ETH_HEADER_LEN).length := by
    have size : ETH_HEADER_LEN = 14 := rfl
    rw [List.length_drop, length_bytes]
    omega
  have front (frame : PtpFrame) :
      ((frame.bytes.drop ETH_HEADER_LEN).drop 0).take 8 = emit frame.ptp1 := by
    rw [drop_bytes]
    exact List.take_left' (Header.length_emit frame.ptp1)
  have back (frame : PtpFrame) :
      ((frame.bytes.drop ETH_HEADER_LEN).drop 16).take 28 = emit frame.ptp2 := by
    have size : (emit frame.ptp1 ++ emit frame.cf).length = 16 := by simp [Header.size]
    rw [drop_bytes, ← List.append_assoc, List.drop_left' size]
    exact List.take_left' (Header.length_emit frame.ptp2)
  obtain ⟨h, h', parsed, parsed', same, length⟩ :=
    PtpHeader.parse_same (long frame) (long { frame with cf, payload })
      ((front frame).trans (front { frame with cf, payload }).symm)
      ((back frame).trans (back { frame with cf, payload }).symm)
  exact ⟨h, h', parsed, parsed', same, length.trans frame.parsed_length⟩

end PtpFrame

/-! ## The controller -/

theorem stamp_eq_iff {xs : List U8} (length : xs.length = APPENDED_TS_LEN) {ts : BitVec 48} :
    BitVec.ofNat 64 (fromBeBytes xs) = ts.setWidth 64 ↔ xs = stamp ts := by
  have size : (256 : Nat) ^ APPENDED_TS_LEN = 2 ^ 64 := rfl
  have below : ts.toNat < 2 ^ 64 := by omega
  have small : BigEndian.value xs < 2 ^ 64 := by
    rw [← size, ← length]
    exact BigEndian.value_lt xs
  have number : BitVec.ofNat 64 (fromBeBytes xs) = ts.setWidth 64 ↔
      BigEndian.value xs = ts.toNat := by
    rw [← BitVec.toNat_inj, BitVec.toNat_ofNat, BitVec.toNat_setWidth, Nat.mod_eq_of_lt below]
    exact Eq.congr_left (Nat.mod_eq_of_lt small)
  unfold stamp
  rw [number]
  refine ⟨?_, ?_⟩
  · intro same
    rw [← same, ← length, BigEndian.bytes_value]
  · rintro rfl
    rw [BigEndian.value_bytes, size, Nat.mod_eq_of_lt below]

theorem length_stamp (ts : BitVec 48) : (stamp ts).length = APPENDED_TS_LEN :=
  BigEndian.length_bytes _ _

namespace PtpFrame

theorem Complete.length_tlvs {frame : PtpFrame} (complete : frame.Complete) :
    frame.tlvs.length = frame.messageLength - 44 :=
  List.length_take_of_le complete

/-- What lies behind the message when the timestamp was put before the TLVs. -/
theorem Complete.behind_message {frame : PtpFrame} (complete : frame.Complete) (ts : BitVec 48) :
    ((stamp ts ++ frame.payload).drop (frame.messageLength - 44)).take APPENDED_TS_LEN =
      (stamp ts ++ frame.tlvs).drop frame.tlvs.length := by
  have split : stamp ts ++ frame.payload =
      stamp ts ++ frame.tlvs ++ frame.payload.drop (frame.messageLength - 44) := by
    rw [List.append_assoc]
    exact congrArg (stamp ts ++ ·) (List.take_append_drop _ _).symm
  have size : ((stamp ts ++ frame.tlvs).drop frame.tlvs.length).length = APPENDED_TS_LEN := by
    rw [List.length_drop, List.length_append, length_stamp, Nat.add_sub_cancel]
  rw [split, ← complete.length_tlvs, List.drop_append_of_le_length (by simp),
    List.take_left' size]

/-- The controller reads what lies behind the message. -/
theorem readsBack_iff_extracted (frame : PtpFrame)
    (stamps : Stamps frame.msgType frame.clockIdentity) (long : 44 ≤ frame.messageLength)
    (ts : BitVec 48) (egressPort : BitVec 9) :
    ReadsBack frame.bytes ((frame.received ts).copy egressPort).bytes ts ↔
      let rest := (stamp ts ++ frame.payload).drop (frame.messageLength - 44)
      APPENDED_TS_LEN ≤ rest.length ∧
        BitVec.ofNat 64 (fromBeBytes (rest.take APPENDED_TS_LEN)) = ts.setWidth 64 := by
  obtain ⟨h, h', parsed, parsed', same, length⟩ :=
    frame.parse_delivered ⟨0⟩ (stamp ts ++ frame.payload)
  have window : ({ frame with cf := ⟨0⟩, payload := stamp ts ++ frame.payload }.bytes.drop
      (ETH_HEADER_LEN + h'.messageLength.toNat)) =
        (stamp ts ++ frame.payload).drop (frame.messageLength - 44) := by
    have header : ETH_HEADER_LEN = 14 := rfl
    have same' : h'.messageLength.toNat = frame.messageLength :=
      congrArg BitVec.toNat (same.messageLength.trans length)
    have split : ETH_HEADER_LEN + h'.messageLength.toNat = 58 + (frame.messageLength - 44) := by
      omega
    rw [split, drop_payload]
  have reads : ReadsBack frame.bytes ((frame.received ts).copy egressPort).bytes ts ↔
      extractIngressTimestamp ((frame.received ts).copy egressPort).bytes h' =
        .ok (some (ts.setWidth 64)) := by
    rw [frame.delivered_bytes stamps]
    refine ⟨?_, fun extracted => ⟨h, h', parsed, parsed', extracted, same⟩⟩
    rintro ⟨_, g, _, again, extracted, _⟩
    rw [parsed'] at again
    cases again
    exact extracted
  rw [reads, frame.delivered_bytes stamps, Ptp.extractIngressTimestamp_eq, window]
  dsimp only
  split
  · rename_i short
    exact iff_of_false nofun fun enough => absurd enough.1 (Nat.not_le.mpr short)
  · rename_i enough
    rw [and_iff_right (Nat.not_lt.mp enough), Except.ok.injEq, Option.some.injEq]

/-- The timestamp is found when the message, with the timestamp put before its TLVs, ends with
it. -/
theorem readsBack_iff (frame : PtpFrame)
    (stamps : Stamps frame.msgType frame.clockIdentity) (long : 44 ≤ frame.messageLength)
    (ts : BitVec 48) (egressPort : BitVec 9) :
    ReadsBack frame.bytes ((frame.received ts).copy egressPort).bytes ts ↔
      frame.Complete ∧ (stamp ts ++ frame.tlvs).drop frame.tlvs.length = stamp ts := by
  have enough : APPENDED_TS_LEN ≤
      ((stamp ts ++ frame.payload).drop (frame.messageLength - 44)).length ↔ frame.Complete := by
    have size : APPENDED_TS_LEN = 8 := rfl
    unfold Complete
    rw [List.length_drop, List.length_append, length_stamp]
    omega
  rw [frame.readsBack_iff_extracted stamps long]
  dsimp only
  rw [enough]
  refine and_congr_right fun complete => ?_
  rw [stamp_eq_iff (List.length_take_of_le (enough.mpr complete)), complete.behind_message]

end PtpFrame

theorem stamps_of_hit {tables : DataPlane.Tables} (populated : Populated tables)
    {frame : PtpFrame}
    (hit : (tables.lookup .ingressPtp frame.headers.fields).map Request.action =
      some .addIngressTs) : Stamps frame.msgType frame.clockIdentity := by
  rw [Ptp.ingress_action populated] at hit
  split at hit
  · rename_i stamps
    exact stamps
  · split at hit
    · cases hit
    · cases hit

/-- The controller reads the ingress time of a Sync exactly when the frame holds the message and, if
there are TLVs, their end and the timestamp happen to read like it. -/
theorem timestamp_read_iff {switch : Switch} (populated : Populated switch.tables)
    {ingressPort : BitVec 9} (ordinary : Ordinary ingressPort) (frame : PtpFrame)
    (hit : (switch.tables.lookup .ingressPtp frame.headers.fields).map Request.action =
      some .addIngressTs)
    (long : 44 ≤ frame.messageLength) (ts : BitVec 48) {copy : Copy}
    (member : copy ∈ switch.process ingressPort ts frame.bytes)
    (control : copy.egressPort.toNat = Ptp.CONTROL_PLANE_DEV_PORT) :
    ReadsBack frame.bytes copy.bytes ts ↔
      frame.Complete ∧ (stamp ts ++ frame.tlvs).drop frame.tlvs.length = stamp ts := by
  have port : copy.egressPort = 4 := BitVec.eq_of_toNat_eq control
  have leaves : copy.egressPort ∉ DataPlane.Parser.RECIRCULATION_PORTS := by
    rw [port]
    decide
  have made := ((frame.mem_process populated ordinary ts leaves).mp member).2
  generalize copy.egressPort = egressPort at made
  rw [made]
  exact frame.readsBack_iff (stamps_of_hit populated hit) long ts egressPort

/-- Without TLVs the timestamp is always found. -/
theorem PtpFrame.repeats_of_length {frame : PtpFrame} (length : frame.messageLength = 44)
    (ts : BitVec 48) :
    frame.Complete ∧ (stamp ts ++ frame.tlvs).drop frame.tlvs.length = stamp ts := by
  have none : frame.tlvs = [] := by
    unfold tlvs
    rw [length]
    rfl
  refine ⟨?_, ?_⟩
  · unfold Complete
    omega
  · rw [none, List.append_nil]
    rfl

theorem masterSync_hit (msgLength : BitVec 16) (payload : List U8) :
    (sampleSwitch.tables.lookup .ingressPtp
      (masterMessage 0 msgLength 0 payload).headers.fields).map Request.action =
        some .addIngressTs := by
  rw [Ptp.ingress_action sampleSwitch_populated]
  rfl

theorem timestamp_read_iff_sample :
    ReadsBack (masterMessage 0 44 0 [0, 0]).bytes
      (((masterMessage 0 44 0 [0, 0]).received 500).copy 4).bytes 500 :=
  (timestamp_read_iff sampleSwitch_populated (by decide : Ordinary 320) _
    (masterSync_hit 44 [0, 0]) (by decide) 500 (masterMessage_copy 0 44 0 [0, 0] 500 (by decide))
    rfl).mpr (PtpFrame.repeats_of_length rfl 500)

/-- A Sync with a TLV of ten bytes, of which the controller reads the last eight. -/
theorem timestamp_before_tlvs :
    ∃ copy ∈ sampleSwitch.process 320 500
        (masterMessage 0 54 0 [0, 3, 0, 6, 1, 2, 3, 4, 5, 6]).bytes,
      copy.egressPort.toNat = Ptp.CONTROL_PLANE_DEV_PORT ∧
        (masterMessage 0 54 0 [0, 3, 0, 6, 1, 2, 3, 4, 5, 6]).Complete ∧
        ¬ ReadsBack (masterMessage 0 54 0 [0, 3, 0, 6, 1, 2, 3, 4, 5, 6]).bytes copy.bytes 500 := by
  refine ⟨_, masterMessage_copy 0 54 0 _ 500 (by decide : (4 : BitVec 9) ∈ _), ?_⟩
  refine ⟨rfl, by decide, ?_⟩
  rw [PtpFrame.readsBack_iff _ (by decide) (by decide)]
  rintro ⟨_, repeats⟩
  exact absurd repeats (by decide)

end P4Tas.Frame
