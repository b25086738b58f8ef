import P4Tas.Frame.PtpFrame

/-!
# The correction field of a message

A transparent clock adds the time a message spends in it to the correction field.  The ingress
pipeline subtracts the ingress time and the MAC adds the egress time, but only to the copies that
pass through.  The correction field of the other copies is reset, the corrections of upstream clocks
with it.

* `TxMac`: the MAC, of which nothing is used but that it adds the egress time;
* `correction_kept_iff`: the copies with the right correction field;
* `upstream_correction_lost`: a Follow_Up that comes to the controller without its correction.
-/

namespace P4Tas.Frame

open DataPlane.Parser (RECIRCULATION_PORTS)
open Header (emit extract)
open Ptp (Populated Stamps Subtracts Adds Captures)

/-- The eight bytes at an offset. -/
def correctionField (offset : Nat) (frame : List U8) : BitVec 64 :=
  BitVec.ofNat 64 (BigEndian.value ((frame.drop offset).take 8))

/-- A correction is in units of `2 ^ -16` ns. -/
def wholeNs (correction : BitVec 64) : BitVec 48 :=
  correction.extractLsb' 16 48

theorem correctionField_append {offset : Nat} {before : List U8} (there : before.length = offset)
    (h : PtpCorrectionField) (rest : List U8) :
    correctionField offset (before ++ (emit h ++ rest)) = h.cf := by
  have size : (emit h).length = 8 := Header.length_emit h
  unfold correctionField
  rw [List.drop_left' there, List.take_left' size, Header.value_emit, BitVec.ofNat_toNat]
  exact BitVec.setWidth_eq _

@[simp] theorem wholeNs_zero : wholeNs 0 = 0 := by
  decide

theorem wholeNs_timestamp (ts : BitVec 48) : wholeNs (PTP.ingressTimestamp ts) = ts :=
  BitVec.extractLsb'_append_eq_left

/-- Whole nanoseconds are subtracted without a carry from the fraction. -/
theorem wholeNs_sub (correction : BitVec 64) (ts : BitVec 48) :
    wholeNs (correction - PTP.ingressTimestamp ts) = wholeNs correction - ts := by
  apply BitVec.eq_of_toNat_eq
  unfold wholeNs
  simp only [BitVec.extractLsb'_toNat, BitVec.toNat_sub, PTP.ingressTimestamp_toNat,
    Nat.shiftRight_eq_div_pow]
  omega

/-! ## The MAC -/

/-- The MAC that sends a frame without a correction field: it makes a frame whose correction field,
at the given offset, is the given correction and the egress time. -/
structure TxMac where
  update : PtpMetadata → BitVec 48 → List U8 → List U8
  adds : ∀ metadata egressTs frame, metadata.cfByteOffset.toNat ≤ frame.length →
    wholeNs (correctionField metadata.cfByteOffset.toNat (update metadata egressTs frame)) =
      metadata.updatedCf + egressTs

namespace TxMac

/-- Sends a copy. -/
def send (mac : TxMac) (egressTs : BitVec 48) (copy : Copy) : List U8 :=
  if copy.updateDelayOnTx = 1 then
    match (extract copy.bytes : Option (PtpMetadata × List U8)) with
    | some (metadata, frame) => mac.update metadata egressTs frame
    | none => copy.bytes
  else
    copy.bytes

theorem send_eq (mac : TxMac) (egressTs : BitVec 48) {copy : Copy}
    (plain : copy.updateDelayOnTx = 0) : mac.send egressTs copy = copy.bytes := by
  unfold send
  rw [plain]
  exact if_neg (by decide)

/-- The MAC that inserts the correction field, without a fraction of a nanosecond. -/
def inserting : TxMac where
  update metadata egressTs frame :=
    frame.take metadata.cfByteOffset.toNat ++
      (emit (⟨PTP.ingressTimestamp (metadata.updatedCf + egressTs)⟩ : PtpCorrectionField) ++
        frame.drop metadata.cfByteOffset.toNat)
  adds := by
    intro metadata egressTs frame long
    rw [correctionField_append (List.length_take_of_le long)]
    exact wholeNs_timestamp _

end TxMac

/-! ## The copies of a message -/

/-- The correction field of a message, where it lies. -/
theorem PtpFrame.correctionField_bytes (frame : PtpFrame) :
    correctionField 22 frame.bytes = frame.cf.cf := by
  have there : (emit frame.ethernet ++ emit frame.ptp1).length = 22 := by
    simp [Header.size]
  have split : frame.bytes =
      emit frame.ethernet ++ emit frame.ptp1 ++
        (emit frame.cf ++ (emit frame.ptp2 ++ frame.payload)) := by
    unfold PtpFrame.bytes
    rw [List.append_assoc]
  rw [split, correctionField_append there]

/-- The correction field of a copy that leaves the switch. -/
theorem PtpFrame.sent_correction (frame : PtpFrame) (mac : TxMac) (egressPort : BitVec 9)
    (egressTs : BitVec 48) :
    wholeNs (correctionField 22 (mac.send egressTs (frame.copy egressPort))) =
      if Adds frame.msgType frame.clockIdentity egressPort.toNat then
        wholeNs frame.cf.cf + egressTs
      else if Captures frame.msgType frame.clockIdentity egressPort.toNat then
        wholeNs frame.cf.cf
      else
        0 := by
  unfold PtpFrame.copy
  split
  · have long : 22 ≤ (emit frame.ethernet ++
        (emit frame.ptp1 ++ (emit frame.ptp2 ++ frame.payload))).length := by
      simp [Header.size]
      omega
    unfold TxMac.send
    rw [if_pos rfl, Header.extract_append]
    exact mac.adds frame.metadata egressTs _ long
  · split
    · rw [mac.send_eq egressTs rfl, frame.correctionField_bytes]
    · rw [mac.send_eq egressTs rfl, PtpFrame.correctionField_bytes, wholeNs_zero]

/-- The correction field the ingress pipeline hands on. -/
theorem PtpFrame.received_correction (frame : PtpFrame) (ingressTs : BitVec 48) :
    wholeNs (frame.received ingressTs).cf.cf =
      if Subtracts frame.msgType frame.clockIdentity then
        wholeNs frame.cf.cf - ingressTs
      else
        wholeNs frame.cf.cf := by
  unfold PtpFrame.received
  split
  · rename_i stamps
    rw [if_neg stamps.not_subtracts]
  · split
    · exact wholeNs_sub _ _
    · rfl

theorem PtpFrame.received_msgType (frame : PtpFrame) (ingressTs : BitVec 48) :
    (frame.received ingressTs).msgType = frame.msgType := by
  unfold PtpFrame.received
  split
  · rfl
  · split
    · rfl
    · rfl

theorem PtpFrame.received_clockIdentity (frame : PtpFrame) (ingressTs : BitVec 48) :
    (frame.received ingressTs).clockIdentity = frame.clockIdentity := by
  unfold PtpFrame.received
  split
  · rfl
  · split
    · rfl
    · rfl

theorem PtpFrame.copy_updateDelayOnTx (frame : PtpFrame) (egressPort : BitVec 9) :
    (frame.copy egressPort).updateDelayOnTx = 1 ↔
      Adds frame.msgType frame.clockIdentity egressPort.toNat := by
  unfold PtpFrame.copy
  split
  · rename_i adds
    exact iff_of_true rfl adds
  · rename_i other
    split
    · exact iff_of_false (by decide : ¬ (0 : BitVec 1) = 1) other
    · exact iff_of_false (by decide : ¬ (0 : BitVec 1) = 1) other

/-! ## The transparent clock -/

/-- The whole nanoseconds a copy is to leave with: the residence time is added where the MAC updates
the correction, and no other correction changes. -/
def PtpFrame.dueNs (frame : PtpFrame) (ingressTs egressTs : BitVec 48) (copy : Copy) : BitVec 48 :=
  if copy.updateDelayOnTx = 1 then
    wholeNs frame.cf.cf + (egressTs - ingressTs)
  else
    wholeNs frame.cf.cf

theorem PtpFrame.kept_iff (frame : PtpFrame) (mac : TxMac) (egressPort : BitVec 9)
    (ingressTs egressTs : BitVec 48) :
    wholeNs (correctionField 22 (mac.send egressTs ((frame.received ingressTs).copy egressPort))) =
        frame.dueNs ingressTs egressTs ((frame.received ingressTs).copy egressPort) ↔
      Adds frame.msgType frame.clockIdentity egressPort.toNat ∨
        Captures frame.msgType frame.clockIdentity egressPort.toNat ∨
        wholeNs frame.cf.cf = 0 := by
  have updates := (frame.received ingressTs).copy_updateDelayOnTx egressPort
  rw [frame.received_msgType, frame.received_clockIdentity] at updates
  unfold dueNs
  rw [sent_correction, frame.received_msgType, frame.received_clockIdentity,
    frame.received_correction]
  split
  · rename_i adds
    rw [if_pos adds.subtracts, if_pos (updates.mpr adds)]
    refine iff_of_true ?_ (.inl adds)
    rw [BitVec.sub_eq_add_neg, BitVec.sub_eq_add_neg, BitVec.add_assoc,
      BitVec.add_comm (-ingressTs)]
  · rename_i notAdds
    rw [if_neg fun updated => notAdds (updates.mp updated), or_iff_right notAdds]
    split
    · rename_i captures
      rw [if_neg captures.not_subtracts]
      exact iff_of_true rfl (.inl captures)
    · rename_i notCaptures
      rw [or_iff_right notCaptures]
      exact eq_comm

/-- The correction of a copy is right when the MAC updates it, when the copy is our own Delay_Req on
its way to the master, and otherwise only when no correction was received. -/
theorem correction_kept_iff {switch : Switch} (populated : Populated switch.tables) (mac : TxMac)
    {ingressPort : BitVec 9} (ordinary : Ordinary ingressPort) (frame : PtpFrame)
    (ingressTs egressTs : BitVec 48) {copy : Copy}
    (member : copy ∈ switch.process ingressPort ingressTs frame.bytes)
    (leaves : copy.egressPort ∉ RECIRCULATION_PORTS) :
    wholeNs (correctionField 22 (mac.send egressTs copy)) =
        frame.dueNs ingressTs egressTs copy ↔
      Adds frame.msgType frame.clockIdentity copy.egressPort.toNat ∨
        Captures frame.msgType frame.clockIdentity copy.egressPort.toNat ∨
        wholeNs frame.cf.cf = 0 := by
  have made := ((frame.mem_process populated ordinary ingressTs leaves).mp member).2
  generalize copy.egressPort = egressPort at made ⊢
  rw [made]
  exact frame.kept_iff mac egressPort ingressTs egressTs

theorem correction_kept_iff_sample :
    wholeNs (correctionField 22 (TxMac.inserting.send 900
        (((masterMessage 8 44 0x50000 []).received 500).copy 8))) = 405 :=
  (correction_kept_iff sampleSwitch_populated .inserting (by decide : Ordinary 320)
    (masterMessage 8 44 0x50000 []) 500 900
    (masterMessage_copy 8 44 0x50000 [] 500 (by decide)) (by decide)).mpr (.inl (by decide))

/-- A Follow_Up with a correction of 5 ns that comes to the controller without it. -/
theorem upstream_correction_lost :
    ∃ copy ∈ sampleSwitch.process 320 500 (masterMessage 8 44 0x50000 []).bytes,
      copy.egressPort.toNat = Ptp.CONTROL_PLANE_DEV_PORT ∧ copy.updateDelayOnTx = 0 ∧
        wholeNs (masterMessage 8 44 0x50000 []).cf.cf = 5 ∧
        ∀ mac : TxMac, ∀ egressTs, wholeNs (correctionField 22 (mac.send egressTs copy)) = 0 := by
  refine ⟨_, masterMessage_copy 8 44 0x50000 [] 500 (by decide : (4 : BitVec 9) ∈ _), ?_⟩
  refine ⟨by decide, by decide, by decide, fun mac egressTs => ?_⟩
  rw [PtpFrame.sent_correction, if_neg (by decide), if_neg (by decide)]

end P4Tas.Frame
