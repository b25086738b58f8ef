import P4Tas.Frame.Pipeline

/-!
# The path of a PTP message

An untagged PTP message through the switch whose PTP tables hold the entries of the controller.  The
ingress pipeline stamps it, or subtracts the time from its correction field; the egress pipeline
treats each copy by its own port.

* `exists_ptpFrame`: the frames that the ingress pipeline takes for PTP;
* `mem_process`: the copies of a message.
-/

namespace P4Tas.Frame

open DataPlane.Parser (RECIRCULATION_PORTS PTP)
open Header (emit)
open Ptp (Populated Stamps Subtracts Adds Captures)

/-- An untagged frame with a PTP message; what follows the origin timestamp is the payload. -/
structure PtpFrame where
  ethernet : Ethernet
  ptp1 : Ptp1
  cf : PtpCorrectionField
  ptp2 : Ptp2
  payload : List U8
  isPtp : ethernet.etherType = PTP

namespace PtpFrame

def headers (frame : PtpFrame) : Headers :=
  { Headers.invalid with
    ethernet := some frame.ethernet
    ptp1 := some frame.ptp1
    ptpCorrectionField := some frame.cf
    ptp2 := some frame.ptp2 }

def bytes (frame : PtpFrame) : List U8 :=
  emit frame.ethernet ++ (emit frame.ptp1 ++ (emit frame.cf ++ (emit frame.ptp2 ++ frame.payload)))

def msgType (frame : PtpFrame) : Nat :=
  frame.ptp1.msgType.toNat

def clockIdentity (frame : PtpFrame) : Nat :=
  frame.ptp2.clockIdentity.toNat

variable {port : BitVec 9} {pkt payload : List U8} {hdr : Headers}

/-! ## Parsing -/

theorem parsed (frame : PtpFrame) (ordinary : Ordinary port) :
    switchIngressParser port frame.bytes = some (frame.headers, frame.payload) := by
  unfold bytes
  rw [switchIngressParser_ordinary ordinary, Ingress.parseEthernet_emit, frame.isPtp,
    if_neg (by decide), if_neg (by decide), if_neg (by decide), if_pos rfl]
  exact parsePtp_eq_some.mpr ⟨frame.ptp1, frame.cf, frame.ptp2, rfl, rfl⟩

theorem parsed_egress (frame : PtpFrame) (ordinary : port ∉ RECIRCULATION_PORTS) :
    switchEgressParser port frame.bytes = some (frame.headers, frame.payload) := by
  unfold bytes
  rw [switchEgressParser_ordinary ordinary, Egress.parseEthernet_emit, frame.isPtp,
    if_neg (by decide), if_neg (by decide), if_pos rfl]
  exact parsePtp_eq_some.mpr ⟨frame.ptp1, frame.cf, frame.ptp2, rfl, rfl⟩

/-! ## The ingress pipeline -/

/-- The message the ingress pipeline hands on. -/
def received (frame : PtpFrame) (ingressMacTstamp : BitVec 48) : PtpFrame :=
  let timestamp := PTP.ingressTimestamp ingressMacTstamp
  if Stamps frame.msgType frame.clockIdentity then
    { frame with payload := emit (⟨timestamp >>> 16⟩ : GclTime) ++ frame.payload }
  else if Subtracts frame.msgType frame.clockIdentity then
    { frame with cf := ⟨frame.cf.cf - timestamp⟩ }
  else
    frame

theorem ingress_deparse {tables : DataPlane.Tables} (populated : Populated tables)
    (frame : PtpFrame) (ingressMacTstamp : BitVec 48) :
    switchIngressDeparser
        (PTP.apply tables (PTP.ingressTimestamp ingressMacTstamp) frame.headers) ++ frame.payload =
      (frame.received ingressMacTstamp).bytes := by
  have msgType : frame.headers.fields .ptp1MsgType = frame.msgType := rfl
  have clockIdentity : frame.headers.fields .ptp2ClockIdentity = frame.clockIdentity := rfl
  unfold PTP.apply received
  rw [Ptp.ingress_action populated, msgType, clockIdentity]
  rcases Decidable.em (Stamps frame.msgType frame.clockIdentity) with stamps | other
  · simp [stamps, PTP.addIngressTs, switchIngressDeparser, headers, bytes, Headers.invalid]
  · rcases Decidable.em (Subtracts frame.msgType frame.clockIdentity) with subtracts | other'
    · simp [other, subtracts, PTP.writeIngressTsToCorrectionField, switchIngressDeparser, headers,
        bytes, Headers.invalid]
    · simp [other, other', switchIngressDeparser, headers, bytes, Headers.invalid]

/-- The control changes no field that the forwarding table matches. -/
theorem apply_fields (tables : DataPlane.Tables) (timestamp : BitVec 64) (hdr : Headers) :
    (PTP.apply tables timestamp hdr).fields = hdr.fields := by
  unfold PTP.apply
  split
  · rfl
  · rfl
  · rfl

/-- Where the forwarding table sends the message. -/
def forwarding (frame : PtpFrame) (switch : Switch) : TmMetadata :=
  Ingress.layer2Forwarding switch.tables frame.headers
    { ucastEgressPort := none, mcastGrpA := none }

theorem receive_eq {switch : Switch} (populated : Populated switch.tables)
    (ordinary : Ordinary port) (frame : PtpFrame) (ingressMacTstamp : BitVec 48) :
    switch.receive port ingressMacTstamp frame.bytes =
      some ((frame.received ingressMacTstamp).bytes, frame.forwarding switch) := by
  unfold Switch.receive forwarding Ingress.layer2Forwarding
  rw [frame.parsed ordinary, ← frame.ingress_deparse populated, ← apply_fields switch.tables
    (PTP.ingressTimestamp ingressMacTstamp) frame.headers]
  rfl

/-! ## The egress pipeline -/

/-- The metadata with which the MAC adds the egress time. -/
def metadata (frame : PtpFrame) : PtpMetadata where
  udpCksumByteOffset := 128
  cfByteOffset := 22
  updatedCf := frame.cf.cf.extractLsb' 16 48

/-- The copy for a port that does not recirculate. -/
def copy (frame : PtpFrame) (egressPort : BitVec 9) : Copy :=
  if Adds frame.msgType frame.clockIdentity egressPort.toNat then
    { egressPort
      bytes := emit frame.metadata ++
        (emit frame.ethernet ++ (emit frame.ptp1 ++ (emit frame.ptp2 ++ frame.payload)))
      updateDelayOnTx := 1
      captureTstampOnTx := 0 }
  else if Captures frame.msgType frame.clockIdentity egressPort.toNat then
    { egressPort
      bytes := frame.bytes
      updateDelayOnTx := 0
      captureTstampOnTx := 1 }
  else
    { egressPort
      bytes := { frame with cf := ⟨0⟩ }.bytes
      updateDelayOnTx := 0
      captureTstampOnTx := 0 }

theorem copy_missed {frame : PtpFrame} {egressPort : BitVec 9}
    (notAdds : ¬ Adds frame.msgType frame.clockIdentity egressPort.toNat)
    (notCaptures : ¬ Captures frame.msgType frame.clockIdentity egressPort.toNat) :
    (frame.copy egressPort).bytes = { frame with cf := ⟨0⟩ }.bytes := by
  unfold copy
  rw [if_neg notAdds, if_neg notCaptures]

theorem copy_egressPort (frame : PtpFrame) (egressPort : BitVec 9) :
    (frame.copy egressPort).egressPort = egressPort := by
  unfold copy
  split
  · rfl
  · split
    · rfl
    · rfl

/-- What the table makes of the message. -/
def egressPacket (frame : PtpFrame) (egressPort : BitVec 9) : EgressPacket :=
  let pkt : EgressPacket := { hdr := frame.headers, updateDelayOnTx := 0, captureTstampOnTx := 0 }
  if Adds frame.msgType frame.clockIdentity egressPort.toNat then
    Egress.enableTs6 22 pkt
  else if Captures frame.msgType frame.clockIdentity egressPort.toNat then
    Egress.enableTstampCapture pkt
  else
    Egress.resetCf pkt

theorem ptp_eq {tables : DataPlane.Tables} (populated : Populated tables) (frame : PtpFrame)
    (egressPort : BitVec 9) :
    Egress.ptp tables egressPort
        { hdr := frame.headers, updateDelayOnTx := 0, captureTstampOnTx := 0 } =
      frame.egressPacket egressPort := by
  have action : (tables.lookup .egressPtp (frame.headers.egressFields egressPort)).map
      (fun r => (r.action, r.actionData)) = _ :=
    Ptp.egress_action populated (frame.headers.egressFields egressPort)
  unfold Egress.ptp egressPacket
  dsimp only
  change _ = if Adds frame.msgType frame.clockIdentity egressPort.toNat then _
    else if Captures frame.msgType frame.clockIdentity egressPort.toNat then _ else _ at action
  split at action
  · rename_i adds
    obtain ⟨r, found, same⟩ := Option.map_eq_some_iff.mp action
    obtain ⟨here, data⟩ := Prod.mk.inj same
    have offset : DataPlane.param r .cfByteOffset 8 = 22 := by
      unfold DataPlane.param Request.data?
      rw [data]
      rfl
    rw [found, if_pos adds]
    simp only [here, offset]
  · rename_i notAdds
    rw [if_neg notAdds]
    split at action
    · rename_i captures
      obtain ⟨r, found, same⟩ := Option.map_eq_some_iff.mp action
      obtain ⟨here, _⟩ := Prod.mk.inj same
      rw [found, if_pos captures]
      simp only [here]
    · rename_i notCaptures
      rw [Option.map_eq_none_iff.mp action, if_neg notCaptures]

theorem egress_apply {tables : DataPlane.Tables} (populated : Populated tables) (frame : PtpFrame)
    (egressPort : BitVec 9) :
    Egress.apply tables egressPort frame.headers = some (frame.egressPacket egressPort) := by
  have data : ¬ Egress.Control frame.headers := by
    rintro ⟨timer, parsed, _⟩
    cases parsed
  have ptp : frame.headers.ptp1.isSome = true := rfl
  unfold Egress.apply
  rw [if_neg data, if_neg nofun, if_pos ptp, frame.ptp_eq populated]

theorem transmit_egressPort {switch : Switch} {copy : Copy}
    (transmitted : switch.transmit pkt port = some copy) : copy.egressPort = port := by
  obtain ⟨⟨hdr, payload⟩, _, rest⟩ := Option.bind_eq_some_iff.mp transmitted
  obtain ⟨packet, _, result⟩ := Option.bind_eq_some_iff.mp rest
  cases result
  rfl

theorem transmit_eq {switch : Switch} (populated : Populated switch.tables)
    (ordinary : port ∉ RECIRCULATION_PORTS) (frame : PtpFrame) :
    switch.transmit frame.bytes port = some (frame.copy port) := by
  unfold Switch.transmit
  rw [frame.parsed_egress ordinary]
  simp only [Option.bind_eq_bind, Option.bind_some, frame.egress_apply populated]
  unfold egressPacket copy
  split
  · simp [switchEgressDeparser, egressEmit, Egress.enableTs6, headers, metadata, Headers.invalid]
  · split
    · simp [switchEgressDeparser, egressEmit, Egress.enableTstampCapture, headers, bytes,
        Headers.invalid]
    · simp [switchEgressDeparser, egressEmit, Egress.resetCf, headers, bytes, Headers.invalid]

/-! ## The switch -/

/-- The copies are made from the received message, each for its own port. -/
theorem mem_process {switch : Switch} (populated : Populated switch.tables)
    (ordinary : Ordinary port) (frame : PtpFrame) (ingressMacTstamp : BitVec 48) {copy : Copy}
    (leaves : copy.egressPort ∉ RECIRCULATION_PORTS) :
    copy ∈ switch.process port ingressMacTstamp frame.bytes ↔
      copy.egressPort ∈ switch.ports (frame.forwarding switch) ∧
        copy = (frame.received ingressMacTstamp).copy copy.egressPort := by
  unfold Switch.process
  rw [frame.receive_eq populated ordinary]
  simp only [List.mem_filterMap]
  refine ⟨?_, ?_⟩
  · rintro ⟨egressPort, member, transmitted⟩
    have here := transmit_egressPort transmitted
    rw [here] at leaves ⊢
    rw [transmit_eq populated leaves] at transmitted
    exact ⟨member, (Option.some.inj transmitted).symm⟩
  · rintro ⟨member, made⟩
    refine ⟨copy.egressPort, member, ?_⟩
    rw [transmit_eq populated leaves, ← made]

/-- The frames the ingress pipeline takes for PTP are these. -/
theorem exists_ptpFrame (ordinary : Ordinary port)
    (accepted : switchIngressParser port pkt = some (hdr, payload)) (ptp : hdr.ptp1 ≠ none) :
    ∃ frame : PtpFrame, pkt = frame.bytes ∧ hdr = frame.headers ∧ payload = frame.payload := by
  rw [switchIngressParser_ordinary ordinary] at accepted
  obtain ⟨ethernet, rest, rfl, ⟨_, ip⟩ | ⟨_, tagged⟩ | ⟨_, labelled⟩ | ⟨isPtp, message⟩ |
    ⟨_, rfl, _⟩⟩ := Ingress.parseEthernet_cases accepted
  · obtain ⟨_, _, rfl⟩ := Ingress.parseIpv4_headers ip
    exact absurd rfl ptp
  · obtain ⟨tag, rest, rfl, inner⟩ := parse8021q_eq_some.mp tagged
    split at inner
    · obtain ⟨_, _, rfl⟩ := Ingress.parseIpv4_headers inner
      exact absurd rfl ptp
    · obtain ⟨rfl, rfl⟩ := inner
      exact absurd rfl ptp
  · obtain ⟨labels, rfl, rfl⟩ := Ingress.parseMpls_eq_some labelled
    exact absurd rfl ptp
  · obtain ⟨ptp1, cf, ptp2, rfl, rfl⟩ := parsePtp_eq_some.mp message
    exact ⟨⟨ethernet, ptp1, cf, ptp2, payload, isPtp⟩, rfl, rfl, rfl⟩
  · exact absurd rfl ptp

end PtpFrame

/-! ## A switch between a master and a slave -/

/-- The entry for PTP multicast. -/
def ptpMulticast : Request where
  table := .layer2Forwarding
  matchKeys := [(.ethernetDstAddr, .exact 0x011b19000000)]
  action := .multicastForward
  actionData := [(.mcid, 100)]

/-- PTP multicast goes to the slave and to the controller. -/
def sampleSwitch : Switch where
  tables := { installed := Ptp.populatePtpTable ++ [ptpMulticast], precedence := .first }
  groups group := if group = 100 then [8, 4] else []
  tsn := fun _ hdr igTmMd => some (hdr, igTmMd)

theorem sampleSwitch_populated : Populated sampleSwitch.tables := by
  intro r ptp
  refine ⟨?_, fun member => List.mem_append_left _ member⟩
  intro installed
  rcases List.mem_append.mp installed with member | other
  · exact member
  · rw [List.mem_singleton.mp other] at ptp
    rcases ptp with ptp | ptp
    · cases ptp
    · cases ptp

/-- A message of the master. -/
def masterMessage (msgType : BitVec 4) (msgLength : BitVec 16) (cf : BitVec 64)
    (payload : List U8) : PtpFrame where
  ethernet := {
    dstAddr := 0x011b19000000
    srcAddr := 0x98039b84aa8e
    etherType := PTP }
  ptp1 := {
    majorSdoid := 0
    msgType
    minorVersion := 0
    version := 2
    msgLength
    domainNumber := 0
    minor := 0
    flags := 0x0200 }
  cf := { cf }
  ptp2 := {
    msgTypeSpecific := 0
    clockIdentity := 0x98039bfffe84aa8e
    sourcePortId := 1
    sequenceId := 7
    controlBits := 0
    logMessageInterval := 0
    timestamp := 0
    timestampNanoseconds := 0 }
  payload
  isPtp := rfl

theorem sampleSwitch_multicast {fields : Request.Fields}
    (multicast : fields .ethernetDstAddr = 0x011b19000000) :
    sampleSwitch.tables.lookup .layer2Forwarding fields = some ptpMulticast := by
  refine DataPlane.Tables.lookup_singleton (by decide) ?_
  simp [ptpMulticast, Request.Matches, MatchValue.Matches, multicast]

/-- It is copied to the slave and to the controller. -/
theorem masterMessage_copy (msgType : BitVec 4) (msgLength : BitVec 16) (cf : BitVec 64)
    (payload : List U8) (ingressMacTstamp : BitVec 48) {egressPort : BitVec 9}
    (member : egressPort ∈ sampleSwitch.groups 100) :
    ((masterMessage msgType msgLength cf payload).received ingressMacTstamp).copy egressPort ∈
      sampleSwitch.process 320 ingressMacTstamp
        (masterMessage msgType msgLength cf payload).bytes := by
  have here := ((masterMessage msgType msgLength cf payload).received
    ingressMacTstamp).copy_egressPort egressPort
  have leaves : ∀ port ∈ sampleSwitch.groups 100, port ∉ RECIRCULATION_PORTS := by decide
  have forwarding : (masterMessage msgType msgLength cf payload).forwarding sampleSwitch =
      { ucastEgressPort := none, mcastGrpA := some 100 } := by
    unfold PtpFrame.forwarding Ingress.layer2Forwarding
    rw [sampleSwitch_multicast rfl]
    rfl
  rw [PtpFrame.mem_process sampleSwitch_populated (by decide) _ _
    (by rw [here]; exact leaves egressPort member), here, forwarding]
  exact ⟨member, rfl⟩

end P4Tas.Frame
