import P4Tas.DataPlane.Tas
import P4Tas.Frame.Parser
import P4Tas.Ptp.PopulatePtpTable

/-!
# From an ingress port to the egress ports

The path of a frame through the switch: the ingress pipeline with `PTP.p4`, the copies the traffic
manager makes, and for each copy the egress pipeline.  The control of labelled, tagged and generated
packets, `TSN`, is a parameter here; no PTP message and no plain frame comes to it.  Counters and
digests are left out.

* `tas_drops`: `TAS.p4` drops the packets that are dropped here, and leaves the headers of the
  others.
-/

namespace P4Tas.Frame

open DataPlane (Tables param)
open DataPlane.Parser (RECIRCULATION_PORTS)

/-! ## Keys -/

/-- The fields of the headers that are keys of the ingress tables here. -/
def Headers.fields (hdr : Headers) : Request.Fields
  | .ptp1MsgType => (hdr.ptp1.map (·.msgType.toNat)).getD 0
  | .ptp2ClockIdentity => (hdr.ptp2.map (·.clockIdentity.toNat)).getD 0
  | .ethernetDstAddr => (hdr.ethernet.map (·.dstAddr.toNat)).getD 0
  | _ => 0

/-- The same for the egress tables. -/
def Headers.egressFields (hdr : Headers) (egressPort : BitVec 9) : Request.Fields
  | .egressPort => egressPort.toNat
  | k => hdr.fields k

/-! ## The ingress pipeline -/

/-- `ingress_intrinsic_metadata_for_tm_t`; `none` is a field that is not set. -/
structure TmMetadata where
  ucastEgressPort : Option (BitVec 9)
  mcastGrpA : Option (BitVec 16)
  deriving DecidableEq

/-- What the path of a frame depends on besides the frame: the tables, the ports of the multicast
groups, and the control for traffic that is no PTP, which may drop the packet. -/
structure Switch where
  tables : Tables
  groups : BitVec 16 → List (BitVec 9)
  tsn : BitVec 48 → Headers → TmMetadata → Option (Headers × TmMetadata)

namespace PTP

/-- `ig_md.ingress_timestamp`, whose low bits stay zero. -/
def ingressTimestamp (ingressMacTstamp : BitVec 48) : BitVec 64 :=
  ingressMacTstamp ++ 0#16

theorem ingressTimestamp_toNat (ts : BitVec 48) :
    (ingressTimestamp ts).toNat = ts.toNat * 2 ^ 16 := by
  unfold ingressTimestamp
  rw [BitVec.toNat_append, BitVec.toNat_ofNat, Nat.shiftLeft_eq]
  exact Nat.or_zero _

def addIngressTs (timestamp : BitVec 64) (hdr : Headers) : Headers :=
  { hdr with gclTime := some ⟨timestamp >>> 16⟩ }

def writeIngressTsToCorrectionField (timestamp : BitVec 64) (hdr : Headers) : Headers :=
  { hdr with ptpCorrectionField := hdr.ptpCorrectionField.map fun h => ⟨h.cf - timestamp⟩ }

def apply (tables : Tables) (timestamp : BitVec 64) (hdr : Headers) : Headers :=
  match (tables.lookup .ingressPtp hdr.fields).map Request.action with
  | some .addIngressTs => addIngressTs timestamp hdr
  | some .writeIngressTsToCorrectionField => writeIngressTsToCorrectionField timestamp hdr
  | _ => hdr

end PTP

namespace Ingress

def layer2Forwarding (tables : Tables) (hdr : Headers) (igTmMd : TmMetadata) : TmMetadata :=
  match tables.lookup .layer2Forwarding hdr.fields with
  | some r =>
    match r.action with
    | .forward => { igTmMd with ucastEgressPort := some (param r .port 9) }
    | .multicastForward => { igTmMd with mcastGrpA := some (param r .mcid 16) }
    | _ => igTmMd
  | none => igTmMd

/-- `none` is a packet that is dropped. -/
def apply (switch : Switch) (ingressMacTstamp : BitVec 48) (hdr : Headers) :
    Option (Headers × TmMetadata) := do
  let igTmMd : TmMetadata := { ucastEgressPort := none, mcastGrpA := none }
  let (hdr, igTmMd) ←
    if hdr.ptp1.isSome then
      some (PTP.apply switch.tables (PTP.ingressTimestamp ingressMacTstamp) hdr, igTmMd)
    else if hdr.mpls ≠ [] ∨ hdr.eth8021q.isSome ∨ hdr.timer.isSome then
      switch.tsn ingressMacTstamp hdr igTmMd
    else
      some (hdr, igTmMd)
  return (hdr, layer2Forwarding switch.tables hdr igTmMd)

end Ingress

/-! ## The egress pipeline -/

/-- The headers in the egress pipeline, with `egress_intrinsic_metadata_for_output_port_t`. -/
structure EgressPacket where
  hdr : Headers
  updateDelayOnTx : BitVec 1
  captureTstampOnTx : BitVec 1
  deriving DecidableEq

namespace Egress

def enableTstampCapture (pkt : EgressPacket) : EgressPacket :=
  { pkt with captureTstampOnTx := 1 }

def enableTs6 (cfByteOffset : BitVec 8) (pkt : EgressPacket) : EgressPacket :=
  let cf := (pkt.hdr.ptpCorrectionField.map (·.cf)).getD 0
  { pkt with
    updateDelayOnTx := 1
    hdr := { pkt.hdr with
      ptpMetadata := some
        { udpCksumByteOffset := 128, cfByteOffset, updatedCf := cf.extractLsb' 16 48 }
      ptpCorrectionField := none } }

def resetCf (pkt : EgressPacket) : EgressPacket :=
  { pkt with hdr := { pkt.hdr with
      ptpCorrectionField := pkt.hdr.ptpCorrectionField.map fun _ => ⟨0⟩ } }

/-- `ptp.apply()`.  No entry has the action `reset_cf`, which is the default, or `nop`. -/
def ptp (tables : Tables) (egressPort : BitVec 9) (pkt : EgressPacket) : EgressPacket :=
  match tables.lookup .egressPtp (pkt.hdr.egressFields egressPort) with
  | some r =>
    match r.action with
    | .enableTstampCapture => enableTstampCapture pkt
    | .enableTs6 => enableTs6 (param r .cfByteOffset 8) pkt
    | _ => pkt
  | none => resetCf pkt

/-- The packet is a TAS control packet, which `tas_c` drops. -/
def Control (hdr : Headers) : Prop :=
  ∃ timer, hdr.timer = some timer ∧ timer.appId = 0

instance (hdr : Headers) : Decidable (Control hdr) :=
  match parsed : hdr.timer with
  | some timer => decidable_of_iff (timer.appId = 0) (by
      unfold Control
      simp [parsed])
  | none => .isFalse (by
      unfold Control
      simp [parsed])

/-- `none` is a packet that is dropped. -/
def apply (tables : Tables) (egressPort : BitVec 9) (hdr : Headers) : Option EgressPacket :=
  let pkt : EgressPacket := { hdr, updateDelayOnTx := 0, captureTstampOnTx := 0 }
  if Control hdr then
    none
  else if hdr.eth8021q.isSome then
    some pkt
  else if hdr.ptp1.isSome then
    some (ptp tables egressPort pkt)
  else
    some pkt

end Egress

/-! ## The switch -/

/-- A packet that is handed to the MAC of an egress port. -/
structure Copy where
  egressPort : BitVec 9
  bytes : List U8
  updateDelayOnTx : BitVec 1
  captureTstampOnTx : BitVec 1
  deriving DecidableEq

namespace Switch

/-- The ingress pipeline: the packet that is handed to the traffic manager. -/
def receive (switch : Switch) (ingressPort : BitVec 9) (ingressMacTstamp : BitVec 48)
    (frame : List U8) : Option (List U8 × TmMetadata) := do
  let (hdr, payload) ← switchIngressParser ingressPort frame
  let (hdr, igTmMd) ← Ingress.apply switch ingressMacTstamp hdr
  return (switchIngressDeparser hdr ++ payload, igTmMd)

/-- The ports the traffic manager copies a packet to. -/
def ports (switch : Switch) (igTmMd : TmMetadata) : List (BitVec 9) :=
  igTmMd.ucastEgressPort.toList ++ igTmMd.mcastGrpA.toList.flatMap switch.groups

/-- The egress pipeline. -/
def transmit (switch : Switch) (pkt : List U8) (egressPort : BitVec 9) : Option Copy := do
  let (hdr, payload) ← switchEgressParser egressPort pkt
  let pkt ← Egress.apply switch.tables egressPort hdr
  return {
    egressPort
    bytes := switchEgressDeparser pkt.hdr ++ payload
    updateDelayOnTx := pkt.updateDelayOnTx
    captureTstampOnTx := pkt.captureTstampOnTx }

/-- The copies of a frame that leave the pipelines. -/
def process (switch : Switch) (ingressPort : BitVec 9) (ingressMacTstamp : BitVec 48)
    (frame : List U8) : List Copy :=
  match switch.receive ingressPort ingressMacTstamp frame with
  | some (pkt, igTmMd) => (switch.ports igTmMd).filterMap (switch.transmit pkt)
  | none => []

end Switch

/-! ## The queue control -/

/-- The headers as `TAS.p4` sees them. -/
def Headers.tas (hdr : Headers) : DataPlane.EgressHeaders where
  timer := hdr.timer.map fun h => {
    pipeId := h.pipeId
    appId := h.appId
    batchId := h.batchId
    packetId := h.packetId }
  gclTime := hdr.gclTime.map fun h => { diffTs := h.diffTs }
  eth8021q := (hdr.eth8021q.map fun h => { pcp := h.pcp, dei := h.dei, vid := h.vid }).getD default

theorem tas_control {hdr : Headers} {pkt : DataPlane.EgressPacket} (view : pkt.hdr = hdr.tas) :
    DataPlane.TAS.Control pkt ↔ Egress.Control hdr := by
  unfold DataPlane.TAS.Control Egress.Control Headers.tas at *
  rw [view]
  cases hdr.timer with
  | none => simp
  | some timer => simp

/-- The control drops what is dropped here, and leaves the headers alone. -/
theorem tas_drops (target : DataPlane.Target) (tables : Tables)
    (registers : DataPlane.TAS.Registers) {hdr : Headers} {pkt : DataPlane.EgressPacket}
    (view : pkt.hdr = hdr.tas) (fresh : pkt.egDprsrMd.dropCtl = 0) :
    (DataPlane.TAS.apply target tables registers pkt).pkt.egDprsrMd.dropCtl =
        (if Egress.Control hdr then 3 else 0) ∧
      (DataPlane.TAS.apply target tables registers pkt).pkt.hdr = hdr.tas := by
  unfold DataPlane.TAS.apply
  split
  · rename_i control
    rw [if_pos ((tas_control view).mp control)]
    refine ⟨rfl, ?_⟩
    unfold DataPlane.TAS.applyControl DataPlane.TAS.gateControlList DataPlane.TAS.openQueue
      DataPlane.TAS.closeQueue
    dsimp only
    split
    · split
      · exact view
      · exact view
      · exact view
    · exact view
  · rename_i data
    rw [if_neg fun control => data ((tas_control view).mpr control)]
    unfold DataPlane.TAS.applyData
    dsimp only
    split
    · exact ⟨fresh, view⟩
    · exact ⟨fresh, view⟩

end P4Tas.Frame
