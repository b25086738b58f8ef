import P4Tas.DataPlane.Table

/-!
# Stream identification

`StreamIdentification.p4`, with the two actions the controller's requests name.
-/

namespace P4Tas.DataPlane

namespace StreamIdentification

/-- The part that all actions of the table share. -/
def writeConfig (r : Request) (pkt : Packet) : Packet :=
  { pkt with igMd := { pkt.igMd with
      streamFilter :=
        { streamHandle := param r .streamHandle 16
          streamBlockedDueToOversizeFrameEnable := flag r .streamBlockedDueToOversizeFrameEnable
          streamGateId := param r .streamGateId 12
          flowMeterInstanceId := param r .flowMeterInstanceId 16 }
      streamGate := { pkt.igMd.streamGate with
        gateClosedDueToInvalidRxEnable := flag r .gateClosedDueToInvalidRxEnable
        gateClosedDueToOctetsExceededEnable := flag r .gateClosedDueToOctetsExceededEnable }
      hyperperiod := { pkt.igMd.hyperperiod with duration := param r .hyperperiod 64 }
      flowMeter := { pkt.igMd.flowMeter with
        dropOnYellow := flag r .dropOnYellow
        markAllFramesRedEnable := flag r .markAllFramesRedEnable
        colorAware := flag r .colorAware } } }

def assignStreamHandleOverwriteMacAndPcp (r : Request) (pkt : Packet) : Packet :=
  writeConfig r { pkt with hdr := { pkt.hdr with
    ethernet := { pkt.hdr.ethernet with dstAddr := param r .ethDstAddr 48 }
    eth8021q := { pkt.hdr.eth8021q with pcp := param r .pcp 3 } } }

def apply (tables : Tables) (pkt : Packet) : Packet :=
  match tables.lookup .streamId pkt.fields with
  | some r =>
    match r.action with
    | .assignStreamHandleOverwriteMacAndPcp => assignStreamHandleOverwriteMacAndPcp r pkt
    | _ => writeConfig r pkt
  | none => pkt

end StreamIdentification

end P4Tas.DataPlane
