import P4Tas.Request

/-!
# Packets in the ingress pipeline

The headers and metadata of `headers.p4`, with the fields the modelled controls use, and the
intrinsic metadata of the architecture.  A control is a function on `Packet`; where it uses
registers it also takes and returns their contents.  A header that may be invalid is an `Option`.
-/

namespace P4Tas.DataPlane

/-- `pktgen_timer_header_t` -/
structure Timer where
  pipeId : BitVec 2
  appId : BitVec 4
  batchId : BitVec 16
  packetId : BitVec 16
  deriving DecidableEq, Repr, Inhabited

structure Recirc where
  pktLen : BitVec 16
  periodCount : BitVec 32
  deriving DecidableEq, Repr, Inhabited

structure Ethernet where
  dstAddr : BitVec 48
  deriving DecidableEq, Repr, Inhabited

structure Eth8021q where
  pcp : BitVec 3
  dei : BitVec 1
  vid : BitVec 12
  deriving DecidableEq, Repr, Inhabited

structure Ipv4 where
  srcAddr : BitVec 32
  dstAddr : BitVec 32
  deriving DecidableEq, Repr, Inhabited

structure GclTime where
  diffTs : BitVec 64
  deriving DecidableEq, Repr, Inhabited

structure Headers where
  timer : Option Timer
  recirc : Recirc
  gclTime : Option GclTime
  ethernet : Ethernet
  eth8021q : Eth8021q
  ipv4 : Ipv4
  deriving DecidableEq, Repr, Inhabited

structure Hyperperiod where
  tasPort : BitVec 9
  streamGateId : BitVec 16
  duration : BitVec 64
  tasDiff : BitVec 32
  deriving DecidableEq, Repr, Inhabited

structure StreamFilter where
  streamHandle : BitVec 16
  streamBlockedDueToOversizeFrameEnable : Bool
  streamGateId : BitVec 12
  flowMeterInstanceId : BitVec 16
  deriving DecidableEq, Repr, Inhabited

structure StreamGate where
  ipv : BitVec 4
  psfpGateEnabled : BitVec 1
  maxOctetsInterval : BitVec 32
  resetOctets : Bool
  remainingOctets : BitVec 32
  intervalIdentifier : BitVec 12
  gateClosedDueToInvalidRxEnable : Bool
  gateClosedDueToOctetsExceededEnable : Bool
  gateClosed : BitVec 1
  deriving DecidableEq, Repr, Inhabited

/-- The pre-colors a meter is executed with. -/
inductive MeterColor
  | green
  | yellow
  deriving DecidableEq, Repr, Inhabited

structure FlowMeter where
  dropOnYellow : Bool
  meterBlocked : BitVec 1
  markAllFramesRedEnable : Bool
  colorAware : Bool
  preColor : MeterColor
  deriving DecidableEq, Repr, Inhabited

structure IngressMetadata where
  streamFilter : StreamFilter
  streamGate : StreamGate
  flowMeter : FlowMeter
  hyperperiod : Hyperperiod
  diffTs : BitVec 48
  toBeDropped : BitVec 1
  differenceMaxToHyperperiod : BitVec 48
  timeSeriesIndexTasDiff : BitVec 32
  hyperperiodTs : BitVec 48
  deriving DecidableEq, Repr, Inhabited

/-- `ingress_intrinsic_metadata_t` -/
structure IntrinsicMetadata where
  ingressMacTstamp : BitVec 48
  deriving DecidableEq, Repr, Inhabited

/-- `ingress_intrinsic_metadata_for_tm_t` -/
structure TmMetadata where
  qid : BitVec 7
  packetColor : BitVec 2
  ucastEgressPort : BitVec 9
  deriving DecidableEq, Repr, Inhabited

/-- `ingress_intrinsic_metadata_for_deparser_t` -/
structure DprsrMetadata where
  digestType : BitVec 3
  dropCtl : BitVec 3
  deriving DecidableEq, Repr, Inhabited

structure Packet where
  hdr : Headers
  igMd : IngressMetadata
  igIntrMd : IntrinsicMetadata
  igTmMd : TmMetadata
  igDprsrMd : DprsrMetadata
  deriving DecidableEq, Repr, Inhabited

namespace Packet

/-- The fields of the packet that are keys of ingress tables. -/
def fields (pkt : Packet) : Request.Fields
  | .timerAppId => (pkt.hdr.timer.map (·.appId.toNat)).getD 0
  | .timerPipeId => (pkt.hdr.timer.map (·.pipeId.toNat)).getD 0
  | .timerPacketId => (pkt.hdr.timer.map (·.packetId.toNat)).getD 0
  | .timerBatchId => (pkt.hdr.timer.map (·.batchId.toNat)).getD 0
  | .gclTimeDiffTs => (pkt.hdr.gclTime.map (·.diffTs.toNat)).getD 0
  | .streamGateId => pkt.igMd.streamFilter.streamGateId.toNat
  | .flowMeterInstanceId => pkt.igMd.streamFilter.flowMeterInstanceId.toNat
  | .diffTs => pkt.igMd.diffTs.toNat
  | .hyperperiodDuration => pkt.igMd.hyperperiod.duration.toNat
  | .ethernetDstAddr => pkt.hdr.ethernet.dstAddr.toNat
  | .eth8021qVid => pkt.hdr.eth8021q.vid.toNat
  | .ipv4SrcAddr => pkt.hdr.ipv4.srcAddr.toNat
  | .ipv4DstAddr => pkt.hdr.ipv4.dstAddr.toNat
  | .appId | .matchPriority | .ptp1MsgType | .ptp2ClockIdentity | .egressPort => 0

def setDiffTs (pkt : Packet) (diffTs : BitVec 48) : Packet :=
  { pkt with igMd := { pkt.igMd with diffTs } }

@[simp] theorem setDiffTs_diffTs (pkt : Packet) (diffTs : BitVec 48) :
    (pkt.setDiffTs diffTs).igMd.diffTs = diffTs :=
  rfl

@[simp] theorem setDiffTs_hyperperiod (pkt : Packet) (diffTs : BitVec 48) :
    (pkt.setDiffTs diffTs).igMd.hyperperiod = pkt.igMd.hyperperiod :=
  rfl

def drop (pkt : Packet) : Packet :=
  { pkt with igMd := { pkt.igMd with toBeDropped := 1 } }

end Packet

end P4Tas.DataPlane
