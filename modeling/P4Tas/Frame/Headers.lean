import P4Tas.Lib.HeaderCodec
import P4Tas.Request

/-!
# Headers of a frame

The headers of `headers.p4` that the parsers extract and the deparsers emit, as they lie in a frame:
every field, first to last.  In `Headers`, `none` is a header that is not valid.
-/

namespace P4Tas.Frame

open BitFields (field pair)

/-- `pktgen_timer_header_t` -/
structure Timer where
  pad1 : BitVec 2
  pipeId : BitVec 2
  appId : BitVec 4
  pad2 : BitVec 8
  batchId : BitVec 16
  packetId : BitVec 16
  deriving DecidableEq

structure Ethernet where
  dstAddr : BitVec 48
  srcAddr : BitVec 48
  etherType : BitVec 16
  deriving DecidableEq

structure Mpls where
  label : BitVec 20
  tc : BitVec 3
  bos : BitVec 1
  ttl : BitVec 8
  deriving DecidableEq

structure Transport where
  srcPort : BitVec 16
  dstPort : BitVec 16
  deriving DecidableEq

structure Eth8021q where
  pcp : BitVec 3
  dei : BitVec 1
  vid : BitVec 12
  etherType : BitVec 16
  deriving DecidableEq

structure Ipv4 where
  version : BitVec 4
  ihl : BitVec 4
  diffserv : BitVec 6
  ecn : BitVec 2
  totalLen : BitVec 16
  identification : BitVec 16
  flags : BitVec 3
  fragOffset : BitVec 13
  ttl : BitVec 8
  protocol : BitVec 8
  hdrChecksum : BitVec 16
  srcAddr : BitVec 32
  dstAddr : BitVec 32
  deriving DecidableEq

structure Ptp1 where
  majorSdoid : BitVec 4
  msgType : BitVec 4
  minorVersion : BitVec 4
  version : BitVec 4
  msgLength : BitVec 16
  domainNumber : BitVec 8
  minor : BitVec 8
  flags : BitVec 16
  deriving DecidableEq

structure PtpCorrectionField where
  cf : BitVec 64
  deriving DecidableEq

structure Ptp2 where
  msgTypeSpecific : BitVec 32
  clockIdentity : BitVec 64
  sourcePortId : BitVec 16
  sequenceId : BitVec 16
  controlBits : BitVec 8
  logMessageInterval : BitVec 8
  timestamp : BitVec 48
  timestampNanoseconds : BitVec 32
  deriving DecidableEq

structure GclTime where
  diffTs : BitVec 64
  deriving DecidableEq

/-- `ptp_metadata_t`, which the transmitting port consumes. -/
structure PtpMetadata where
  udpCksumByteOffset : BitVec 8
  cfByteOffset : BitVec 8
  updatedCf : BitVec 48
  deriving DecidableEq

structure Headers where
  timer : Option Timer
  gclTime : Option GclTime
  ptpMetadata : Option PtpMetadata
  ethernet : Option Ethernet
  eth8021q : Option Eth8021q
  ptp1 : Option Ptp1
  ptpCorrectionField : Option PtpCorrectionField
  ptp2 : Option Ptp2
  mpls : List Mpls
  ipv4 : Option Ipv4
  transport : Option Transport
  deriving DecidableEq

/-- No header is valid. -/
def Headers.invalid : Headers where
  timer := none
  gclTime := none
  ptpMetadata := none
  ethernet := none
  eth8021q := none
  ptp1 := none
  ptpCorrectionField := none
  ptp2 := none
  mpls := []
  ipv4 := none
  transport := none

/-! ## Their bits -/

instance : Header Timer where
  size := 6
  width := _
  bits := Equiv.trans
    { toFun := fun h => (h.pad1, h.pipeId, h.appId, h.pad2, h.batchId, h.packetId)
      invFun := fun (pad1, pipeId, appId, pad2, batchId, packetId) =>
        ⟨pad1, pipeId, appId, pad2, batchId, packetId⟩
      left_inv := fun _ => rfl
      right_inv := fun _ => rfl }
    (pair (field 2) (pair (field 2) (pair (field 4) (pair (field 8)
      (pair (field 16) (field 16))))))
  width_eq := rfl

instance : Header Ethernet where
  size := 14
  width := _
  bits := Equiv.trans
    { toFun := fun h => (h.dstAddr, h.srcAddr, h.etherType)
      invFun := fun (dstAddr, srcAddr, etherType) => ⟨dstAddr, srcAddr, etherType⟩
      left_inv := fun _ => rfl
      right_inv := fun _ => rfl }
    (pair (field 48) (pair (field 48) (field 16)))
  width_eq := rfl

instance : Header Mpls where
  size := 4
  width := _
  bits := Equiv.trans
    { toFun := fun h => (h.label, h.tc, h.bos, h.ttl)
      invFun := fun (label, tc, bos, ttl) => ⟨label, tc, bos, ttl⟩
      left_inv := fun _ => rfl
      right_inv := fun _ => rfl }
    (pair (field 20) (pair (field 3) (pair (field 1) (field 8))))
  width_eq := rfl

instance : Header Transport where
  size := 4
  width := _
  bits := Equiv.trans
    { toFun := fun h => (h.srcPort, h.dstPort)
      invFun := fun (srcPort, dstPort) => ⟨srcPort, dstPort⟩
      left_inv := fun _ => rfl
      right_inv := fun _ => rfl }
    (pair (field 16) (field 16))
  width_eq := rfl

instance : Header Eth8021q where
  size := 4
  width := _
  bits := Equiv.trans
    { toFun := fun h => (h.pcp, h.dei, h.vid, h.etherType)
      invFun := fun (pcp, dei, vid, etherType) => ⟨pcp, dei, vid, etherType⟩
      left_inv := fun _ => rfl
      right_inv := fun _ => rfl }
    (pair (field 3) (pair (field 1) (pair (field 12) (field 16))))
  width_eq := rfl

namespace Ipv4

/-- The fields before the checksum. -/
def front (h : Ipv4) : BitVec 80 :=
  h.version ++ (h.ihl ++ (h.diffserv ++ (h.ecn ++ (h.totalLen ++ (h.identification ++ (h.flags ++
    (h.fragOffset ++ (h.ttl ++ h.protocol))))))))

end Ipv4

instance : Header Ipv4 where
  size := 20
  width := _
  bits := Equiv.trans
    { toFun := fun h => ((h.version, h.ihl, h.diffserv, h.ecn, h.totalLen, h.identification,
        h.flags, h.fragOffset, h.ttl, h.protocol), h.hdrChecksum, h.srcAddr, h.dstAddr)
      invFun := fun ((version, ihl, diffserv, ecn, totalLen, identification, flags, fragOffset, ttl,
          protocol), hdrChecksum, srcAddr, dstAddr) =>
        ⟨version, ihl, diffserv, ecn, totalLen, identification, flags, fragOffset, ttl, protocol,
          hdrChecksum, srcAddr, dstAddr⟩
      left_inv := fun _ => rfl
      right_inv := fun _ => rfl }
    (pair
      (pair (field 4) (pair (field 4) (pair (field 6) (pair (field 2) (pair (field 16)
        (pair (field 16) (pair (field 3) (pair (field 13) (pair (field 8) (field 8))))))))))
      (pair (field 16) (pair (field 32) (field 32))))
  width_eq := rfl

instance : Header Ptp1 where
  size := 8
  width := _
  bits := Equiv.trans
    { toFun := fun h => (h.majorSdoid, h.msgType, h.minorVersion, h.version, h.msgLength,
        h.domainNumber, h.minor, h.flags)
      invFun := fun (majorSdoid, msgType, minorVersion, version, msgLength, domainNumber, minor,
          flags) =>
        ⟨majorSdoid, msgType, minorVersion, version, msgLength, domainNumber, minor, flags⟩
      left_inv := fun _ => rfl
      right_inv := fun _ => rfl }
    (pair (field 4) (pair (field 4) (pair (field 4) (pair (field 4) (pair (field 16)
      (pair (field 8) (pair (field 8) (field 16))))))))
  width_eq := rfl

instance : Header PtpCorrectionField where
  size := 8
  width := 64
  bits :=
    { toFun := fun h => h.cf
      invFun := fun cf => ⟨cf⟩
      left_inv := fun _ => rfl
      right_inv := fun _ => rfl }
  width_eq := rfl

instance : Header Ptp2 where
  size := 28
  width := _
  bits := Equiv.trans
    { toFun := fun h => (h.msgTypeSpecific, h.clockIdentity, h.sourcePortId, h.sequenceId,
        h.controlBits, h.logMessageInterval, h.timestamp, h.timestampNanoseconds)
      invFun := fun (msgTypeSpecific, clockIdentity, sourcePortId, sequenceId, controlBits,
          logMessageInterval, timestamp, timestampNanoseconds) =>
        ⟨msgTypeSpecific, clockIdentity, sourcePortId, sequenceId, controlBits, logMessageInterval,
          timestamp, timestampNanoseconds⟩
      left_inv := fun _ => rfl
      right_inv := fun _ => rfl }
    (pair (field 32) (pair (field 64) (pair (field 16) (pair (field 16) (pair (field 8)
      (pair (field 8) (pair (field 48) (field 32))))))))
  width_eq := rfl

instance : Header GclTime where
  size := 8
  width := 64
  bits :=
    { toFun := fun h => h.diffTs
      invFun := fun diffTs => ⟨diffTs⟩
      left_inv := fun _ => rfl
      right_inv := fun _ => rfl }
  width_eq := rfl

instance : Header PtpMetadata where
  size := 8
  width := _
  bits := Equiv.trans
    { toFun := fun h => (h.udpCksumByteOffset, h.cfByteOffset, h.updatedCf)
      invFun := fun (udpCksumByteOffset, cfByteOffset, updatedCf) =>
        ⟨udpCksumByteOffset, cfByteOffset, updatedCf⟩
      left_inv := fun _ => rfl
      right_inv := fun _ => rfl }
    (pair (field 8) (pair (field 8) (field 48)))
  width_eq := rfl

end P4Tas.Frame
