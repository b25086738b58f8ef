import P4Tas.Slice

/-!
# PTP messages

The PTP header of `ptp.rs` and its parser, and the points in time a message carries.  Signed
integers are numbers here; `correctionField` and `logMessageInterval` are in the ranges of `i64` and
`i8`.
-/

namespace P4Tas.Ptp

def ETH_P_1588 : U16 := 0x88F7

def ETH_HEADER_LEN : Nat := 14

def APPENDED_TS_LEN : Nat := 8

def PTP_SYNC : U8 := 0x0
def PTP_FOLLOW_UP : U8 := 0x8
def PTP_DELAY_REQ : U8 := 0x1
def PTP_DELAY_RESP : U8 := 0x9

/-- A clock identity and a port number. -/
abbrev PortIdentity := Bytes 10

structure PtpHeader where
  msgType : U8
  version : U8
  messageLength : U16
  domain : U8
  flags : U16
  correctionField : Int
  sourcePortIdentity : PortIdentity
  sequenceId : U16
  logMessageInterval : Int
  originTimestampSeconds : U64
  originTimestampNanoseconds : U32
  /-- Delay_Resp only. -/
  requestingPortIdentity : Option PortIdentity
  deriving DecidableEq

namespace PtpHeader

/-- The part that only a Delay_Resp has. -/
def parseRequesting (buf : List U8) (msgType : U8) : Rust (Option PortIdentity) :=
  if msgType = PTP_DELAY_RESP ∧ buf.length ≥ 54 then do
    let rpi ← slice buf 44 54
    let rpi ← copyFromSlice 10 rpi
    return some rpi
  else
    .ok none

/-- The header of a buffer that is long enough. -/
def parseFields (buf : List U8) : Rust PtpHeader := do
  let b0 ← index buf 0
  let b1 ← index buf 1
  let messageLength ← indexBe buf 2 2
  let domain ← index buf 4
  let flags ← indexBe buf 6 2
  let correctionField ← indexBe buf 8 8
  let source ← slice buf 20 30
  let sourcePortIdentity ← copyFromSlice 10 source
  let sequenceId ← indexBe buf 30 2
  let logMessageInterval ← index buf 33
  let seconds ← slice buf 34 40
  let nanoseconds ← indexBe buf 40 4
  let requestingPortIdentity ← parseRequesting buf (b0 &&& 0x0F)
  return {
    msgType := b0 &&& 0x0F
    version := b1 &&& 0x0F
    messageLength := BitVec.ofNat 16 messageLength
    domain
    flags := BitVec.ofNat 16 flags
    correctionField := (BitVec.ofNat 64 correctionField).toInt
    sourcePortIdentity
    sequenceId := BitVec.ofNat 16 sequenceId
    logMessageInterval := logMessageInterval.toInt
    originTimestampSeconds := BitVec.ofNat 64 (fromBeBytes seconds)
    originTimestampNanoseconds := BitVec.ofNat 32 nanoseconds
    requestingPortIdentity }

def parse (buf : List U8) : Rust (Option PtpHeader) :=
  if buf.length < 44 then
    .ok none
  else do
    let header ← parseFields buf
    return some header

/-- The headers agree, but for the correction field, the log interval, and the requesting port. -/
structure SameMessage (h h' : PtpHeader) : Prop where
  msgType : h'.msgType = h.msgType
  version : h'.version = h.version
  messageLength : h'.messageLength = h.messageLength
  domain : h'.domain = h.domain
  flags : h'.flags = h.flags
  sourcePortIdentity : h'.sourcePortIdentity = h.sourcePortIdentity
  sequenceId : h'.sequenceId = h.sequenceId
  originTimestampSeconds : h'.originTimestampSeconds = h.originTimestampSeconds
  originTimestampNanoseconds : h'.originTimestampNanoseconds = h.originTimestampNanoseconds

/-- `twoStepFlag` -/
def twoStep (h : PtpHeader) : Bool :=
  (h.flags &&& 0x0200) ≠ 0

/-! ## The parser stays within the buffer -/

variable {buf : List U8}

theorem parseRequesting_returns (buf : List U8) (msgType : U8) :
    ∃ rpi, parseRequesting buf msgType = .ok rpi := by
  unfold parseRequesting
  split
  · rename_i long
    have fits : ((buf.take 54).drop 44).length = 10 := by
      simp
      omega
    rw [slice_eq (by omega) long.2, Fallible.ok_bind, copyFromSlice_eq fits]
    exact ⟨_, rfl⟩
  · exact ⟨none, rfl⟩

/-- The fields of a buffer that is long enough, where they lie. -/
theorem parseFields_eq (long : 44 ≤ buf.length) :
    ∃ requestingPortIdentity,
      parseRequesting buf (buf[0] &&& 0x0F) = .ok requestingPortIdentity ∧ parseFields buf = .ok {
      msgType := buf[0] &&& 0x0F
      version := buf[1] &&& 0x0F
      messageLength := BitVec.ofNat 16 (fromBeBytes ((buf.drop 2).take 2))
      domain := buf[4]
      flags := BitVec.ofNat 16 (fromBeBytes ((buf.drop 6).take 2))
      correctionField := (BitVec.ofNat 64 (fromBeBytes ((buf.drop 8).take 8))).toInt
      sourcePortIdentity := array ((buf.take 30).drop 20) (by simp; omega)
      sequenceId := BitVec.ofNat 16 (fromBeBytes ((buf.drop 30).take 2))
      logMessageInterval := buf[33].toInt
      originTimestampSeconds := BitVec.ofNat 64 (fromBeBytes ((buf.take 40).drop 34))
      originTimestampNanoseconds := BitVec.ofNat 32 (fromBeBytes ((buf.drop 40).take 4))
      requestingPortIdentity } := by
  have fits : ((buf.take 30).drop 20).length = 10 := by
    simp
    omega
  unfold parseFields
  rw [index_eq (by omega : 0 < buf.length), Fallible.ok_bind,
    index_eq (by omega : 1 < buf.length), Fallible.ok_bind,
    indexBe_eq (by omega : 2 + 2 ≤ buf.length), Fallible.ok_bind,
    index_eq (by omega : 4 < buf.length), Fallible.ok_bind,
    indexBe_eq (by omega : 6 + 2 ≤ buf.length), Fallible.ok_bind,
    indexBe_eq (by omega : 8 + 8 ≤ buf.length), Fallible.ok_bind,
    slice_eq (by omega) (by omega : 30 ≤ buf.length), Fallible.ok_bind,
    copyFromSlice_eq fits, Fallible.ok_bind,
    indexBe_eq (by omega : 30 + 2 ≤ buf.length), Fallible.ok_bind,
    index_eq (by omega : 33 < buf.length), Fallible.ok_bind,
    slice_eq (by omega) (by omega : 40 ≤ buf.length), Fallible.ok_bind,
    indexBe_eq (by omega : 40 + 4 ≤ buf.length), Fallible.ok_bind]
  rcases parseRequesting_returns buf (buf[0] &&& 0x0F) with ⟨rpi, requested⟩
  rw [requested]
  exact ⟨rpi, rfl, rfl⟩

theorem parseFields_returns (long : 44 ≤ buf.length) : ∃ h, parseFields buf = .ok h := by
  obtain ⟨_, _, parsed⟩ := parseFields_eq long
  exact ⟨_, parsed⟩

theorem parse_eq {h : PtpHeader} (long : 44 ≤ buf.length) (parsed : parseFields buf = .ok h) :
    parse buf = .ok (some h) := by
  unfold parse
  rw [if_neg (Nat.not_lt.mpr long), parsed]
  rfl

theorem parse_returns (buf : List U8) : ∃ h, parse buf = .ok h := by
  unfold parse
  split
  · exact ⟨none, rfl⟩
  · rename_i long
    rcases parseFields_returns (Nat.le_of_not_lt long) with ⟨h, parsed⟩
    rw [parsed]
    exact ⟨some h, rfl⟩

/-- Buffers that agree around the correction field have the same message. -/
theorem parse_same {buf buf' : List U8} (long : 44 ≤ buf.length) (long' : 44 ≤ buf'.length)
    (front : (buf.drop 0).take 8 = (buf'.drop 0).take 8)
    (back : (buf.drop 16).take 28 = (buf'.drop 16).take 28) :
    ∃ h h', parse buf = .ok (some h) ∧ parse buf' = .ok (some h') ∧ h.SameMessage h' ∧
      h.messageLength = BitVec.ofNat 16 (fromBeBytes ((buf.drop 2).take 2)) := by
  obtain ⟨rpi, _, parsed⟩ := parseFields_eq long
  obtain ⟨rpi', _, parsed'⟩ := parseFields_eq long'
  have first {i n : Nat} (ends : i + n ≤ 8) : (buf'.drop i).take n = (buf.drop i).take n :=
    (window_eq front (Nat.zero_le i) (by omega)).symm
  have second {i n : Nat} (begins : 16 ≤ i) (ends : i + n ≤ 44) :
      (buf'.drop i).take n = (buf.drop i).take n :=
    (window_eq back begins (by omega)).symm
  have byte {i : Nat} (inside : i < 8) : buf'[i] = buf[i] :=
    getElem_of_window (by omega) (by omega) (first (by omega : i + 1 ≤ 8)).symm
  refine ⟨_, _, parse_eq long parsed, parse_eq long' parsed', ?_, rfl⟩
  exact {
    msgType := congrArg (· &&& 0x0F) (byte (by omega))
    version := congrArg (· &&& 0x0F) (byte (by omega))
    messageLength := congrArg (fun xs => BitVec.ofNat 16 (fromBeBytes xs)) (first (by omega))
    domain := byte (by omega)
    flags := congrArg (fun xs => BitVec.ofNat 16 (fromBeBytes xs)) (first (by omega))
    sourcePortIdentity := Subtype.ext (by
      change (buf'.take 30).drop 20 = (buf.take 30).drop 20
      rw [List.drop_take, List.drop_take]
      exact second (by omega) (by omega))
    sequenceId := congrArg (fun xs => BitVec.ofNat 16 (fromBeBytes xs))
      (second (by omega) (by omega))
    originTimestampSeconds := congrArg (fun xs => BitVec.ofNat 64 (fromBeBytes xs)) (by
      rw [List.drop_take, List.drop_take]
      exact second (by omega) (by omega))
    originTimestampNanoseconds := congrArg (fun xs => BitVec.ofNat 32 (fromBeBytes xs))
      (second (by omega) (by omega)) }

end PtpHeader

/-! ## Points in time -/

structure PtpTime where
  rawNs : U64
  seconds : U64
  nanoseconds : U32
  deriving DecidableEq

namespace PtpTime

def fromNs (ns : U64) : PtpTime where
  rawNs := ns
  seconds := ns / 1000000000
  nanoseconds := (ns % 1000000000).setWidth 32

/-- The sum saturates at the largest `u64`, and so does the product in it. -/
def fromComponents (seconds : U64) (nanoseconds : U32) : PtpTime where
  rawNs := BitVec.ofNat 64
    (min (min (seconds.toNat * 1000000000) (2 ^ 64 - 1) + nanoseconds.toNat) (2 ^ 64 - 1))
  seconds
  nanoseconds

end PtpTime

/-- The origin timestamp of a message, as `handle_follow_up` and `handle_delay_resp` read it. -/
def PtpHeader.originTimestamp (h : PtpHeader) : PtpTime :=
  .fromComponents h.originTimestampSeconds h.originTimestampNanoseconds

/-- The correction field in whole nanoseconds: `correction_field >> 16`. -/
def PtpHeader.correctionNs (h : PtpHeader) : Int :=
  h.correctionField >>> (16 : Nat)

end P4Tas.Ptp
