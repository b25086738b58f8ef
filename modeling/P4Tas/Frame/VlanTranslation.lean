import P4Tas.Frame.Parser

/-!
# Pushing and removing a VLAN tag

The two actions of `StreamIdentification.p4` that translate between DetNet and TSN, over the
headers of a parsed frame.  The push writes the EtherType of a tagged frame before it copies the
EtherType into the tag, and leaves the PCP of its parameters unused.

* `push_eq`, `push_remove_eq`: the headers after a push, and after a push and a remove;
* `push_remove_never`: the push keeps the EtherType of no untagged frame, and the remove restores
  none;
* `label_hidden`: a labelled frame after both.
-/

namespace P4Tas.Frame

open DataPlane (IngressMetadata)
open DataPlane.Parser (MPLS ETH_802_1Q)
open Header (emit)

/-- A frame in the ingress pipeline. -/
structure IngressPacket where
  hdr : Headers
  igMd : IngressMetadata

namespace StreamIdentification

/-- The parameters of the two actions. -/
structure ActionParams where
  streamHandle : BitVec 16
  streamBlockedDueToOversizeFrameEnable : Bool
  ethDstAddr : BitVec 48
  pcp : BitVec 3
  vid : BitVec 12
  streamGateId : BitVec 12
  flowMeterInstanceId : BitVec 16
  gateClosedDueToInvalidRxEnable : Bool
  gateClosedDueToOctetsExceededEnable : Bool
  dropOnYellow : Bool
  markAllFramesRedEnable : Bool
  colorAware : Bool
  hyperperiod : BitVec 64

def writeConfig (p : ActionParams) (igMd : IngressMetadata) : IngressMetadata :=
  { igMd with
    hyperperiod := { igMd.hyperperiod with duration := p.hyperperiod }
    streamFilter :=
      { streamHandle := p.streamHandle
        streamBlockedDueToOversizeFrameEnable := p.streamBlockedDueToOversizeFrameEnable
        streamGateId := p.streamGateId
        flowMeterInstanceId := p.flowMeterInstanceId }
    streamGate := { igMd.streamGate with
      gateClosedDueToInvalidRxEnable := p.gateClosedDueToInvalidRxEnable
      gateClosedDueToOctetsExceededEnable := p.gateClosedDueToOctetsExceededEnable }
    flowMeter := { igMd.flowMeter with
      dropOnYellow := p.dropOnYellow
      markAllFramesRedEnable := p.markAllFramesRedEnable
      colorAware := p.colorAware } }

/-! ## Assignments

A field that is read in a header that is not valid is 0 here; neither action reads one in the
frames below. -/

def etherType (hdr : Headers) : BitVec 16 :=
  (hdr.ethernet.map (·.etherType)).getD 0

def tagEtherType (hdr : Headers) : BitVec 16 :=
  (hdr.eth8021q.map (·.etherType)).getD 0

def setDstAddr (dstAddr : BitVec 48) (hdr : Headers) : Headers :=
  { hdr with ethernet := hdr.ethernet.map fun h => { h with dstAddr } }

def setEtherType (etherType : BitVec 16) (hdr : Headers) : Headers :=
  { hdr with ethernet := hdr.ethernet.map fun h => { h with etherType } }

/-- `hdr.eth_802_1q.setValid()`; the fields of a tag that was not valid are unspecified. -/
def setValid (unspecified : Eth8021q) (hdr : Headers) : Headers :=
  { hdr with eth8021q := some (hdr.eth8021q.getD unspecified) }

def setInvalid (hdr : Headers) : Headers :=
  { hdr with eth8021q := none }

def setVid (vid : BitVec 12) (hdr : Headers) : Headers :=
  { hdr with eth8021q := hdr.eth8021q.map fun h => { h with vid } }

def setTagEtherType (etherType : BitVec 16) (hdr : Headers) : Headers :=
  { hdr with eth8021q := hdr.eth8021q.map fun h => { h with etherType } }

def assignStreamHandleOverwriteMacPushVlan (unspecified : Eth8021q) (p : ActionParams)
    (pkt : IngressPacket) : IngressPacket :=
  let hdr := setDstAddr p.ethDstAddr pkt.hdr
  let hdr := setEtherType ETH_802_1Q hdr
  let hdr := setValid unspecified hdr
  let hdr := setVid p.vid hdr
  let hdr := setTagEtherType (etherType hdr) hdr
  { hdr, igMd := writeConfig p pkt.igMd }

def assignStreamHandleOverwriteMacRemoveVlan (p : ActionParams) (pkt : IngressPacket) :
    IngressPacket :=
  let hdr := setDstAddr p.ethDstAddr pkt.hdr
  let hdr := setEtherType (tagEtherType hdr) hdr
  let hdr := setInvalid hdr
  { hdr, igMd := writeConfig p pkt.igMd }

/-! ## What the actions do -/

variable {hdr : Headers} {ethernet : Ethernet} {igMd : IngressMetadata}

/-- The EtherType in the tag is that of a tagged frame, and the PCP is not written. -/
theorem push_eq (valid : hdr.ethernet = some ethernet) (untagged : hdr.eth8021q = none)
    (unspecified : Eth8021q) (p : ActionParams) :
    (assignStreamHandleOverwriteMacPushVlan unspecified p ⟨hdr, igMd⟩).hdr =
      { hdr with
        ethernet := some { ethernet with dstAddr := p.ethDstAddr, etherType := ETH_802_1Q }
        eth8021q := some { unspecified with vid := p.vid, etherType := ETH_802_1Q } } := by
  unfold assignStreamHandleOverwriteMacPushVlan setTagEtherType setVid setValid setEtherType
    setDstAddr etherType
  simp only [valid, untagged, Option.map_some, Option.getD_none, Option.getD_some]

/-- The removed tag leaves its EtherType to the frame. -/
theorem remove_eq {tag : Eth8021q} (valid : hdr.ethernet = some ethernet)
    (tagged : hdr.eth8021q = some tag) (p : ActionParams) :
    (assignStreamHandleOverwriteMacRemoveVlan p ⟨hdr, igMd⟩).hdr =
      { hdr with
        ethernet := some { ethernet with dstAddr := p.ethDstAddr, etherType := tag.etherType }
        eth8021q := none } := by
  unfold assignStreamHandleOverwriteMacRemoveVlan setInvalid setEtherType setDstAddr tagEtherType
  simp only [valid, tagged, Option.map_some, Option.getD_some]

/-- What is left of an untagged frame says that a tag follows. -/
theorem push_remove_eq (valid : hdr.ethernet = some ethernet) (untagged : hdr.eth8021q = none)
    (unspecified : Eth8021q) (p q : ActionParams) :
    (assignStreamHandleOverwriteMacRemoveVlan q
        (assignStreamHandleOverwriteMacPushVlan unspecified p ⟨hdr, igMd⟩)).hdr =
      { hdr with
        ethernet := some { ethernet with dstAddr := q.ethDstAddr, etherType := ETH_802_1Q } } := by
  have pushed := @push_eq hdr ethernet igMd valid untagged unspecified p
  generalize assignStreamHandleOverwriteMacPushVlan unspecified p ⟨hdr, igMd⟩ = pkt at pushed ⊢
  rcases pkt with ⟨hdr', igMd'⟩
  dsimp only at pushed
  subst pushed
  rw [remove_eq rfl rfl, ← untagged]

/-! ## Parsed frames -/

variable {port : BitVec 9} {pkt payload : List U8}

/-- A frame whose EtherType is that of a tag is parsed with a tag. -/
theorem untagged_etherType (parsed : switchIngressParser port pkt = some (hdr, payload))
    (valid : hdr.ethernet = some ethernet) (untagged : hdr.eth8021q = none) :
    ethernet.etherType ≠ ETH_802_1Q := by
  unfold switchIngressParser at parsed
  split at parsed
  · obtain ⟨timer, rest, _, result⟩ := Header.bind_extract_eq_some.mp parsed
    cases result
    cases valid
  · obtain ⟨ethernet', rest, _, ⟨ip, inner⟩ | ⟨_, tagged⟩ | ⟨mpls, labelled⟩ | ⟨ptp, message⟩ |
      ⟨other, rfl, _⟩⟩ := Ingress.parseEthernet_cases parsed
    · obtain ⟨_, _, rfl⟩ := Ingress.parseIpv4_headers inner
      cases valid
      rw [ip]
      decide
    · obtain ⟨tag, rest, _, inner⟩ := parse8021q_eq_some.mp tagged
      split at inner
      · obtain ⟨_, _, rfl⟩ := Ingress.parseIpv4_headers inner
        cases untagged
      · rw [inner.1] at untagged
        cases untagged
    · obtain ⟨labels, _, rfl⟩ := Ingress.parseMpls_eq_some labelled
      cases valid
      rw [mpls]
      decide
    · obtain ⟨_, _, _, _, rfl⟩ := parsePtp_eq_some.mp message
      cases valid
      rw [ptp]
      decide
    · cases valid
      intro same
      exact other (by rw [same]; decide)

/-- The frame is tagged with the action's parameters, and the tag keeps its EtherType. -/
def PushedOnto (p : ActionParams) (hdr after : Headers) : Prop :=
  ∃ tag, after.eth8021q = some tag ∧ tag.etherType = etherType hdr ∧ tag.vid = p.vid ∧
    tag.pcp = p.pcp

/-- The headers are the original ones but for the destination address. -/
def RestoredBy (q : ActionParams) (hdr after : Headers) : Prop :=
  after = setDstAddr q.ethDstAddr hdr

/-- **A push and a remove are never inverse.**  Whatever untagged frame the ingress parser has
parsed, the tag that is pushed onto it does not keep its EtherType, and the remove does not restore
its headers. -/
theorem push_remove_never (parsed : switchIngressParser port pkt = some (hdr, payload))
    (valid : hdr.ethernet = some ethernet) (untagged : hdr.eth8021q = none)
    (unspecified : Eth8021q) (p q : ActionParams) (igMd : IngressMetadata) :
    ¬ PushedOnto p hdr (assignStreamHandleOverwriteMacPushVlan unspecified p ⟨hdr, igMd⟩).hdr ∧
      ¬ RestoredBy q hdr (assignStreamHandleOverwriteMacRemoveVlan q
          (assignStreamHandleOverwriteMacPushVlan unspecified p ⟨hdr, igMd⟩)).hdr := by
  have differs := untagged_etherType parsed valid untagged
  refine ⟨?_, ?_⟩
  · intro h
    obtain ⟨tag, tagged, kept, _⟩ := h
    rw [push_eq valid untagged] at tagged
    cases tagged
    unfold etherType at kept
    rw [valid] at kept
    exact differs kept.symm
  · intro restored
    unfold RestoredBy setDstAddr at restored
    rw [push_remove_eq valid untagged, valid] at restored
    have same := congrArg Headers.ethernet restored
    exact differs (congrArg Ethernet.etherType (Option.some.inj same)).symm

/-! ## A frame from a DetNet -/

def detNetEthernet : Ethernet where
  dstAddr := 0x020000000002
  srcAddr := 0x020000000001
  etherType := MPLS

def detNetLabel : Mpls where
  label := 7
  tc := 0
  bos := 1
  ttl := 64

def detNetHeaders : Headers :=
  { Headers.ofEthernet detNetEthernet with mpls := [detNetLabel] }

theorem detNet_parsed (payload : List U8) :
    switchIngressParser 320 (emit detNetEthernet ++ (emit detNetLabel ++ payload)) =
      some (detNetHeaders, payload) := by
  have labelled : detNetEthernet.etherType = MPLS := rfl
  rw [switchIngressParser_ordinary (by decide), Ingress.parseEthernet_emit, if_neg (by decide),
    if_neg (by decide), if_pos labelled]
  unfold Ingress.parseMpls
  rw [Header.extract_append]
  rfl

/-- Into VLAN 100 with priority 5. -/
def sampleParams : ActionParams where
  streamHandle := 1
  streamBlockedDueToOversizeFrameEnable := false
  ethDstAddr := 0x020000000003
  pcp := 5
  vid := 100
  streamGateId := 1
  flowMeterInstanceId := 1
  gateClosedDueToInvalidRxEnable := false
  gateClosedDueToOctetsExceededEnable := false
  dropOnYellow := false
  markAllFramesRedEnable := false
  colorAware := false
  hyperperiod := 400000

def zeroTag : Eth8021q :=
  ⟨0, 0, 0, 0⟩

theorem push_remove_never_sample :
    ¬ PushedOnto sampleParams detNetHeaders
      (assignStreamHandleOverwriteMacPushVlan zeroTag sampleParams ⟨detNetHeaders, default⟩).hdr :=
  (push_remove_never (detNet_parsed []) rfl rfl zeroTag sampleParams sampleParams default).1

/-- The labelled frame leaves the push with a tag of priority 0 that says that another tag follows,
and the remove with a frame that says so. -/
theorem label_hidden :
    switchIngressParser 320 (emit detNetEthernet ++ (emit detNetLabel ++ [])) =
        some (detNetHeaders, []) ∧
      ¬ PushedOnto sampleParams detNetHeaders
        (assignStreamHandleOverwriteMacPushVlan zeroTag sampleParams
          ⟨detNetHeaders, default⟩).hdr ∧
      ¬ RestoredBy sampleParams detNetHeaders
        (assignStreamHandleOverwriteMacRemoveVlan sampleParams
          (assignStreamHandleOverwriteMacPushVlan zeroTag sampleParams
            ⟨detNetHeaders, default⟩)).hdr := by
  refine ⟨detNet_parsed [], ?_, ?_⟩
  · intro h
    obtain ⟨tag, tagged, kept, _⟩ := h
    cases tagged
    exact absurd kept (by decide)
  · intro restored
    exact absurd (congrArg (fun h => h.ethernet.map (·.etherType)) restored) (by decide)

end StreamIdentification

end P4Tas.Frame
