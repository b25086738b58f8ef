import P4Tas.Frame.Pipeline

/-!
# Plain forwarding

A frame without tag, labels and PTP that is forwarded from one ordinary port to another.  No control
changes it, but the egress deparser writes the checksum of an IPv4 header anew, over the fixed part
of the header without the options.

* `checksum_eq_iff`: when the checksum of a valid header is what is written;
* `forwarding_transparent_iff`: the frames that leave as they came;
* `options_not_summed`: a frame with a valid header that leaves with another checksum.
-/

namespace P4Tas.Frame

open DataPlane (param)
open DataPlane.Parser (RECIRCULATION_PORTS IPV4 MPLS ETH_802_1Q PTP TCP UDP)
open Header (emit emit?)
open OnesComplement (words Valid Neutral)

/-! ## The checksum of a header -/

namespace Ipv4

variable (h : Ipv4)

/-- The words of a header, around its checksum. -/
def frontWords : List (BitVec 16) :=
  words (BigEndian.bytes 10 h.front.toNat)

def addressWords : List (BitVec 16) :=
  words (BigEndian.bytes 8 (h.srcAddr ++ h.dstAddr).toNat)

theorem words_emit (more : List U8) :
    words (emit h ++ more) = h.frontWords ++ h.hdrChecksum :: (h.addressWords ++ words more) := by
  have parts : emit h = BigEndian.bytes 10 h.front.toNat ++
      (BigEndian.bytes 2 h.hdrChecksum.toNat ++
        BigEndian.bytes 8 (h.srcAddr ++ h.dstAddr).toNat) :=
    (BitFields.bytes_append 10 10 rfl h.front (h.hdrChecksum ++ (h.srcAddr ++ h.dstAddr))).trans
      (congrArg (BigEndian.bytes 10 h.front.toNat ++ ·)
        (BitFields.bytes_append 2 8 rfl h.hdrChecksum (h.srcAddr ++ h.dstAddr)))
  rw [parts, List.append_assoc, List.append_assoc,
    OnesComplement.words_append 5 (BigEndian.length_bytes _ _), OnesComplement.words_bytes,
    OnesComplement.words_append 4 (BigEndian.length_bytes _ _)]
  rfl

theorem checksum_words :
    h.checksum = OnesComplement.checksum (h.frontWords ++ h.addressWords) := by
  unfold checksum frontWords
  rw [OnesComplement.words_append 5 (BigEndian.length_bytes _ _)]
  rfl

variable {h}

/-- A header with a length has a word that is not zero. -/
theorem frontWords_nonzero (length : h.ihl ≠ 0) : ∃ x ∈ h.frontWords, x ≠ 0#16 := by
  by_contra none
  push Not at none
  have zero : h.front = 0#80 := by
    have value := OnesComplement.value_of_zeros none
    have below : h.front.toNat < 256 ^ 10 := h.front.isLt
    rw [BigEndian.value_bytes, Nat.mod_eq_of_lt below] at value
    exact BitVec.eq_of_toNat_eq value
  have field : h.front.extractLsb' 72 4 = h.ihl :=
    (BitVec.extractLsb'_append_eq_of_add_le (by decide)).trans BitVec.extractLsb'_append_eq_left
  rw [zero] at field
  exact length field.symm

/-- The checksum of a valid header is written again unless it has all bits, and when the options
add nothing to the sum. -/
theorem checksum_eq_iff (length : h.ihl ≠ 0) {options : List U8}
    (valid : Valid (words (emit h ++ options))) :
    h.checksum = h.hdrChecksum ↔ h.hdrChecksum ≠ 0xFFFF ∧ Neutral (words options) := by
  obtain ⟨x, member, other⟩ := frontWords_nonzero length
  have split : words (emit h ++ options) =
      h.frontWords ++ h.hdrChecksum :: h.addressWords ++ words options := by
    rw [words_emit, List.append_assoc, List.cons_append]
  have perm : (h.hdrChecksum :: (h.frontWords ++ h.addressWords)).Perm
      (h.frontWords ++ h.hdrChecksum :: h.addressWords) :=
    List.perm_middle.symm
  rw [split] at valid
  rw [checksum_words, OnesComplement.checksum_eq_iff ⟨x, List.mem_append_left _ member, other⟩,
    OnesComplement.valid_perm (by decide) perm,
    OnesComplement.valid_append_iff (by decide) ⟨x, List.mem_append_left _ member, other⟩ valid]
  exact Iff.rfl

/-- The bytes of a frame that the length field of its header covers. -/
def covered (h : Ipv4) (frame : List U8) : List U8 :=
  (frame.drop 14).take (4 * h.ihl.toNat)

/-- Those behind the fixed part of the header. -/
def options (h : Ipv4) (frame : List U8) : List U8 :=
  (frame.drop 34).take (4 * h.ihl.toNat - 20)

/-- The header of an untagged frame is complete, and its checksum is valid. -/
structure ValidIn (h : Ipv4) (frame : List U8) : Prop where
  length : 5 ≤ h.ihl.toNat
  complete : 14 + 4 * h.ihl.toNat ≤ frame.length
  valid : Valid (words (h.covered frame))

theorem ValidIn.ihl_ne_zero {frame : List U8} (validIn : h.ValidIn frame) : h.ihl ≠ 0 := by
  intro zero
  have length := validIn.length
  rw [zero] at length
  exact absurd length (by decide)

theorem ValidIn.covered_eq {frame rest : List U8} {ethernet : Ethernet}
    (validIn : h.ValidIn frame) (split : frame = emit ethernet ++ (emit h ++ rest)) :
    h.covered frame = emit h ++ h.options frame := by
  have size : (emit ethernet).length = 14 := Header.length_emit ethernet
  have size' : (emit h).length = 20 := Header.length_emit h
  have both : (emit ethernet ++ emit h).length = 34 := by
    rw [List.length_append, size, size']
  have length : 4 * h.ihl.toNat = (emit h).length + (4 * h.ihl.toNat - 20) := by
    have five := validIn.length
    omega
  unfold covered options
  rw [split, List.drop_left' size, ← List.append_assoc, List.drop_left' both, length,
    List.take_length_add_append, size', Nat.add_sub_cancel_left]

end Ipv4

/-! ## The frame in the switch -/

/-- Neither a tag nor labels nor a PTP message follows the Ethernet header. -/
def Plain (hdr : Headers) : Prop :=
  ∀ ethernet, hdr.ethernet = some ethernet →
    ethernet.etherType ≠ ETH_802_1Q ∧ ethernet.etherType ≠ MPLS ∧ ethernet.etherType ≠ PTP

/-- A copy that the MAC sends as it is. -/
def plainCopy (egressPort : BitVec 9) (bytes : List U8) : Copy where
  egressPort
  bytes
  updateDelayOnTx := 0
  captureTstampOnTx := 0

/-- The headers of such a frame. -/
def plainHeaders (ethernet : Ethernet) (ipv4 : Option Ipv4) (transport : Option Transport) :
    Headers :=
  { Headers.invalid with ethernet := some ethernet, ipv4, transport }

section

variable {port : BitVec 9} {frame payload : List U8} {hdr : Headers}

theorem plain_parsed (ordinary : Ordinary port)
    (accepted : switchIngressParser port frame = some (hdr, payload)) (plain : Plain hdr) :
    ∃ ethernet ipv4 transport, hdr = plainHeaders ethernet ipv4 transport := by
  rw [switchIngressParser_ordinary ordinary] at accepted
  obtain ⟨ethernet, rest, _, ⟨_, ip⟩ | ⟨isTagged, tagged⟩ | ⟨isLabelled, labelled⟩ | ⟨isPtp, ptp⟩ |
    ⟨_, rfl, _⟩⟩ := Ingress.parseEthernet_cases accepted
  · obtain ⟨ipv4, transport, rfl⟩ := Ingress.parseIpv4_headers ip
    exact ⟨ethernet, ipv4, transport, rfl⟩
  · obtain ⟨tag, rest, _, inner⟩ := parse8021q_eq_some.mp tagged
    split at inner
    · obtain ⟨_, _, rfl⟩ := Ingress.parseIpv4_headers inner
      exact absurd isTagged (plain ethernet rfl).1
    · obtain ⟨rfl, _⟩ := inner
      exact absurd isTagged (plain ethernet rfl).1
  · obtain ⟨labels, _, rfl⟩ := Ingress.parseMpls_eq_some labelled
    exact absurd isLabelled (plain ethernet rfl).2.1
  · obtain ⟨ptp1, cf, ptp2, _, rfl⟩ := parsePtp_eq_some.mp ptp
    exact absurd isPtp (plain ethernet rfl).2.2
  · exact ⟨ethernet, none, none, rfl⟩

/-- The checksum is the only field that the egress deparser changes. -/
theorem switchEgressDeparser_eq_iff (hdr : Headers) (rest : List U8) :
    switchEgressDeparser hdr ++ rest = egressEmit hdr ++ rest ↔
      ∀ ip, hdr.ipv4 = some ip → ip.checksum = ip.hdrChecksum := by
  unfold switchEgressDeparser egressEmit
  simp only [List.append_cancel_right_eq, List.append_cancel_left_eq]
  cases hdr.ipv4 with
  | none => simp
  | some ip =>
    simp only [Option.map_some, Header.emit?_some, Option.some.injEq, forall_eq']
    refine ⟨?_, ?_⟩
    · intro same
      exact congrArg Ipv4.hdrChecksum (Header.emit_injective same)
    · intro same
      unfold Ipv4.update
      rw [same]

/-- The frame that leaves the switch. -/
theorem process_plain {switch : Switch} (ordinary : Ordinary port)
    (accepted : switchIngressParser port frame = some (hdr, payload)) (plain : Plain hdr)
    {r : Request} (hit : switch.tables.lookup .layer2Forwarding hdr.fields = some r)
    (forward : r.action = .forward) (ordinary' : param r .port 9 ∉ RECIRCULATION_PORTS)
    (ts : BitVec 48) :
    ∃ rest, egressEmit hdr.atEgress ++ rest = frame ∧
      switch.process port ts frame =
        [plainCopy (param r .port 9) (switchEgressDeparser hdr.atEgress ++ rest)] := by
  obtain ⟨rest, accepted'⟩ := parsers_agree ordinary ordinary' accepted
  have restored := ingress_parse_deparse accepted
  obtain ⟨ethernet, ipv4, transport, rfl⟩ := plain_parsed ordinary accepted plain
  refine ⟨rest, egress_parse_deparse ordinary' accepted', ?_⟩
  have received : switch.receive port ts frame =
      some (frame, { ucastEgressPort := some (param r .port 9), mcastGrpA := none }) := by
    have forwarding : Ingress.layer2Forwarding switch.tables
        (plainHeaders ethernet ipv4 transport) { ucastEgressPort := none, mcastGrpA := none } =
          { ucastEgressPort := some (param r .port 9), mcastGrpA := none } := by
      unfold Ingress.layer2Forwarding
      rw [hit]
      simp only [forward]
    unfold Switch.receive
    rw [accepted, ← restored, ← forwarding]
    rfl
  have transmitted : switch.transmit frame (param r .port 9) = some (plainCopy (param r .port 9)
      (switchEgressDeparser (plainHeaders ethernet ipv4 transport).atEgress ++ rest)) := by
    unfold Switch.transmit
    rw [accepted']
    rfl
  unfold Switch.process
  rw [received]
  exact List.filterMap_cons_some transmitted

/-- The fixed part of the IPv4 header follows the Ethernet header. -/
theorem plain_split (ordinary : Ordinary port)
    (accepted : switchIngressParser port frame = some (hdr, payload)) (plain : Plain hdr)
    {ip : Ipv4} (parsed : hdr.ipv4 = some ip) :
    ∃ ethernet, ∃ rest : List U8, frame = emit (ethernet : Ethernet) ++ (emit ip ++ rest) := by
  have restored := ingress_parse_deparse accepted
  obtain ⟨ethernet, ipv4, transport, rfl⟩ := plain_parsed ordinary accepted plain
  obtain rfl : ipv4 = some ip := parsed
  refine ⟨ethernet, emit? transport ++ payload, ?_⟩
  rw [← restored]
  simp [switchIngressDeparser, plainHeaders, Headers.invalid]

theorem ipv4_accepted (ordinary : Ordinary port) {ethernet : Ethernet} {ip : Ipv4}
    (isIp : ethernet.etherType = IPV4) (other : ¬ (ip.protocol = UDP ∨ ip.protocol = TCP))
    (rest : List U8) :
    switchIngressParser port (emit ethernet ++ (emit ip ++ rest)) =
      some (plainHeaders ethernet (some ip) none, rest) := by
  rw [switchIngressParser_ordinary ordinary, Ingress.parseEthernet_emit, if_pos isIp]
  refine Ingress.parseIpv4_eq_some.mpr ⟨ip, rest, rfl, ?_⟩
  rw [if_neg other]
  exact ⟨rfl, rfl⟩

/-- A plain frame is forwarded as it is when its checksum is the one that is written. -/
theorem process_plain_iff {switch : Switch} (ordinary : Ordinary port)
    (accepted : switchIngressParser port frame = some (hdr, payload)) (plain : Plain hdr)
    {r : Request} (hit : switch.tables.lookup .layer2Forwarding hdr.fields = some r)
    (forward : r.action = .forward) (ordinary' : param r .port 9 ∉ RECIRCULATION_PORTS)
    (ts : BitVec 48) :
    switch.process port ts frame = [plainCopy (param r .port 9) frame] ↔
      ∀ ip, hdr.ipv4 = some ip → ip.checksum = ip.hdrChecksum := by
  obtain ⟨rest, restored, processed⟩ :=
    process_plain ordinary accepted plain hit forward ordinary' ts
  have same : switch.process port ts frame = [plainCopy (param r .port 9) frame] ↔
      switchEgressDeparser hdr.atEgress ++ rest = egressEmit hdr.atEgress ++ rest := by
    unfold plainCopy at processed ⊢
    rw [processed, restored]
    simp only [List.cons.injEq, Copy.mk.injEq, and_true, true_and]
  exact same.trans (switchEgressDeparser_eq_iff hdr.atEgress rest)

/-- A plain frame is forwarded as it is exactly when it has no IPv4 header, or one whose checksum is
not all bits and whose options add nothing to the sum. -/
theorem forwarding_transparent_iff {switch : Switch} (ordinary : Ordinary port)
    (accepted : switchIngressParser port frame = some (hdr, payload)) (plain : Plain hdr)
    {r : Request} (hit : switch.tables.lookup .layer2Forwarding hdr.fields = some r)
    (forward : r.action = .forward) (ordinary' : Ordinary (param r .port 9))
    (valid : ∀ ip, hdr.ipv4 = some ip → ip.ValidIn frame) (ts : BitVec 48) :
    switch.process port ts frame = [plainCopy (param r .port 9) frame] ↔
      ∀ ip, hdr.ipv4 = some ip →
        ip.hdrChecksum ≠ 0xFFFF ∧ Neutral (words (ip.options frame)) := by
  rw [process_plain_iff ordinary accepted plain hit forward ordinary'.2]
  refine forall_congr' fun ip => imp_congr_right fun parsed => ?_
  obtain ⟨ethernet, more, split⟩ := plain_split ordinary accepted plain parsed
  have validIn := valid ip parsed
  refine Ipv4.checksum_eq_iff validIn.ihl_ne_zero ?_
  rw [← validIn.covered_eq split]
  exact validIn.valid

end

/-! ## A switch with one forwarding entry -/

def sampleForward : Request where
  table := .layer2Forwarding
  matchKeys := [(.ethernetDstAddr, .exact 0x020000000002)]
  action := .forward
  actionData := [(.port, 8)]

def forwardingSwitch : Switch where
  tables := { installed := [sampleForward], precedence := .first }
  groups _ := []
  tsn := fun _ hdr igTmMd => some (hdr, igTmMd)

def sampleEthernet : Ethernet where
  dstAddr := 0x020000000002
  srcAddr := 0x020000000001
  etherType := IPV4

def sampleIpv4 (ihl : BitVec 4) (totalLen hdrChecksum : BitVec 16) : Ipv4 where
  version := 4
  ihl
  diffserv := 0
  ecn := 0
  totalLen
  identification := 0
  flags := 2
  fragOffset := 0
  ttl := 64
  protocol := 1
  hdrChecksum
  srcAddr := 0x0a000001
  dstAddr := 0x0a000002

/-- A frame with such a header. -/
def sampleIpv4Frame (ip : Ipv4) (rest : List U8) : List U8 :=
  emit sampleEthernet ++ (emit ip ++ rest)

theorem sampleIpv4Frame_accepted (ihl : BitVec 4) (totalLen hdrChecksum : BitVec 16)
    (rest : List U8) :
    switchIngressParser 320 (sampleIpv4Frame (sampleIpv4 ihl totalLen hdrChecksum) rest) =
      some (plainHeaders sampleEthernet (some (sampleIpv4 ihl totalLen hdrChecksum)) none, rest) :=
  ipv4_accepted (by decide) rfl (by decide : ¬ ((1 : BitVec 8) = UDP ∨ (1 : BitVec 8) = TCP)) rest

theorem sampleIpv4Frame_plain (ip : Ipv4) :
    Plain (plainHeaders sampleEthernet (some ip) none) := by
  intro ethernet parsed
  cases parsed
  decide

theorem sampleIpv4Frame_hit (ip : Ipv4) :
    forwardingSwitch.tables.lookup .layer2Forwarding
      (plainHeaders sampleEthernet (some ip) none).fields = some sampleForward := by
  refine DataPlane.Tables.lookup_singleton (by decide) ?_
  simp [sampleForward, Request.Matches, MatchValue.Matches, Headers.fields, plainHeaders,
    sampleEthernet]

theorem forwarding_transparent_iff_sample :
    forwardingSwitch.process 320 500 (sampleIpv4Frame (sampleIpv4 5 20 0x26e7) []) =
      [plainCopy 8 (sampleIpv4Frame (sampleIpv4 5 20 0x26e7) [])] := by
  refine (forwarding_transparent_iff (by decide) (sampleIpv4Frame_accepted 5 20 0x26e7 [])
    (sampleIpv4Frame_plain _) (sampleIpv4Frame_hit _) rfl (by decide) ?_ 500).mpr ?_
  · intro ip parsed
    cases parsed
    exact ⟨by decide, by decide, by decide⟩
  · intro ip parsed
    cases parsed
    exact ⟨by decide, by decide⟩

/-- A frame with a header of six words, the last of which is an option, that is valid as it is. -/
theorem options_not_summed :
    (sampleIpv4 6 24 0x91de).ValidIn (sampleIpv4Frame (sampleIpv4 6 24 0x91de) [0x94, 0x04, 0, 0]) ∧
      forwardingSwitch.process 320 500
          (sampleIpv4Frame (sampleIpv4 6 24 0x91de) [0x94, 0x04, 0, 0]) ≠
        [plainCopy 8 (sampleIpv4Frame (sampleIpv4 6 24 0x91de) [0x94, 0x04, 0, 0])] := by
  refine ⟨⟨by decide, by decide, by decide⟩, ?_⟩
  intro same
  have written := (process_plain_iff (by decide) (sampleIpv4Frame_accepted 6 24 0x91de _)
    (sampleIpv4Frame_plain _) (sampleIpv4Frame_hit _) rfl (by decide) 500).mp same _ rfl
  exact absurd written (by decide)

end P4Tas.Frame
