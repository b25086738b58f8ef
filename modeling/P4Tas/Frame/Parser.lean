import P4Tas.DataPlane.Parser
import P4Tas.Frame.Headers
import P4Tas.Lib.OnesComplement

/-!
# Parsers and deparsers

`parser.p4` over the bytes of a packet.  The parser of a pipeline takes the headers off the front of
a packet, and its deparser puts those that are valid before what is left.  A packet that ends within
a header, or that has more labels than the stack holds, is not accepted.

* `ingress_parse_deparse`: the ingress deparser restores every packet the ingress parser accepts;
* `egress_parse_deparse`: without its checksum update, so does the egress deparser for a packet that
  is not recirculated.
-/

namespace P4Tas.Frame

open DataPlane.Parser (PACKET_GEN_PORTS RECIRCULATION_PORTS IPV4 MPLS ETH_802_1Q PTP TCP UDP)
open Header (emit emit? extract)

/-- What a parser state makes of a packet, after it has extracted some headers: it extracts more,
and leaves the rest of the packet. -/
abbrev ParserState := Headers → List U8 → Option (Headers × List U8)

/-! ## States of both parsers -/

def parsePtp : ParserState := fun hdr pkt => do
  let (ptp1, pkt) ← (extract pkt : Option (Ptp1 × List U8))
  let (cf, pkt) ← (extract pkt : Option (PtpCorrectionField × List U8))
  let (ptp2, pkt) ← (extract pkt : Option (Ptp2 × List U8))
  return ({ hdr with ptp1 := some ptp1, ptpCorrectionField := some cf, ptp2 := some ptp2 }, pkt)

/-- `parse_802_1q`, with the state for a tagged IPv4 packet. -/
def parse8021q (parseIpv4 : ParserState) : ParserState := fun hdr pkt => do
  let (tag, pkt) ← (extract pkt : Option (Eth8021q × List U8))
  let hdr := { hdr with eth8021q := some tag }
  if tag.etherType = IPV4 then parseIpv4 hdr pkt else some (hdr, pkt)

/-! ## The ingress pipeline -/

namespace Ingress

def parsePktGen : ParserState := fun hdr pkt => do
  let (timer, pkt) ← (extract pkt : Option (Timer × List U8))
  return ({ hdr with timer := some timer }, pkt)

def parseTransport : ParserState := fun hdr pkt => do
  let (transport, pkt) ← (extract pkt : Option (Transport × List U8))
  return ({ hdr with transport := some transport }, pkt)

def parseIpv4 : ParserState := fun hdr pkt => do
  let (ipv4, pkt) ← (extract pkt : Option (Ipv4 × List U8))
  let hdr := { hdr with ipv4 := some ipv4 }
  if ipv4.protocol = UDP ∨ ipv4.protocol = TCP then parseTransport hdr pkt else some (hdr, pkt)

/-- `parse_mpls`, with the number of elements of the stack that are free. -/
def parseMpls : Nat → ParserState
  | 0 => fun _ _ => none
  | slots + 1 => fun hdr pkt => do
    let (label, pkt) ← (extract pkt : Option (Mpls × List U8))
    let hdr := { hdr with mpls := hdr.mpls ++ [label] }
    if label.bos = 0 then parseMpls slots hdr pkt else some (hdr, pkt)

def parseEthernet : ParserState := fun hdr pkt => do
  let (ethernet, pkt) ← (extract pkt : Option (Ethernet × List U8))
  let hdr := { hdr with ethernet := some ethernet }
  if ethernet.etherType = IPV4 then parseIpv4 hdr pkt
  else if ethernet.etherType = ETH_802_1Q then parse8021q parseIpv4 hdr pkt
  else if ethernet.etherType = MPLS then parseMpls 16 hdr pkt
  else if ethernet.etherType = PTP then parsePtp hdr pkt
  else some (hdr, pkt)

end Ingress

/-- `SwitchIngressParser` -/
def switchIngressParser (ingressPort : BitVec 9) (pkt : List U8) : Option (Headers × List U8) :=
  if ingressPort ∈ PACKET_GEN_PORTS ∨ ingressPort ∈ RECIRCULATION_PORTS then
    Ingress.parsePktGen .invalid pkt
  else
    Ingress.parseEthernet .invalid pkt

/-- `SwitchIngressDeparser`: the headers it emits. -/
def switchIngressDeparser (hdr : Headers) : List U8 :=
  emit? hdr.timer ++
    (emit? hdr.ethernet ++ (emit? hdr.eth8021q ++ (emit? hdr.ptp1 ++
    (emit? hdr.ptpCorrectionField ++ (emit? hdr.ptp2 ++ (emit? hdr.gclTime ++
    (hdr.mpls.flatMap emit ++ (emit? hdr.ipv4 ++ emit? hdr.transport))))))))

/-! ## The egress pipeline -/

namespace Egress

def parseGclTime : ParserState := fun hdr pkt => do
  let (gclTime, pkt) ← (extract pkt : Option (GclTime × List U8))
  return ({ hdr with gclTime := some gclTime }, pkt)

def parsePktGen : ParserState := fun hdr pkt => do
  let (timer, pkt) ← (extract pkt : Option (Timer × List U8))
  parseGclTime { hdr with timer := some timer } pkt

def parseIpv4 : ParserState := fun hdr pkt => do
  let (ipv4, pkt) ← (extract pkt : Option (Ipv4 × List U8))
  return ({ hdr with ipv4 := some ipv4 }, pkt)

def parseEthernet : ParserState := fun hdr pkt => do
  let (ethernet, pkt) ← (extract pkt : Option (Ethernet × List U8))
  let hdr := { hdr with ethernet := some ethernet }
  if ethernet.etherType = ETH_802_1Q then parse8021q parseIpv4 hdr pkt
  else if ethernet.etherType = IPV4 then parseIpv4 hdr pkt
  else if ethernet.etherType = PTP then parsePtp hdr pkt
  else some (hdr, pkt)

end Egress

/-- `SwitchEgressParser` -/
def switchEgressParser (egressPort : BitVec 9) (pkt : List U8) : Option (Headers × List U8) :=
  if egressPort ∈ RECIRCULATION_PORTS then
    Egress.parsePktGen .invalid pkt
  else
    Egress.parseEthernet .invalid pkt

/-- `ipv4_checksum.update` over the fields of the header apart from the checksum. -/
def Ipv4.checksum (h : Ipv4) : BitVec 16 :=
  OnesComplement.checksum (OnesComplement.words
    (BigEndian.bytes 10 h.front.toNat ++ BigEndian.bytes 8 (h.srcAddr ++ h.dstAddr).toNat))

def Ipv4.update (h : Ipv4) : Ipv4 :=
  { h with hdrChecksum := h.checksum }

/-- The emits of `SwitchEgressDeparser`. -/
def egressEmit (hdr : Headers) : List U8 :=
  emit? hdr.timer ++ (emit? hdr.ptpMetadata ++
    (emit? hdr.ethernet ++ (emit? hdr.eth8021q ++ (emit? hdr.ptp1 ++
    (emit? hdr.ptpCorrectionField ++ (emit? hdr.ptp2 ++
    (hdr.mpls.flatMap emit ++ (emit? hdr.ipv4 ++ emit? hdr.transport))))))))

/-- `SwitchEgressDeparser`: the headers it emits, after the checksum update. -/
def switchEgressDeparser (hdr : Headers) : List U8 :=
  egressEmit { hdr with ipv4 := hdr.ipv4.map Ipv4.update }

/-! ## What a state extracts -/

section States

variable {hdr hdr' : Headers} {pkt rest : List U8}

theorem parsePtp_eq_some :
    parsePtp hdr pkt = some (hdr', rest) ↔
      ∃ ptp1 cf ptp2, pkt = emit ptp1 ++ (emit cf ++ (emit ptp2 ++ rest)) ∧
        hdr' = { hdr with
          ptp1 := some ptp1, ptpCorrectionField := some cf, ptp2 := some ptp2 } := by
  unfold parsePtp
  simp only [Header.bind_extract_eq_some, Option.pure_def, Option.some.injEq, Prod.mk.injEq]
  refine ⟨?_, ?_⟩
  · rintro ⟨ptp1, _, rfl, cf, _, rfl, ptp2, _, rfl, rfl, rfl⟩
    exact ⟨ptp1, cf, ptp2, rfl, rfl⟩
  · rintro ⟨ptp1, cf, ptp2, rfl, rfl⟩
    exact ⟨ptp1, _, rfl, cf, _, rfl, ptp2, _, rfl, rfl, rfl⟩

theorem parse8021q_eq_some {parseIpv4 : ParserState} :
    parse8021q parseIpv4 hdr pkt = some (hdr', rest) ↔
      ∃ tag pkt', pkt = emit tag ++ pkt' ∧
        if tag.etherType = IPV4 then
          parseIpv4 { hdr with eth8021q := some tag } pkt' = some (hdr', rest)
        else
          hdr' = { hdr with eth8021q := some tag } ∧ rest = pkt' := by
  unfold parse8021q
  simp only [Header.bind_extract_eq_some]
  refine exists_congr fun tag => exists_congr fun pkt' => and_congr_right fun _ => ?_
  split
  · exact Iff.rfl
  · rw [Option.some.injEq, Prod.mk.injEq]
    exact and_congr eq_comm eq_comm

namespace Ingress

theorem parseTransport_eq_some :
    parseTransport hdr pkt = some (hdr', rest) ↔
      ∃ transport, pkt = emit transport ++ rest ∧
        hdr' = { hdr with transport := some transport } := by
  unfold parseTransport
  simp only [Header.bind_extract_eq_some, Option.pure_def, Option.some.injEq, Prod.mk.injEq]
  refine ⟨?_, ?_⟩
  · rintro ⟨transport, _, rfl, rfl, rfl⟩
    exact ⟨transport, rfl, rfl⟩
  · rintro ⟨transport, rfl, rfl⟩
    exact ⟨transport, _, rfl, rfl, rfl⟩

theorem parseIpv4_eq_some :
    parseIpv4 hdr pkt = some (hdr', rest) ↔
      ∃ ipv4 pkt', pkt = emit ipv4 ++ pkt' ∧
        if ipv4.protocol = UDP ∨ ipv4.protocol = TCP then
          parseTransport { hdr with ipv4 := some ipv4 } pkt' = some (hdr', rest)
        else
          hdr' = { hdr with ipv4 := some ipv4 } ∧ rest = pkt' := by
  unfold parseIpv4
  simp only [Header.bind_extract_eq_some]
  refine exists_congr fun ipv4 => exists_congr fun pkt' => and_congr_right fun _ => ?_
  split
  · exact Iff.rfl
  · rw [Option.some.injEq, Prod.mk.injEq]
    exact and_congr eq_comm eq_comm

/-- No other headers are extracted. -/
theorem parseIpv4_headers (run : parseIpv4 hdr pkt = some (hdr', rest)) :
    ∃ ipv4 transport, hdr' = { hdr with ipv4, transport } := by
  obtain ⟨ipv4, pkt', _, run'⟩ := parseIpv4_eq_some.mp run
  split at run'
  · obtain ⟨transport, _, rfl⟩ := parseTransport_eq_some.mp run'
    exact ⟨some ipv4, some transport, rfl⟩
  · obtain ⟨rfl, _⟩ := run'
    exact ⟨some ipv4, hdr.transport, rfl⟩

/-- The labels of the stack are at the front of the packet, and no other header is extracted. -/
theorem parseMpls_eq_some {slots : Nat} (run : parseMpls slots hdr pkt = some (hdr', rest)) :
    ∃ labels, pkt = labels.flatMap emit ++ rest ∧
      hdr' = { hdr with mpls := hdr.mpls ++ labels } := by
  induction slots generalizing hdr pkt with
  | zero => cases run
  | succ slots ih =>
    obtain ⟨label, pkt', rfl, more⟩ := Header.bind_extract_eq_some.mp run
    dsimp only at more
    split at more
    · obtain ⟨labels, rfl, rfl⟩ := ih more
      exact ⟨label :: labels, by simp, by simp⟩
    · cases more
      exact ⟨[label], by simp, rfl⟩

end Ingress

theorem Egress.parseIpv4_eq_some :
    Egress.parseIpv4 hdr pkt = some (hdr', rest) ↔
      ∃ ipv4, pkt = emit ipv4 ++ rest ∧ hdr' = { hdr with ipv4 := some ipv4 } := by
  unfold Egress.parseIpv4
  simp only [Header.bind_extract_eq_some, Option.pure_def, Option.some.injEq, Prod.mk.injEq]
  refine ⟨?_, ?_⟩
  · rintro ⟨ipv4, _, rfl, rfl, rfl⟩
    exact ⟨ipv4, rfl, rfl⟩
  · rintro ⟨ipv4, rfl, rfl⟩
    exact ⟨ipv4, _, rfl, rfl, rfl⟩

end States

/-! ## Parsing and deparsing -/

section RoundTrip

variable {port : BitVec 9} {hdr : Headers} {pkt payload : List U8}

/-- The port is neither of the packet generator nor for recirculation, so that its packets begin
with an Ethernet header. -/
def Ordinary (port : BitVec 9) : Prop :=
  port ∉ PACKET_GEN_PORTS ∧ port ∉ RECIRCULATION_PORTS

instance (port : BitVec 9) : Decidable (Ordinary port) :=
  inferInstanceAs (Decidable (port ∉ PACKET_GEN_PORTS ∧ port ∉ RECIRCULATION_PORTS))

theorem switchIngressParser_ordinary (ordinary : Ordinary port) (pkt : List U8) :
    switchIngressParser port pkt = Ingress.parseEthernet .invalid pkt :=
  if_neg (not_or.mpr ordinary)

theorem switchEgressParser_ordinary (ordinary : port ∉ RECIRCULATION_PORTS) (pkt : List U8) :
    switchEgressParser port pkt = Egress.parseEthernet .invalid pkt :=
  if_neg ordinary

/-- The Ethernet header is the first that is extracted. -/
def Headers.ofEthernet (ethernet : Ethernet) : Headers :=
  { Headers.invalid with ethernet := some ethernet }

theorem Ingress.parseEthernet_emit (ethernet : Ethernet) (rest : List U8) :
    parseEthernet .invalid (emit ethernet ++ rest) =
      if ethernet.etherType = IPV4 then parseIpv4 (.ofEthernet ethernet) rest
      else if ethernet.etherType = ETH_802_1Q then
        parse8021q parseIpv4 (.ofEthernet ethernet) rest
      else if ethernet.etherType = MPLS then parseMpls 16 (.ofEthernet ethernet) rest
      else if ethernet.etherType = PTP then parsePtp (.ofEthernet ethernet) rest
      else some (.ofEthernet ethernet, rest) := by
  unfold parseEthernet
  rw [Header.extract_append]
  rfl

theorem Egress.parseEthernet_emit (ethernet : Ethernet) (rest : List U8) :
    parseEthernet .invalid (emit ethernet ++ rest) =
      if ethernet.etherType = ETH_802_1Q then
        parse8021q parseIpv4 (.ofEthernet ethernet) rest
      else if ethernet.etherType = IPV4 then parseIpv4 (.ofEthernet ethernet) rest
      else if ethernet.etherType = PTP then parsePtp (.ofEthernet ethernet) rest
      else some (.ofEthernet ethernet, rest) := by
  unfold parseEthernet
  rw [Header.extract_append]
  rfl

theorem Ingress.exists_ethernet (run : parseEthernet .invalid pkt = some (hdr, payload)) :
    ∃ (ethernet : Ethernet) (rest : List U8), pkt = emit ethernet ++ rest := by
  obtain ⟨ethernet, rest, split, _⟩ := Header.bind_extract_eq_some.mp run
  exact ⟨ethernet, rest, split⟩

/-- What follows the Ethernet header of a frame the ingress parser accepts. -/
theorem Ingress.parseEthernet_cases (run : parseEthernet .invalid pkt = some (hdr, payload)) :
    ∃ ethernet rest, pkt = emit ethernet ++ rest ∧
      (ethernet.etherType = IPV4 ∧
          parseIpv4 (.ofEthernet ethernet) rest = some (hdr, payload) ∨
        ethernet.etherType = ETH_802_1Q ∧
          parse8021q parseIpv4 (.ofEthernet ethernet) rest = some (hdr, payload) ∨
        ethernet.etherType = MPLS ∧
          parseMpls 16 (.ofEthernet ethernet) rest = some (hdr, payload) ∨
        ethernet.etherType = PTP ∧
          parsePtp (.ofEthernet ethernet) rest = some (hdr, payload) ∨
        (ethernet.etherType ∉ [IPV4, ETH_802_1Q, PTP] ∧
          hdr = .ofEthernet ethernet ∧ payload = rest)) := by
  obtain ⟨ethernet, rest, rfl⟩ := exists_ethernet run
  rw [parseEthernet_emit] at run
  refine ⟨ethernet, rest, rfl, ?_⟩
  split at run
  · rename_i ip
    exact .inl ⟨ip, run⟩
  · rename_i notIp
    split at run
    · rename_i tagged
      exact .inr (.inl ⟨tagged, run⟩)
    · rename_i notTagged
      split at run
      · rename_i labelled
        exact .inr (.inr (.inl ⟨labelled, run⟩))
      · split at run
        · rename_i ptp
          exact .inr (.inr (.inr (.inl ⟨ptp, run⟩)))
        · rename_i notPtp
          cases run
          exact .inr (.inr (.inr (.inr ⟨by simp [notIp, notTagged, notPtp], rfl, rfl⟩)))

/-- The states for IPv4 add headers that are emitted last. -/
theorem Ingress.parseIpv4_deparse {hdr' : Headers} (ipv4 : hdr.ipv4 = none)
    (transport : hdr.transport = none) (run : parseIpv4 hdr pkt = some (hdr', payload)) :
    switchIngressDeparser hdr' ++ payload = switchIngressDeparser hdr ++ pkt := by
  obtain ⟨ip, rest, rfl, run'⟩ := parseIpv4_eq_some.mp run
  split at run'
  · obtain ⟨ports, rfl, rfl⟩ := parseTransport_eq_some.mp run'
    simp [switchIngressDeparser, ipv4, transport]
  · obtain ⟨rfl, rfl⟩ := run'
    simp [switchIngressDeparser, ipv4, transport]

theorem Ingress.parseEthernet_deparse (run : parseEthernet .invalid pkt = some (hdr, payload)) :
    switchIngressDeparser hdr ++ payload = pkt := by
  obtain ⟨ethernet, rest, rfl, ⟨_, ip⟩ | ⟨_, tagged⟩ | ⟨_, labelled⟩ | ⟨_, ptp⟩ | ⟨_, rfl, rfl⟩⟩ :=
    parseEthernet_cases run
  · rw [parseIpv4_deparse rfl rfl ip]
    simp [switchIngressDeparser, Headers.ofEthernet, Headers.invalid]
  · obtain ⟨tag, rest, rfl, inner⟩ := parse8021q_eq_some.mp tagged
    split at inner
    · rw [parseIpv4_deparse rfl rfl inner]
      simp [switchIngressDeparser, Headers.ofEthernet, Headers.invalid]
    · obtain ⟨rfl, rfl⟩ := inner
      simp [switchIngressDeparser, Headers.ofEthernet, Headers.invalid]
  · obtain ⟨labels, rfl, rfl⟩ := parseMpls_eq_some labelled
    simp [switchIngressDeparser, Headers.ofEthernet, Headers.invalid]
  · obtain ⟨ptp1, cf, ptp2, rfl, rfl⟩ := parsePtp_eq_some.mp ptp
    simp [switchIngressDeparser, Headers.ofEthernet, Headers.invalid]
  · simp [switchIngressDeparser, Headers.ofEthernet, Headers.invalid]

/-- The ingress deparser restores a packet. -/
theorem ingress_parse_deparse (accepted : switchIngressParser port pkt = some (hdr, payload)) :
    switchIngressDeparser hdr ++ payload = pkt := by
  unfold switchIngressParser at accepted
  split at accepted
  · obtain ⟨timer, rest, rfl, result⟩ := Header.bind_extract_eq_some.mp accepted
    cases result
    simp [switchIngressDeparser, Headers.invalid]
  · exact Ingress.parseEthernet_deparse accepted

/-- The egress deparser restores a packet that is not recirculated, but for the checksum. -/
theorem egress_parse_deparse (ordinary : port ∉ RECIRCULATION_PORTS)
    (accepted : switchEgressParser port pkt = some (hdr, payload)) :
    egressEmit hdr ++ payload = pkt := by
  rw [switchEgressParser_ordinary ordinary] at accepted
  obtain ⟨ethernet, rest, rfl, selected⟩ := Header.bind_extract_eq_some.mp accepted
  dsimp only at selected
  split at selected
  · obtain ⟨tag, rest, rfl, tagged⟩ := parse8021q_eq_some.mp selected
    split at tagged
    · obtain ⟨ip, rfl, rfl⟩ := Egress.parseIpv4_eq_some.mp tagged
      simp [egressEmit, Headers.invalid]
    · obtain ⟨rfl, rfl⟩ := tagged
      simp [egressEmit, Headers.invalid]
  · split at selected
    · obtain ⟨ip, rfl, rfl⟩ := Egress.parseIpv4_eq_some.mp selected
      simp [egressEmit, Headers.invalid]
    · split at selected
      · obtain ⟨ptp1, cf, ptp2, rfl, rfl⟩ := parsePtp_eq_some.mp selected
        simp [egressEmit, Headers.invalid]
      · cases selected
        simp [egressEmit, Headers.invalid]

/-- The headers the egress parser extracts as well: it leaves labels and ports in the payload. -/
def Headers.atEgress (hdr : Headers) : Headers :=
  { hdr with mpls := [], transport := none }

theorem Egress.parseIpv4_of_ingress {hdr hdr' : Headers} (mpls : hdr.mpls = [])
    (transport : hdr.transport = none)
    (run : Ingress.parseIpv4 hdr pkt = some (hdr', payload)) :
    ∃ rest, Egress.parseIpv4 hdr pkt = some (hdr'.atEgress, rest) := by
  obtain ⟨ip, rest, rfl, run'⟩ := Ingress.parseIpv4_eq_some.mp run
  refine ⟨rest, Egress.parseIpv4_eq_some.mpr ⟨ip, rfl, ?_⟩⟩
  split at run'
  · obtain ⟨ports, rfl, rfl⟩ := Ingress.parseTransport_eq_some.mp run'
    simp [Headers.atEgress, ← mpls, ← transport]
  · obtain ⟨rfl, rfl⟩ := run'
    simp [Headers.atEgress, ← mpls, ← transport]

/-- The egress parser finds in a packet what the ingress parser has found. -/
theorem parsers_agree {egressPort : BitVec 9} (ordinary : Ordinary port)
    (ordinary' : egressPort ∉ RECIRCULATION_PORTS)
    (accepted : switchIngressParser port pkt = some (hdr, payload)) :
    ∃ rest, switchEgressParser egressPort pkt = some (hdr.atEgress, rest) := by
  rw [switchIngressParser_ordinary ordinary] at accepted
  rw [switchEgressParser_ordinary ordinary']
  obtain ⟨ethernet, rest, rfl, ⟨isIp, ip⟩ | ⟨isTagged, tagged⟩ | ⟨isLabelled, labelled⟩ |
    ⟨isPtp, ptp⟩ | ⟨other, rfl, rfl⟩⟩ := Ingress.parseEthernet_cases accepted
  all_goals rw [Egress.parseEthernet_emit]
  · rw [if_neg (by rw [isIp]; decide), if_pos isIp]
    exact Egress.parseIpv4_of_ingress rfl rfl ip
  · rw [if_pos isTagged]
    obtain ⟨tag, rest, rfl, inner⟩ := parse8021q_eq_some.mp tagged
    simp only [parse8021q_eq_some]
    split at inner
    · rename_i isIp
      obtain ⟨rest', run⟩ := Egress.parseIpv4_of_ingress rfl rfl inner
      exact ⟨rest', tag, rest, rfl, by rwa [if_pos isIp]⟩
    · rename_i notIp
      obtain ⟨rfl, rfl⟩ := inner
      exact ⟨payload, tag, payload, rfl, by rw [if_neg notIp]; exact ⟨rfl, rfl⟩⟩
  · obtain ⟨labels, rfl, rfl⟩ := Ingress.parseMpls_eq_some labelled
    rw [if_neg (by rw [isLabelled]; decide), if_neg (by rw [isLabelled]; decide),
      if_neg (by rw [isLabelled]; decide)]
    exact ⟨_, rfl⟩
  · obtain ⟨ptp1, cf, ptp2, rfl, rfl⟩ := parsePtp_eq_some.mp ptp
    rw [if_neg (by rw [isPtp]; decide), if_neg (by rw [isPtp]; decide), if_pos isPtp]
    exact ⟨payload, parsePtp_eq_some.mpr ⟨ptp1, cf, ptp2, rfl, rfl⟩⟩
  · simp only [List.mem_cons, List.not_mem_nil, or_false, not_or] at other
    obtain ⟨notIp, notTagged, notPtp⟩ := other
    rw [if_neg notTagged, if_neg notIp, if_neg notPtp]
    exact ⟨payload, rfl⟩

end RoundTrip

end P4Tas.Frame
