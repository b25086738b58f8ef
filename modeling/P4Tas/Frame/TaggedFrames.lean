import P4Tas.Frame.GeneratedPackets
import P4Tas.Frame.Transparency

/-!
# Tagged frames

A tagged frame of an ordinary port on its way through the switch.  The control identifies its
stream and polices it; what is left of a frame that passes is written to the headers, and the frame
is forwarded by its new destination address.

* `TSN.frames`: the control for packets that are not generated, over the headers of a frame;
* `Tsn.apply_headers`: the fields that the control writes;
* `TaggedFrame.parsed_rewrite`: a frame with other values in these fields is parsed as before;
* `process_tagged`: the copies of a tagged frame, byte by byte.
-/

namespace P4Tas.DataPlane

namespace FlowMeter

/-- The DEI of a frame that passes, by its color. -/
def dei (packetColor : BitVec 2) : BitVec 1 :=
  if packetColor = 0 then 0 else 1

variable {target : Target} {tables : Tables} {meter : MeterColor → BitVec 2}
  {regMeterBlocked : Registers} {pkt : Packet}

theorem evaluateColor_headers
    (passed : (evaluateColor target regMeterBlocked pkt).pkt.igMd.toBeDropped = 0) :
    (evaluateColor target regMeterBlocked pkt).pkt.hdr = { pkt.hdr with
      eth8021q := { pkt.hdr.eth8021q with
        dei := dei (evaluateColor target regMeterBlocked pkt).pkt.igTmMd.packetColor } } := by
  have marked {c : BitVec 2} (yellow : c = 1 ∨ c = 2) : dei c = 1 := by
    rcases yellow with rfl | rfl
    · rfl
    · rfl
  have some_color (c : BitVec 2) : c = 1 ∨ c = 2 ∨ c = 3 ∨ c = 0 := by
    revert c
    decide
  revert passed
  unfold evaluateColor
  dsimp only
  split
  · rename_i yellow
    split
    · intro passed
      exact absurd passed (by exact nofun)
    · intro _
      unfold setDei setMeterBlocked
      dsimp only
      rw [marked yellow]
  · rename_i notYellow
    split
    · split
      · intro passed
        exact absurd passed (by exact nofun)
      · intro passed
        exact absurd passed (by exact nofun)
    · rename_i notRed
      split
      · rename_i green
        split
        · intro passed
          exact absurd passed (by exact nofun)
        · intro _
          unfold setDei setMeterBlocked
          dsimp only
          rw [green.1]
          rfl
      · rename_i notGreen
        intro passed
        rcases some_color pkt.igTmMd.packetColor with one | two | three | zero
        · exact absurd (.inl one) notYellow
        · exact absurd (.inr two) notYellow
        · exact absurd three notRed
        · exact absurd ⟨zero, passed⟩ notGreen

/-- Before the evaluation only metadata are written. -/
theorem apply_headers
    (passed : (apply target tables meter regMeterBlocked pkt).pkt.igMd.toBeDropped = 0) :
    (apply target tables meter regMeterBlocked pkt).pkt.hdr = { pkt.hdr with
      eth8021q := { pkt.hdr.eth8021q with
        dei := dei (apply target tables meter regMeterBlocked pkt).pkt.igTmMd.packetColor } } := by
  have before : (if (preColoring pkt).igMd.toBeDropped = 0 then
      flowMeterInstance tables meter (preColoring pkt) else preColoring pkt).hdr = pkt.hdr := by
    unfold flowMeterInstance
    split
    · split
      · rfl
      · rfl
    · rfl
  have evaluated := evaluateColor_headers passed
  rw [before] at evaluated
  exact evaluated

end FlowMeter

namespace Tsn

variable {target : Target} {tables : Tables} {meter : MeterColor → BitVec 2}
  {registers : Registers} {pkt : Packet}

/-- The frame with the metadata of its stream and its position. -/
def positioned (target : Target) (tables : Tables) (registers : Registers) (pkt : Packet) :
    Packet :=
  DeltaAdjustment.apply tables (calcDiffTs (readGateTs target tables registers pkt))

theorem apply_positioned (noTimer : pkt.hdr.timer = none) :
    apply target tables meter registers pkt =
      finishFrame target tables meter registers (positioned target tables registers pkt) := by
  unfold apply
  rw [noTimer]
  rfl

theorem positioned_kept :
    (positioned target tables registers pkt).hdr = (StreamIdentification.apply tables pkt).hdr ∧
      (positioned target tables registers pkt).igDprsrMd = pkt.igDprsrMd := by
  obtain ⟨diffTs, difference, adjusted⟩ := DeltaAdjustment.apply_eq tables
    (calcDiffTs (readGateTs target tables registers pkt))
  unfold positioned
  rw [adjusted]
  exact ⟨rfl, readGateTs_igDprsrMd target registers tables pkt⟩

theorem dropped_of_dropCtl (noTimer : pkt.hdr.timer = none) (fresh : pkt.igDprsrMd.dropCtl = 0) :
    (apply target tables meter registers pkt).pkt.igDprsrMd.dropCtl = 3 ↔
      (apply target tables meter registers pkt).Dropped := by
  rw [apply_positioned noTimer]
  obtain ⟨_, kept⟩ := @positioned_kept target tables registers pkt
  obtain ⟨toBeDropped, streamGate, qid, digestType, gated⟩ := StreamGate.apply_pkt target tables
    registers.streamGate (positioned target tables registers pkt)
  unfold Result.Dropped finishFrame
  dsimp only
  split
  · rename_i dropped
    exact ⟨fun ctl => ⟨dropped, ctl⟩, fun h => h.2⟩
  · rename_i passed
    refine iff_of_false ?_ fun h => passed h.1
    rw [FlowMeter.apply_igDprsrMd, gated]
    dsimp only
    rw [kept, fresh]
    decide

/-- The control writes the address and the priority of the stream, and the color of the frame. -/
theorem apply_headers (noTimer : pkt.hdr.timer = none)
    (passed : ¬ (apply target tables meter registers pkt).Dropped) :
    (apply target tables meter registers pkt).pkt.hdr =
      { (StreamIdentification.apply tables pkt).hdr with
        eth8021q := { (StreamIdentification.apply tables pkt).hdr.eth8021q with
          dei := FlowMeter.dei
            (apply target tables meter registers pkt).pkt.igTmMd.packetColor } } := by
  obtain ⟨kept, _⟩ := @positioned_kept target tables registers pkt
  obtain ⟨toBeDropped, streamGate, qid, digestType, gated⟩ := StreamGate.apply_pkt target tables
    registers.streamGate (positioned target tables registers pkt)
  rw [apply_positioned noTimer] at passed ⊢
  rw [finishFrame_dropped_iff, ← eq_zero_iff] at passed
  have notDropped := eq_zero_iff.mp passed
  have result : (finishFrame target tables meter registers
      (positioned target tables registers pkt)).pkt = (FlowMeter.apply target tables meter
        registers.regMeterBlocked (StreamGate.apply target tables registers.streamGate
          (positioned target tables registers pkt)).pkt).pkt := by
    unfold finishFrame
    dsimp only
    rw [if_neg notDropped]
  rw [result, FlowMeter.apply_headers passed, gated]
  dsimp only
  rw [kept]

end Tsn

end P4Tas.DataPlane

namespace P4Tas.Frame

open DataPlane
open DataPlane.Parser (RECIRCULATION_PORTS IPV4 ETH_802_1Q)
open Header (emit emit? extract)

/-! ## The control -/

/-- A frame as it enters `TSN.p4`; `unspecified` has the fields of headers that are not valid. -/
def Headers.received (hdr : Headers) (unspecified : DataPlane.Headers)
    (ingressMacTstamp : BitVec 48) : Packet :=
  { (default : Packet) with
    hdr := {
      timer := none
      recirc := unspecified.recirc
      gclTime := none
      ethernet := (hdr.ethernet.map fun h => ⟨h.dstAddr⟩).getD unspecified.ethernet
      eth8021q := (hdr.eth8021q.map fun h => ⟨h.pcp, h.dei, h.vid⟩).getD unspecified.eth8021q
      ipv4 := (hdr.ipv4.map fun h => ⟨h.srcAddr, h.dstAddr⟩).getD unspecified.ipv4 }
    igIntrMd := { ingressMacTstamp } }

/-- The headers after the control, which writes fields of two of them. -/
def Headers.written (hdr : Headers) (after : DataPlane.Headers) : Headers :=
  { hdr with
    ethernet := hdr.ethernet.map fun h => { h with dstAddr := after.ethernet.dstAddr }
    eth8021q := hdr.eth8021q.map fun h =>
      { h with pcp := after.eth8021q.pcp, dei := after.eth8021q.dei } }

/-- `TSN.p4` for the packets that are not generated. -/
def TSN.frames (target : Target) (tables : Tables) (meter : MeterColor → BitVec 2)
    (registers : Tsn.Registers) (unspecified : DataPlane.Headers) (ingressMacTstamp : BitVec 48)
    (hdr : Headers) (igTmMd : TmMetadata) : Option (Headers × TmMetadata) :=
  let pkt := (Tsn.apply target tables meter registers
    (hdr.received unspecified ingressMacTstamp)).pkt
  if pkt.igDprsrMd.dropCtl = 3 then none else some (hdr.written pkt.hdr, igTmMd)

/-! ## A tagged frame -/

/-- A tagged frame on the wire. -/
structure TaggedFrame where
  ethernet : Ethernet
  tag : Eth8021q
  rest : List U8
  isTagged : ethernet.etherType = ETH_802_1Q

namespace TaggedFrame

def bytes (f : TaggedFrame) : List U8 :=
  emit f.ethernet ++ (emit f.tag ++ f.rest)

/-- The headers up to the tag. -/
def outer (f : TaggedFrame) : Headers :=
  { Headers.invalid with ethernet := some f.ethernet, eth8021q := some f.tag }

/-- The headers of the frame with the rest of it; `none` ends within a header. -/
def parsed (f : TaggedFrame) : Option (Headers × List U8) :=
  if f.tag.etherType = IPV4 then Ingress.parseIpv4 f.outer f.rest else some (f.outer, f.rest)

/-- The IPv4 header behind the tag. -/
def ipv4 (f : TaggedFrame) : Option Ipv4 :=
  if f.tag.etherType = IPV4 then (extract f.rest : Option (Ipv4 × List U8)).map Prod.fst else none

/-- The rest of the frame with the checksum written anew. -/
def refreshed (f : TaggedFrame) : List U8 :=
  match f.ipv4 with
  | some ip => emit ip.update ++ f.rest.drop 20
  | none => f.rest

/-- The frame as it is sent. -/
def sent (f : TaggedFrame) : List U8 :=
  emit f.ethernet ++ (emit f.tag ++ f.refreshed)

/-- The frame with these values in the fields that the control writes. -/
def rewrite (f : TaggedFrame) (dstAddr : BitVec 48) (pcp : BitVec 3) (dei : BitVec 1) :
    TaggedFrame where
  ethernet := { f.ethernet with dstAddr }
  tag := { f.tag with pcp, dei }
  rest := f.rest
  isTagged := f.isTagged

variable {f : TaggedFrame} {port : BitVec 9} {hdr : Headers} {frame payload : List U8}

/-! ### Parsing -/

theorem switchIngressParser_bytes (ordinary : Ordinary port) (f : TaggedFrame) :
    switchIngressParser port f.bytes = f.parsed := by
  rw [switchIngressParser_ordinary ordinary]
  unfold bytes
  rw [Ingress.parseEthernet_emit, if_neg (by rw [f.isTagged]; decide), if_pos f.isTagged]
  unfold parse8021q
  rw [Header.extract_append]
  rfl

/-- What the ingress parser finds a tag in is a tagged frame. -/
theorem exists_tagged (ordinary : Ordinary port)
    (accepted : switchIngressParser port frame = some (hdr, payload)) {tag : Eth8021q}
    (tagged : hdr.eth8021q = some tag) :
    ∃ f : TaggedFrame, frame = f.bytes ∧ f.tag = tag := by
  rw [switchIngressParser_ordinary ordinary] at accepted
  obtain ⟨ethernet, rest, rfl, ⟨_, ip⟩ | ⟨isTagged, inner⟩ | ⟨_, labelled⟩ | ⟨_, ptp⟩ |
    ⟨_, rfl, _⟩⟩ := Ingress.parseEthernet_cases accepted
  · obtain ⟨_, _, rfl⟩ := Ingress.parseIpv4_headers ip
    cases tagged
  · obtain ⟨tag', rest', rfl, behind⟩ := parse8021q_eq_some.mp inner
    refine ⟨⟨ethernet, tag', rest', isTagged⟩, rfl, ?_⟩
    split at behind
    · obtain ⟨_, _, rfl⟩ := Ingress.parseIpv4_headers behind
      exact Option.some.inj tagged
    · rw [behind.1] at tagged
      exact Option.some.inj tagged
  · obtain ⟨_, _, rfl⟩ := Ingress.parseMpls_eq_some labelled
    cases tagged
  · obtain ⟨_, _, _, _, rfl⟩ := parsePtp_eq_some.mp ptp
    cases tagged
  · cases tagged

/-- Behind the tag there are an IPv4 header and the ports, or neither. -/
theorem parsed_headers (accepted : f.parsed = some (hdr, payload)) :
    ∃ transport, hdr = { f.outer with ipv4 := f.ipv4, transport } := by
  unfold parsed at accepted
  unfold ipv4
  split at accepted
  · rename_i isIp
    obtain ⟨ip, rest, split, inner⟩ := Ingress.parseIpv4_eq_some.mp accepted
    rw [if_pos isIp, split, Header.extract_append, Option.map_some]
    split at inner
    · obtain ⟨transport, _, rfl⟩ := Ingress.parseTransport_eq_some.mp inner
      exact ⟨some transport, rfl⟩
    · exact ⟨none, inner.1⟩
  · rename_i notIp
    cases accepted
    rw [if_neg notIp]
    exact ⟨none, rfl⟩

/-- The fields that the control writes do not matter to the parser. -/
theorem parsed_rewrite (accepted : f.parsed = some (hdr, payload)) (after : DataPlane.Headers) :
    (f.rewrite after.ethernet.dstAddr after.eth8021q.pcp after.eth8021q.dei).parsed =
      some (hdr.written after, payload) := by
  unfold parsed at accepted ⊢
  have same : (f.rewrite after.ethernet.dstAddr after.eth8021q.pcp
      after.eth8021q.dei).tag.etherType = f.tag.etherType := rfl
  rw [same]
  split at accepted
  · rename_i isIp
    rw [if_pos isIp]
    obtain ⟨ip, rest, split, inner⟩ := Ingress.parseIpv4_eq_some.mp accepted
    refine Ingress.parseIpv4_eq_some.mpr ⟨ip, rest, split, ?_⟩
    split at inner
    · rename_i withPorts
      obtain ⟨transport, split', rfl⟩ := Ingress.parseTransport_eq_some.mp inner
      rw [if_pos withPorts]
      exact Ingress.parseTransport_eq_some.mpr ⟨transport, split', rfl⟩
    · rename_i without
      obtain ⟨rfl, same⟩ := inner
      rw [if_neg without]
      exact ⟨rfl, same⟩
  · rename_i notIp
    cases accepted
    rw [if_neg notIp]
    rfl

/-- The fields that are keys of the ingress tables here. -/
theorem fields_outer (accepted : f.parsed = some (hdr, payload)) :
    hdr.fields = (Headers.ofEthernet f.ethernet).fields := by
  obtain ⟨transport, rfl⟩ := parsed_headers accepted
  rfl

/-! ### In the pipelines -/

/-- The frame comes to the control, and what the control leaves of it is deparsed. -/
theorem receive_tagged (switch : Switch) (ordinary : Ordinary port)
    (accepted : f.parsed = some (hdr, payload)) (ingressMacTstamp : BitVec 48) :
    switch.receive port ingressMacTstamp f.bytes =
      (switch.tsn ingressMacTstamp hdr { ucastEgressPort := none, mcastGrpA := none }).map
        fun after => (switchIngressDeparser after.1 ++ payload,
          Ingress.layer2Forwarding switch.tables after.1 after.2) := by
  obtain ⟨transport, same⟩ := parsed_headers accepted
  have noPtp : ¬ hdr.ptp1.isSome := by
    rw [same]
    exact Bool.false_ne_true
  have tagged : hdr.eth8021q.isSome := by
    rw [same]
    rfl
  unfold Switch.receive Ingress.apply
  rw [switchIngressParser_bytes ordinary, accepted]
  dsimp only [Option.bind_eq_bind, Option.bind_some]
  rw [if_neg noPtp, if_pos (.inr (.inl tagged))]
  cases switch.tsn ingressMacTstamp hdr { ucastEgressPort := none, mcastGrpA := none } with
  | none => rfl
  | some after => rfl

/-- The frame is sent as it is but for the checksum. -/
theorem transmit_tagged (switch : Switch) (ordinary : Ordinary port)
    (accepted : f.parsed = some (hdr, payload)) {egressPort : BitVec 9}
    (ordinary' : egressPort ∉ RECIRCULATION_PORTS) :
    switch.transmit f.bytes egressPort = some (plainCopy egressPort f.sent) := by
  obtain ⟨rest, accepted'⟩ := parsers_agree ordinary ordinary'
    ((switchIngressParser_bytes ordinary f).trans accepted)
  have restored := egress_parse_deparse ordinary' accepted'
  obtain ⟨transport, rfl⟩ := parsed_headers accepted
  have behind : emit? f.ipv4 ++ rest = f.rest := by
    have split : emit f.ethernet ++ (emit f.tag ++ (emit? f.ipv4 ++ rest)) =
        emit f.ethernet ++ (emit f.tag ++ f.rest) := by
      refine Eq.trans ?_ restored
      simp [egressEmit, Headers.atEgress, outer, Headers.invalid]
    exact List.append_cancel_left (List.append_cancel_left split)
  have deparsed : switchEgressDeparser
      ({ f.outer with ipv4 := f.ipv4, transport } : Headers).atEgress ++ rest = f.sent := by
    have refreshed : emit? (f.ipv4.map Ipv4.update) ++ rest = f.refreshed := by
      unfold TaggedFrame.refreshed
      cases ip : f.ipv4 with
      | none =>
        rw [ip] at behind
        exact behind
      | some header =>
        rw [ip] at behind
        have size : (emit header).length = 20 := Header.length_emit header
        rw [← behind, Option.map_some, Header.emit?_some, Header.emit?_some,
          List.drop_left' size]
    unfold sent
    rw [← refreshed]
    simp [switchEgressDeparser, egressEmit, Headers.atEgress, outer, Headers.invalid]
  unfold Switch.transmit
  rw [accepted']
  dsimp only [Option.bind_eq_bind, Option.bind_some]
  rw [← deparsed]
  rfl

end TaggedFrame

/-! ## The copies of a tagged frame -/

/-- The ports that a frame with this destination address is copied to. -/
def forwards (tables : Tables) (groups : BitVec 16 → List (BitVec 9)) (dstAddr : BitVec 48) :
    List (BitVec 9) :=
  let igTmMd := Ingress.layer2Forwarding tables
    (.ofEthernet { dstAddr, srcAddr := 0, etherType := 0 })
    { ucastEgressPort := none, mcastGrpA := none }
  igTmMd.ucastEgressPort.toList ++ igTmMd.mcastGrpA.toList.flatMap groups

/-- One copy of the frame to each port of its address. -/
def TaggedFrame.copies (tables : Tables) (groups : BitVec 16 → List (BitVec 9))
    (f : TaggedFrame) : List Copy :=
  (forwards tables groups f.ethernet.dstAddr).map fun egressPort => plainCopy egressPort f.sent

/-- The ports are those of the entries and of the multicast groups. -/
theorem forwards_mem {tables : Tables} {groups : BitVec 16 → List (BitVec 9)}
    {dstAddr : BitVec 48} {egressPort : BitVec 9}
    (member : egressPort ∈ forwards tables groups dstAddr) :
    (∃ r ∈ tables.entries .layer2Forwarding, r.action = .forward ∧ param r .port 9 = egressPort) ∨
      ∃ group, egressPort ∈ groups group := by
  unfold forwards Ingress.layer2Forwarding at member
  cases hit : tables.lookup .layer2Forwarding
      (Headers.ofEthernet { dstAddr, srcAddr := 0, etherType := 0 }).fields with
  | none =>
    rw [hit] at member
    exact absurd member List.not_mem_nil
  | some r =>
    rw [hit] at member
    dsimp only at member
    split at member
    · rename_i forward
      rcases List.mem_append.mp member with unicast | multicast
      · exact .inl ⟨r, List.mem_of_mem_filter (Tables.lookup_mem hit), forward,
          (List.mem_singleton.mp unicast).symm⟩
      · exact absurd multicast List.not_mem_nil
    · rcases List.mem_append.mp member with unicast | multicast
      · exact absurd unicast List.not_mem_nil
      · obtain ⟨group, _, inGroup⟩ := List.mem_flatMap.mp multicast
        exact .inr ⟨group, inGroup⟩
    · exact absurd member List.not_mem_nil

/-- The control of the switch is that of `TSN.p4` for the packets that are not generated. -/
def Switch.Polices (switch : Switch) (target : Target) (meter : MeterColor → BitVec 2)
    (registers : Tsn.Registers) (unspecified : DataPlane.Headers) : Prop :=
  ∀ ingressMacTstamp hdr igTmMd, hdr.timer = none → switch.tsn ingressMacTstamp hdr igTmMd =
    TSN.frames target switch.tables meter registers unspecified ingressMacTstamp hdr igTmMd

/-- The frame with the address and the priority it is identified to, and its color. -/
def TaggedFrame.policed (f : TaggedFrame) (identified : DataPlane.Headers)
    (packetColor : BitVec 2) : TaggedFrame :=
  f.rewrite identified.ethernet.dstAddr identified.eth8021q.pcp (FlowMeter.dei packetColor)

section

variable {switch : Switch} {target : Target} {meter : MeterColor → BitVec 2}
  {registers : Tsn.Registers} {unspecified : DataPlane.Headers} {port : BitVec 9}
  {f : TaggedFrame} {hdr : Headers} {payload : List U8} {ingressMacTstamp : BitVec 48}

theorem transmit_egressPort {pkt : List U8} {egressPort : BitVec 9} {copy : Copy}
    (transmitted : switch.transmit pkt egressPort = some copy) : copy.egressPort = egressPort := by
  obtain ⟨⟨hdr, payload⟩, _, applied⟩ := Option.bind_eq_some_iff.mp transmitted
  obtain ⟨pkt, _, same⟩ := Option.bind_eq_some_iff.mp applied
  cases same
  rfl

theorem layer2Forwarding_congr {tables : Tables} {hdr hdr' : Headers}
    (same : hdr.fields = hdr'.fields) (igTmMd : TmMetadata) :
    Ingress.layer2Forwarding tables hdr igTmMd = Ingress.layer2Forwarding tables hdr' igTmMd := by
  unfold Ingress.layer2Forwarding
  rw [same]

theorem transmit_policed (switch : Switch) (ordinary : Ordinary port)
    (accepted : f.parsed = some (hdr, payload)) {egressPort : BitVec 9}
    (ordinary' : egressPort ∉ RECIRCULATION_PORTS) (identified : DataPlane.Headers)
    (packetColor : BitVec 2) :
    switch.transmit (f.policed identified packetColor).bytes egressPort =
      some (plainCopy egressPort (f.policed identified packetColor).sent) := by
  have rewritten := TaggedFrame.parsed_rewrite accepted { identified with
    eth8021q := { identified.eth8021q with dei := FlowMeter.dei packetColor } }
  exact TaggedFrame.transmit_tagged switch ordinary rewritten ordinary'

/-- The packet that is handed to the traffic manager, if the frame is not dropped. -/
theorem receive_policed (polices : switch.Polices target meter registers unspecified)
    (ordinary : Ordinary port) (accepted : f.parsed = some (hdr, payload)) {result : Tsn.Result}
    (applied : Tsn.apply target switch.tables meter registers
      (hdr.received unspecified ingressMacTstamp) = result) :
    (result.Dropped → switch.receive port ingressMacTstamp f.bytes = none) ∧
      (¬ result.Dropped → ∃ igTmMd, switch.receive port ingressMacTstamp f.bytes =
          some ((f.policed (StreamIdentification.apply switch.tables
            (hdr.received unspecified ingressMacTstamp)).hdr
              result.pkt.igTmMd.packetColor).bytes, igTmMd) ∧
        switch.ports igTmMd = forwards switch.tables switch.groups
          (StreamIdentification.apply switch.tables
            (hdr.received unspecified ingressMacTstamp)).hdr.ethernet.dstAddr) := by
  have noTimer : hdr.timer = none := by
    obtain ⟨transport, rfl⟩ := TaggedFrame.parsed_headers accepted
    rfl
  have received : (hdr.received unspecified ingressMacTstamp).hdr.timer = none := rfl
  have ctl : result.pkt.igDprsrMd.dropCtl = 3 ↔ result.Dropped := by
    rw [← applied]
    exact Tsn.dropped_of_dropCtl received rfl
  have control : switch.tsn ingressMacTstamp hdr
      { ucastEgressPort := none, mcastGrpA := none } =
        if result.pkt.igDprsrMd.dropCtl = 3 then none
        else some (hdr.written result.pkt.hdr,
          { ucastEgressPort := none, mcastGrpA := none }) := by
    rw [polices _ _ _ noTimer]
    unfold TSN.frames
    rw [applied]
  rw [TaggedFrame.receive_tagged switch ordinary accepted, control]
  refine ⟨fun dropped => ?_, fun passed => ?_⟩
  · rw [if_pos (ctl.mpr dropped)]
    rfl
  · rw [← applied] at passed
    have headers := Tsn.apply_headers received passed
    rw [applied] at headers passed
    rw [if_neg fun h => passed (ctl.mp h), headers]
    have rewritten := TaggedFrame.parsed_rewrite accepted result.pkt.hdr
    rw [headers] at rewritten
    have deparsed := ingress_parse_deparse
      ((TaggedFrame.switchIngressParser_bytes ordinary _).trans rewritten)
    refine ⟨_, congrArg some (Prod.ext deparsed rfl), ?_⟩
    exact congrArg switch.ports
      (layer2Forwarding_congr (TaggedFrame.fields_outer rewritten) _)

/-- What each copy on an ordinary port says of the frame. -/
theorem copy_of_tagged (polices : switch.Polices target meter registers unspecified)
    (ordinary : Ordinary port) {copy : Copy}
    (sent : copy ∈ switch.process port ingressMacTstamp f.bytes)
    (ordinary' : copy.egressPort ∉ RECIRCULATION_PORTS) :
    ∃ hdr payload identified, f.parsed = some (hdr, payload) ∧
      (StreamIdentification.apply switch.tables
        (hdr.received unspecified ingressMacTstamp)).hdr = identified ∧
      ¬ (Tsn.apply target switch.tables meter registers
        (hdr.received unspecified ingressMacTstamp)).Dropped ∧
      ∃ packetColor,
        copy ∈ (f.policed identified packetColor).copies switch.tables switch.groups := by
  unfold Switch.process at sent
  cases accepted : f.parsed with
  | none =>
    unfold Switch.receive at sent
    rw [TaggedFrame.switchIngressParser_bytes ordinary, accepted] at sent
    exact absurd sent List.not_mem_nil
  | some parsed =>
    obtain ⟨hdr, payload⟩ := parsed
    obtain ⟨refused, passes⟩ := @receive_policed _ _ _ _ _ _ _ _ _ ingressMacTstamp polices
      ordinary accepted _ rfl
    refine ⟨hdr, payload, _, rfl, rfl, ?_⟩
    by_cases dropped : (Tsn.apply target switch.tables meter registers
        (hdr.received unspecified ingressMacTstamp)).Dropped
    · rw [refused dropped] at sent
      exact absurd sent List.not_mem_nil
    · obtain ⟨igTmMd, received, ports⟩ := passes dropped
      rw [received] at sent
      dsimp only at sent
      rw [ports] at sent
      obtain ⟨egressPort, member, transmitted⟩ := List.mem_filterMap.mp sent
      have own : copy.egressPort = egressPort := transmit_egressPort transmitted
      rw [← own] at member transmitted
      refine ⟨dropped, (Tsn.apply target switch.tables meter registers
        (hdr.received unspecified ingressMacTstamp)).pkt.igTmMd.packetColor,
        List.mem_map.mpr ⟨copy.egressPort, member, ?_⟩⟩
      exact Option.some.inj ((transmit_policed switch ordinary accepted ordinary' _ _).symm.trans
        transmitted)

theorem process_dropped (polices : switch.Polices target meter registers unspecified)
    (ordinary : Ordinary port) (accepted : f.parsed = some (hdr, payload)) {result : Tsn.Result}
    (applied : Tsn.apply target switch.tables meter registers
      (hdr.received unspecified ingressMacTstamp) = result) (dropped : result.Dropped) :
    switch.process port ingressMacTstamp f.bytes = [] := by
  unfold Switch.process
  rw [(receive_policed polices ordinary accepted applied).1 dropped]

theorem process_passed (polices : switch.Polices target meter registers unspecified)
    (ordinary : Ordinary port) (accepted : f.parsed = some (hdr, payload)) {result : Tsn.Result}
    (applied : Tsn.apply target switch.tables meter registers
      (hdr.received unspecified ingressMacTstamp) = result) {identified : DataPlane.Headers}
    (ofStream : (StreamIdentification.apply switch.tables
      (hdr.received unspecified ingressMacTstamp)).hdr = identified)
    (ordinary' : ∀ egressPort ∈ forwards switch.tables switch.groups identified.ethernet.dstAddr,
      egressPort ∉ RECIRCULATION_PORTS) (passed : ¬ result.Dropped) :
    switch.process port ingressMacTstamp f.bytes =
      (f.policed identified result.pkt.igTmMd.packetColor).copies switch.tables switch.groups := by
  obtain ⟨igTmMd, received, ports⟩ := (receive_policed polices ordinary accepted applied).2 passed
  rw [ofStream] at received ports
  unfold Switch.process
  rw [received]
  dsimp only
  rw [ports]
  unfold TaggedFrame.copies
  rw [← List.filterMap_eq_map]
  refine List.filterMap_congr fun egressPort member => ?_
  exact transmit_policed switch ordinary accepted (ordinary' egressPort member) _ _

/-- A frame that ends within a header is not received. -/
theorem process_unparsed (ordinary : Ordinary port) (cut : f.parsed = none) :
    switch.process port ingressMacTstamp f.bytes = [] := by
  unfold Switch.process Switch.receive
  rw [TaggedFrame.switchIngressParser_bytes ordinary, cut]
  rfl

/-- **A tagged frame leaves the switch as it came, or not at all.**  A frame that ends within a
header and a frame that the control drops have no copies.  The copies of another, when it is not
forwarded to a recirculation port, are those of the frame with the address and the priority of its
stream and its color in the tag, and with the checksum of an IPv4 header written anew: to each port
of the new address one, and no other byte of the frame differs. -/
theorem process_tagged (polices : switch.Polices target meter registers unspecified)
    (ordinary : Ordinary port) :
    (f.parsed = none → switch.process port ingressMacTstamp f.bytes = []) ∧
      ∀ hdr payload, f.parsed = some (hdr, payload) → ∀ result,
        Tsn.apply target switch.tables meter registers
            (hdr.received unspecified ingressMacTstamp) = result →
          (result.Dropped → switch.process port ingressMacTstamp f.bytes = []) ∧
            ∀ identified, (StreamIdentification.apply switch.tables
                (hdr.received unspecified ingressMacTstamp)).hdr = identified →
              (∀ egressPort ∈ forwards switch.tables switch.groups identified.ethernet.dstAddr,
                egressPort ∉ RECIRCULATION_PORTS) →
              ¬ result.Dropped → switch.process port ingressMacTstamp f.bytes =
                (f.policed identified result.pkt.igTmMd.packetColor).copies switch.tables
                  switch.groups :=
  ⟨process_unparsed ordinary, fun _ _ accepted _ applied =>
    ⟨process_dropped polices ordinary accepted applied, fun _ ofStream ordinary' =>
      process_passed polices ordinary accepted applied ofStream ordinary'⟩⟩

end

/-! ### A frame of a stream -/

/-- The frames of the stream get this address and priority. -/
def overwriteEntry : Request where
  table := .streamId
  matchKeys := [(.ethernetDstAddr, .exact 0x32), (.eth8021qVid, .exact 50)]
  action := .assignStreamHandleOverwriteMacAndPcp
  actionData := [(.pcp, 6), (.ethDstAddr, 0x81E79DE3AD40), (.streamGateId, 1)]

def openEntry : Request where
  table := .streamGateInstance
  matchKeys := [(.streamGateId, .exact 1)]
  action := .setGateAndIpv
  actionData := [(.gateState, 1), (.ipv, 8)]

def overwrittenForward : Request :=
  { sampleForward with matchKeys := [(.ethernetDstAddr, .exact 0x81E79DE3AD40)] }

def policingTables : Tables where
  installed := [overwriteEntry, openEntry, overwrittenForward]
  precedence := .first

/-- A switch that runs the control with these registers. -/
def policingSwitch (tables : Tables) (registers : Tsn.Registers) : Switch where
  tables
  groups _ := []
  tsn := TSN.frames .strict tables (fun _ => 0) registers default

theorem policingSwitch_polices (tables : Tables) (registers : Tsn.Registers) :
    (policingSwitch tables registers).Polices .strict (fun _ => 0) registers default := by
  intro ingressMacTstamp hdr igTmMd _
  unfold policingSwitch
  dsimp only

/-- A frame of the stream, with an IPv4 header and one more byte. -/
def sampleTagged : TaggedFrame where
  ethernet := { dstAddr := 0x32, srcAddr := 0x020000000001, etherType := ETH_802_1Q }
  tag := { pcp := 5, dei := 1, vid := 50, etherType := IPV4 }
  rest := emit (sampleIpv4 5 20 0x26e7) ++ [0xab]
  isTagged := rfl

theorem sampleTagged_parsed : sampleTagged.parsed =
    some ({ sampleTagged.outer with ipv4 := some (sampleIpv4 5 20 0x26e7) }, [0xab]) := by
  unfold TaggedFrame.parsed sampleTagged
  dsimp only
  rw [if_pos rfl]
  refine Ingress.parseIpv4_eq_some.mpr ⟨_, _, rfl, ?_⟩
  rw [if_neg (by decide)]
  exact ⟨rfl, rfl⟩

/-- The frame in the control. -/
def sampleReceived : Packet :=
  ({ sampleTagged.outer with ipv4 := some (sampleIpv4 5 20 0x26e7) } : Headers).received default 5

def sampleResult : Tsn.Result :=
  Tsn.apply .strict policingTables (fun _ => 0) Tsn.sampleRegisters sampleReceived

theorem process_tagged_sample :
    (policingSwitch policingTables Tsn.sampleRegisters).process 320 5 sampleTagged.bytes =
      [plainCopy 8 (sampleTagged.rewrite 0x81E79DE3AD40 6 0).sent] := by
  have identified : (StreamIdentification.apply policingTables sampleReceived).hdr =
      { sampleReceived.hdr with
        ethernet := ⟨0x81E79DE3AD40⟩
        eth8021q := ⟨6, 1, 50⟩ } := by
    decide +kernel
  have applied : Tsn.apply .strict policingTables (fun _ => 0) Tsn.sampleRegisters
      sampleReceived = sampleResult :=
    rfl
  have passed : ¬ sampleResult.Dropped := by
    unfold Tsn.Result.Dropped
    decide +kernel
  have green : sampleResult.pkt.igTmMd.packetColor = 0 := by
    decide +kernel
  have port : forwards policingTables (fun _ => []) 0x81E79DE3AD40 = [8] := by
    decide +kernel
  have ordinary' : ∀ egressPort ∈ forwards policingTables (fun _ => []) 0x81E79DE3AD40,
      egressPort ∉ RECIRCULATION_PORTS := by
    rw [port]
    decide
  have front : Ordinary 320 := by
    decide
  have tagged := (process_tagged (policingSwitch_polices policingTables Tsn.sampleRegisters)
    front).2 _ _ sampleTagged_parsed _ applied
  have sent := tagged.2 _ identified ordinary' passed
  rw [green] at sent
  exact sent.trans (congrArg (List.map _) port)

end P4Tas.Frame
