import P4Tas.Controller.StreamRequests
import P4Tas.DataPlane.Packet

/-!
# What the stream entries match

The controller writes a configured IPv4 address as value and as mask of a ternary key, so the entry
accepts every address that has a one wherever the configured one has.  It identifies exactly the
packets of the stream when this leaves no other address.

* `Identifies`: the packets a stream describes;
* `matches_and_self_iff`: the addresses an entry accepts;
* `streamEntry_exact`: when an entry accepts exactly the packets of its stream;
* `streamEntry_apart`: when the entries of two streams never accept one packet;
* `identification_exact_iff`: both, for the entries of a configuration.
-/

namespace P4Tas.DataPlane

open Controller

/-- The packet has the destination, the VLAN and, where configured, the addresses of the stream. -/
structure Identifies (macFromStr : String → Option (List U8)) (stream : Stream) (pkt : Packet) :
    Prop where
  ethDst : ∃ mac, macFromStr stream.ethDst = some mac ∧
    pkt.hdr.ethernet.dstAddr.toNat = Configuration.bytesValue mac
  vid : pkt.hdr.eth8021q.vid.toNat = stream.vid.toNat
  ipv4Src : ∀ ip ∈ stream.ipv4Src, pkt.hdr.ipv4.srcAddr = ip
  ipv4Dst : ∀ ip ∈ stream.ipv4Dst, pkt.hdr.ipv4.dstAddr = ip

/-- Some packet has the destination and the VLAN of the stream: the one is no longer than a MAC
address, the other a VLAN id. -/
def Reachable (macFromStr : String → Option (List U8)) (stream : Stream) : Prop :=
  (∀ mac ∈ macFromStr stream.ethDst, Configuration.bytesValue mac < 2 ^ 48) ∧
    stream.vid.toNat < 2 ^ 12

/-- The configured addresses leave no bit out of the mask. -/
def FullMasks (stream : Stream) : Prop :=
  (∀ ip ∈ stream.ipv4Src, ip = BitVec.allOnes 32) ∧ ∀ ip ∈ stream.ipv4Dst, ip = BitVec.allOnes 32

/-! ## The ternary keys -/

/-- An address as value and mask accepts the addresses that have all its ones. -/
theorem matches_and_self_iff {w : Nat} (ip x : BitVec w) :
    (MatchValue.ternary ip.toNat ip.toNat).Matches x.toNat ↔ x &&& ip = ip := by
  change x.toNat &&& ip.toNat = ip.toNat &&& ip.toNat ↔ _
  rw [Nat.and_self, ← BitVec.toNat_and, BitVec.toNat_inj]

/-- The broadcast address has all ones of every address. -/
theorem allOnes_matches {w : Nat} (ip : BitVec w) : BitVec.allOnes w &&& ip = ip :=
  BitVec.allOnes_and

/-- Only the broadcast address is accepted by its own entry alone. -/
theorem matches_only_self_iff {w : Nat} {ip : BitVec w} :
    (∀ x : BitVec w, x &&& ip = ip ↔ x = ip) ↔ ip = BitVec.allOnes w := by
  refine ⟨?_, ?_⟩
  · intro only
    exact ((only _).mp (allOnes_matches ip)).symm
  · rintro rfl x
    rw [BitVec.and_allOnes]

/-! ## The entry of a stream -/

variable {macFromStr : String → Option (List U8)} {cfg : Configuration} {stream : Stream}
  {r : Request} {mac : List U8}

/-- Which packets the keys for the addresses accept. -/
theorem ipv4Key_matches (key : Key) (ip? : Option U32) {fields : Request.Fields} {x : BitVec 32}
    (ranked : key ≠ .matchPriority) (field : fields key = x.toNat) :
    (∀ km ∈ Configuration.ipv4Key key ip?, km.1 ≠ .matchPriority → km.2.Matches (fields km.1)) ↔
      ∀ ip ∈ ip?, x &&& ip = ip := by
  cases ip? with
  | none => simp [Configuration.ipv4Key]
  | some ip => simp [Configuration.ipv4Key, ranked, field, matches_and_self_iff]

/-- The packets the entry of a stream accepts. -/
theorem streamEntry_matches (isEntry : cfg.IsStreamEntry macFromStr stream r)
    (parsed : macFromStr stream.ethDst = some mac) (pkt : Packet) :
    r.Matches pkt.fields ↔
      pkt.hdr.ethernet.dstAddr.toNat = Configuration.bytesValue mac ∧
        pkt.hdr.eth8021q.vid.toNat = stream.vid.toNat ∧
        (∀ ip ∈ stream.ipv4Src, pkt.hdr.ipv4.srcAddr &&& ip = ip) ∧
        ∀ ip ∈ stream.ipv4Dst, pkt.hdr.ipv4.dstAddr &&& ip = ip := by
  rcases isEntry.keys with ⟨mac', parsed', keys⟩
  cases parsed.symm.trans parsed'
  have sources := ipv4Key_matches .ipv4SrcAddr stream.ipv4Src nofun
    (show pkt.fields .ipv4SrcAddr = pkt.hdr.ipv4.srcAddr.toNat from rfl)
  have destinations := ipv4Key_matches .ipv4DstAddr stream.ipv4Dst nofun
    (show pkt.fields .ipv4DstAddr = pkt.hdr.ipv4.dstAddr.toNat from rfl)
  unfold Request.Matches
  rw [keys]
  simp only [List.forall_mem_append, List.forall_mem_cons, sources, destinations, and_assoc]
  refine ⟨?_, ?_⟩
  · rintro ⟨dst, vid, _, src, dstIp⟩
    exact ⟨dst nofun, vid nofun, src, dstIp⟩
  · rintro ⟨dst, vid, src, dstIp⟩
    exact ⟨fun _ => dst, fun _ => vid, nofun, src, dstIp⟩

/-- A packet with the destination and the VLAN of the stream, and broadcast addresses. -/
def broadcastPacket (mac : List U8) (stream : Stream) : Packet :=
  { (default : Packet) with hdr := { (default : Headers) with
    ethernet := { dstAddr := BitVec.ofNat 48 (Configuration.bytesValue mac) }
    eth8021q := { pcp := 0, dei := 0, vid := stream.vid.setWidth 12 }
    ipv4 := { srcAddr := BitVec.allOnes 32, dstAddr := BitVec.allOnes 32 } } }

/-- The entry accepts it, whatever addresses the stream configures. -/
theorem broadcastPacket_matches (isEntry : cfg.IsStreamEntry macFromStr stream r)
    (parsed : macFromStr stream.ethDst = some mac) (reachable : Reachable macFromStr stream) :
    r.Matches (broadcastPacket mac stream).fields := by
  rcases reachable with ⟨short, vid⟩
  rw [streamEntry_matches isEntry parsed]
  refine ⟨?_, ?_, fun ip _ => allOnes_matches ip, fun ip _ => allOnes_matches ip⟩
  · exact Nat.mod_eq_of_lt (short mac parsed)
  · exact (BitVec.toNat_setWidth 12 stream.vid).trans (Nat.mod_eq_of_lt vid)

/-- An entry that accepts a packet belongs to a stream some packet has. -/
theorem reachable_of_matches (isEntry : cfg.IsStreamEntry macFromStr stream r)
    (parsed : macFromStr stream.ethDst = some mac) {pkt : Packet} (accepts : r.Matches pkt.fields) :
    Reachable macFromStr stream := by
  rcases (streamEntry_matches isEntry parsed pkt).mp accepts with ⟨dst, vid, _⟩
  refine ⟨?_, ?_⟩
  · intro mac' parsed'
    cases parsed.symm.trans parsed'
    rw [← dst]
    exact pkt.hdr.ethernet.dstAddr.isLt
  · rw [← vid]
    exact pkt.hdr.eth8021q.vid.isLt

/-- The entry of a stream is exact when, unless no packet has its destination and VLAN, the
configured addresses leave no bit out of the mask. -/
theorem streamEntry_exact (isEntry : cfg.IsStreamEntry macFromStr stream r)
    (parsed : macFromStr stream.ethDst = some mac) :
    (∀ pkt : Packet, r.Matches pkt.fields ↔ Identifies macFromStr stream pkt) ↔
      (Reachable macFromStr stream → FullMasks stream) := by
  refine ⟨?_, ?_⟩
  · intro exact reachable
    have identified := (exact _).mp (broadcastPacket_matches isEntry parsed reachable)
    exact ⟨fun ip configured => (identified.ipv4Src ip configured).symm,
      fun ip configured => (identified.ipv4Dst ip configured).symm⟩
  · intro full pkt
    refine ⟨?_, ?_⟩
    · intro accepts
      rcases full (reachable_of_matches isEntry parsed accepts) with ⟨sources, destinations⟩
      rcases (streamEntry_matches isEntry parsed pkt).mp accepts with ⟨dst, vid, src, dstIp⟩
      refine ⟨⟨mac, parsed, dst⟩, vid, fun ip configured => ?_, fun ip configured => ?_⟩
      · exact (matches_only_self_iff.mpr (sources ip configured) _).mp (src ip configured)
      · exact (matches_only_self_iff.mpr (destinations ip configured) _).mp (dstIp ip configured)
    · rintro ⟨⟨mac', parsed', dst⟩, vid, src, dstIp⟩
      cases parsed.symm.trans parsed'
      rw [streamEntry_matches isEntry parsed]
      refine ⟨dst, vid, fun ip configured => ?_, fun ip configured => ?_⟩
      · rw [src ip configured, BitVec.and_self]
      · rw [dstIp ip configured, BitVec.and_self]

/-! ## Two streams -/

/-- The streams differ in an address both configure. -/
def DifferentAddresses (stream stream' : Stream) : Prop :=
  (∃ ip ∈ stream.ipv4Src, ∃ ip' ∈ stream'.ipv4Src, ip ≠ ip') ∨
    ∃ ip ∈ stream.ipv4Dst, ∃ ip' ∈ stream'.ipv4Dst, ip ≠ ip'

/-- The streams have one destination and one VLAN. -/
def SameDestination (macFromStr : String → Option (List U8)) (stream stream' : Stream) : Prop :=
  (macFromStr stream.ethDst).map Configuration.bytesValue =
      (macFromStr stream'.ethDst).map Configuration.bytesValue ∧
    stream.vid = stream'.vid

/-- Two entries never accept one packet when the streams differ in more than addresses. -/
theorem streamEntry_apart {stream' : Stream} {r' : Request} {mac' : List U8}
    (isEntry : cfg.IsStreamEntry macFromStr stream r)
    (isEntry' : cfg.IsStreamEntry macFromStr stream' r')
    (parsed : macFromStr stream.ethDst = some mac)
    (parsed' : macFromStr stream'.ethDst = some mac') :
    (∀ pkt : Packet, ¬ (r.Matches pkt.fields ∧ r'.Matches pkt.fields)) ↔
      (Reachable macFromStr stream → ¬ SameDestination macFromStr stream stream') := by
  have same_iff : SameDestination macFromStr stream stream' ↔
      Configuration.bytesValue mac = Configuration.bytesValue mac' ∧ stream.vid = stream'.vid := by
    unfold SameDestination
    simp [parsed, parsed']
  rw [same_iff]
  refine ⟨?_, ?_⟩
  · rintro apart reachable ⟨dst, vid⟩
    refine apart (broadcastPacket mac stream)
      ⟨broadcastPacket_matches isEntry parsed reachable, ?_⟩
    have accepts := (streamEntry_matches isEntry parsed _).mp
      (broadcastPacket_matches isEntry parsed reachable)
    exact (streamEntry_matches isEntry' parsed' _).mpr
      ⟨accepts.1.trans dst, by rw [accepts.2.1, vid],
        fun ip _ => allOnes_matches ip, fun ip _ => allOnes_matches ip⟩
  · rintro differ pkt ⟨accepts, accepts'⟩
    refine differ (reachable_of_matches isEntry parsed accepts) ?_
    have left := (streamEntry_matches isEntry parsed pkt).mp accepts
    have right := (streamEntry_matches isEntry' parsed' pkt).mp accepts'
    exact ⟨left.1.symm.trans right.1, BitVec.eq_of_toNat_eq (left.2.1.symm.trans right.2.1)⟩

/-! ## A configuration -/

/-- A stream's entry accepts exactly the packets of the stream when its configured addresses are
broadcast addresses, and streams that differ in an address are kept apart when they also differ in
destination or VLAN; unless no packet has the destination and VLAN of the stream. -/
theorem identification_exact_iff {requests : List Request} {stream' : Stream} {r' : Request}
    (run : cfg.configureStreamIdentification macFromStr = .ok requests)
    (member : (stream, r) ∈ cfg.psfp.streams.zip requests)
    (member' : (stream', r') ∈ cfg.psfp.streams.zip requests) :
    ((∀ pkt : Packet, r.Matches pkt.fields ↔ Identifies macFromStr stream pkt) ↔
        (Reachable macFromStr stream → FullMasks stream)) ∧
      ((DifferentAddresses stream stream' →
          ∀ pkt : Packet, ¬ (r.Matches pkt.fields ∧ r'.Matches pkt.fields)) ↔
        (DifferentAddresses stream stream' → Reachable macFromStr stream →
          ¬ SameDestination macFromStr stream stream')) := by
  have requested := Configuration.configureStreamIdentification_eq_ok.mp run
  have isEntry := Configuration.streamIdRequest_isStreamEntry
    (List.forall₂_iff_zip.mp requested |>.2 member)
  have isEntry' := Configuration.streamIdRequest_isStreamEntry
    (List.forall₂_iff_zip.mp requested |>.2 member')
  rcases isEntry.keys with ⟨mac, parsed, _⟩
  rcases isEntry'.keys with ⟨mac', parsed', _⟩
  exact ⟨streamEntry_exact isEntry parsed,
    imp_congr_right fun _ => streamEntry_apart isEntry isEntry' parsed parsed'⟩

/-- The one MAC address of the sample configuration. -/
def sampleMac (address : String) : Option (List U8) :=
  if address = "00:00:00:00:00:32" then some [0, 0, 0, 0, 0, 0x32] else none

def sampleStream : Stream :=
  { vid := 50, streamHandle := 1, ethDst := "00:00:00:00:00:32", overwritePcp := none,
    overwriteMac := none, ipv4Src := some 0x0A000001, ipv4Dst := none }

/-- The entry of the sample stream, which configures the source address 10.0.0.1. -/
def sampleRequest : Request where
  table := .streamId
  matchKeys :=
    [(.ethernetDstAddr, .exact 0x32), (.eth8021qVid, .exact 50),
     (.ipv4SrcAddr, .ternary 0x0A000001 0x0A000001)]
  action := .assignStreamHandle
  actionData :=
    [(.streamHandle, 1), (.streamBlockedDueToOversizeFrameEnable, 1), (.streamGateId, 1),
     (.gateClosedDueToInvalidRxEnable, 0), (.gateClosedDueToOctetsExceededEnable, 0),
     (.flowMeterInstanceId, 1), (.dropOnYellow, 0), (.markAllFramesRedEnable, 0),
     (.colorAware, 0), (.hyperperiod, 8)]

theorem configureStreamIdentification_sample :
    Configuration.sample.configureStreamIdentification sampleMac = .ok [sampleRequest] :=
  rfl

theorem identification_exact_iff_sample :
    (∀ pkt : Packet, sampleRequest.Matches pkt.fields ↔ Identifies sampleMac sampleStream pkt) ↔
      (Reachable sampleMac sampleStream → FullMasks sampleStream) :=
  (identification_exact_iff configureStreamIdentification_sample List.mem_cons_self
    List.mem_cons_self).1

/-- The entry for 10.0.0.1 accepts a packet from 10.0.0.3. -/
theorem sample_not_exact :
    ∃ r, Configuration.sample.configureStreamIdentification sampleMac = .ok [r] ∧
      ∃ pkt : Packet, r.Matches pkt.fields ∧ pkt.hdr.ipv4.srcAddr = 0x0A000003 ∧
        ¬ Identifies sampleMac sampleStream pkt := by
  refine ⟨sampleRequest, configureStreamIdentification_sample,
    { (default : Packet) with hdr := { (default : Headers) with
      ethernet := { dstAddr := 0x32 }
      eth8021q := { pcp := 0, dei := 0, vid := 50 }
      ipv4 := { srcAddr := 0x0A000003, dstAddr := 0 } } }, by decide +kernel, rfl, ?_⟩
  intro identified
  exact absurd (identified.ipv4Src 0x0A000001 rfl) (by decide)

end P4Tas.DataPlane
