import P4Tas.DataPlane.Packet

/-!
# The ingress parser

`SwitchIngressParser` of `parser.p4`: which headers it extracts from a packet, by the fields it
selects on.  A packet that ends within its labels ends the parse there.
-/

namespace P4Tas.DataPlane

/-- The headers of `header_t` the ingress side names. -/
inductive HeaderName
  | timer
  | recirc
  | bridge
  | gclTime
  | ethernet
  | eth8021q
  | ptp1
  | ptpCorrectionField
  | ptp2
  | mpls
  | ipv4
  | transport
  deriving DecidableEq, Repr

/-- What the parser selects on. -/
structure Wire where
  ingressPort : BitVec 9
  etherType : BitVec 16
  /-- the bottom-of-stack bits of the labels, in order -/
  bos : List (BitVec 1)
  tagEtherType : BitVec 16
  protocol : BitVec 8

namespace Parser

def PACKET_GEN_PORTS : List (BitVec 9) :=
  [6, 134, 262, 390]

def RECIRCULATION_PORTS : List (BitVec 9) :=
  [192, 264, 440, 16]

instance (port : BitVec 9) : Decidable (port ∈ PACKET_GEN_PORTS) :=
  List.instDecidableMemOfLawfulBEq port PACKET_GEN_PORTS

instance (port : BitVec 9) : Decidable (port ∈ RECIRCULATION_PORTS) :=
  List.instDecidableMemOfLawfulBEq port RECIRCULATION_PORTS

def IPV4 : BitVec 16 := 0x0800
def MPLS : BitVec 16 := 0x8847
def ETH_802_1Q : BitVec 16 := 0x8100
def PTP : BitVec 16 := 0x88f7
def TCP : BitVec 8 := 6
def UDP : BitVec 8 := 17

def parsePktGen : List HeaderName :=
  [.timer]

def parsePtp : List HeaderName :=
  [.ptp1, .ptpCorrectionField, .ptp2]

def parseMpls : List (BitVec 1) → List HeaderName
  | [] => []
  | bos :: labels => .mpls :: if bos = 0 then parseMpls labels else []

def parseTransport : List HeaderName :=
  [.transport]

def parseIpv4 (wire : Wire) : List HeaderName :=
  .ipv4 :: if wire.protocol = UDP ∨ wire.protocol = TCP then parseTransport else []

def parse8021q (wire : Wire) : List HeaderName :=
  .eth8021q :: if wire.tagEtherType = IPV4 then parseIpv4 wire else []

def parseEthernet (wire : Wire) : List HeaderName :=
  .ethernet ::
    if wire.etherType = IPV4 then parseIpv4 wire
    else if wire.etherType = ETH_802_1Q then parse8021q wire
    else if wire.etherType = MPLS then parseMpls wire.bos
    else if wire.etherType = PTP then parsePtp
    else []

/-- The headers the parser extracts. -/
def switchIngressParser (wire : Wire) : List HeaderName :=
  if wire.ingressPort ∈ PACKET_GEN_PORTS ∨ wire.ingressPort ∈ RECIRCULATION_PORTS then
    parsePktGen
  else
    parseEthernet wire

/-! ## The recirculation header -/

theorem recirc_not_parseMpls (bos : List (BitVec 1)) : HeaderName.recirc ∉ parseMpls bos := by
  induction bos with
  | nil => exact List.not_mem_nil
  | cons first labels ih =>
    unfold parseMpls
    split
    · exact List.not_mem_cons_of_ne_of_not_mem nofun ih
    · exact List.not_mem_cons_of_ne_of_not_mem nofun List.not_mem_nil

theorem recirc_not_parseIpv4 (wire : Wire) : HeaderName.recirc ∉ parseIpv4 wire := by
  unfold parseIpv4
  split
  · decide
  · decide

theorem recirc_not_parse8021q (wire : Wire) : HeaderName.recirc ∉ parse8021q wire := by
  unfold parse8021q
  split
  · exact List.not_mem_cons_of_ne_of_not_mem nofun (recirc_not_parseIpv4 wire)
  · decide

/-- No path through the parser extracts the recirculation header. -/
theorem recirc_not_extracted (wire : Wire) : HeaderName.recirc ∉ switchIngressParser wire := by
  unfold switchIngressParser
  split
  · decide
  · unfold parseEthernet
    refine List.not_mem_cons_of_ne_of_not_mem nofun ?_
    split
    · exact recirc_not_parseIpv4 wire
    · split
      · exact recirc_not_parse8021q wire
      · split
        · exact recirc_not_parseMpls wire.bos
        · split
          · decide
          · decide

end Parser

end P4Tas.DataPlane
