import P4Tas.DataPlane.Register
import P4Tas.DataPlane.Table

/-!
# The flow meter

`FlowMeter.p4`.  What color the meter returns for a pre-color is up to the hardware; `meter` stands
for its answer.
-/

namespace P4Tas.DataPlane

namespace FlowMeter

abbrev Registers := Register 1

/-- What the control leaves behind, and whether it executed `block_meter`. -/
structure Result where
  regMeterBlocked : Registers
  pkt : Packet
  blockMeter : Bool

/-- `set_color_direct` -/
def setColorDirect (meter : MeterColor → BitVec 2) (pkt : Packet) : Packet :=
  { pkt with igTmMd := { pkt.igTmMd with packetColor := meter pkt.igMd.flowMeter.preColor } }

def flowMeterInstance (tables : Tables) (meter : MeterColor → BitVec 2) (pkt : Packet) : Packet :=
  match tables.lookup .flowMeterInstance pkt.fields with
  | some _ => setColorDirect meter pkt
  | none => pkt

def preColoring (pkt : Packet) : Packet :=
  { pkt with igMd := { pkt.igMd with flowMeter := { pkt.igMd.flowMeter with
      preColor :=
        if pkt.igMd.flowMeter.colorAware ∧ pkt.hdr.eth8021q.dei = 1 then
          .yellow
        else
          .green } } }

def setMeterBlocked (meterBlocked : BitVec 1) (pkt : Packet) : Packet :=
  { pkt with igMd := { pkt.igMd with flowMeter := { pkt.igMd.flowMeter with meterBlocked } } }

/-- `ig_md.to_be_dropped = 1; ig_tm_md.packet_color = 3;` -/
def markRed (pkt : Packet) : Packet :=
  { pkt.drop with igTmMd := { pkt.igTmMd with packetColor := 3 } }

def setDei (dei : BitVec 1) (pkt : Packet) : Packet :=
  { pkt with hdr := { pkt.hdr with eth8021q := { pkt.hdr.eth8021q with dei } } }

/-- The color evaluation. -/
def evaluateColor (target : Target) (regMeterBlocked : Registers) (pkt : Packet) : Result :=
  let meter := pkt.igMd.streamFilter.flowMeterInstanceId.toNat
  let meterBlocked := target.read 2048 regMeterBlocked meter
  if pkt.igTmMd.packetColor = 1 ∨ pkt.igTmMd.packetColor = 2 then
    let pkt := setMeterBlocked meterBlocked pkt
    if pkt.igMd.flowMeter.dropOnYellow ∨ meterBlocked = 1 then
      { regMeterBlocked, pkt := markRed pkt, blockMeter := false }
    else
      { regMeterBlocked, pkt := setDei 1 pkt, blockMeter := false }
  else if pkt.igTmMd.packetColor = 3 then
    if pkt.igMd.flowMeter.markAllFramesRedEnable then
      { regMeterBlocked := target.write 2048 regMeterBlocked meter fun _ => 1
        pkt := pkt.drop
        blockMeter := target.executes 2048 meter }
    else
      { regMeterBlocked, pkt := pkt.drop, blockMeter := false }
  else if pkt.igTmMd.packetColor = 0 ∧ pkt.igMd.toBeDropped = 0 then
    let pkt := setMeterBlocked meterBlocked pkt
    if meterBlocked = 1 then
      { regMeterBlocked, pkt := markRed pkt, blockMeter := false }
    else
      { regMeterBlocked, pkt := setDei 0 pkt, blockMeter := false }
  else
    { regMeterBlocked, pkt, blockMeter := false }

def apply (target : Target) (tables : Tables) (meter : MeterColor → BitVec 2)
    (regMeterBlocked : Registers) (pkt : Packet) : Result :=
  let pkt := preColoring pkt
  let pkt := if pkt.igMd.toBeDropped = 0 then flowMeterInstance tables meter pkt else pkt
  evaluateColor target regMeterBlocked pkt

end FlowMeter

end P4Tas.DataPlane
