import P4Tas.DataPlane.Table

/-!
# Delta adjustment

`DeltaAdjustment.p4`: the position in the hyperperiod is corrected when it underflowed, and limited
to the hyperperiod.
-/

namespace P4Tas.DataPlane

def MAXIMUM_48_BIT_TS : BitVec 48 := 281474976710655

namespace DeltaAdjustment

def calculateUnderflowTimestamp (pkt : Packet) : Packet :=
  pkt.setDiffTs (pkt.igMd.differenceMaxToHyperperiod + pkt.igIntrMd.ingressMacTstamp)

/-- `underflow_detection.apply()`, with the packet after the action and whether it was a miss. -/
def underflowDetection (tables : Tables) (pkt : Packet) : Packet × Bool :=
  match tables.lookup .underflowDetection pkt.fields with
  | some r =>
    match r.action with
    | .resetDiffTs => (pkt.setDiffTs 0, false)
    | _ => (pkt, false)
  | none => (pkt, true)

def hyperperiodExceededDetection (tables : Tables) (pkt : Packet) : Packet :=
  match tables.lookup .hyperperiodExceededDetection pkt.fields with
  | some r => pkt.setDiffTs (param r .hyperperiodMax 48)
  | none => pkt

def setDifferenceMax (pkt : Packet) (differenceMaxToHyperperiod : BitVec 48) : Packet :=
  { pkt with igMd := { pkt.igMd with differenceMaxToHyperperiod } }

@[simp] theorem setDifferenceMax_difference (pkt : Packet) (difference : BitVec 48) :
    (setDifferenceMax pkt difference).igMd.differenceMaxToHyperperiod = difference :=
  rfl

@[simp] theorem setDifferenceMax_igIntrMd (pkt : Packet) (difference : BitVec 48) :
    (setDifferenceMax pkt difference).igIntrMd = pkt.igIntrMd :=
  rfl

@[simp] theorem setDifferenceMax_hyperperiod (pkt : Packet) (difference : BitVec 48) :
    (setDifferenceMax pkt difference).igMd.hyperperiod = pkt.igMd.hyperperiod :=
  rfl

/-- The branch for a miss of `underflow_detection`. -/
def handleUnderflow (pkt : Packet) : Packet :=
  calculateUnderflowTimestamp (setDifferenceMax pkt (MAXIMUM_48_BIT_TS - pkt.igMd.hyperperiodTs))

theorem handleUnderflow_diffTs (pkt : Packet) :
    (handleUnderflow pkt).igMd.diffTs =
      MAXIMUM_48_BIT_TS - pkt.igMd.hyperperiodTs + pkt.igIntrMd.ingressMacTstamp := by
  unfold handleUnderflow calculateUnderflowTimestamp
  rw [Packet.setDiffTs_diffTs, setDifferenceMax_difference, setDifferenceMax_igIntrMd]

theorem handleUnderflow_hyperperiod (pkt : Packet) :
    (handleUnderflow pkt).igMd.hyperperiod = pkt.igMd.hyperperiod := by
  unfold handleUnderflow calculateUnderflowTimestamp
  rw [Packet.setDiffTs_hyperperiod, setDifferenceMax_hyperperiod]

def apply (tables : Tables) (pkt : Packet) : Packet :=
  let (pkt, miss) := underflowDetection tables pkt
  hyperperiodExceededDetection tables (if miss then handleUnderflow pkt else pkt)

end DeltaAdjustment

end P4Tas.DataPlane
