import P4Tas.Rust

/-!
# The advanced flow control word

`AdvancedFlowControl` packs a queue and its credit into the 32-bit word the traffic manager reads:
`qfc`, `tm_pipe_id`, `tm_mac_id`, three bits of padding, `tm_mac_qid` and `credit`.
-/

namespace P4Tas.Controller

structure AdvancedFlowControl where
  value : U32
  deriving DecidableEq, Repr

namespace AdvancedFlowControl

def qfcShift : Nat := 31
def pipeIdShift : Nat := 29
def macIdShift : Nat := 25
def qidShift : Nat := 15
def creditShift : Nat := 0

def qfcMask : U32 := 0b1 <<< qfcShift
def pipeIdMask : U32 := 0b11 <<< pipeIdShift
def macIdMask : U32 := 0b1111 <<< macIdShift
def qidMask : U32 := 0b1111111 <<< qidShift
def creditMask : U32 := 0b111111111111111 <<< creditShift

def setBits (afc : AdvancedFlowControl) (pos : Nat) (mask value : U32) : AdvancedFlowControl :=
  ⟨(afc.value &&& ~~~mask) ||| ((value <<< pos) &&& mask)⟩

def getBits (afc : AdvancedFlowControl) (pos : Nat) (mask : U32) : U32 :=
  (afc.value &&& mask) >>> pos

def setQfc (afc : AdvancedFlowControl) : U32 → AdvancedFlowControl :=
  afc.setBits qfcShift qfcMask

def setPipeId (afc : AdvancedFlowControl) : U32 → AdvancedFlowControl :=
  afc.setBits pipeIdShift pipeIdMask

def setMacId (afc : AdvancedFlowControl) : U32 → AdvancedFlowControl :=
  afc.setBits macIdShift macIdMask

def setQid (afc : AdvancedFlowControl) : U32 → AdvancedFlowControl :=
  afc.setBits qidShift qidMask

def setCredit (afc : AdvancedFlowControl) : U32 → AdvancedFlowControl :=
  afc.setBits creditShift creditMask

def getQfc (afc : AdvancedFlowControl) : U32 :=
  afc.getBits qfcShift qfcMask

def getPipeId (afc : AdvancedFlowControl) : U32 :=
  afc.getBits pipeIdShift pipeIdMask

def getMacId (afc : AdvancedFlowControl) : U32 :=
  afc.getBits macIdShift macIdMask

def getQid (afc : AdvancedFlowControl) : U32 :=
  afc.getBits qidShift qidMask

def getCredit (afc : AdvancedFlowControl) : U32 :=
  afc.getBits creditShift creditMask

def new (pipeId macId qid : U8) (credit : U16) : AdvancedFlowControl :=
  setCredit
    (setQid
      (setMacId
        (setPipeId (setQfc ⟨0⟩ 1) (pipeId.setWidth 32))
        (macId.setWidth 32))
      (qid.setWidth 32))
    (credit.setWidth 32)

/-- Reading back the bits just written gives the value, cut to the mask. -/
theorem getBits_setBits (afc : AdvancedFlowControl) (pos : Nat) (mask value : U32) :
    (afc.setBits pos mask value).getBits pos mask = ((value <<< pos) &&& mask) >>> pos := by
  unfold getBits setBits
  congr 1
  apply BitVec.eq_of_getLsbD_eq
  intro i lt
  simp only [BitVec.getLsbD_and, BitVec.getLsbD_or, BitVec.getLsbD_not, lt, decide_true,
    Bool.true_and]
  cases mask.getLsbD i <;> simp

/-- The credit field of a new word is its credit argument, when that fits in the field. -/
theorem getCredit_new (pipeId macId qid : U8) {credit : U16} (fits : credit.toNat < 2 ^ 15) :
    (new pipeId macId qid credit).getCredit = credit.setWidth 32 := by
  unfold new getCredit setCredit
  rw [getBits_setBits, creditShift, BitVec.shiftLeft_zero, BitVec.ushiftRight_zero]
  apply BitVec.eq_of_toNat_eq
  have mask : creditMask.toNat = 2 ^ 15 - 1 := rfl
  have wide : (credit.setWidth 32 : U32).toNat = credit.toNat := by
    rw [BitVec.toNat_setWidth, Nat.mod_eq_of_lt (by omega)]
  rw [BitVec.toNat_and, mask, Nat.and_two_pow_sub_one_eq_mod, wide, Nat.mod_eq_of_lt fits]

end AdvancedFlowControl

end P4Tas.Controller
