import P4Tas.Controller.Afc
import P4Tas.Lib.HeaderCodec
import P4Tas.Lib.WordField

/-!
# The fields of the flow control word

The setters and getters of `AdvancedFlowControl` are those of five fields of a word that share no
bit, and `TAS.p4` reads the same fields.

* `get_calls`, `padding_calls`: what a sequence of setter calls leaves in a field and in the
  padding;
* `new_layout`: the word that `new` builds, read as `adv_flow_ctl`.
-/

namespace P4Tas.Controller

/-- `adv_flow_ctl`, as `TAS.p4` lists its fields. -/
structure AdvFlowCtl where
  qfc : BitVec 1
  tmPipeId : BitVec 2
  tmMacId : BitVec 4
  pad : BitVec 3
  tmMacQid : BitVec 7
  credit : BitVec 15
  deriving DecidableEq, Repr

open BitFields (field pair) in
def AdvFlowCtl.bits : AdvFlowCtl ≃ BitVec 32 :=
  Equiv.trans
    { toFun := fun h => (h.qfc, h.tmPipeId, h.tmMacId, h.pad, h.tmMacQid, h.credit)
      invFun := fun (qfc, tmPipeId, tmMacId, pad, tmMacQid, credit) =>
        ⟨qfc, tmPipeId, tmMacId, pad, tmMacQid, credit⟩
      left_inv := fun _ => rfl
      right_inv := fun _ => rfl }
    (pair (field 1) (pair (field 2) (pair (field 4) (pair (field 3) (pair (field 7)
      (field 15))))))

namespace AdvancedFlowControl

/-- The fields that have a setter and a getter. -/
inductive Field
  | qfc
  | pipeId
  | macId
  | qid
  | credit
  deriving DecidableEq, Repr

namespace Field

/-- The setter of a field. -/
def set : Field → AdvancedFlowControl → U32 → AdvancedFlowControl
  | qfc => setQfc
  | pipeId => setPipeId
  | macId => setMacId
  | qid => setQid
  | credit => setCredit

/-- The getter of a field. -/
def get : Field → AdvancedFlowControl → U32
  | qfc => getQfc
  | pipeId => getPipeId
  | macId => getMacId
  | qid => getQid
  | credit => getCredit

/-- The width of a field in `adv_flow_ctl`. -/
def width : Field → Nat
  | qfc => 1
  | pipeId => 2
  | macId => 4
  | qid => 7
  | credit => 15

/-- The bits of a field. -/
def bits : Field → WordField
  | qfc => ⟨qfcShift, 1⟩
  | pipeId => ⟨pipeIdShift, 2⟩
  | macId => ⟨macIdShift, 4⟩
  | qid => ⟨qidShift, 7⟩
  | credit => ⟨creditShift, 15⟩

theorem width_bits (f : Field) : f.bits.width = f.width := by
  cases f <;> rfl

theorem set_eq (f : Field) (afc : AdvancedFlowControl) (value : U32) :
    f.set afc value = ⟨f.bits.set afc.value value⟩ := by
  cases f <;> rfl

theorem get_eq (f : Field) (afc : AdvancedFlowControl) : f.get afc = f.bits.get afc.value := by
  cases f <;> rfl

/-- The padding is between the fields. -/
theorem pad_apart (f : Field) :
    25 ≤ f.bits.shift ∨ f.bits.shift + f.bits.width ≤ 22 := by
  cases f <;> decide

theorem layout : WordField.Layout 32 bits where
  fits := by
    intro f
    cases f <;> decide
  apart := by
    intro f g differ
    cases f <;> cases g <;> first | exact absurd rfl differ | decide

end Field

/-- A sequence of setter calls. -/
def calls (afc : AdvancedFlowControl) (cs : List (Field × U32)) : AdvancedFlowControl :=
  cs.foldl (fun afc c => c.1.set afc c.2) afc

theorem calls_eq (afc : AdvancedFlowControl) (cs : List (Field × U32)) :
    afc.calls cs = ⟨WordField.setAll Field.bits afc.value cs⟩ := by
  induction cs generalizing afc with
  | nil => rfl
  | cons c cs ih => exact (ih (c.1.set afc c.2)).trans (by rw [Field.set_eq]; rfl)

/-! ## Sequences of calls -/

/-- A getter returns the value its field was set to last, cut to the field, or else what the field
held before. -/
theorem get_calls (afc : AdvancedFlowControl) (cs : List (Field × U32)) (f : Field) :
    (f.get (afc.calls cs)).toNat =
      match WordField.lastSet f cs with
      | some value => value.toNat % 2 ^ f.width
      | none => (f.get afc).toNat := by
  rw [f.get_eq, f.get_eq, calls_eq, WordField.get_setAll Field.layout]
  cases WordField.lastSet f cs with
  | none => rfl
  | some value =>
    have narrow : 2 ^ f.width ≤ 2 ^ 32 := by
      cases f <;> decide
    have low : value.toNat % 2 ^ f.width < 2 ^ f.width := Nat.mod_lt _ (Nat.two_pow_pos _)
    dsimp only
    rw [BitVec.toNat_setWidth, BitVec.toNat_setWidth, f.width_bits,
      Nat.mod_eq_of_lt (low.trans_le narrow)]

/-- The bits between the fields stay. -/
theorem padding_calls (afc : AdvancedFlowControl) (cs : List (Field × U32)) {i : Nat}
    (above : 22 ≤ i) (below : i ≤ 24) :
    (afc.calls cs).value.getLsbD i = afc.value.getLsbD i := by
  rw [calls_eq]
  refine WordField.getLsbD_setAll (by omega) ?_ afc.value cs
  intro f
  have apart := f.pad_apart
  unfold WordField.Covers
  omega

/-! ## The layout -/

/-- The switch reads the fields the getters read, and the bits between them. -/
theorem bits_symm (word : U32) :
    AdvFlowCtl.bits.symm word =
      { qfc := word.extractLsb' 31 1
        tmPipeId := word.extractLsb' 29 2
        tmMacId := word.extractLsb' 25 4
        pad := word.extractLsb' 22 3
        tmMacQid := word.extractLsb' 15 7
        credit := word.extractLsb' 0 15 } := by
  have nested : AdvFlowCtl.bits.symm word =
      { qfc := word.extractLsb' 31 1
        tmPipeId := (word.extractLsb' 0 31).extractLsb' 29 2
        tmMacId := ((word.extractLsb' 0 31).extractLsb' 0 29).extractLsb' 25 4
        pad := (((word.extractLsb' 0 31).extractLsb' 0 29).extractLsb' 0 25).extractLsb' 22 3
        tmMacQid := ((((word.extractLsb' 0 31).extractLsb' 0 29).extractLsb' 0 25).extractLsb'
          0 22).extractLsb' 15 7
        credit := ((((word.extractLsb' 0 31).extractLsb' 0 29).extractLsb' 0 25).extractLsb'
          0 22).extractLsb' 0 15 } :=
    rfl
  rw [nested]
  simp (disch := decide) only [BitVec.extractLsb'_extractLsb'_of_le]

/-- A field, as the switch reads it. -/
def Field.read (h : AdvFlowCtl) : Field → Nat
  | qfc => h.qfc.toNat
  | pipeId => h.tmPipeId.toNat
  | macId => h.tmMacId.toNat
  | qid => h.tmMacQid.toNat
  | credit => h.credit.toNat

/-- The switch reads what the getter returns. -/
theorem Field.read_eq (f : Field) (afc : AdvancedFlowControl) :
    f.read (AdvFlowCtl.bits.symm afc.value) = (f.get afc).toNat := by
  have narrow : f.bits.width ≤ 32 := by
    cases f <;> decide
  rw [f.get_eq, WordField.get_eq, BitVec.toNat_setWidth_of_le narrow, bits_symm]
  cases f <;> rfl

/-- The arguments fit in their fields. -/
structure InRange (pipeId macId qid : U8) (credit : U16) : Prop where
  pipeId : pipeId.toNat < 4
  macId : macId.toNat < 16
  qid : qid.toNat < 128
  credit : credit.toNat < 2 ^ 15

/-- The switch is told to apply the credit to the queue. -/
structure Tells (h : AdvFlowCtl) (pipeId macId qid : U8) (credit : U16) : Prop where
  qfc : h.qfc = 1
  tmPipeId : h.tmPipeId.toNat = pipeId.toNat
  tmMacId : h.tmMacId.toNat = macId.toNat
  pad : h.pad = 0
  tmMacQid : h.tmMacQid.toNat = qid.toNat
  credit : h.credit.toNat = credit.toNat

variable {pipeId macId qid pipeId' macId' qid' : U8} {credit credit' : U16}

/-- The calls of the constructor. -/
def newCalls (pipeId macId qid : U8) (credit : U16) : List (Field × U32) :=
  [(.qfc, 1), (.pipeId, pipeId.setWidth 32), (.macId, macId.setWidth 32),
   (.qid, qid.setWidth 32), (.credit, credit.setWidth 32)]

theorem new_eq (pipeId macId qid : U8) (credit : U16) :
    new pipeId macId qid credit = calls ⟨0⟩ (newCalls pipeId macId qid credit) :=
  rfl

/-- A new word, as the switch reads it. -/
theorem new_layout (inRange : InRange pipeId macId qid credit) :
    Tells (AdvFlowCtl.bits.symm (new pipeId macId qid credit).value) pipeId macId qid credit := by
  have reads (f : Field) {value : U32}
      (last : WordField.lastSet f (newCalls pipeId macId qid credit) = some value)
      (small : value.toNat < 2 ^ f.width) :
      f.read (AdvFlowCtl.bits.symm (new pipeId macId qid credit).value) = value.toNat := by
    rw [f.read_eq, new_eq, get_calls, last]
    exact Nat.mod_eq_of_lt small
  have wide (x : U8) : (x.setWidth 32).toNat = x.toNat :=
    BitVec.toNat_setWidth_of_le (by decide)
  have wideCredit : (credit.setWidth 32).toNat = credit.toNat :=
    BitVec.toNat_setWidth_of_le (by decide)
  exact {
    qfc := BitVec.eq_of_toNat_eq (@reads .qfc 1 rfl (by decide))
    tmPipeId := (reads .pipeId rfl (by rw [wide]; exact inRange.pipeId)).trans (wide pipeId)
    tmMacId := (reads .macId rfl (by rw [wide]; exact inRange.macId)).trans (wide macId)
    pad := by
      rw [bits_symm]
      apply BitVec.eq_of_getLsbD_eq
      intro i inside
      rw [BitVec.getLsbD_extractLsb', new_eq, padding_calls _ _ (by omega) (by omega)]
      simp
    tmMacQid := (reads .qid rfl (by rw [wide]; exact inRange.qid)).trans (wide qid)
    credit := (reads .credit rfl (by rw [wideCredit]; exact inRange.credit)).trans wideCredit }

/-- Different arguments give different words. -/
theorem new_injective (inRange : InRange pipeId macId qid credit)
    (inRange' : InRange pipeId' macId' qid' credit')
    (same : new pipeId macId qid credit = new pipeId' macId' qid' credit') :
    pipeId = pipeId' ∧ macId = macId' ∧ qid = qid' ∧ credit = credit' := by
  have tells := new_layout inRange
  rw [same] at tells
  have tells' := new_layout inRange'
  exact ⟨BitVec.eq_of_toNat_eq (tells.tmPipeId.symm.trans tells'.tmPipeId),
    BitVec.eq_of_toNat_eq (tells.tmMacId.symm.trans tells'.tmMacId),
    BitVec.eq_of_toNat_eq (tells.tmMacQid.symm.trans tells'.tmMacQid),
    BitVec.eq_of_toNat_eq (tells.credit.symm.trans tells'.credit)⟩

/-- **The flow control word.**  A getter returns what its field was set to last, and the padding
stays as it was; the word of `new` tells the switch its arguments, and no two words agree. -/
theorem word_encoding :
    (∀ (afc : AdvancedFlowControl) (cs : List (Field × U32)),
      (∀ f, (f.get (afc.calls cs)).toNat =
        match WordField.lastSet f cs with
        | some value => value.toNat % 2 ^ f.width
        | none => (f.get afc).toNat) ∧
      ∀ i, 22 ≤ i → i ≤ 24 → (afc.calls cs).value.getLsbD i = afc.value.getLsbD i) ∧
    (∀ pipeId macId qid credit, InRange pipeId macId qid credit →
      Tells (AdvFlowCtl.bits.symm (new pipeId macId qid credit).value) pipeId macId qid credit) ∧
    ∀ pipeId macId qid credit pipeId' macId' qid' credit', InRange pipeId macId qid credit →
      InRange pipeId' macId' qid' credit' →
      new pipeId macId qid credit = new pipeId' macId' qid' credit' →
      pipeId = pipeId' ∧ macId = macId' ∧ qid = qid' ∧ credit = credit' := by
  refine ⟨fun afc cs => ⟨get_calls afc cs, fun _ above below => padding_calls afc cs above below⟩,
    fun _ _ _ _ inRange => new_layout inRange, ?_⟩
  intro _ _ _ _ _ _ _ _ inRange inRange' same
  exact new_injective inRange inRange' same

/-- Queue 9 of port group 3 in pipe 1, with credit 1, after the queue was set to 130 first. -/
theorem word_encoding_sample :
    Tells (AdvFlowCtl.bits.symm (new 1 3 9 1).value) 1 3 9 1 ∧
      (getQid (calls ⟨0⟩ [(.qid, 130), (.macId, 3), (.qid, 9)])).toNat = 9 := by
  obtain ⟨calls, layout, _⟩ := word_encoding
  exact ⟨layout 1 3 9 1 ⟨by decide, by decide, by decide, by decide⟩, (calls ⟨0⟩ _).1 .qid⟩

end AdvancedFlowControl

end P4Tas.Controller
