import P4Tas.DataPlane.Table

/-!
# The entries of the PTP tables

`populate_ptp_table` of `ptp.rs`: the entries that timestamp a message at the ingress, and those
that choose what happens to each of its copies at the egress.  All keys are exact.

* `lookup_populated`: a PTP table with these entries applies the only one that accepts a message.
-/

namespace P4Tas.Ptp

/-- `PtpMessageTypes` -/
inductive PtpMessageTypes
  | sync
  | followUp
  | delayResp
  | delayReq
  deriving DecidableEq, Repr

/-- The discriminant. -/
def PtpMessageTypes.value : PtpMessageTypes → Nat
  | sync => 0
  | followUp => 8
  | delayResp => 9
  | delayReq => 1

def CONTROL_PLANE_DEV_PORT : Nat := 4
def PTP_TO_MASTER_DEV_PORT : Nat := 320
def PTP_TO_SLAVE_DEV_PORT : Nat := 8

def CLOCK_IDENTITY_MASTER : Nat := 0x98039bfffe84aa8e
def CLOCK_IDENTITY_SELF : Nat := 0x0290fbfffe770bb9
def CLOCK_IDENTITY_SLAVE : Nat := 0x0290fbfffe79209f

/-- A request for `ingress.ptp_c.ptp`. -/
def ingressRequest (msgType : PtpMessageTypes) (clockIdentity : Nat) (action : Action) :
    Request where
  table := .ingressPtp
  matchKeys := [(.ptp1MsgType, .exact msgType.value), (.ptp2ClockIdentity, .exact clockIdentity)]
  action
  actionData := []

/-- A request for `egress.ptp`. -/
def egressRequest (msgType : PtpMessageTypes) (clockIdentity devPort : Nat) (action : Action)
    (actionData : List (Param × Nat)) : Request where
  table := .egressPtp
  matchKeys := [(.ptp1MsgType, .exact msgType.value), (.ptp2ClockIdentity, .exact clockIdentity),
    (.egressPort, .exact devPort)]
  action
  actionData

def populatePtpTable : List Request :=
  [ ingressRequest .sync CLOCK_IDENTITY_MASTER .addIngressTs,
    ingressRequest .followUp CLOCK_IDENTITY_MASTER .writeIngressTsToCorrectionField,
    ingressRequest .delayReq CLOCK_IDENTITY_SLAVE .writeIngressTsToCorrectionField,
    ingressRequest .delayResp CLOCK_IDENTITY_MASTER .writeIngressTsToCorrectionField,
    egressRequest .followUp CLOCK_IDENTITY_MASTER PTP_TO_SLAVE_DEV_PORT .enableTs6
      [(.cfByteOffset, 22)],
    egressRequest .delayReq CLOCK_IDENTITY_SLAVE PTP_TO_MASTER_DEV_PORT .enableTs6
      [(.cfByteOffset, 22)],
    egressRequest .delayResp CLOCK_IDENTITY_MASTER PTP_TO_SLAVE_DEV_PORT .enableTs6
      [(.cfByteOffset, 22)],
    egressRequest .delayReq CLOCK_IDENTITY_SELF PTP_TO_MASTER_DEV_PORT .enableTstampCapture [] ]

/-! ## What the entries do -/

section Meaning

variable (msgType clockIdentity devPort : Nat)

/-- A Sync of the master, whose ingress time the controller reads. -/
def Stamps : Prop :=
  msgType = PtpMessageTypes.sync.value ∧ clockIdentity = CLOCK_IDENTITY_MASTER

/-- A message that can pass through, whose ingress time is subtracted. -/
def Subtracts : Prop :=
  msgType = PtpMessageTypes.followUp.value ∧ clockIdentity = CLOCK_IDENTITY_MASTER ∨
  msgType = PtpMessageTypes.delayReq.value ∧ clockIdentity = CLOCK_IDENTITY_SLAVE ∨
  msgType = PtpMessageTypes.delayResp.value ∧ clockIdentity = CLOCK_IDENTITY_MASTER

/-- Its copy that passes through, to which the egress time is added. -/
def Adds : Prop :=
  msgType = PtpMessageTypes.followUp.value ∧ clockIdentity = CLOCK_IDENTITY_MASTER ∧
    devPort = PTP_TO_SLAVE_DEV_PORT ∨
  msgType = PtpMessageTypes.delayReq.value ∧ clockIdentity = CLOCK_IDENTITY_SLAVE ∧
    devPort = PTP_TO_MASTER_DEV_PORT ∨
  msgType = PtpMessageTypes.delayResp.value ∧ clockIdentity = CLOCK_IDENTITY_MASTER ∧
    devPort = PTP_TO_SLAVE_DEV_PORT

/-- Our own Delay_Req on its way to the master, whose egress time is captured. -/
def Captures : Prop :=
  msgType = PtpMessageTypes.delayReq.value ∧ clockIdentity = CLOCK_IDENTITY_SELF ∧
    devPort = PTP_TO_MASTER_DEV_PORT

instance : Decidable (Stamps msgType clockIdentity) :=
  inferInstanceAs (Decidable (_ ∧ _))

instance : Decidable (Subtracts msgType clockIdentity) :=
  inferInstanceAs (Decidable (_ ∧ _ ∨ _ ∧ _ ∨ _ ∧ _))

instance : Decidable (Adds msgType clockIdentity devPort) :=
  inferInstanceAs (Decidable (_ ∧ _ ∧ _ ∨ _ ∧ _ ∧ _ ∨ _ ∧ _ ∧ _))

instance : Decidable (Captures msgType clockIdentity devPort) :=
  inferInstanceAs (Decidable (_ ∧ _ ∧ _))

variable {msgType clockIdentity devPort}

theorem Stamps.not_subtracts (stamps : Stamps msgType clockIdentity) :
    ¬ Subtracts msgType clockIdentity := by
  obtain ⟨rfl, rfl⟩ := stamps
  decide

theorem Stamps.not_captures (stamps : Stamps msgType clockIdentity) :
    ¬ Captures msgType clockIdentity devPort := by
  rintro ⟨type, _, _⟩
  exact absurd (stamps.1.symm.trans type) (by decide)

/-- What the egress time is added to, the ingress time was subtracted from. -/
theorem Adds.subtracts (adds : Adds msgType clockIdentity devPort) :
    Subtracts msgType clockIdentity := by
  rcases adds with ⟨type, identity, _⟩ | ⟨type, identity, _⟩ | ⟨type, identity, _⟩
  · exact .inl ⟨type, identity⟩
  · exact .inr (.inl ⟨type, identity⟩)
  · exact .inr (.inr ⟨type, identity⟩)

theorem Captures.not_subtracts (captures : Captures msgType clockIdentity devPort) :
    ¬ Subtracts msgType clockIdentity := by
  obtain ⟨rfl, rfl, _⟩ := captures
  decide

end Meaning

/-! ## Lookup -/

/-- No two entries of a table accept the same message. -/
theorem populatePtpTable_unique {fields : Request.Fields} {r r' : Request}
    (member : r ∈ populatePtpTable) (member' : r' ∈ populatePtpTable) (tables : r.table = r'.table)
    (accepts : r.Matches fields) (accepts' : r'.Matches fields) : r = r' := by
  have keys : ∀ s ∈ populatePtpTable, s.Exact := by decide
  have names : ∀ s ∈ populatePtpTable, ∀ s' ∈ populatePtpTable, s.table = s'.table →
      s.matchKeys.map Prod.fst = s'.matchKeys.map Prod.fst := by decide
  have distinct : ∀ s ∈ populatePtpTable, ∀ s' ∈ populatePtpTable, s.table = s'.table →
      s.matchKeys = s'.matchKeys → s = s' := by decide
  refine distinct r member r' member' tables ?_
  rw [accepts.matchKeys_eq (keys r member), accepts'.matchKeys_eq (keys r' member'),
    names r member r' member' tables]

/-- The PTP tables hold these entries and no others. -/
def Populated (tables : DataPlane.Tables) : Prop :=
  ∀ r : Request, r.table = .ingressPtp ∨ r.table = .egressPtp →
    (r ∈ tables.installed ↔ r ∈ populatePtpTable)

section Lookup

variable {tables : DataPlane.Tables} {table : Table} {fields : Request.Fields}

theorem Populated.mem_hits (populated : Populated tables)
    (ptp : table = .ingressPtp ∨ table = .egressPtp) {r : Request} :
    r ∈ Request.hits fields (tables.entries table) ↔
      r ∈ populatePtpTable ∧ r.table = table ∧ r.Matches fields := by
  unfold DataPlane.Tables.entries
  rw [Request.mem_hits, List.mem_filter, decide_eq_true_eq, and_assoc]
  refine and_congr_left ?_
  rintro ⟨rfl, _⟩
  exact populated r ptp

/-- The tables apply the entry that accepts the message. -/
theorem lookup_populated (populated : Populated tables)
    (ptp : table = .ingressPtp ∨ table = .egressPtp) {r : Request} :
    tables.lookup table fields = some r ↔
      r ∈ populatePtpTable ∧ r.table = table ∧ r.Matches fields := by
  rw [← populated.mem_hits ptp]
  refine DataPlane.Tables.lookup_eq_some_iff ?_
  intro s hit s' hit'
  obtain ⟨member, rfl, accepts⟩ := (populated.mem_hits ptp).mp hit
  obtain ⟨member', same, accepts'⟩ := (populated.mem_hits ptp).mp hit'
  exact populatePtpTable_unique member member' same.symm accepts accepts'

theorem ingressRequest_accepts {msgType : PtpMessageTypes} {clockIdentity : Nat} {action : Action} :
    (ingressRequest msgType clockIdentity action).Matches fields ↔
      fields .ptp1MsgType = msgType.value ∧ fields .ptp2ClockIdentity = clockIdentity := by
  simp [ingressRequest, Request.Matches, MatchValue.Matches]

theorem egressRequest_accepts {msgType : PtpMessageTypes} {clockIdentity devPort : Nat}
    {action : Action} {data : List (Param × Nat)} :
    (egressRequest msgType clockIdentity devPort action data).Matches fields ↔
      fields .ptp1MsgType = msgType.value ∧ fields .ptp2ClockIdentity = clockIdentity ∧
        fields .egressPort = devPort := by
  simp [egressRequest, Request.Matches, MatchValue.Matches]

theorem lookup_missed (populated : Populated tables)
    (ptp : table = .ingressPtp ∨ table = .egressPtp) (missed : tables.lookup table fields = none) :
    ∀ r ∈ populatePtpTable, r.table = table → ¬ r.Matches fields := by
  intro r member here accepts
  have found := (lookup_populated populated ptp).mpr ⟨member, here, accepts⟩
  rw [missed] at found
  cases found

/-- What is done with a message at the ingress. -/
theorem ingress_action (populated : Populated tables) (fields : Request.Fields) :
    (tables.lookup .ingressPtp fields).map Request.action =
      if Stamps (fields .ptp1MsgType) (fields .ptp2ClockIdentity) then
        some .addIngressTs
      else if Subtracts (fields .ptp1MsgType) (fields .ptp2ClockIdentity) then
        some .writeIngressTsToCorrectionField
      else
        none := by
  cases found : tables.lookup .ingressPtp fields with
  | some r =>
    obtain ⟨member, here, accepts⟩ := (lookup_populated populated (.inl rfl)).mp found
    simp only [populatePtpTable, List.mem_cons, List.not_mem_nil, or_false] at member
    rcases member with rfl | rfl | rfl | rfl | rfl | rfl | rfl | rfl
    iterate 4
      · have values := ingressRequest_accepts.mp accepts
        simp [values, Stamps, Subtracts, PtpMessageTypes.value, ingressRequest]
    all_goals cases here
  | none =>
    have missed := lookup_missed populated (.inl rfl) found
    simp only [populatePtpTable, List.forall_mem_cons, ingressRequest_accepts] at missed
    obtain ⟨sync, followUp, delayReq, delayResp, _⟩ := missed
    have other : ¬ Stamps (fields .ptp1MsgType) (fields .ptp2ClockIdentity) := sync rfl
    have other' : ¬ Subtracts (fields .ptp1MsgType) (fields .ptp2ClockIdentity) := by
      rintro (here | here | here)
      · exact followUp rfl here
      · exact delayReq rfl here
      · exact delayResp rfl here
    rw [if_neg other, if_neg other', Option.map_none]

/-- What is done with a copy at the egress. -/
theorem egress_action (populated : Populated tables) (fields : Request.Fields) :
    (tables.lookup .egressPtp fields).map (fun r => (r.action, r.actionData)) =
      if Adds (fields .ptp1MsgType) (fields .ptp2ClockIdentity) (fields .egressPort) then
        some (.enableTs6, [(.cfByteOffset, 22)])
      else if Captures (fields .ptp1MsgType) (fields .ptp2ClockIdentity) (fields .egressPort) then
        some (.enableTstampCapture, [])
      else
        none := by
  cases found : tables.lookup .egressPtp fields with
  | some r =>
    obtain ⟨member, here, accepts⟩ := (lookup_populated populated (.inr rfl)).mp found
    simp only [populatePtpTable, List.mem_cons, List.not_mem_nil, or_false] at member
    rcases member with rfl | rfl | rfl | rfl | rfl | rfl | rfl | rfl
    iterate 4 cases here
    all_goals
      have values := egressRequest_accepts.mp accepts
      simp [values, Adds, Captures, PtpMessageTypes.value, egressRequest, CLOCK_IDENTITY_SELF,
        CLOCK_IDENTITY_SLAVE]
  | none =>
    have missed := lookup_missed populated (.inr rfl) found
    simp only [populatePtpTable, List.forall_mem_cons, egressRequest_accepts] at missed
    obtain ⟨_, _, _, _, followUp, delayReq, delayResp, own, _⟩ := missed
    have other : ¬ Adds (fields .ptp1MsgType) (fields .ptp2ClockIdentity) (fields .egressPort) := by
      rintro (here | here | here)
      · exact followUp rfl here
      · exact delayReq rfl here
      · exact delayResp rfl here
    have other' : ¬ Captures (fields .ptp1MsgType) (fields .ptp2ClockIdentity)
        (fields .egressPort) := own rfl
    rw [if_neg other, if_neg other', Option.map_none]

end Lookup

end P4Tas.Ptp
