import P4Tas.Controller.Afc
import P4Tas.Controller.Configuration
import P4Tas.Controller.ConstDefinitions
import P4Tas.Controller.RangeToTernary
import P4Tas.Slice
import Mathlib.Tactic.Tauto

/-!
# The entries of the gate control list

`tas.rs`: `TAS::configure_tas_queue_id` writes, for every mapped port, every slice of its GCL and
every queue the slice lists, the entries of the slice's range.  The switch itself is asked for the
port group of a port and for the queue mapping; `Switch` stands for its replies.
-/

namespace P4Tas.Controller

/-- The reply to a query of `tf2.tm.port.cfg`. -/
structure PortCfg where
  pgId : U32
  ingressQidMap : List U32
  egressQidQueues : List U32

/-- The replies of the switch, `none` where the query fails or returns no entry. -/
structure Switch where
  portCfg : U8 → Option PortCfg

/-- The switch knows the port group of a port and the queue a port's queue is mapped to. -/
def Switch.Answers (switch : Switch) (port qId : U8) : Prop :=
  ∃ portCfg egressQid pgQueue, switch.portCfg port = some portCfg ∧
    portCfg.ingressQidMap[qId.toNat]? = some egressQid ∧
    portCfg.egressQidQueues[egressQid.toNat]? = some pgQueue

/-- A switch that answers for the queues 0 to 3 of port 133. -/
def Switch.sample : Switch where
  portCfg
    | 133 => some { pgId := 1, ingressQidMap := [0, 1, 2, 3], egressQidQueues := [8, 9, 10, 11] }
    | _ => none

namespace TAS

open Request (hits hits_concatMap)

def getAfcValue (switch : Switch) (qId pipeId port : U8) (state : U16) : Rust U32 := do
  let portCfg ← unwrap (switch.portCfg port)
  let egressQid ← index portCfg.ingressQidMap qId.toNat
  let pgQueue ← index portCfg.egressQidQueues egressQid.toNat
  return (AdvancedFlowControl.new pipeId (portCfg.pgId.setWidth 8) (pgQueue.setWidth 8) state).value

/-- The request for one ternary entry of a slice. -/
def gateControlRequest (pipeId qId batchId : U8) (action : Action) (afcValue : U32)
    (e : U32 × U32) : Request where
  table := .gateControlList
  matchKeys :=
    [(.gclTimeDiffTs, .ternary e.1.toNat e.2.toNat),
     (.timerAppId, .exact APP_ID_TAS_CONTROL.toNat),
     (.timerPipeId, .exact pipeId.toNat),
     (.timerPacketId, .exact qId.toNat),
     (.timerBatchId, .exact batchId.toNat)]
  action := action
  actionData := [(.afc, afcValue.toNat)]

def rangeToTernaryEntries (start last : U32) (pipeId qId batchId : U8) (action : Action)
    (afcValue : U32) : Rust (List Request) := do
  let entries ← ternaryBlocks start last
  return entries.map (gateControlRequest pipeId qId batchId action afcValue)

/-- `"egress.tas_c.open_queue"` for state 0, `"egress.tas_c.close_queue"` for any other. -/
def queueAction (state : U8) : Action :=
  if state = 0 then .openQueue else .closeQueue

/-- The body of the loop over the queues of a slice. -/
def queueEntries (switch : Switch) (port batchId : U8) (t : TASTimeSlice) (queue : U8 × U8) :
    Rust (List Request) := do
  let pipeId := port >>> 7
  let afcValue ← getAfcValue switch queue.1 pipeId port (queue.2.setWidth 16)
  rangeToTernaryEntries t.low t.high pipeId queue.1 batchId (queueAction queue.2) afcValue

/-- The loops over the slices of a GCL and their queues. -/
def gclEntries (switch : Switch) (port batchId : U8) (slices : List TASTimeSlice) :
    Rust (List Request) :=
  Fallible.concatMap
    (fun t => Fallible.concatMap (queueEntries switch port batchId t) t.queueStates.entries)
    slices

/-- The body of the loop over the port mappings. -/
def mappingEntries (switch : Switch) (cfg : Configuration) (mapping : GCLToPortMapping) :
    Rust (List Request) := do
  let gcl ← unwrap (cfg.findGcl mapping.gcl)
  let batchMappings ← unwrap cfg.tas.batchMappings
  let batch ← unwrap (batchMappings.find? fun b => b.egressDevPort == mapping.port)
  gclEntries switch mapping.port batch.batchId gcl.timeSlices

def configureTasQueueId (switch : Switch) (cfg : Configuration) : Rust (List Request) :=
  Fallible.concatMap (mappingEntries switch cfg) cfg.tas.gclToPortMapping

/-- The request for a pipe, given by its recirculation port and its number. -/
def recirculationRequest (pipe : U16 × Nat) : Request where
  table := .mappingTasControlRecirculationPort
  matchKeys := [(.timerPipeId, .exact pipe.2)]
  action := .setRecirculationPort
  actionData := [(.recircPort, pipe.1.toNat)]

def configureTasControlRecirculation : List Request :=
  RECIRC_PIPE_PORTS_DEV_TF2.zipIdx.map recirculationRequest

/-! ## Flow control words -/

theorem getAfcValue_returns {switch : Switch} {port qId : U8} (answers : switch.Answers port qId)
    (pipeId : U8) (state : U16) : ∃ word, getAfcValue switch qId pipeId port state = .ok word := by
  obtain ⟨portCfg, egressQid, pgQueue, reply, ingress, egress⟩ := answers
  unfold getAfcValue index
  simp only [reply, unwrap, ingress, egress, Fallible.ok_bind]
  exact ⟨_, rfl⟩

/-- The word carries the state as its credit. -/
theorem getCredit_getAfcValue {switch : Switch} {port qId pipeId state : U8} {word : U32}
    (run : getAfcValue switch qId pipeId port (state.setWidth 16) = .ok word) :
    (AdvancedFlowControl.getCredit ⟨word⟩).toNat = state.toNat := by
  obtain ⟨portCfg, _, run⟩ := Fallible.bind_eq_ok.mp run
  obtain ⟨egressQid, _, run⟩ := Fallible.bind_eq_ok.mp run
  obtain ⟨pgQueue, _, run⟩ := Fallible.bind_eq_ok.mp run
  cases run
  have wide : (state.setWidth 16 : U16).toNat = state.toNat := by
    rw [BitVec.toNat_setWidth, Nat.mod_eq_of_lt (by omega)]
  rw [AdvancedFlowControl.getCredit_new _ _ _ (by omega), BitVec.toNat_setWidth, wide,
    Nat.mod_eq_of_lt (by omega)]

/-! ## Control packets -/

/-- The key fields of a TAS control packet at position `diffTs`. -/
def controlPacket (pipeId qId batchId : U8) (diffTs : Nat) : Request.Fields
  | .gclTimeDiffTs => diffTs
  | .timerAppId => 0
  | .timerPipeId => pipeId.toNat
  | .timerPacketId => qId.toNat
  | .timerBatchId => batchId.toNat
  | _ => 0

/-- An entry accepts a control packet when it was written for the packet's pipe, queue and batch
and its block contains the packet's position. -/
theorem gateControlRequest_matches {pipeId qId batchId pipeId' qId' batchId' : U8}
    {action : Action} {afcValue : U32} {e : U32 × U32} {diffTs : Nat} :
    (gateControlRequest pipeId qId batchId action afcValue e).Matches
        (controlPacket pipeId' qId' batchId' diffTs) ↔
      TernaryCover.Matches e.1.toNat e.2.toNat diffTs ∧ pipeId = pipeId' ∧ qId = qId' ∧
        batchId = batchId' := by
  simp only [Request.Matches, gateControlRequest, List.forall_mem_cons, List.not_mem_nil,
    false_imp_iff, implies_true, and_true, MatchValue.Matches, controlPacket, APP_ID_TAS_CONTROL,
    ne_eq, reduceCtorEq, not_false_eq_true, forall_const, BitVec.toNat_inj]
  simp only [BitVec.ofNat_eq_ofNat, BitVec.toNat_ofNat, Nat.zero_mod, true_and, eq_comm]

/-! ## What a slice's entries decide -/

/-- The action and the action data an entry applies. -/
def decision (r : Request) : Action × List (Param × Nat) :=
  (r.action, r.actionData)

/-- The word `getAfcValue` returns, 0 where it does not return. -/
def afcWord (switch : Switch) (qId port : U8) (state : U8) : U32 :=
  match getAfcValue switch qId (port >>> 7) port (state.setWidth 16) with
  | .ok word => word
  | .error _ => 0

/-- What an entry for queue `qId` in state `state` applies. -/
def queueDecision (switch : Switch) (port qId state : U8) : Action × List (Param × Nat) :=
  (queueAction state, [(.afc, (afcWord switch qId port state).toNat)])

/-- What a slice applies to queue `qId` at position `p`: its state of the queue, if the slice
contains the position and lists the queue. -/
def sliceDecisions (switch : Switch) (port qId : U8) (p : Nat) (t : TASTimeSlice) :
    List (Action × List (Param × Nat)) :=
  if t.Contains p then
    (t.queueStates.state? qId).toList.map (queueDecision switch port qId)
  else
    []

theorem mem_sliceDecisions {switch : Switch} {port qId : U8} {p : Nat} {t : TASTimeSlice}
    {d : Action × List (Param × Nat)} :
    d ∈ sliceDecisions switch port qId p t ↔
      t.Contains p ∧ ∃ state, t.queueStates.state? qId = some state ∧
        queueDecision switch port qId state = d := by
  unfold sliceDecisions
  split
  · rename_i inside
    simp only [List.mem_map, Option.mem_toList, inside, true_and]
  · rename_i outside
    simp only [List.not_mem_nil, outside, false_and]

/-- The entries of one queue of one slice. -/
theorem queueEntries_eq_ok {switch : Switch} {port batchId : U8} {t : TASTimeSlice}
    {queue : U8 × U8} {es : List Request}
    (run : queueEntries switch port batchId t queue = .ok es) :
    ∃ word entries,
      getAfcValue switch queue.1 (port >>> 7) port (queue.2.setWidth 16) = .ok word ∧
      ternaryBlocks t.low t.high = .ok entries ∧
      es = entries.map
        (gateControlRequest (port >>> 7) queue.1 batchId (queueAction queue.2) word) := by
  unfold queueEntries rangeToTernaryEntries at run
  obtain ⟨word, wordRun, run⟩ := Fallible.bind_eq_ok.mp run
  obtain ⟨entries, entriesRun, run⟩ := Fallible.bind_eq_ok.mp run
  exact ⟨word, entries, wordRun, entriesRun, (Except.ok.inj run).symm⟩

/-- Every entry of a GCL was built for one queue of one slice. -/
theorem gclEntries_mem {switch : Switch} {port batchId : U8} {slices : List TASTimeSlice}
    {es : List Request} (run : gclEntries switch port batchId slices = .ok es) {r : Request}
    (member : r ∈ es) :
    ∃ qId action word e, r = gateControlRequest (port >>> 7) qId batchId action word e := by
  obtain ⟨t, _, fs, sliceRun, member⟩ := (Fallible.mem_concatMap run).mp member
  obtain ⟨queue, _, gs, queueRun, member⟩ := (Fallible.mem_concatMap sliceRun).mp member
  obtain ⟨word, entries, _, _, rfl⟩ := queueEntries_eq_ok queueRun
  obtain ⟨e, _, rfl⟩ := List.mem_map.mp member
  exact ⟨queue.1, queueAction queue.2, word, e, rfl⟩

/-- The control packet is addressed to the port and batch of the entries. -/
def Addressed (port batchId pipeId' batchId' : U8) : Prop :=
  port >>> 7 = pipeId' ∧ batchId = batchId'

instance (port batchId pipeId' batchId' : U8) :
    Decidable (Addressed port batchId pipeId' batchId') :=
  inferInstanceAs (Decidable (_ ∧ _))

/-- One queue of one slice: a control packet for that queue hits exactly one of its entries when
the slice contains its position, and none otherwise. -/
theorem queueEntries_hits {switch : Switch} {port batchId : U8} {t : TASTimeSlice}
    {queue : U8 × U8} {es : List Request}
    (run : queueEntries switch port batchId t queue = .ok es) (pipeId' qId batchId' : U8) {p : Nat}
    (small : p < 2 ^ 32) :
    (hits (controlPacket pipeId' qId batchId' p) es).map decision =
      if queue.1 = qId ∧ Addressed port batchId pipeId' batchId' ∧ t.Contains p then
        [queueDecision switch port queue.1 queue.2]
      else
        [] := by
  obtain ⟨word, entries, wordRun, entriesRun, rfl⟩ := queueEntries_eq_ok run
  have wordEq : afcWord switch queue.1 port queue.2 = word := by
    unfold afcWord
    rw [wordRun]
  let build := gateControlRequest (port >>> 7) queue.1 batchId (queueAction queue.2) word
  have accepts : ∀ e, (build e).Matches (controlPacket pipeId' qId batchId' p) ↔
      TernaryCover.Matches e.1.toNat e.2.toNat p ∧ queue.1 = qId ∧
        Addressed port batchId pipeId' batchId' := by
    intro e
    rw [gateControlRequest_matches]
    unfold Addressed
    tauto
  have applies : ∀ e, decision (build e) = queueDecision switch port queue.1 queue.2 := by
    intro e
    unfold queueDecision
    rw [wordEq]
    rfl
  rw [ternaryBlocks_hits entriesRun accepts applies, Nat.mod_eq_of_lt small]
  simp only [and_assoc]
  rfl

/-- One slice: a control packet hits one entry when the slice contains its position and lists its
queue. -/
theorem sliceEntries_hits {switch : Switch} {port batchId : U8} {t : TASTimeSlice}
    {es : List Request}
    (run : Fallible.concatMap (queueEntries switch port batchId t) t.queueStates.entries = .ok es)
    (pipeId' qId batchId' : U8) {p : Nat} (small : p < 2 ^ 32) :
    (hits (controlPacket pipeId' qId batchId' p) es).map decision =
      if Addressed port batchId pipeId' batchId' then
        sliceDecisions switch port qId p t
      else
        [] := by
  have all := (Fallible.concatMap_eq_ok.mp run).1
  have perQueue : ∀ queue ∈ t.queueStates.entries,
      (hits (controlPacket pipeId' qId batchId' p)
        (Fallible.output (queueEntries switch port batchId t queue))).map decision =
      if queue.1 = qId ∧ Addressed port batchId pipeId' batchId' ∧ t.Contains p then
        [queueDecision switch port queue.1 queue.2] else [] := by
    intro queue member
    obtain ⟨fs, queueRun⟩ := all queue member
    rw [queueRun]
    exact queueEntries_hits queueRun pipeId' qId batchId' small
  rw [hits_concatMap run decision, List.flatMap_congr perQueue]
  unfold sliceDecisions
  by_cases own : Addressed port batchId pipeId' batchId'
  · rw [if_pos own]
    by_cases inside : t.Contains p
    · simp only [own, inside, and_true, if_true]
      have single : ∀ queue : U8 × U8, (if queue.1 = qId then
          [queueDecision switch port queue.1 queue.2] else []) =
          if queue.1 = qId then [queueDecision switch port qId queue.2] else [] := by
        intro queue
        by_cases here : queue.1 = qId
        · rw [if_pos here, if_pos here, here]
        · rw [if_neg here, if_neg here]
      simp only [single]
      exact t.queueStates.flatMap_state? qId (queueDecision switch port qId)
    · simp only [inside, and_false, if_false, List.flatMap_eq_nil_iff, implies_true]
  · simp only [own, false_and, and_false, if_false, List.flatMap_eq_nil_iff, implies_true]

/-- A whole GCL: the slices that contain the position and list the queue, in order. -/
theorem gclEntries_hits {switch : Switch} {port batchId : U8} {slices : List TASTimeSlice}
    {es : List Request} (run : gclEntries switch port batchId slices = .ok es)
    (pipeId' qId batchId' : U8) {p : Nat} (small : p < 2 ^ 32) :
    (hits (controlPacket pipeId' qId batchId' p) es).map decision =
      if Addressed port batchId pipeId' batchId' then
        slices.flatMap (sliceDecisions switch port qId p)
      else
        [] := by
  have all := (Fallible.concatMap_eq_ok.mp run).1
  have perSlice : ∀ t ∈ slices,
      (hits (controlPacket pipeId' qId batchId' p) (Fallible.output
        (Fallible.concatMap (queueEntries switch port batchId t) t.queueStates.entries))).map
          decision =
      if Addressed port batchId pipeId' batchId' then
        sliceDecisions switch port qId p t else [] := by
    intro t member
    obtain ⟨fs, sliceRun⟩ := all t member
    rw [sliceRun]
    exact sliceEntries_hits sliceRun pipeId' qId batchId' small
  rw [hits_concatMap run decision, List.flatMap_congr perSlice]
  by_cases own : Addressed port batchId pipeId' batchId'
  · simp only [if_pos own]
  · simp only [if_neg own, List.flatMap_eq_nil_iff, implies_true]

end TAS

end P4Tas.Controller
