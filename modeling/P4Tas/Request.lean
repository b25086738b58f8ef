import P4Tas.Lib.Fallible
import P4Tas.Lib.TernaryCover
import P4Tas.Rust

/-!
# Table requests

The controller describes a table entry by a request: the table, a value for each match key, the
action and its data.  `Request.Matches` says which packets the installed entry accepts, for a
packet given by the values of the fields used as keys.

`Request.NoDuplicates` says that a list of requests asks for no entry of a table twice, which the
switch refuses.

Values are natural numbers, so a value or mask that is narrower than the key it is written to is
zero-extended.
-/

namespace P4Tas

/-- The tables the controller writes. -/
inductive Table
  /-- `egress.tas_c.gate_control_list` -/
  | gateControlList
  /-- `ingress.tsn_c.stream_gate_c.stream_gate_instance` -/
  | streamGateInstance
  /-- `ingress.tsn_c.delta_adjustment_c.underflow_detection` -/
  | underflowDetection
  /-- `ingress.tsn_c.delta_adjustment_c.hyperperiod_exceeded_detection` -/
  | hyperperiodExceededDetection
  /-- `ingress.tsn_c.stream_identification_c.stream_id` -/
  | streamId
  /-- `ingress.tsn_c.flow_meter_c.flow_meter_instance` -/
  | flowMeterInstance
  /-- `ingress.tsn_c.app_id_stream_gate` -/
  | appIdStreamGate
  /-- `ingress.tsn_c.app_id_tas` -/
  | appIdTas
  /-- `ingress.tsn_c.batch_id_to_port` -/
  | batchIdToPort
  /-- `ingress.tsn_c.mapping_tas_control_recirculation_port` -/
  | mappingTasControlRecirculationPort
  /-- `tf2.pktgen.app_cfg`, `APP_CFG_TF2` -/
  | appCfg
  /-- `ingress.ptp_c.ptp` -/
  | ingressPtp
  /-- `egress.ptp` -/
  | egressPtp
  /-- `ingress.layer_2_forwarding` -/
  | layer2Forwarding
  deriving DecidableEq, Repr

/-- The match keys of these tables. -/
inductive Key
  /-- `hdr.gcl_time.diff_ts` -/
  | gclTimeDiffTs
  /-- `hdr.timer.app_id` -/
  | timerAppId
  /-- `hdr.timer.pipe_id` -/
  | timerPipeId
  /-- `hdr.timer.packet_id` -/
  | timerPacketId
  /-- `hdr.timer.batch_id` -/
  | timerBatchId
  /-- `ig_md.stream_filter.stream_gate_id` -/
  | streamGateId
  /-- `ig_md.stream_filter.flow_meter_instance_id` -/
  | flowMeterInstanceId
  /-- `ig_md.diff_ts` -/
  | diffTs
  /-- `ig_md.hyperperiod.duration` -/
  | hyperperiodDuration
  /-- `hdr.ethernet.dst_addr` -/
  | ethernetDstAddr
  /-- `hdr.eth_802_1q.vid` -/
  | eth8021qVid
  /-- `hdr.ipv4.srcAddr` -/
  | ipv4SrcAddr
  /-- `hdr.ipv4.dstAddr` -/
  | ipv4DstAddr
  /-- `app_id` of `tf2.pktgen.app_cfg` -/
  | appId
  /-- `hdr.ptp_1.msg_type` -/
  | ptp1MsgType
  /-- `hdr.ptp_2.clock_identity` -/
  | ptp2ClockIdentity
  /-- `eg_intr_md.egress_port` -/
  | egressPort
  /-- `$MATCH_PRIORITY`, the rank of the entry and no field of the packet -/
  | matchPriority
  deriving DecidableEq, Repr

/-- The actions the requests name. -/
inductive Action
  /-- `egress.tas_c.open_queue` -/
  | openQueue
  /-- `egress.tas_c.close_queue` -/
  | closeQueue
  /-- `ingress.tsn_c.stream_gate_c.set_gate_and_ipv` -/
  | setGateAndIpv
  /-- `ingress.tsn_c.delta_adjustment_c.nop` -/
  | nop
  /-- `ingress.tsn_c.delta_adjustment_c.reset_diff_ts` -/
  | resetDiffTs
  /-- `ingress.tsn_c.delta_adjustment_c.reset_diff_ts2` -/
  | resetDiffTs2
  /-- `ingress.tsn_c.stream_identification_c.assign_stream_handle` -/
  | assignStreamHandle
  /-- `ingress.tsn_c.stream_identification_c.assign_stream_handle_overwrite_mac_and_pcp` -/
  | assignStreamHandleOverwriteMacAndPcp
  /-- `ingress.tsn_c.flow_meter_c.set_color_direct` -/
  | setColorDirect
  /-- `ingress.tsn_c.assign_app_id_stream_gate` -/
  | assignAppIdStreamGate
  /-- `ingress.tsn_c.assign_app_id_tas_port` -/
  | assignAppIdTasPort
  /-- `ingress.tsn_c.assign_batch_id_tas_port` -/
  | assignBatchIdTasPort
  /-- `ingress.tsn_c.set_recirculation_port` -/
  | setRecirculationPort
  /-- `trigger_timer_periodic` -/
  | triggerTimerPeriodic
  /-- `ingress.ptp_c.add_ingress_ts` -/
  | addIngressTs
  /-- `ingress.ptp_c.write_ingress_ts_to_correction_field` -/
  | writeIngressTsToCorrectionField
  /-- `egress.enable_ts6` -/
  | enableTs6
  /-- `egress.enable_tstamp_capture` -/
  | enableTstampCapture
  /-- `ingress.forward` -/
  | forward
  /-- `ingress.multicast_forward` -/
  | multicastForward
  deriving DecidableEq, Repr

/-- The names of the action data. -/
inductive Param
  | afc
  | gateState
  | ipv
  | intervalIdentifier
  | maxOctetsInterval
  | hyperperiodMax
  | pcp
  | ethDstAddr
  | streamHandle
  | streamBlockedDueToOversizeFrameEnable
  | streamGateId
  | gateClosedDueToInvalidRxEnable
  | gateClosedDueToOctetsExceededEnable
  | flowMeterInstanceId
  | dropOnYellow
  | markAllFramesRedEnable
  | colorAware
  | hyperperiod
  | meterSpecCirKbps
  | meterSpecPirKbps
  | meterSpecCbsKbits
  | meterSpecPbsKbits
  | port
  | duration
  | recircPort
  | appEnable
  | pktLen
  | timerNanosec
  | batchCountCfg
  | packetsPerBatchCfg
  | pipeLocalSourcePort
  | pktBufferOffset
  | assignedChnlId
  | cfByteOffset
  | mcid
  deriving DecidableEq, Repr

inductive MatchValue
  | exact (value : Nat)
  | ternary (value mask : Nat)
  deriving DecidableEq, Repr

/-- The field value is accepted. -/
def MatchValue.Matches : MatchValue → Nat → Prop
  | .exact value, x => x = value
  | .ternary value mask, x => TernaryCover.Matches value mask x

instance : (m : MatchValue) → (x : Nat) → Decidable (m.Matches x)
  | .exact value, x => inferInstanceAs (Decidable (x = value))
  | .ternary value mask, x => inferInstanceAs (Decidable (TernaryCover.Matches value mask x))

/-- A single value is accepted. -/
def MatchValue.isExact : MatchValue → Bool
  | .exact _ => true
  | .ternary _ _ => false

theorem MatchValue.isExact_iff {m : MatchValue} : m.isExact ↔ ∃ value, m = .exact value := by
  cases m <;> simp [isExact]

structure Request where
  table : Table
  matchKeys : List (Key × MatchValue)
  action : Action
  actionData : List (Param × Nat)
  deriving DecidableEq, Repr

namespace Request

/-- The packet fields, as far as they are keys of tables. -/
abbrev Fields := Key → Nat

/-- The entry accepts a packet with these fields.  A key the request does not mention is a
ternary key with an empty mask. -/
def Matches (r : Request) (fields : Fields) : Prop :=
  ∀ km ∈ r.matchKeys, km.1 ≠ .matchPriority → km.2.Matches (fields km.1)

instance (r : Request) (fields : Fields) : Decidable (r.Matches fields) :=
  inferInstanceAs (Decidable (∀ km ∈ r.matchKeys, _))

/-- The value of a match key. -/
def key? (r : Request) (k : Key) : Option MatchValue :=
  r.matchKeys.lookup k

/-- The value of a named piece of action data. -/
def data? (r : Request) (p : Param) : Option Nat :=
  r.actionData.lookup p

/-- The rank of the entry among the entries of its table: the smallest number wins. -/
def priority (r : Request) : Nat :=
  match r.key? .matchPriority with
  | some (.exact value) => value
  | _ => 0

/-- The entries that accept a packet. -/
def hits (fields : Fields) (es : List Request) : List Request :=
  es.filter fun r => decide (r.Matches fields)

theorem mem_hits {fields : Fields} {es : List Request} {r : Request} :
    r ∈ hits fields es ↔ r ∈ es ∧ r.Matches fields := by
  unfold hits
  rw [List.mem_filter, decide_eq_true_eq]

/-- An entry with an exact key accepts packets that have this value. -/
theorem Matches.key_eq {r : Request} {fields : Fields} {k : Key} {value : Nat}
    (accepts : r.Matches fields) (keyed : r.key? k = some (.exact value))
    (ranked : k ≠ .matchPriority) : fields k = value := by
  rcases List.lookup_eq_some_iff.mp keyed with ⟨before, after, split, _⟩
  refine accepts (k, .exact value) ?_ ranked
  rw [split]
  exact List.mem_append_right before List.mem_cons_self

/-- The request gives a single value for each key, and no rank. -/
def Exact (r : Request) : Prop :=
  ∀ km ∈ r.matchKeys, km.1 ≠ .matchPriority ∧ km.2.isExact

instance (r : Request) : Decidable r.Exact :=
  inferInstanceAs (Decidable (∀ km ∈ r.matchKeys, _))

/-- An entry with exact keys accepts packets with the values it gives only. -/
theorem Matches.matchKeys_eq {r : Request} {fields : Fields} (accepts : r.Matches fields)
    (exact : r.Exact) :
    r.matchKeys = (r.matchKeys.map Prod.fst).map fun k => (k, .exact (fields k)) := by
  rw [List.map_map]
  refine (List.map_id _).symm.trans (List.map_congr_left ?_)
  rintro ⟨k, m⟩ member
  obtain ⟨ranked, single⟩ := exact (k, m) member
  obtain ⟨value, rfl⟩ := MatchValue.isExact_iff.mp single
  have same : fields k = value := accepts (k, .exact value) member ranked
  rw [Function.comp_apply, same, id_eq]

/-- The hits among generated entries are the hits among those of each element. -/
theorem hits_flatMap {α δ : Type} (decision : Request → δ) (fields : Fields) (as : List α)
    (f : α → List Request) :
    (hits fields (as.flatMap f)).map decision =
      as.flatMap fun a => (hits fields (f a)).map decision := by
  unfold hits
  rw [List.filter_flatMap, List.map_flatMap]

theorem hits_concatMap {α δ : Type} {f : α → Rust (List Request)} {as : List α}
    {es : List Request} (run : Fallible.concatMap f as = .ok es) (decision : Request → δ)
    (fields : Fields) :
    (hits fields es).map decision =
      as.flatMap fun a => (hits fields (Fallible.output (f a))).map decision := by
  obtain ⟨_, rfl⟩ := Fallible.concatMap_eq_ok.mp run
  exact hits_flatMap decision fields as _

/-! ## Equal keys -/

/-- What an entry matches a key on; for a key the request does not mention the mask is empty. -/
def keyValue (r : Request) (k : Key) : MatchValue :=
  (r.key? k).getD (.ternary 0 0)

/-- The requests are for one table and match on the same, so that only one of them can be
written. -/
def SameKey (r r' : Request) : Prop :=
  r.table = r'.table ∧ ∀ k, r.keyValue k = r'.keyValue k

/-- No two of the requests are for one table with the same key. -/
def NoDuplicates (es : List Request) : Prop :=
  es.Pairwise fun r r' => ¬ r.SameKey r'

theorem sameKey_of_matchKeys {r r' : Request} (tables : r.table = r'.table)
    (keys : r.matchKeys = r'.matchKeys) : r.SameKey r' := by
  refine ⟨tables, fun k => ?_⟩
  unfold keyValue key?
  rw [keys]

/-- A request that occurs twice is a duplicate. -/
theorem NoDuplicates.nodup {es : List Request} (distinct : NoDuplicates es) : es.Nodup := by
  refine List.Pairwise.imp (fun {r r'} differ same => ?_) distinct
  exact differ (same ▸ sameKey_of_matchKeys rfl rfl)

theorem SameKey.symm {r r' : Request} (same : r.SameKey r') : r'.SameKey r :=
  ⟨same.1.symm, fun k => (same.2 k).symm⟩

/-- The order of the requests does not matter. -/
theorem noDuplicates_perm {es es' : List Request} (perm : es.Perm es') :
    NoDuplicates es ↔ NoDuplicates es' :=
  perm.pairwise_iff fun differ same => differ same.symm

theorem noDuplicates_flatMap {α : Type} {f : α → List Request} {as : List α} :
    NoDuplicates (as.flatMap f) ↔
      (∀ a ∈ as, NoDuplicates (f a)) ∧
        as.Pairwise fun a b => ∀ r ∈ f a, ∀ r' ∈ f b, ¬ r.SameKey r' :=
  List.pairwise_flatMap

/-- Requests made from records whose keys tell them apart. -/
theorem NoDuplicates.of_distinct {α κ : Type} (request : α → Request) (key : α → κ)
    (tells : ∀ a b, (request a).SameKey (request b) → key a = key b) {as : List α}
    (distinct : (as.map key).Nodup) : NoDuplicates (as.map request) := by
  refine List.pairwise_map.mpr ((List.pairwise_map.mp distinct).imp ?_)
  intro a b differ same
  exact differ (tells a b same)

/-- The requests are for these tables. -/
def OfTables (tables : List Table) (es : List Request) : Prop :=
  ∀ r ∈ es, r.table ∈ tables

theorem OfTables.map {α : Type} {table : Table} (request : α → Request)
    (tables : ∀ a, (request a).table = table) (as : List α) :
    OfTables [table] (as.map request) := by
  intro r member
  rcases List.mem_map.mp member with ⟨a, _, rfl⟩
  exact List.mem_singleton.mpr (tables a)

theorem OfTables.append {tables tables' : List Table} {es es' : List Request}
    (left : OfTables tables es) (right : OfTables tables' es') :
    OfTables (tables ++ tables') (es ++ es') := by
  intro r member
  rcases List.mem_append.mp member with here | there
  · exact List.mem_append_left tables' (left r here)
  · exact List.mem_append_right tables (right r there)

/-- Requests for other tables are no duplicates. -/
theorem noDuplicates_append {tables tables' : List Table} {es es' : List Request}
    (left : OfTables tables es) (right : OfTables tables' es')
    (other : ∀ table ∈ tables, table ∉ tables') :
    NoDuplicates (es ++ es') ↔ NoDuplicates es ∧ NoDuplicates es' := by
  have apart : ∀ r ∈ es, ∀ r' ∈ es', ¬ r.SameKey r' := by
    intro r member r' member' same
    exact other r.table (left r member) (same.1 ▸ right r' member')
  unfold NoDuplicates
  rw [List.pairwise_append]
  exact ⟨fun h => ⟨h.1, h.2.1⟩, fun h => ⟨h.1, h.2, apart⟩⟩

end Request

end P4Tas
