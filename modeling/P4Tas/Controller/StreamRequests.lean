import P4Tas.Controller.Prepare

/-!
# The entries of stream identification

What the request for a stream contains, in terms of the gate and the schedule its handle resolves
to.

* `streamIdRequest_isStreamEntry`: the contents of a request that is produced;
* `configureStreamIdentification_mem`: every request is that of a stream;
* `Resolved.streamGate_eq`: streams of one gate id pass one gate.
-/

namespace P4Tas.Controller.Configuration

/-- The gate a stream passes. -/
def streamGate (cfg : Configuration) (stream : Stream) : StreamGate :=
  cfg.findGate (cfg.findHandle stream)

/-- The handle of the stream names a gate that exists. -/
def Resolved (cfg : Configuration) (stream : Stream) : Prop :=
  ∃ g ∈ cfg.psfp.streamGates, g.streamGateId = (cfg.findHandle stream).streamGateInstance

/-- The parts of a stream's entry that later results use. -/
structure IsStreamEntry (macFromStr : String → Option (List U8)) (cfg : Configuration)
    (stream : Stream) (r : Request) : Prop where
  table_eq : r.table = .streamId
  keys : ∃ ethDst, macFromStr stream.ethDst = some ethDst ∧ r.matchKeys =
    [(.ethernetDstAddr, .exact (bytesValue ethDst)), (.eth8021qVid, .exact stream.vid.toNat)] ++
      ipv4Key .ipv4SrcAddr stream.ipv4Src ++ ipv4Key .ipv4DstAddr stream.ipv4Dst
  gateId : r.data? .streamGateId = some (cfg.streamGate stream).streamGateId.toNat
  invalidRx : r.data? .gateClosedDueToInvalidRxEnable =
    some (cfg.streamGate stream).gateClosedDueToInvalidRxEnable.toNat
  octetsExceeded : r.data? .gateClosedDueToOctetsExceededEnable =
    some (cfg.streamGate stream).gateClosedDueToOctetsExceededEmable.toNat
  hyperperiod : ∃ schedule, cfg.findSchedule (cfg.streamGate stream).schedule = some schedule ∧
    r.data? .hyperperiod = some schedule.period.toNat

variable {macFromStr : String → Option (List U8)} {cfg : Configuration} {stream : Stream}
  {r : Request}

/-- The part of the action data that depends on the stream alone comes first, and names other
parameters. -/
theorem streamIdAction_eq_ok {action : Action} {streamData : List (Param × Nat)}
    (run : streamIdAction macFromStr stream = .ok (action, streamData)) :
    streamData = [] ∨ ∃ pcp mac, streamData = [(.pcp, pcp), (.ethDstAddr, mac)] := by
  unfold streamIdAction at run
  cases overwrite : stream.overwriteMac with
  | none =>
    rw [overwrite] at run
    cases run
    exact .inl rfl
  | some newMac =>
    rw [overwrite] at run
    obtain ⟨newPcp, _, run⟩ := Fallible.bind_eq_ok.mp run
    obtain ⟨mac, _, run⟩ := Fallible.bind_eq_ok.mp run
    cases run
    exact .inr ⟨_, _, rfl⟩

theorem streamIdRequest_isStreamEntry (run : cfg.streamIdRequest macFromStr stream = .ok r) :
    cfg.IsStreamEntry macFromStr stream r := by
  obtain ⟨schedule, found, run⟩ := Fallible.bind_eq_ok.mp run
  obtain ⟨ethDst, parsed, run⟩ := Fallible.bind_eq_ok.mp run
  obtain ⟨⟨action, streamData⟩, actionRun, run⟩ := Fallible.bind_eq_ok.mp run
  have schedule_eq := unwrap_eq_ok.mp found
  have parsed_eq := unwrap_eq_ok.mp parsed
  rcases streamIdAction_eq_ok actionRun with rfl | ⟨pcp, mac, rfl⟩
  · cases run
    exact ⟨rfl, ⟨ethDst, parsed_eq, rfl⟩, rfl, rfl, rfl, schedule, schedule_eq, rfl⟩
  · cases run
    exact ⟨rfl, ⟨ethDst, parsed_eq, rfl⟩, rfl, rfl, rfl, schedule, schedule_eq, rfl⟩

/-- The requests are those of the streams, in their order. -/
theorem configureStreamIdentification_eq_ok {requests : List Request} :
    cfg.configureStreamIdentification macFromStr = .ok requests ↔
      List.Forall₂ (fun s r => cfg.streamIdRequest macFromStr s = .ok r) cfg.psfp.streams
        requests :=
  Fallible.mapM_eq_ok

theorem configureStreamIdentification_mem {requests : List Request}
    (run : cfg.configureStreamIdentification macFromStr = .ok requests) (member : r ∈ requests) :
    ∃ stream ∈ cfg.psfp.streams, cfg.IsStreamEntry macFromStr stream r := by
  obtain ⟨stream, streamMember, requested⟩ :=
    KeyedList.exists_related (configureStreamIdentification_eq_ok.mp run).flip member
  exact ⟨stream, streamMember, streamIdRequest_isStreamEntry requested⟩

/-- A resolved stream passes the gate its handle names. -/
theorem Resolved.streamGate_id (resolved : cfg.Resolved stream) :
    cfg.psfp.streamGates.find? (fun g => g.streamGateId == (cfg.streamGate stream).streamGateId) =
      some (cfg.streamGate stream) := by
  rcases resolved with ⟨g, member, named⟩
  have search : ∃ found, cfg.psfp.streamGates.find?
      (fun g => g.streamGateId == (cfg.findHandle stream).streamGateInstance) = some found :=
    KeyedList.exists_find? member named
  rcases search with ⟨found, search⟩
  have gate_eq : cfg.streamGate stream = found := by
    unfold streamGate findGate
    rw [search]
    rfl
  have key_eq := (KeyedList.mem_of_find? search).2
  rw [gate_eq, key_eq]
  exact search

/-- Resolved streams with one gate id pass one gate. -/
theorem Resolved.streamGate_eq {stream' : Stream} (resolved : cfg.Resolved stream)
    (resolved' : cfg.Resolved stream')
    (same : (cfg.streamGate stream).streamGateId = (cfg.streamGate stream').streamGateId) :
    cfg.streamGate stream = cfg.streamGate stream' := by
  have found := resolved.streamGate_id
  rw [same, resolved'.streamGate_id] at found
  exact (Option.some.inj found).symm

end P4Tas.Controller.Configuration
