import P4Tas.Controller.AfcFields
import P4Tas.DataPlane.HyperperiodPosition
import P4Tas.DataPlane.InstalledBatch
import P4Tas.DataPlane.Tas

/-!
# Queues follow their schedules

The path of a TAS control packet: the ingress control finds the position of its port from the last
hyperperiod packet of the port, the packet waits in front of the egress pipeline for any time and
may be lost or overtaken there, and the egress control builds a flow control word from the entry of
the gate control list that it hits.

* `Tsn.controlPacket_ingress`: the position a control packet carries;
* `TAS.flowControl_hit`, `TAS.flowControl_missed`, `TAS.flowControl_data`: the word an egress packet
  causes;
* `command_sound`: in every run, a word for a queue of a port carries a state that the port's GCL
  gives the queue at the position of the port when the control packet arrived;
* `command_complete`: a position in a slice that lists the queue causes such a word.
-/

namespace P4Tas.DataPlane

open Controller Controller.Configuration

variable {macFromStr : String → Option (List U8)} {switch : Switch} {cfg out : Configuration}
  {apps : List AppIDMapping} {batches : List BatchIDMapping} {app app' : AppState}
  {schedules gcls streams : List Request} {target : Target} {tables : Tables}

/-! ## The ingress -/

namespace Tsn

variable {registers : Registers} {frames : List Frame} {pkt : Packet} {timer : Timer}

/-- What the ingress control makes of a control packet of a port. -/
theorem controlPacket_ingress (prepared : Prepared cfg out apps batches)
    (batch : Batch macFromStr switch out apps batches app app' schedules gcls streams tables)
    (meter : MeterColor → BitVec 2) (mirrors : PortMirrors frames registers)
    (generated : pkt.hdr.timer = some timer) (control : timer.appId = 0) {b : BatchIDMapping}
    (member : b ∈ batches) (own : b.batchId.toNat = timer.batchId.toNat)
    (short : b.hyperperiodDuration.toNat < 2 ^ 32) :
    ∃ gclTime, (apply target tables meter registers pkt).pkt.hdr.gclTime = some gclTime ∧
      gclTime.diffTs.toNat = positionSince b.hyperperiodDuration.toNat
        ((portEnds b.egressDevPort.toNat frames).getLastD 0) pkt.igIntrMd.ingressMacTstamp := by
  have found : tables.lookup .batchIdToPort pkt.fields =
      some (PacketGenerator.batchIdToPortRequest b) := by
    have key : pkt.fields .timerBatchId = timer.batchId.toNat := by
      unfold Packet.fields
      rw [generated]
      rfl
    have distinct : (batches.map fun b => b.batchId.toNat).Nodup :=
      prepared.batch_ids ▸ List.nodup_range
    rw [batch.lookup_batchIdToPort prepared, key,
      (KeyedList.find?_eq_some_iff distinct).mpr ⟨member, own⟩]
    rfl
  -- the packet with the timestamp of the port's last hyperperiod packet
  have port : (BitVec.ofNat 9 b.egressDevPort.toNat).toNat = b.egressDevPort.toNat := by
    rw [BitVec.toNat_ofNat, Nat.mod_eq_of_lt (b.egressDevPort.isLt.trans (by decide))]
  have selects := target.inRange 256 _ b.egressDevPort.isLt
  have read : readPortTs target tables registers pkt =
      setHyperperiodTs ((portEnds b.egressDevPort.toNat frames).getLastD 0)
        (assignBatchIdTasPort (PacketGenerator.batchIdToPortRequest b) pkt) := by
    have param_port : param (PacketGenerator.batchIdToPortRequest b) .port 9 =
        BitVec.ofNat 9 b.egressDevPort.toNat := rfl
    unfold readPortTs
    rw [found]
    dsimp only [assignBatchIdTasPort]
    rw [param_port, port, Target.read_cell selects, Target.read_cell selects, ← mirrors]
    rfl
  have duration : (readPortTs target tables registers pkt).igMd.hyperperiod.duration =
      b.hyperperiodDuration := by
    rw [read]
    exact (BitVec.ofNat_toNat 64 _).trans (BitVec.setWidth_eq _)
  have listed : b.hyperperiodDuration ∈
      apps.map (·.hyperperiodDuration) ++ batches.map (·.hyperperiodDuration) :=
    List.mem_append_right _ (List.mem_map_of_mem member)
  have position := adjusted_position listed (by omega) batch.underflow batch.exceeded
    (readPortTs target tables registers pkt) duration
  have position_eq : (DeltaAdjustment.apply tables (calcDiffTs
      (readPortTs target tables registers pkt))).igMd.diffTs.toNat =
        positionSince b.hyperperiodDuration.toNat
          ((portEnds b.egressDevPort.toNat frames).getLastD 0)
          pkt.igIntrMd.ingressMacTstamp := by
    rw [position, min_recomputed (by omega), elapsed_eq, read]
    rfl
  unfold apply
  rw [generated]
  dsimp only
  rw [if_neg (not_not_intro control)]
  generalize DeltaAdjustment.apply tables
    (calcDiffTs (readPortTs target tables registers pkt)) = adjusted at position_eq
  have finished : (finishControlPacket tables adjusted).hdr =
      { adjusted.hdr with gclTime := some { diffTs := adjusted.igMd.diffTs.setWidth 64 } } := by
    unfold finishControlPacket
    dsimp only
    split
    · rfl
    · rfl
  dsimp only
  rw [finished]
  refine ⟨_, rfl, ?_⟩
  dsimp only
  rw [BitVec.toNat_setWidth_of_le (by decide), position_eq]

end Tsn

/-! ### The timer header -/

/-- The stream gate leaves the headers alone. -/
theorem StreamGate.apply_hdr (target : Target) (tables : Tables)
    (registers : StreamGate.Registers) (pkt : Packet) :
    (apply target tables registers pkt).pkt.hdr = pkt.hdr := by
  have pass (registers : StreamGate.Registers) (pkt : Packet) :
      (passGate target registers pkt).pkt.hdr = pkt.hdr := by
    unfold passGate
    split
    · rfl
    · split
      · split <;> rfl
      · dsimp only
        split <;> rfl
  unfold apply
  split
  · rcases streamGateInstance_eq tables pkt with ⟨r, hit⟩ | miss
    · rw [hit]
      dsimp only
      rw [if_neg Bool.false_ne_true]
      split
      · obtain ⟨_, resetOctets, remainingOctets, toBeDropped, pktEq⟩ :=
          checkOctets_eq target registers (setGateAndIpv r pkt)
        refine (pass _ _).trans ?_
        rw [pktEq]
        rfl
      · exact pass registers (setGateAndIpv r pkt)
    · rw [miss]
      dsimp only
      rw [if_pos rfl]
      split <;> rfl
  · rfl

/-- The flow meter changes the drop eligibility only. -/
theorem FlowMeter.apply_timer (target : Target) (tables : Tables)
    (meter : MeterColor → BitVec 2) (regMeterBlocked : FlowMeter.Registers) (pkt : Packet) :
    (apply target tables meter regMeterBlocked pkt).pkt.hdr.timer = pkt.hdr.timer := by
  have evaluate (pkt : Packet) :
      (evaluateColor target regMeterBlocked pkt).pkt.hdr.timer = pkt.hdr.timer := by
    unfold evaluateColor
    dsimp only
    split
    · split <;> rfl
    · split
      · split <;> rfl
      · split
        · split <;> rfl
        · rfl
  have answered (pkt : Packet) : (flowMeterInstance tables meter pkt).hdr = pkt.hdr := by
    unfold flowMeterInstance
    cases tables.lookup .flowMeterInstance pkt.fields with
    | some r => rfl
    | none => rfl
  unfold apply
  dsimp only
  rw [evaluate]
  split
  · rw [answered]
    rfl
  · rfl

namespace Tsn

/-- No frame becomes a generated packet, and no generated packet a frame. -/
theorem apply_timerHeader (target : Target) (tables : Tables) (meter : MeterColor → BitVec 2)
    (registers : Registers) (pkt : Packet) :
    (apply target tables meter registers pkt).pkt.hdr.timer = pkt.hdr.timer := by
  cases generated : pkt.hdr.timer with
  | some timer =>
    rcases Decidable.em (timer.appId = 0) with control | hyperperiod
    · unfold apply
      rw [generated]
      dsimp only
      rw [if_neg (not_not_intro control)]
      obtain ⟨_, _, adjusted⟩ :=
        DeltaAdjustment.apply_eq tables (calcDiffTs (readPortTs target tables registers pkt))
      have read : (readPortTs target tables registers pkt).hdr.timer = some timer := by
        unfold readPortTs
        dsimp only
        split
        · exact generated
        · exact generated
      rw [adjusted]
      unfold finishControlPacket
      dsimp only
      split
      · exact read
      · exact read
    · unfold apply
      rw [generated]
      dsimp only
      rw [if_pos hyperperiod]
      unfold hyperperiodPacket finishGatePeriod
      dsimp only
      split
      · split
        · exact generated
        · exact generated
      · split
        · exact generated
        · exact generated
  | none =>
    obtain ⟨_, _, adjusted⟩ :=
      DeltaAdjustment.apply_eq tables (calcDiffTs (readGateTs target tables registers pkt))
    have read : (readGateTs target tables registers pkt).hdr.timer = none := by
      unfold readGateTs StreamIdentification.apply
      dsimp only
      split
      · split
        · exact generated
        · exact generated
      · exact generated
    unfold apply
    rw [generated]
    dsimp only
    unfold finishFrame
    dsimp only
    have kept := (FlowMeter.apply_timer target tables meter registers.regMeterBlocked
      (StreamGate.apply target tables registers.streamGate (DeltaAdjustment.apply tables
        (calcDiffTs (readGateTs target tables registers pkt)))).pkt).trans
      (congrArg Headers.timer (StreamGate.apply_hdr target tables registers.streamGate _))
    rw [adjusted] at kept ⊢
    split
    · exact kept.trans read
    · exact kept.trans read

end Tsn

/-! ## The egress -/

namespace TAS

/-- What the egress parser finds of a packet that left the ingress pipeline. -/
def egressPacket (pkt : Packet) (egIntrMd : EgressIntrinsicMetadata) (globalTstamp : BitVec 48) :
    EgressPacket where
  hdr := { timer := pkt.hdr.timer, gclTime := pkt.hdr.gclTime, eth8021q := pkt.hdr.eth8021q }
  egMd := default
  egIntrMd
  egDprsrMd := default
  globalTstamp

variable {registers : Registers} {pkt : EgressPacket}

/-- The word is the data of the entry that is hit, which opens or closes a queue. -/
theorem flowControl_hit {r : Request} (control : Control pkt)
    (found : tables.lookup .gateControlList pkt.fields = some r)
    (action : r.action = .openQueue ∨ r.action = .closeQueue) :
    (apply target tables registers pkt).pkt.egDprsrMd.advFlowCtl = param r .afc 32 := by
  unfold apply
  rw [if_pos control]
  unfold applyControl gateControlList
  rw [found]
  dsimp only
  rcases action with opens | closes
  · rw [opens]
    rfl
  · rw [closes]
    rfl

theorem flowControl_missed (missed : tables.lookup .gateControlList pkt.fields = none) :
    (apply target tables registers pkt).pkt.egDprsrMd.advFlowCtl = pkt.egDprsrMd.advFlowCtl := by
  unfold apply
  split
  · unfold applyControl gateControlList
    rw [missed]
  · unfold applyData
    dsimp only
    split
    · rfl
    · rfl

theorem flowControl_data (data : ¬ Control pkt) :
    (apply target tables registers pkt).pkt.egDprsrMd.advFlowCtl = pkt.egDprsrMd.advFlowCtl := by
  unfold apply
  rw [if_neg data]
  unfold applyData
  dsimp only
  split
  · rfl
  · rfl

/-- The fields of a control packet for a queue of a port. -/
theorem fields_eq {timer : Timer} {gclTime : GclTime} {qId batchId : U8}
    (generated : pkt.hdr.timer = some timer) (control : timer.appId = 0)
    (bridged : pkt.hdr.gclTime = some gclTime) (queue : timer.packetId.toNat = qId.toNat)
    (batch : timer.batchId.toNat = batchId.toNat) :
    pkt.fields = Controller.TAS.controlPacket (timer.pipeId.setWidth 8) qId batchId
      gclTime.diffTs.toNat := by
  have pipe : (timer.pipeId.setWidth 8).toNat = timer.pipeId.toNat :=
    BitVec.toNat_setWidth_of_le (by decide)
  funext key
  unfold EgressPacket.fields Controller.TAS.controlPacket
  rw [generated, bridged, pipe, ← queue, ← batch]
  dsimp only [Option.map_some, Option.getD_some]
  rw [control]
  cases key <;> rfl

/-- An entry that a control packet hits was written for a mapped port in the packet's pipe, the
packet's queue and the port's batch, and for a slice of the port that contains the position. -/
theorem hit_sound {timer : Timer} {gclTime : GclTime} {r : Request}
    (prepared : Prepared cfg out apps batches)
    (gclsRun : Controller.TAS.configureTasQueueId switch out = .ok gcls)
    (entries : tables.entries .gateControlList = gcls) (generated : pkt.hdr.timer = some timer)
    (control : timer.appId = 0) (bridged : pkt.hdr.gclTime = some gclTime)
    (small : gclTime.diffTs.toNat < 2 ^ 32)
    (hit : r ∈ Request.hits pkt.fields (tables.entries .gateControlList)) :
    ∃ mapping ∈ cfg.tas.gclToPortMapping, ∃ batchId qId state,
      out.batchId? mapping.port = some batchId ∧ timer.batchId.toNat = batchId.toNat ∧
        timer.packetId.toNat = qId.toNat ∧ timer.pipeId.setWidth 8 = mapping.port >>> 7 ∧
        (∃ t ∈ out.portSlices mapping.port, t.Contains gclTime.diffTs.toNat ∧
          t.queueStates.state? qId = some state) ∧
        Controller.TAS.decision r =
          Controller.TAS.queueDecision switch mapping.port qId state := by
  obtain ⟨member, accepts⟩ := Request.mem_hits.mp hit
  rw [entries] at member
  obtain ⟨mapping, mapped, es, mappingRun, member⟩ := (Fallible.mem_concatMap gclsRun).mp member
  obtain ⟨gcl, batchId, _, batch, gclRun⟩ := Controller.TAS.mappingEntries_eq_ok mappingRun
  obtain ⟨qId, action, word, e, rfl⟩ := Controller.TAS.gclEntries_mem gclRun member
  -- the exact keys of the entry
  have pipe : pkt.fields .timerPipeId = (mapping.port >>> 7).toNat :=
    accepts.key_eq rfl nofun
  have queue : pkt.fields .timerPacketId = qId.toNat := accepts.key_eq rfl nofun
  have batchKey : pkt.fields .timerBatchId = batchId.toNat := accepts.key_eq rfl nofun
  unfold EgressPacket.fields at pipe queue batchKey
  rw [generated] at pipe queue batchKey
  have pipe_eq : timer.pipeId.setWidth 8 = mapping.port >>> 7 := by
    apply BitVec.eq_of_toNat_eq
    rw [BitVec.toNat_setWidth_of_le (by decide)]
    exact pipe
  have fields := fields_eq generated control bridged queue batchKey
  rw [pipe_eq] at fields
  have decides := Controller.TAS.configureTasQueueId_hits prepared gclsRun batch qId small
  rw [← fields, ← entries] at decides
  have decided := List.mem_map_of_mem (f := Controller.TAS.decision) hit
  rw [decides, List.mem_flatMap] at decided
  obtain ⟨t, slice, decided⟩ := decided
  obtain ⟨inside, state, listed, same⟩ := Controller.TAS.mem_sliceDecisions.mp decided
  exact ⟨mapping, prepared.mappings_eq ▸ mapped, batchId, qId, state, batch, batchKey, queue,
    pipe_eq, ⟨t, slice, inside, listed⟩, same.symm⟩

/-- A control packet for a listed queue of a port, at a position in a slice, hits an entry. -/
theorem hit_complete {timer : Timer} {gclTime : GclTime} {port batchId qId state : U8}
    {t : TASTimeSlice} (prepared : Prepared cfg out apps batches)
    (gclsRun : Controller.TAS.configureTasQueueId switch out = .ok gcls)
    (entries : tables.entries .gateControlList = gcls) (generated : pkt.hdr.timer = some timer)
    (control : timer.appId = 0) (bridged : pkt.hdr.gclTime = some gclTime)
    (small : gclTime.diffTs.toNat < 2 ^ 32) (batch : out.batchId? port = some batchId)
    (batchKey : timer.batchId.toNat = batchId.toNat)
    (queue : timer.packetId.toNat = qId.toNat) (pipe : timer.pipeId.setWidth 8 = port >>> 7)
    (slice : t ∈ out.portSlices port) (inside : t.Contains gclTime.diffTs.toNat)
    (listed : t.queueStates.state? qId = some state) :
    ∃ r, tables.lookup .gateControlList pkt.fields = some r := by
  have fields := fields_eq generated control bridged queue batchKey
  rw [pipe] at fields
  have decides := Controller.TAS.configureTasQueueId_hits prepared gclsRun batch qId small
  rw [← fields, ← entries] at decides
  have decided : Controller.TAS.queueDecision switch port qId state ∈
      (out.portSlices port).flatMap
        (Controller.TAS.sliceDecisions switch port qId gclTime.diffTs.toNat) :=
    List.mem_flatMap.mpr
      ⟨t, slice, Controller.TAS.mem_sliceDecisions.mpr ⟨inside, state, listed, rfl⟩⟩
  rw [← decides] at decided
  obtain ⟨r, hit, _⟩ := List.mem_map.mp decided
  exact tables.precedence.isSome _ (List.ne_nil_of_mem hit)

end TAS

/-! ## Flow control words -/

/-- Where the switch has a queue of a port: the port group and the queue in it. -/
def queueAddress (switch : Switch) (port qId : U8) : Option (U8 × U8) := do
  let portCfg ← switch.portCfg port
  let egressQid ← portCfg.ingressQidMap[qId.toNat]?
  let pgQueue ← portCfg.egressQidQueues[egressQid.toNat]?
  return (portCfg.pgId.setWidth 8, pgQueue.setWidth 8)

/-- The queues of the mapped ports are at places of their own, which fit the fields of the word. -/
structure Placed (switch : Switch) (cfg : Configuration) : Prop where
  fits : ∀ mapping ∈ cfg.tas.gclToPortMapping, ∀ qId place,
    queueAddress switch mapping.port qId = some place →
      place.1.toNat < 16 ∧ place.2.toNat < 128
  distinct : ∀ mapping ∈ cfg.tas.gclToPortMapping, ∀ mapping' ∈ cfg.tas.gclToPortMapping,
    ∀ qId qId' place, queueAddress switch mapping.port qId = some place →
      queueAddress switch mapping'.port qId' = some place →
        mapping.port >>> 7 = mapping'.port >>> 7 → mapping.port = mapping'.port ∧ qId = qId'

/-- The word tells the switch to apply the credit to the queue of the port. -/
def Commands (switch : Switch) (word : BitVec 32) (port qId : U8) (credit : U16) : Prop :=
  ∃ place, queueAddress switch port qId = some place ∧
    AdvancedFlowControl.Tells (AdvFlowCtl.bits.symm word) (port >>> 7) place.1 place.2 credit

theorem getAfcValue_eq_ok {pipeId port qId : U8} {state : U16} {word : U32} :
    Controller.TAS.getAfcValue switch qId pipeId port state = .ok word ↔
      ∃ place, queueAddress switch port qId = some place ∧
        word = (AdvancedFlowControl.new pipeId place.1 place.2 state).value := by
  unfold Controller.TAS.getAfcValue queueAddress
  cases switch.portCfg port with
  | none => simp [unwrap]
  | some portCfg =>
    simp only [unwrap, Fallible.ok_bind, index, Option.bind_eq_bind, Option.bind_some]
    cases portCfg.ingressQidMap[qId.toNat]? with
    | none => simp
    | some egressQid =>
      simp only [Fallible.ok_bind, Option.bind_some]
      cases portCfg.egressQidQueues[egressQid.toNat]? with
      | none => simp
      | some pgQueue =>
        simp only [Fallible.ok_bind, Option.bind_some, Option.pure_def, Option.some.injEq,
          exists_eq_left']
        exact ⟨fun same => (Except.ok.inj same).symm, fun same => congrArg Except.ok same.symm⟩

variable {port port' qId qId' state : U8} {credit : U16} {word : BitVec 32}

theorem shiftRight_lt (port : U8) : (port >>> 7).toNat < 4 := by
  have bound := port.isLt
  rw [BitVec.toNat_ushiftRight, Nat.shiftRight_eq_div_pow]
  omega

/-- The word that is built for a queue commands it. -/
theorem commands_of_getAfcValue (placed : Placed switch cfg) {mapping : GCLToPortMapping}
    (mapped : mapping ∈ cfg.tas.gclToPortMapping)
    (run : Controller.TAS.getAfcValue switch qId (mapping.port >>> 7) mapping.port
      (state.setWidth 16) = .ok word) :
    Commands switch word mapping.port qId (state.setWidth 16) := by
  obtain ⟨place, located, rfl⟩ := getAfcValue_eq_ok.mp run
  obtain ⟨group, queue⟩ := placed.fits mapping mapped qId place located
  refine ⟨place, located, AdvancedFlowControl.new_layout ⟨shiftRight_lt _, group, queue, ?_⟩⟩
  have bound := state.isLt
  rw [BitVec.toNat_setWidth_of_le (by decide)]
  omega

/-- A word commands one queue, with one credit. -/
theorem Commands.unique (placed : Placed switch cfg) {mapping mapping' : GCLToPortMapping}
    {credit' : U16} (mapped : mapping ∈ cfg.tas.gclToPortMapping)
    (mapped' : mapping' ∈ cfg.tas.gclToPortMapping)
    (commands : Commands switch word mapping.port qId credit)
    (commands' : Commands switch word mapping'.port qId' credit') :
    mapping.port = mapping'.port ∧ qId = qId' ∧ credit = credit' := by
  obtain ⟨place, located, tells⟩ := commands
  obtain ⟨place', located', tells'⟩ := commands'
  have pipe : mapping.port >>> 7 = mapping'.port >>> 7 :=
    BitVec.eq_of_toNat_eq (tells.tmPipeId.symm.trans tells'.tmPipeId)
  have same : place = place' :=
    Prod.ext (BitVec.eq_of_toNat_eq (tells.tmMacId.symm.trans tells'.tmMacId))
      (BitVec.eq_of_toNat_eq (tells.tmMacQid.symm.trans tells'.tmMacQid))
  subst same
  obtain ⟨ports, queues⟩ :=
    placed.distinct mapping mapped mapping' mapped' qId qId' place located located' pipe
  exact ⟨ports, queues, BitVec.eq_of_toNat_eq (tells.credit.symm.trans tells'.credit)⟩

/-- No word at all, 0, is no command. -/
theorem not_commands_zero : ¬ Commands switch 0 port qId credit := by
  intro commands
  obtain ⟨place, _, tells⟩ := commands
  have zero : (AdvFlowCtl.bits.symm 0).qfc = 0 := by decide
  exact absurd (zero.symm.trans tells.qfc) (by decide)

/-! ## Runs -/

/-- The registers of the two controls, and the packets between them. -/
structure Pipeline where
  ingress : Tsn.Registers
  flight : List Packet
  egress : TAS.Registers

/-- A packet reaches the egress control, with the tables installed then. -/
structure Delivery where
  tables : Tables
  pkt : Packet
  egIntrMd : EgressIntrinsicMetadata
  globalTstamp : BitVec 48

def Delivery.egressPacket (d : Delivery) : EgressPacket :=
  TAS.egressPacket d.pkt d.egIntrMd d.globalTstamp

inductive Event
  | arrive (frame : Tsn.Frame)
  | deliver (d : Delivery) (word : BitVec 32)
  | lose (pkt : Packet)

/-- What leaves the ingress control. -/
def ingressResult (target : Target) (registers : Tsn.Registers) (frame : Tsn.Frame) :
    Tsn.Result :=
  Tsn.apply target frame.tables frame.meter registers frame.pkt

def egressResult (target : Target) (registers : TAS.Registers) (d : Delivery) : TAS.Result :=
  TAS.apply target d.tables registers d.egressPacket

/-- Packets arrive at any time, and those in flight are delivered or lost in any order. -/
inductive Step (target : Target) : Pipeline → Event → Pipeline → Prop
  | arrive {s : Pipeline} (frame : Tsn.Frame) : Step target s (.arrive frame)
      { s with
        ingress := (ingressResult target s.ingress frame).registers
        flight := (ingressResult target s.ingress frame).pkt :: s.flight }
  | deliver {s : Pipeline} (d : Delivery) (inFlight : d.pkt ∈ s.flight) : Step target s
      (.deliver d (egressResult target s.egress d).pkt.egDprsrMd.advFlowCtl)
      { s with
        flight := s.flight.erase d.pkt
        egress := (egressResult target s.egress d).registers }
  | lose {s : Pipeline} (pkt : Packet) (inFlight : pkt ∈ s.flight) : Step target s (.lose pkt)
      { s with flight := s.flight.erase pkt }

def Event.arrival? : Event → Option Tsn.Frame
  | arrive frame => some frame
  | _ => none

/-- The packets that arrived, in their order. -/
def arrivals (events : List Event) : List Tsn.Frame :=
  events.filterMap Event.arrival?

theorem arrivals_append (events : List Event) (event : Event) :
    arrivals (events ++ [event]) = arrivals events ++ event.arrival?.toList := by
  unfold arrivals
  rw [List.filterMap_append]
  congr 1

/-- The packet is what the ingress control made of an arrival, when its registers held the
hyperperiod packets before. -/
def Sent (target : Target) (events : List Event) (pkt : Packet) : Prop :=
  ∃ before frame after registers, events = before ++ .arrive frame :: after ∧
    Tsn.PortMirrors (arrivals before) registers ∧
    pkt = (ingressResult target registers frame).pkt

theorem Sent.append {events : List Event} {pkt : Packet} (sent : Sent target events pkt)
    (event : Event) : Sent target (events ++ [event]) pkt := by
  obtain ⟨before, frame, after, registers, rfl, mirrors, same⟩ := sent
  exact ⟨before, frame, after ++ [event], registers, by simp, mirrors, same⟩

/-- The registers of the ingress hold the hyperperiod packets that arrived, and every packet in
flight was sent. -/
structure Tracks (target : Target) (events : List Event) (s : Pipeline) : Prop where
  ingress : Tsn.PortMirrors (arrivals events) s.ingress
  flight : ∀ pkt ∈ s.flight, Sent target events pkt

variable {events : List Event} {s s' : Pipeline} {event : Event}

theorem tracks_step (tracks : Tracks target events s)
    (inRange : ∀ frame, event = .arrive frame → frame.PortInRange)
    (taken : Step target s event s') : Tracks target (events ++ [event]) s' := by
  cases taken with
  | arrive frame =>
    refine ⟨?_, fun pkt member => ?_⟩
    · rw [arrivals_append]
      exact Tsn.portMirrors_step tracks.ingress (inRange frame rfl)
    · rcases List.mem_cons.mp member with rfl | old
      · exact ⟨events, frame, [], s.ingress, rfl, tracks.ingress, rfl⟩
      · exact (tracks.flight pkt old).append _
  | deliver d inFlight =>
    refine ⟨?_, fun pkt member => ?_⟩
    · rw [arrivals_append]
      exact (List.append_nil (arrivals events)).symm ▸ tracks.ingress
    · exact (tracks.flight pkt (List.mem_of_mem_erase member)).append _
  | lose pkt inFlight =>
    refine ⟨?_, fun pkt' member => ?_⟩
    · rw [arrivals_append]
      exact (List.append_nil (arrivals events)).symm ▸ tracks.ingress
    · exact (tracks.flight pkt' (List.mem_of_mem_erase member)).append _

theorem run_tracks {start : Pipeline} (run : Transition.Run (Step target) start events s)
    (cleared : Tsn.Cleared start.ingress) (idle : start.flight = [])
    (inRange : ∀ frame ∈ arrivals events, frame.PortInRange) : Tracks target events s := by
  induction events using List.reverseRecOn generalizing s with
  | nil =>
    cases Transition.Run.nil_iff.mp run
    refine ⟨cleared.portMirrors, fun pkt member => ?_⟩
    rw [idle] at member
    cases member
  | append_singleton events event ih =>
    obtain ⟨t, earlier, last⟩ := Transition.Run.append_iff.mp run
    obtain ⟨t', taken, done⟩ := Transition.Run.cons_iff.mp last
    cases Transition.Run.nil_iff.mp done
    rw [arrivals_append] at inRange
    refine tracks_step (ih earlier fun frame member => inRange frame
      (List.mem_append_left _ member)) (fun frame arrives => ?_) taken
    rw [arrives] at inRange
    exact inRange frame (List.mem_append_right _ List.mem_cons_self)

/-! ## Commands -/

/-- The batch mapping of a mapped port has the period of its GCL. -/
theorem batch_period (prepared : Prepared cfg out apps batches)
    (ports : (cfg.tas.gclToPortMapping.map (·.port)).Nodup) {mapping : GCLToPortMapping}
    (mapped : mapping ∈ cfg.tas.gclToPortMapping) {guarded : GateControlList}
    (found : out.findGcl mapping.gcl = some guarded) {b : BatchIDMapping} (member : b ∈ batches)
    (own : b.egressDevPort = mapping.port) :
    b.hyperperiodDuration.toNat = guarded.period.toNat := by
  obtain ⟨mapping', mapped', isBatch⟩ :=
    KeyedList.exists_related prepared.batches_ports.flip member
  have same : mapping' = mapping :=
    List.inj_on_of_nodup_map ports mapped' mapped (isBatch.1.symm.trans own)
  obtain ⟨g, found', period⟩ := isBatch.2
  rw [same, found] at found'
  cases found'
  rw [period, BitVec.toNat_setWidth_of_le (by decide)]

/-- A batch mapping of a mapped port, with the period of a GCL, which is short. -/
theorem batch_short (prepared : Prepared cfg out apps batches) {b : BatchIDMapping}
    (member : b ∈ batches) : b.hyperperiodDuration.toNat < 2 ^ 32 := by
  obtain ⟨_, _, isBatch⟩ := KeyedList.exists_related prepared.batches_ports.flip member
  obtain ⟨g, _, period⟩ := isBatch.2
  rw [period, BitVec.toNat_setWidth_of_le (by decide)]
  exact g.period.isLt

/-- What causes a flow control word: a control packet for a queue of a port, that arrived after
`frames` when the port was at a position in a slice with a state for the queue. -/
structure Cause (frames : List Tsn.Frame) (frame : Tsn.Frame) (port qId : U8) (T : Nat)
    (slices : List TASTimeSlice) (state : U8) : Prop where
  control : ∃ timer, frame.pkt.hdr.timer = some timer ∧ timer.appId = 0 ∧
    timer.packetId.toNat = qId.toNat
  scheduled : ∃ t ∈ slices, t.queueStates.state? qId = some state ∧
    t.Contains (positionSince T ((Tsn.portEnds port.toNat frames).getLastD 0) frame.tstamp)

variable {requests : List Request} {start : Pipeline} {frames : List Tsn.Frame}
  {frame : Tsn.Frame} {registers : Tsn.Registers} {egress : TAS.Registers} {d : Delivery}

/-- An entry that is hit has the batch of a port. -/
theorem TAS.hit_batch {pkt : EgressPacket} {timer : Timer} {r : Request}
    (prepared : Prepared cfg out apps batches)
    (gclsRun : Controller.TAS.configureTasQueueId switch out = .ok gcls)
    (entries : tables.entries .gateControlList = gcls) (generated : pkt.hdr.timer = some timer)
    (hit : r ∈ Request.hits pkt.fields (tables.entries .gateControlList)) :
    ∃ b ∈ batches, b.batchId.toNat = timer.batchId.toNat := by
  obtain ⟨member, accepts⟩ := Request.mem_hits.mp hit
  rw [entries] at member
  obtain ⟨mapping, mapped, es, mappingRun, member⟩ := (Fallible.mem_concatMap gclsRun).mp member
  obtain ⟨gcl, batchId, _, batch, gclRun⟩ := Controller.TAS.mappingEntries_eq_ok mappingRun
  obtain ⟨qId, action, word, e, rfl⟩ := Controller.TAS.gclEntries_mem gclRun member
  have batchKey : pkt.fields .timerBatchId = batchId.toNat := accepts.key_eq rfl nofun
  unfold EgressPacket.fields at batchKey
  rw [generated] at batchKey
  obtain ⟨b, foundB, same⟩ := prepared.batchId?_eq_some.mp batch
  exact ⟨b, (KeyedList.mem_of_find? foundB).1, by rw [same]; exact batchKey.symm⟩

/-- An entry with the decision of a queue's state carries the word built for it. -/
theorem TAS.word_of_decision {r : Request} {port qId state : U8} {word : U32}
    (wordRun : Controller.TAS.getAfcValue switch qId (port >>> 7) port (state.setWidth 16) =
      .ok word)
    (decides : Controller.TAS.decision r =
      Controller.TAS.queueDecision switch port qId state) :
    (r.action = .openQueue ∨ r.action = .closeQueue) ∧ param r .afc 32 = word := by
  obtain ⟨action, data⟩ := Prod.mk.inj decides
  refine ⟨?_, ?_⟩
  · rw [action]
    unfold Controller.TAS.queueAction
    split
    · exact .inl rfl
    · exact .inr rfl
  · have value : Controller.TAS.afcWord switch qId port state = word := by
      unfold Controller.TAS.afcWord
      rw [wordRun]
    unfold param Request.data?
    rw [data, value]
    exact (BitVec.ofNat_toNat 32 word).trans (BitVec.setWidth_eq word)

/-- A word for a queue of a port, from what the ingress control made of one packet. -/
theorem command_cause (prepared : Prepared cfg out apps batches)
    (ports : (cfg.tas.gclToPortMapping.map (·.port)).Nodup) (placed : Placed switch cfg)
    (here : Batch macFromStr switch out apps batches app app' schedules gcls streams frame.tables)
    (there : Batch macFromStr switch out apps batches app app' schedules gcls streams d.tables)
    (mirrors : Tsn.PortMirrors frames registers)
    (sent : d.pkt = (ingressResult target registers frame).pkt) {mapping : GCLToPortMapping}
    (mapped : mapping ∈ cfg.tas.gclToPortMapping) {guarded : GateControlList}
    (found : out.findGcl mapping.gcl = some guarded) {qId : U8} {credit : U16}
    (commands : Commands switch (egressResult target egress d).pkt.egDprsrMd.advFlowCtl
      mapping.port qId credit) :
    ∃ state, credit = state.setWidth 16 ∧
      Cause frames frame mapping.port qId guarded.period.toNat guarded.timeSlices state := by
  have initial : d.egressPacket.egDprsrMd.advFlowCtl = 0 := rfl
  have header : d.egressPacket.hdr.timer = frame.pkt.hdr.timer :=
    (congrArg (fun pkt : Packet => pkt.hdr.timer) sent).trans
      (Tsn.apply_timerHeader target frame.tables frame.meter registers frame.pkt)
  unfold egressResult at commands
  rcases Decidable.em (TAS.Control d.egressPacket) with control | data
  · obtain ⟨timer, generated, zero⟩ := control
    rw [header] at generated
    cases hit : d.tables.lookup .gateControlList d.egressPacket.fields with
    | none =>
      rw [TAS.flowControl_missed hit, initial] at commands
      exact absurd commands not_commands_zero
    | some r =>
      have hits := Tables.lookup_mem hit
      obtain ⟨b, member, own⟩ := TAS.hit_batch prepared there.gclsRun there.gateControlList
        (header.trans generated) hits
      have short := batch_short prepared member
      obtain ⟨gclTime, bridged, position⟩ := Tsn.controlPacket_ingress prepared here frame.meter
        mirrors generated zero member own short
      have bridgedThere : d.egressPacket.hdr.gclTime = some gclTime :=
        (congrArg (fun pkt : Packet => pkt.hdr.gclTime) sent).trans bridged
      have small : gclTime.diffTs.toNat < 2 ^ 32 := by
        rw [position]
        exact (positionSince_le _ _ _).trans_lt short
      obtain ⟨mapping', mapped', batchId, qId', state, batch, batchKey, queue, _,
        ⟨t, slice, inside, listed⟩, decides⟩ := TAS.hit_sound prepared there.gclsRun
          there.gateControlList (header.trans generated) zero bridgedThere small hits
      obtain ⟨word, wordRun⟩ := portSlices_word there.gclsRun slice listed
      -- the word is the one built for this queue, so it commands this queue and no other
      obtain ⟨action, value⟩ := TAS.word_of_decision wordRun decides
      rw [TAS.flowControl_hit ⟨timer, header.trans generated, zero⟩ hit action, value] at commands
      obtain ⟨portSame, queueSame, credits⟩ := commands.unique placed mapped mapped'
        (commands_of_getAfcValue placed mapped' wordRun)
      have same : mapping' = mapping :=
        List.inj_on_of_nodup_map ports mapped' mapped portSame.symm
      subst same queueSame
      obtain ⟨b', found', sameBatch⟩ := prepared.batchId?_eq_some.mp batch
      obtain ⟨member', ofPort⟩ := KeyedList.mem_of_find? found'
      have sameB : b' = b := by
        refine prepared.batch_injective member' member (BitVec.eq_of_toNat_eq ?_)
        rw [sameBatch, own, batchKey]
      subst sameB
      rw [prepared.portSlices_eq ports mapped' found] at slice
      refine ⟨state, credits, ⟨timer, generated, zero, queue⟩, t, slice, listed, ?_⟩
      rw [position, ofPort, batch_period prepared ports mapped' found member ofPort] at inside
      exact inside
  · rw [TAS.flowControl_data data, initial] at commands
    exact absurd commands not_commands_zero

/-- In every run a word that commands a queue of a mapped port was caused by a control packet for
the queue, and carries a state that the GCL of the port gives the queue at the position of the port
at the arrival of that packet. -/
theorem command_sound (prepare : cfg.prepare = .ok (out, app))
    (run : tableRequests macFromStr switch out app = .ok requests)
    (ports : (cfg.tas.gclToPortMapping.map (·.port)).Nodup) (placed : Placed switch cfg)
    (steps : Transition.Run (Step target) start events s) (cleared : Tsn.Cleared start.ingress)
    (idle : start.flight = [])
    (installed : ∀ frame ∈ arrivals events, Installed requests frame.tables)
    (installedThere : ∀ d word, Event.deliver d word ∈ events → Installed requests d.tables)
    {before after : List Event} {word : BitVec 32}
    (split : events = before ++ .deliver d word :: after) {mapping : GCLToPortMapping}
    (mapped : mapping ∈ cfg.tas.gclToPortMapping) {guarded : GateControlList}
    (found : out.findGcl mapping.gcl = some guarded) {qId : U8} {credit : U16}
    (commands : Commands switch word mapping.port qId credit) :
    ∃ earlier frame later state, before = earlier ++ .arrive frame :: later ∧
      credit = state.setWidth 16 ∧ Cause (arrivals earlier) frame mapping.port qId
        guarded.period.toNat guarded.timeSlices state := by
  obtain ⟨apps, batches, prepared, _⟩ := prepare_eq_ok prepare
  obtain ⟨app', schedules, gcls, streams, entries⟩ := batchEntries prepared run
  have there := entries d.tables (installedThere d word (by rw [split]; simp))
  rw [split] at steps installed
  obtain ⟨t, left, right⟩ := Transition.Run.append_iff.mp steps
  obtain ⟨t', taken, _⟩ := Transition.Run.cons_iff.mp right
  have arrived : ∀ frame ∈ arrivals before, Installed requests frame.tables := by
    intro frame member
    refine installed frame ?_
    unfold arrivals at member ⊢
    rw [List.filterMap_append]
    exact List.mem_append_left _ member
  have tracks := run_tracks left cleared idle fun frame member =>
    (entries frame.tables (arrived frame member)).portInRange prepared
  cases taken with
  | deliver d inFlight =>
    obtain ⟨earlier, frame, later, registers, rfl, mirrors, sent⟩ := tracks.flight d.pkt inFlight
    have here := entries frame.tables (arrived frame (by simp [arrivals, Event.arrival?]))
    obtain ⟨state, credits, cause⟩ :=
      command_cause prepared ports placed here there mirrors sent mapped found commands
    exact ⟨earlier, frame, later, state, rfl, credits, cause⟩

/-- The packet is a control packet for the queue of the port, in the port's pipe and batch. -/
def ControlsQueue (out : Configuration) (frame : Tsn.Frame) (port qId : U8) : Prop :=
  ∃ timer batchId, frame.pkt.hdr.timer = some timer ∧ timer.appId = 0 ∧
    timer.pipeId.setWidth 8 = port >>> 7 ∧ out.batchId? port = some batchId ∧
    timer.batchId.toNat = batchId.toNat ∧ timer.packetId.toNat = qId.toNat

/-- After every run, a control packet for a queue of a port that arrives at a position in a slice
with a state for the queue causes a word that commands the queue, whenever it is delivered. -/
theorem command_complete (prepare : cfg.prepare = .ok (out, app))
    (run : tableRequests macFromStr switch out app = .ok requests)
    (ports : (cfg.tas.gclToPortMapping.map (·.port)).Nodup) (placed : Placed switch cfg)
    (steps : Transition.Run (Step target) start events s) (cleared : Tsn.Cleared start.ingress)
    (idle : start.flight = [])
    (installed : ∀ frame ∈ arrivals events, Installed requests frame.tables)
    (installedHere : Installed requests frame.tables) (installedThere : Installed requests d.tables)
    (sent : d.pkt = (ingressResult target s.ingress frame).pkt) {mapping : GCLToPortMapping}
    (mapped : mapping ∈ cfg.tas.gclToPortMapping) {guarded : GateControlList}
    (found : out.findGcl mapping.gcl = some guarded) {qId : U8}
    (controls : ControlsQueue out frame mapping.port qId) {t : TASTimeSlice}
    (slice : t ∈ guarded.timeSlices) (inside : t.Contains (positionSince guarded.period.toNat
      ((Tsn.portEnds mapping.port.toNat (arrivals events)).getLastD 0) frame.tstamp))
    (listed : ∃ state, t.queueStates.state? qId = some state) (egress : TAS.Registers) :
    ∃ state, Commands switch (egressResult target egress d).pkt.egDprsrMd.advFlowCtl mapping.port
        qId (state.setWidth 16) ∧
      Cause (arrivals events) frame mapping.port qId guarded.period.toNat guarded.timeSlices
        state := by
  obtain ⟨apps, batches, prepared, _⟩ := prepare_eq_ok prepare
  obtain ⟨app', schedules, gcls, streams, entries⟩ := batchEntries prepared run
  have here := entries frame.tables installedHere
  have there := entries d.tables installedThere
  have mirrors := (run_tracks steps cleared idle fun frame member =>
    (entries frame.tables (installed frame member)).portInRange prepared).ingress
  obtain ⟨timer, batchId, generated, zero, pipe, batch, batchKey, queue⟩ := controls
  obtain ⟨b, foundB, same⟩ := prepared.batchId?_eq_some.mp batch
  obtain ⟨member, ofPort⟩ := KeyedList.mem_of_find? foundB
  have short := batch_short prepared member
  have own : b.batchId.toNat = timer.batchId.toNat := by rw [same, batchKey]
  obtain ⟨gclTime, bridged, position⟩ := Tsn.controlPacket_ingress prepared here frame.meter
    mirrors generated zero member own short
  have small : gclTime.diffTs.toNat < 2 ^ 32 := by
    rw [position]
    exact (positionSince_le _ _ _).trans_lt short
  have header : d.egressPacket.hdr.timer = some timer :=
    ((congrArg (fun pkt : Packet => pkt.hdr.timer) sent).trans
      (Tsn.apply_timerHeader target frame.tables frame.meter s.ingress frame.pkt)).trans generated
  have bridgedThere : d.egressPacket.hdr.gclTime = some gclTime :=
    (congrArg (fun pkt : Packet => pkt.hdr.gclTime) sent).trans bridged
  rw [ofPort, batch_period prepared ports mapped found member ofPort] at position
  have insideHere : t.Contains gclTime.diffTs.toNat := by
    rw [position]
    exact inside
  obtain ⟨state, listed⟩ := listed
  have slices := prepared.portSlices_eq ports mapped found
  obtain ⟨r, hit⟩ := TAS.hit_complete prepared there.gclsRun there.gateControlList header zero
    bridgedThere small batch batchKey queue pipe (slices ▸ slice) insideHere listed
  -- what is hit was written for the batch and the queue of the packet
  obtain ⟨mapping', mapped', batchId', qId', state', batch', batchKey', queue', _,
    ⟨t', slice', inside', listed'⟩, decides⟩ := TAS.hit_sound prepared there.gclsRun
      there.gateControlList header zero bridgedThere small (Tables.lookup_mem hit)
  have samePort : mapping'.port = mapping.port := by
    refine prepared.port_eq_of_batchId? batch' ?_
    rw [batch, BitVec.eq_of_toNat_eq (batchKey.symm.trans batchKey')]
  have sameMapping : mapping' = mapping := List.inj_on_of_nodup_map ports mapped' mapped samePort
  have sameQueue : qId' = qId := BitVec.eq_of_toNat_eq (queue'.symm.trans queue)
  subst sameMapping sameQueue
  obtain ⟨word, wordRun⟩ := portSlices_word there.gclsRun slice' listed'
  obtain ⟨action, value⟩ := TAS.word_of_decision wordRun decides
  refine ⟨state', ?_, ⟨timer, generated, zero, queue⟩, t', slices ▸ slice', listed', ?_⟩
  · unfold egressResult
    rw [TAS.flowControl_hit ⟨timer, header, zero⟩ hit action, value]
    exact commands_of_getAfcValue placed mapped' wordRun
  · rw [position] at inside'
    exact inside'

/-! ### A run of the sample configuration -/

def scheduleRequests : List Request :=
  Fallible.output (tableRequests sampleMacFromStr .sample samplePrepared ⟨4, 0⟩)

theorem scheduleRequests_run :
    tableRequests sampleMacFromStr .sample samplePrepared ⟨4, 0⟩ = .ok scheduleRequests := by
  have returns : ∃ requests,
      tableRequests sampleMacFromStr .sample samplePrepared ⟨4, 0⟩ = .ok requests :=
    Fallible.exists_of_isOk (by decide +kernel)
  obtain ⟨requests, run⟩ := returns
  unfold scheduleRequests
  rw [run, Fallible.output_ok]

def scheduleTables : Tables where
  installed := scheduleRequests
  precedence := .first

theorem scheduleTables_installed : Installed scheduleRequests scheduleTables :=
  installed_self scheduleRequests .first

/-- A generated packet. -/
def generatedFrame (timer : Timer) (ts : BitVec 48) : Tsn.Frame where
  tables := scheduleTables
  meter := fun _ => 0
  pkt := { (default : Packet) with
    hdr := { (default : Headers) with timer := some timer }
    igIntrMd := { ingressMacTstamp := ts } }
  fresh := rfl

/-- The control packet for queue 3 of the port 133. -/
def controlFrame (ts : BitVec 48) : Tsn.Frame :=
  generatedFrame ⟨1, 0, 0, 3⟩ ts

/-- The hyperperiod packet of the port at time 100. -/
def portFrame : Tsn.Frame :=
  generatedFrame ⟨1, 3, 0, 0⟩ 100

/-- A control packet for queue 2 at time 101. -/
def otherFrame : Tsn.Frame :=
  generatedFrame ⟨1, 0, 0, 2⟩ 101

/-- The registers after these two. -/
def otherRegisters : Tsn.Registers :=
  (ingressResult .strict (ingressResult .strict Tsn.sampleRegisters portFrame).registers
    otherFrame).registers

/-- The frame reaches the egress control. -/
def delivery (registers : Tsn.Registers) (frame : Tsn.Frame) : Delivery where
  tables := scheduleTables
  pkt := (ingressResult .strict registers frame).pkt
  egIntrMd := default
  globalTstamp := 109

def otherDelivery : Delivery :=
  delivery (ingressResult .strict Tsn.sampleRegisters portFrame).registers otherFrame

def controlDelivery (ts : BitVec 48) : Delivery :=
  delivery otherRegisters (controlFrame ts)

/-- The registers of the egress control after the other control packet. -/
def otherEgress : TAS.Registers :=
  (egressResult .strict .initial otherDelivery).registers

def controlWord (ts : BitVec 48) : BitVec 32 :=
  (egressResult .strict otherEgress (controlDelivery ts)).pkt.egDprsrMd.advFlowCtl

/-- The hyperperiod packet and two control packets arrive, the first of the control packets is
delivered, and the hyperperiod packet is lost. -/
def controlEvents (ts : BitVec 48) : List Event :=
  [.arrive portFrame, .arrive otherFrame, .arrive (controlFrame ts),
    .deliver otherDelivery
      (egressResult .strict .initial otherDelivery).pkt.egDprsrMd.advFlowCtl,
    .lose (ingressResult .strict Tsn.sampleRegisters portFrame).pkt]

/-- Packets with different headers stay apart. -/
theorem generatedFrame_ne {timer timer' : Timer} (differ : timer ≠ timer')
    (registers registers' : Tsn.Registers) (ts ts' : BitVec 48) :
    (ingressResult .strict registers (generatedFrame timer ts)).pkt ≠
      (ingressResult .strict registers' (generatedFrame timer' ts')).pkt := by
  intro same
  have headers := congrArg (fun pkt : Packet => pkt.hdr.timer) same
  unfold ingressResult at headers
  rw [Tsn.apply_timerHeader, Tsn.apply_timerHeader] at headers
  exact differ (Option.some.inj headers)

/-- Three packets arrive, the second one is delivered, the first one is lost, and the third one is
delivered. -/
theorem run_interleaved (registers : Tsn.Registers) (egress : TAS.Registers)
    (p q r : Tsn.Frame) (d d' : Delivery) {first second third : Tsn.Result}
    (firstEq : ingressResult target registers p = first)
    (secondEq : ingressResult target first.registers q = second)
    (thirdEq : ingressResult target second.registers r = third)
    (sent : d.pkt = second.pkt) (sent' : d'.pkt = third.pkt) (apart : first.pkt ≠ second.pkt)
    (apart' : third.pkt ≠ second.pkt) (apart'' : third.pkt ≠ first.pkt) :
    ∃ s, Transition.Run (Step target) ⟨registers, [], egress⟩
      ([.arrive p, .arrive q, .arrive r,
          .deliver d (egressResult target egress d).pkt.egDprsrMd.advFlowCtl, .lose first.pkt] ++
        [.deliver d' (egressResult target (egressResult target egress d).registers
          d').pkt.egDprsrMd.advFlowCtl]) s := by
  subst firstEq secondEq thirdEq
  refine ⟨_, .cons (.arrive p) (.cons (.arrive q) (.cons (.arrive r) (.cons (.deliver d ?_)
    (.cons (.lose _ ?_) (.cons (.deliver d' ?_) (.nil _))))))⟩
  · rw [sent]
    exact List.mem_cons_of_mem _ List.mem_cons_self
  · dsimp only
    rw [sent, List.mem_erase_of_ne apart]
    exact List.mem_cons_of_mem _ (List.mem_cons_of_mem _ List.mem_cons_self)
  · dsimp only
    rw [sent, sent', List.mem_erase_of_ne apart'', List.mem_erase_of_ne apart']
    exact List.mem_cons_self

theorem delivery_pkt (registers : Tsn.Registers) (frame : Tsn.Frame) :
    (delivery registers frame).pkt = (ingressResult .strict registers frame).pkt := by
  unfold delivery
  dsimp only

/-- The second control packet can be delivered next. -/
theorem controlEvents_runs (ts : BitVec 48) :
    ∃ s, Transition.Run (Step .strict) ⟨Tsn.sampleRegisters, [], .initial⟩
      (controlEvents ts ++ [.deliver (controlDelivery ts) (controlWord ts)]) s := by
  have apart (registers registers' : Tsn.Registers) (ts' : BitVec 48) :
      (ingressResult .strict registers portFrame).pkt ≠
          (ingressResult .strict registers' otherFrame).pkt ∧
        (ingressResult .strict registers (controlFrame ts')).pkt ≠
          (ingressResult .strict registers' otherFrame).pkt ∧
        (ingressResult .strict registers (controlFrame ts')).pkt ≠
          (ingressResult .strict registers' portFrame).pkt := by
    unfold portFrame otherFrame controlFrame
    refine ⟨generatedFrame_ne ?_ _ _ _ _, generatedFrame_ne ?_ _ _ _ _,
      generatedFrame_ne ?_ _ _ _ _⟩
    all_goals decide
  have sent : otherDelivery.pkt = (ingressResult .strict
      (ingressResult .strict Tsn.sampleRegisters portFrame).registers otherFrame).pkt := by
    unfold otherDelivery
    exact delivery_pkt _ _
  have sent' : (controlDelivery ts).pkt =
      (ingressResult .strict otherRegisters (controlFrame ts)).pkt := by
    unfold controlDelivery
    exact delivery_pkt _ _
  have third : ingressResult .strict (ingressResult .strict
      (ingressResult .strict Tsn.sampleRegisters portFrame).registers otherFrame).registers
        (controlFrame ts) = ingressResult .strict otherRegisters (controlFrame ts) := by
    unfold otherRegisters
    rfl
  unfold controlEvents controlWord otherEgress
  exact run_interleaved Tsn.sampleRegisters .initial portFrame otherFrame (controlFrame ts)
    otherDelivery (controlDelivery ts) rfl rfl third sent sent' (apart _ _ ts).1 (apart _ _ ts).2.1
    (apart _ _ ts).2.2

/-- All packets come under the same tables. -/
theorem controlEvents_installed (ts : BitVec 48) :
    (∀ frame ∈ arrivals (controlEvents ts), Installed scheduleRequests frame.tables) ∧
      ∀ d word, Event.deliver d word ∈
        controlEvents ts ++ [.deliver (controlDelivery ts) (controlWord ts)] →
          Installed scheduleRequests d.tables := by
  refine ⟨fun frame member => ?_, fun d word member => ?_⟩
  · have all : arrivals (controlEvents ts) = [portFrame, otherFrame, controlFrame ts] := rfl
    rw [all] at member
    simp only [List.mem_cons, List.not_mem_nil, or_false] at member
    rcases member with rfl | rfl | rfl
    all_goals exact scheduleTables_installed
  · simp only [controlEvents, List.cons_append, List.nil_append, List.mem_cons, List.not_mem_nil,
      or_false, reduceCtorEq, false_or, Event.deliver.injEq] at member
    rcases member with ⟨rfl, _⟩ | ⟨rfl, _⟩
    all_goals exact scheduleTables_installed

/-- The guarded GCL of port 133. -/
def sampleSlices : List TASTimeSlice :=
  samplePrepared.portSlices 133

/-- The queues of port 133 are the queues 8 to 11 of port group 1. -/
theorem queueAddress_sample {qId : U8} {place : U8 × U8}
    (located : queueAddress .sample 133 qId = some place) :
    place.1 = 1 ∧ place.2.toNat = 8 + qId.toNat ∧ qId.toNat < 4 := by
  unfold queueAddress at located
  obtain ⟨portCfg, found, located⟩ := Option.bind_eq_some_iff.mp located
  cases found
  obtain ⟨egressQid, mapped, located⟩ := Option.bind_eq_some_iff.mp located
  obtain ⟨pgQueue, queue, located⟩ := Option.bind_eq_some_iff.mp located
  cases located
  have bound : qId.toNat < 4 := (List.getElem?_eq_some_iff.mp mapped).1
  refine ⟨rfl, ?_, bound⟩
  generalize qId.toNat = n at mapped bound ⊢
  match n with
  | 0 | 1 | 2 | 3 =>
    cases mapped
    cases queue
    rfl

theorem placed_sample : Placed .sample sample := by
  refine ⟨fun mapping mapped qId place located => ?_,
    fun mapping mapped mapping' mapped' qId qId' place located located' _ => ?_⟩
  · cases List.mem_singleton.mp mapped
    obtain ⟨group, queue, bound⟩ := queueAddress_sample located
    rw [group, queue]
    exact ⟨by decide, by omega⟩
  · cases List.mem_singleton.mp mapped
    cases List.mem_singleton.mp mapped'
    refine ⟨rfl, BitVec.eq_of_toNat_eq ?_⟩
    have queue := (queueAddress_sample located).2.1
    have queue' := (queueAddress_sample located').2.1
    omega

/-- Opening the queue 3 of port 133: the credit 0 for the queue 11 of its group. -/
theorem commands_sample : Commands .sample 2718269440 133 3 0 :=
  ⟨(1, 11), rfl, by decide, by decide, by decide, by decide, by decide, by decide⟩

theorem command_sound_sample :
    Commands .sample (controlWord 102) 133 3 0 ∧
      ∃ earlier frame later state, controlEvents 102 = earlier ++ .arrive frame :: later ∧
        (0 : U16) = state.setWidth 16 ∧
          Cause (arrivals earlier) frame 133 3 8 sampleSlices state := by
  have word : controlWord 102 = 2718269440 := by
    decide +kernel
  have commands : Commands .sample (controlWord 102) 133 3 0 := by
    rw [word]
    exact commands_sample
  obtain ⟨s, run⟩ := controlEvents_runs 102
  obtain ⟨installed, installedThere⟩ := controlEvents_installed 102
  refine ⟨commands, ?_⟩
  have arrived : ∀ frame ∈ arrivals
      (controlEvents 102 ++ [.deliver (controlDelivery 102) (controlWord 102)]),
      Installed scheduleRequests frame.tables := by
    rw [arrivals_append]
    exact List.forall_mem_append.mpr ⟨installed, List.forall_mem_nil _⟩
  have split : controlEvents 102 ++ [.deliver (controlDelivery 102) (controlWord 102)] =
      controlEvents 102 ++ .deliver (controlDelivery 102) (controlWord 102) :: [] := rfl
  exact command_sound prepare_sample scheduleRequests_run (List.nodup_singleton _) placed_sample run
    Tsn.sampleRegisters_cleared rfl arrived installedThere split List.mem_cons_self rfl commands

/-- Two packets arrive. -/
theorem run_arrivals (registers : Tsn.Registers) (egress : TAS.Registers) (p q : Tsn.Frame) :
    ∃ s, Transition.Run (Step target) ⟨registers, [], egress⟩ [.arrive p, .arrive q] s ∧
      s.ingress = (ingressResult target (ingressResult target registers p).registers q).registers :=
  ⟨_, .cons (.arrive p) (.cons (.arrive q) (.nil _)), rfl⟩

/-- The packet comes 7 ns after the hyperperiod packet, in the guard band. -/
theorem command_complete_sample :
    ∃ state, Commands .sample (controlWord 107) 133 3 (state.setWidth 16) ∧
      Cause [portFrame, otherFrame] (controlFrame 107) 133 3 8 sampleSlices state := by
  have controls : ControlsQueue samplePrepared (controlFrame 107) 133 3 :=
    ⟨⟨1, 0, 0, 3⟩, 0, rfl, rfl, rfl, rfl, rfl, rfl⟩
  have slice : (⟨6, 8, ⟨[(3, 1)], List.nodup_singleton _⟩⟩ : TASTimeSlice) ∈ sampleSlices :=
    List.mem_cons_of_mem _ List.mem_cons_self
  have last : (Tsn.portEnds 133 [portFrame, otherFrame]).getLastD 0 = 100 := by
    decide +kernel
  have inside : (⟨6, 8, ⟨[(3, 1)], List.nodup_singleton _⟩⟩ : TASTimeSlice).Contains
      (positionSince 8 ((Tsn.portEnds 133 [portFrame, otherFrame]).getLastD 0)
        (controlFrame 107).tstamp) := by
    rw [last]
    decide
  have installed : ∀ frame ∈ arrivals [.arrive portFrame, .arrive otherFrame],
      Installed scheduleRequests frame.tables :=
    List.forall_mem_cons.mpr
      ⟨scheduleTables_installed, List.forall_mem_singleton.mpr scheduleTables_installed⟩
  obtain ⟨s, run, registers⟩ :=
    @run_arrivals .strict Tsn.sampleRegisters .initial portFrame otherFrame
  have sent : (controlDelivery 107).pkt =
      (ingressResult .strict s.ingress (controlFrame 107)).pkt := by
    rw [registers]
    unfold controlDelivery otherRegisters
    exact delivery_pkt _ _
  have here : Installed scheduleRequests (controlFrame 107).tables := scheduleTables_installed
  have there : Installed scheduleRequests (controlDelivery 107).tables := scheduleTables_installed
  exact command_complete prepare_sample scheduleRequests_run (List.nodup_singleton _) placed_sample
    run Tsn.sampleRegisters_cleared rfl installed here there sent List.mem_cons_self rfl controls
    slice inside ⟨1, rfl⟩ otherEgress

end P4Tas.DataPlane
