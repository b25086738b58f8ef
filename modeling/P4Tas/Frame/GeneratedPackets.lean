import P4Tas.DataPlane.Restart
import P4Tas.Frame.Pipeline

/-!
# The packets of the packet generator

Generated packets on their way through the parsers, the pipelines and the deparsers, after a start
of the controller.  None of them leaves the switch, and a TAS control packet comes to the egress
control with the position that the ingress control found.

* `TSN.apply`: the control for generated packets, over the headers of a frame;
* `generated_contained`: no copy of a packet that arrives on one of the internal ports;
* `control_relayed`: what the egress parser finds of a control packet.
-/

namespace P4Tas.Frame

open Controller Controller.Configuration DataPlane
open DataPlane.Parser (PACKET_GEN_PORTS RECIRCULATION_PORTS)
open Header (emit)

/-! ## The control -/

/-- The headers of a generated packet, as `TSN.p4` sees them. -/
def Headers.generated (hdr : Headers) (ingressMacTstamp : BitVec 48) : Packet :=
  { (default : Packet) with
    hdr := { (default : DataPlane.Headers) with
      timer := hdr.timer.map fun h => {
        pipeId := h.pipeId
        appId := h.appId
        batchId := h.batchId
        packetId := h.packetId } }
    igIntrMd := { ingressMacTstamp } }

namespace TSN

/-- The egress port that is assigned, if the table for it is applied and hit. -/
def recirculationPort (tables : Tables) (timer : Timer) (pkt : Packet) : Option (BitVec 9) :=
  if timer.appId ≠ 0 then none
  else (tables.lookup .mappingTasControlRecirculationPort pkt.fields).map fun _ =>
    pkt.igTmMd.ucastEgressPort

/-- `TSN.p4`, with a parameter for the packets that are not generated. -/
def apply (target : Target) (tables : Tables) (meter : MeterColor → BitVec 2)
    (registers : Tsn.Registers)
    (frames : BitVec 48 → Headers → TmMetadata → Option (Headers × TmMetadata))
    (ingressMacTstamp : BitVec 48) (hdr : Headers) (igTmMd : TmMetadata) :
    Option (Headers × TmMetadata) :=
  match hdr.timer with
  | some timer =>
    let pkt := (Tsn.apply target tables meter registers (hdr.generated ingressMacTstamp)).pkt
    if pkt.igDprsrMd.dropCtl = 3 then
      none
    else
      some ({ hdr with gclTime := pkt.hdr.gclTime.map fun h => ⟨h.diffTs⟩ },
        { igTmMd with
          ucastEgressPort := (recirculationPort tables timer pkt).or igTmMd.ucastEgressPort })
  | none => frames ingressMacTstamp hdr igTmMd

end TSN

/-- A packet in the pipe goes to the recirculation port of the pipe. -/
theorem recirculation_hit {tables : Tables} {fields : Request.Fields} {pipe : BitVec 2}
    (entries : tables.entries .mappingTasControlRecirculationPort =
      Controller.TAS.configureTasControlRecirculation)
    (ofPipe : fields .timerPipeId = pipe.toNat) :
    ∃ r, tables.lookup .mappingTasControlRecirculationPort fields = some r ∧
      param r .recircPort 9 ∈ RECIRCULATION_PORTS ∧
      (param r .recircPort 9 >>> 7).toNat = pipe.toNat := by
  have mapped : ∀ pipe : BitVec 2,
      (RECIRC_PIPE_PORTS_DEV_TF2.zipIdx.find? fun a => a.2 == pipe.toNat).isSome := by
    decide
  have own : ∀ a ∈ RECIRC_PIPE_PORTS_DEV_TF2.zipIdx,
      BitVec.ofNat 9 a.1.toNat ∈ RECIRCULATION_PORTS ∧
        (BitVec.ofNat 9 a.1.toNat >>> 7).toNat = a.2 := by
    decide
  obtain ⟨a, found⟩ := Option.isSome_iff_exists.mp (mapped pipe)
  obtain ⟨member, same⟩ := KeyedList.mem_of_find? found
  have looked : tables.lookup .mappingTasControlRecirculationPort fields =
      (RECIRC_PIPE_PORTS_DEV_TF2.zipIdx.find? fun a => a.2 == fields .timerPipeId).map
        Controller.TAS.recirculationRequest :=
    Tables.lookup_map (fun a => a.2) entries (fun _ => rfl) (by decide) (by decide)
  rw [ofPipe, found, Option.map_some] at looked
  obtain ⟨recirculates, ofPort⟩ := own a member
  exact ⟨Controller.TAS.recirculationRequest a, looked, recirculates, ofPort.trans same⟩

/-! ## What the control does -/

section Control

variable {target : Target} {tables : Tables} {meter : MeterColor → BitVec 2}
  {registers : Tsn.Registers} {pkt : Packet} {timer : DataPlane.Timer}

/-- A hyperperiod packet carries nothing to the egress. -/
theorem hyperperiodPacket_kept (target : Target) (tables : Tables) (registers : Tsn.Registers)
    (pkt : Packet) :
    (Tsn.hyperperiodPacket target tables registers pkt).pkt.hdr = pkt.hdr ∧
      (Tsn.hyperperiodPacket target tables registers pkt).pkt.igDprsrMd.dropCtl =
        pkt.igDprsrMd.dropCtl := by
  unfold Tsn.hyperperiodPacket Tsn.finishGatePeriod Tsn.finishPortPeriod
  dsimp only
  split
  · split
    · exact ⟨rfl, rfl⟩
    · exact ⟨rfl, rfl⟩
  · split
    · exact ⟨rfl, rfl⟩
    · exact ⟨rfl, rfl⟩

/-- A control packet gets its position and the recirculation port of its pipe. -/
theorem finishControlPacket_eq (generated : pkt.hdr.timer = some timer)
    (entries : tables.entries .mappingTasControlRecirculationPort =
      Controller.TAS.configureTasControlRecirculation) :
    ∃ recirc, recirc ∈ RECIRCULATION_PORTS ∧ (recirc >>> 7).toNat = timer.pipeId.toNat ∧
      Tsn.finishControlPacket tables pkt = { pkt with
        hdr := { pkt.hdr with gclTime := some ⟨pkt.igMd.diffTs.setWidth 64⟩ }
        igTmMd := { pkt.igTmMd with ucastEgressPort := recirc } } ∧
      ∃ r, tables.lookup .mappingTasControlRecirculationPort
        (Tsn.finishControlPacket tables pkt).fields = some r := by
  have ofPipe (timed : Packet) (same : timed.hdr.timer = pkt.hdr.timer) :
      timed.fields .timerPipeId = timer.pipeId.toNat := by
    unfold Packet.fields
    rw [same, generated]
    rfl
  obtain ⟨r, found, recirculates, own⟩ := recirculation_hit entries (ofPipe { pkt with
    hdr := { pkt.hdr with gclTime := some ⟨pkt.igMd.diffTs.setWidth 64⟩ } } rfl)
  have finished : Tsn.finishControlPacket tables pkt = { pkt with
      hdr := { pkt.hdr with gclTime := some ⟨pkt.igMd.diffTs.setWidth 64⟩ }
      igTmMd := { pkt.igTmMd with ucastEgressPort := param r .recircPort 9 } } := by
    unfold Tsn.finishControlPacket
    dsimp only
    rw [found]
  refine ⟨param r .recircPort 9, recirculates, own, finished, r, ?_⟩
  rw [finished]
  exact found

theorem apply_control (generated : pkt.hdr.timer = some timer) (control : timer.appId = 0)
    (entries : tables.entries .mappingTasControlRecirculationPort =
      Controller.TAS.configureTasControlRecirculation) :
    ∃ result recirc, recirc ∈ RECIRCULATION_PORTS ∧
      (recirc >>> 7).toNat = timer.pipeId.toNat ∧
      (Tsn.apply target tables meter registers pkt).pkt = result ∧
      (∃ gclTime, result.hdr = { pkt.hdr with gclTime := some gclTime }) ∧
      result.igDprsrMd = pkt.igDprsrMd ∧ result.igTmMd.ucastEgressPort = recirc ∧
      ∃ r, tables.lookup .mappingTasControlRecirculationPort result.fields = some r := by
  obtain ⟨diffTs, difference, adjusted⟩ := DeltaAdjustment.apply_eq tables
    (Tsn.calcDiffTs (Tsn.readPortTs target tables registers pkt))
  have kept : (DeltaAdjustment.apply tables
      (Tsn.calcDiffTs (Tsn.readPortTs target tables registers pkt))).hdr = pkt.hdr ∧
      (DeltaAdjustment.apply tables
        (Tsn.calcDiffTs (Tsn.readPortTs target tables registers pkt))).igDprsrMd =
          pkt.igDprsrMd := by
    rw [adjusted]
    unfold Tsn.readPortTs
    dsimp only
    split
    · exact ⟨rfl, rfl⟩
    · exact ⟨rfl, rfl⟩
  unfold Tsn.apply
  rw [generated]
  dsimp only
  rw [if_neg (not_not_intro control)]
  generalize DeltaAdjustment.apply tables
    (Tsn.calcDiffTs (Tsn.readPortTs target tables registers pkt)) = position at kept
  obtain ⟨recirc, recirculates, own, finished, r, found⟩ :=
    finishControlPacket_eq (by rw [kept.1]; exact generated) entries
  refine ⟨_, recirc, recirculates, own, rfl, ?_, ?_, ?_, r, found⟩
  · rw [finished, ← kept.1]
    exact ⟨_, rfl⟩
  · rw [finished]
    exact kept.2
  · rw [finished]

end Control

/-! ## A generated packet -/

/-- A packet of the packet generator, on the wire. -/
structure GeneratedPacket where
  timer : Timer
  payload : List U8

namespace GeneratedPacket

def headers (packet : GeneratedPacket) : Headers :=
  { Headers.invalid with timer := some packet.timer }

def bytes (packet : GeneratedPacket) : List U8 :=
  emit packet.timer ++ packet.payload

/-- The port is one of the packet generator or for recirculation. -/
def Internal (port : BitVec 9) : Prop :=
  port ∈ PACKET_GEN_PORTS ∨ port ∈ RECIRCULATION_PORTS

theorem switchIngressParser_internal {port : BitVec 9} (inside : Internal port) (pkt : List U8) :
    switchIngressParser port pkt = Ingress.parsePktGen .invalid pkt :=
  if_pos inside

theorem parsed {port : BitVec 9} (packet : GeneratedPacket) (inside : Internal port) :
    switchIngressParser port packet.bytes = some (packet.headers, packet.payload) := by
  rw [switchIngressParser_internal inside]
  unfold Ingress.parsePktGen bytes
  rw [Header.extract_append]
  rfl

/-- What the parser accepts there is a generated packet. -/
theorem exists_packet {port : BitVec 9} {frame payload : List U8} {hdr : Headers}
    (inside : Internal port) (accepted : switchIngressParser port frame = some (hdr, payload)) :
    ∃ packet : GeneratedPacket, frame = packet.bytes := by
  rw [switchIngressParser_internal inside] at accepted
  obtain ⟨timer, rest, split, _⟩ := Header.bind_extract_eq_some.mp accepted
  exact ⟨⟨timer, rest⟩, split⟩

theorem deparsed (packet : GeneratedPacket) (gclTime : GclTime) :
    switchIngressDeparser { packet.headers with gclTime := some gclTime } =
      emit packet.timer ++ emit gclTime := by
  unfold switchIngressDeparser headers Headers.invalid
  simp [Header.emit?]

end GeneratedPacket

/-- What a start of the controller leaves in the tables for generated packets. -/
structure Started (tables : Tables) : Prop where
  recirculation : tables.entries .mappingTasControlRecirculationPort =
    Controller.TAS.configureTasControlRecirculation
  forwards : ∀ r ∈ tables.entries .layer2Forwarding, ∃ dstAddr,
    r.matchKeys = [(.ethernetDstAddr, .exact dstAddr)] ∧ dstAddr ≠ 0

/-- The control of the switch is that of `TSN.p4`. -/
def Switch.Runs (switch : Switch) (target : Target) (meter : MeterColor → BitVec 2)
    (registers : Tsn.Registers) : Prop :=
  ∃ frames, switch.tsn = TSN.apply target switch.tables meter registers frames

section Path

variable {switch : Switch} {target : Target} {meter : MeterColor → BitVec 2}
  {registers : Tsn.Registers} {port : BitVec 9} {packet : GeneratedPacket}

/-- A packet without an Ethernet header is not forwarded. -/
theorem Started.not_forwarded {tables : Tables} (started : Started tables) {hdr : Headers}
    (internal : hdr.ethernet = none) (igTmMd : TmMetadata) :
    Ingress.layer2Forwarding tables hdr igTmMd = igTmMd := by
  have missed : tables.lookup .layer2Forwarding hdr.fields = none := by
    rw [Tables.lookup_eq_none, List.eq_nil_iff_forall_not_mem]
    intro r hit
    obtain ⟨member, accepts⟩ := Request.mem_hits.mp hit
    obtain ⟨dstAddr, keys, nonzero⟩ := started.forwards r member
    have same : hdr.fields .ethernetDstAddr = dstAddr := by
      refine accepts (.ethernetDstAddr, .exact dstAddr) ?_ nofun
      rw [keys]
      exact List.mem_cons_self
    unfold Headers.fields at same
    rw [internal] at same
    exact nonzero same.symm
  unfold Ingress.layer2Forwarding
  rw [missed]

/-- The control, and nothing else, is applied to a generated packet. -/
theorem apply_generated (runs : switch.Runs target meter registers)
    (started : Started switch.tables) {ingressMacTstamp : BitVec 48} {pkt : Packet}
    (applied : (Tsn.apply target switch.tables meter registers
      (packet.headers.generated ingressMacTstamp)).pkt = pkt) (kept : pkt.igDprsrMd.dropCtl = 0) :
    Ingress.apply switch ingressMacTstamp packet.headers =
      some ({ packet.headers with gclTime := pkt.hdr.gclTime.map fun h => ⟨h.diffTs⟩ },
        { ucastEgressPort := TSN.recirculationPort switch.tables packet.timer pkt
          mcastGrpA := none }) := by
  obtain ⟨frames, runs⟩ := runs
  have result : switch.tsn ingressMacTstamp packet.headers
      { ucastEgressPort := none, mcastGrpA := none } =
        some ({ packet.headers with gclTime := pkt.hdr.gclTime.map fun h => ⟨h.diffTs⟩ },
          { ucastEgressPort := TSN.recirculationPort switch.tables packet.timer pkt
            mcastGrpA := none }) := by
    rw [runs]
    unfold TSN.apply
    dsimp only [GeneratedPacket.headers]
    dsimp only [GeneratedPacket.headers] at applied
    rw [applied, kept, if_neg (by decide), Option.or_none]
  unfold Ingress.apply
  dsimp only
  rw [if_neg (by exact Bool.false_ne_true), if_pos (by exact .inr (.inr rfl)), result]
  exact congrArg (fun tm => some (_, tm)) (started.not_forwarded rfl _)

theorem generated_timer (packet : GeneratedPacket) (ingressMacTstamp : BitVec 48) :
    (packet.headers.generated ingressMacTstamp).hdr.timer = some ⟨packet.timer.pipeId,
      packet.timer.appId, packet.timer.batchId, packet.timer.packetId⟩ :=
  rfl

/-- A hyperperiod packet is not dropped by the control, but it has no egress port. -/
theorem receive_hyperperiod (runs : switch.Runs target meter registers)
    (started : Started switch.tables) (inside : GeneratedPacket.Internal port)
    (hyperperiod : packet.timer.appId ≠ 0) (ingressMacTstamp : BitVec 48) :
    switch.receive port ingressMacTstamp packet.bytes =
      some (packet.bytes, { ucastEgressPort := none, mcastGrpA := none }) := by
  have applied : (Tsn.apply target switch.tables meter registers
      (packet.headers.generated ingressMacTstamp)).pkt =
        (Tsn.hyperperiodPacket target switch.tables registers
          (packet.headers.generated ingressMacTstamp)).pkt := by
    unfold Tsn.apply
    rw [generated_timer]
    dsimp only
    rw [if_pos hyperperiod]
  obtain ⟨hdr, dropCtl⟩ := hyperperiodPacket_kept target switch.tables registers
    (packet.headers.generated ingressMacTstamp)
  unfold Switch.receive
  rw [packet.parsed inside]
  dsimp only [Option.bind_eq_bind, Option.bind_some]
  rw [apply_generated runs started applied dropCtl]
  unfold TSN.recirculationPort
  rw [if_pos hyperperiod, hdr]
  rfl

/-- A control packet goes to the recirculation port of its pipe, with its position behind the timer
header. -/
theorem receive_control (runs : switch.Runs target meter registers)
    (started : Started switch.tables) (inside : GeneratedPacket.Internal port)
    (control : packet.timer.appId = 0) (ingressMacTstamp : BitVec 48) :
    ∃ recirc, recirc ∈ RECIRCULATION_PORTS ∧
      (recirc >>> 7).toNat = packet.timer.pipeId.toNat ∧
      ∃ gclTime : DataPlane.GclTime, (Tsn.apply target switch.tables meter registers
          (packet.headers.generated ingressMacTstamp)).pkt.hdr =
            { (packet.headers.generated ingressMacTstamp).hdr with gclTime := some gclTime } ∧
        switch.receive port ingressMacTstamp packet.bytes =
          some (emit packet.timer ++ (emit (⟨gclTime.diffTs⟩ : GclTime) ++ packet.payload),
            { ucastEgressPort := some recirc, mcastGrpA := none }) := by
  obtain ⟨result, recirc, recirculates, own, applied, ⟨gclTime, hdr⟩, dropCtl, port_eq, r, found⟩ :=
    apply_control (generated_timer packet ingressMacTstamp) control started.recirculation
  refine ⟨recirc, recirculates, own, gclTime, by rw [applied, hdr], ?_⟩
  unfold Switch.receive
  rw [packet.parsed inside]
  dsimp only [Option.bind_eq_bind, Option.bind_some]
  rw [apply_generated runs started applied (by rw [dropCtl]; rfl)]
  unfold TSN.recirculationPort
  rw [if_neg (not_not_intro control), found, hdr, port_eq]
  dsimp only [Option.map_some, Option.bind_some]
  rw [packet.deparsed, List.append_assoc]
  rfl

/-! ## The egress -/

/-- The egress parser finds the two headers on a recirculation port, and `TAS.p4` drops the
packet. -/
theorem egress_control {recirc : BitVec 9} (recirculates : recirc ∈ RECIRCULATION_PORTS)
    (control : packet.timer.appId = 0) (gclTime : GclTime) :
    switchEgressParser recirc (emit packet.timer ++ (emit gclTime ++ packet.payload)) =
        some ({ packet.headers with gclTime := some gclTime }, packet.payload) ∧
      switch.transmit (emit packet.timer ++ (emit gclTime ++ packet.payload)) recirc = none := by
  have parsed : switchEgressParser recirc
      (emit packet.timer ++ (emit gclTime ++ packet.payload)) =
        some ({ packet.headers with gclTime := some gclTime }, packet.payload) := by
    unfold switchEgressParser
    rw [if_pos recirculates]
    unfold Egress.parsePktGen Egress.parseGclTime
    rw [Header.extract_append]
    dsimp only [Option.bind_eq_bind, Option.bind_some]
    rw [Header.extract_append]
    rfl
  refine ⟨parsed, ?_⟩
  unfold Switch.transmit
  rw [parsed]
  dsimp only [Option.bind_eq_bind, Option.bind_some]
  unfold Egress.apply
  dsimp only
  rw [if_pos ⟨packet.timer, rfl, control⟩]
  rfl

/-- No copy of a packet on an internal port leaves the switch. -/
theorem process_internal (runs : switch.Runs target meter registers)
    (started : Started switch.tables) (inside : GeneratedPacket.Internal port)
    (ingressMacTstamp : BitVec 48) (frame : List U8) :
    switch.process port ingressMacTstamp frame = [] := by
  cases accepted : switchIngressParser port frame with
  | none =>
    unfold Switch.process Switch.receive
    rw [accepted]
    rfl
  | some parsed =>
    obtain ⟨packet, rfl⟩ := GeneratedPacket.exists_packet inside accepted
    unfold Switch.process
    rcases Decidable.em (packet.timer.appId = 0) with control | hyperperiod
    · obtain ⟨recirc, recirculates, _, gclTime, _, received⟩ :=
        receive_control runs started inside control ingressMacTstamp
      have ports : switch.ports { ucastEgressPort := some recirc, mcastGrpA := none } = [recirc] :=
        rfl
      rw [received]
      dsimp only
      rw [ports, List.filterMap_cons, (egress_control recirculates control _).2]
      rfl
    · rw [receive_hyperperiod runs started inside hyperperiod]
      rfl

end Path

/-! ## After a start -/

theorem forwards_nonzero {devPort : U32 → U32 → Option U32} {forwarding : List Request}
    (run : forwardingRequests devPort = .ok forwarding) :
    ∀ r ∈ forwarding, ∃ dstAddr, r.matchKeys = [(.ethernetDstAddr, .exact dstAddr)] ∧
      dstAddr ≠ 0 := by
  have nonzero : ∀ entry ∈ l2Forwarding, entry.ethDst ≠ 0 := by
    unfold l2Forwarding
    simp
  obtain ⟨forwards, forwardsRun, same⟩ := Fallible.bind_eq_ok.mp run
  cases same
  intro r member
  rcases List.mem_append.mp member with forward | multicast
  · obtain ⟨entry, listed, requested⟩ :=
      KeyedList.exists_related (Fallible.mapM_eq_ok.mp forwardsRun).flip forward
    obtain ⟨port, _, same⟩ := Fallible.bind_eq_ok.mp requested
    cases same
    exact ⟨entry.ethDst, rfl, nonzero entry listed⟩
  · rw [List.mem_singleton.mp multicast]
    exact ⟨_, rfl, by decide⟩

variable {macFromStr : String → Option (List U8)} {devPort : U32 → U32 → Option U32}
  {driver : Driver} {cfg : Configuration} {replies : Controller.Switch} {s s' : SwitchState}
  {precedence : Precedence} {switch : Switch} {target : Target} {meter : MeterColor → BitVec 2}
  {registers : Tsn.Registers} {port : BitVec 9}

theorem started (documented : driver.Documented)
    (restarted : Controller.run driver macFromStr replies devPort cfg s = .ok (some s'))
    (precedence : Precedence) : Started ⟨s'.installed, precedence⟩ := by
  obtain ⟨out, app, forwarding, generators, batch, afc, run⟩ := run_eq_ok documented restarted
  obtain ⟨apps, batches, prepared, _⟩ := prepare_eq_ok run.prepare
  obtain ⟨app', schedules, gcls, streams, entries⟩ := batchEntries prepared run.batchRun
  have ofBatch := tableRequests_ofTables prepared run.batchRun
  rw [run.state]
  refine ⟨(entries _ (broughtUp_batch run.forwardingRun generators afc s precedence)).recirculation,
    ?_⟩
  rw [broughtUp_forwarding run.forwardingRun ofBatch generators afc s precedence]
  exact forwards_nonzero run.forwardingRun

/-- **No generated packet leaves the switch.**  After any successful start of the controller, and
for any contents of the registers, no packet that arrives on a port of the packet generator or on a
recirculation port is handed to an egress port. -/
theorem generated_contained (documented : driver.Documented)
    (restarted : Controller.run driver macFromStr replies devPort cfg s = .ok (some s'))
    (tables : switch.tables = ⟨s'.installed, precedence⟩)
    (runs : switch.Runs target meter registers) (inside : GeneratedPacket.Internal port)
    (ingressMacTstamp : BitVec 48) (frame : List U8) :
    switch.process port ingressMacTstamp frame = [] :=
  process_internal runs (tables ▸ started documented restarted precedence) inside ingressMacTstamp
    frame

/-- **A control packet comes to the egress control.**  It is handed to the recirculation port of the
pipe in its header, and the egress parser finds there what the ingress control left: the timer
header as it was generated, and the position. -/
theorem control_relayed (documented : driver.Documented)
    (restarted : Controller.run driver macFromStr replies devPort cfg s = .ok (some s'))
    (tables : switch.tables = ⟨s'.installed, precedence⟩)
    (runs : switch.Runs target meter registers) (inside : GeneratedPacket.Internal port)
    {packet : GeneratedPacket} (control : packet.timer.appId = 0) (ingressMacTstamp : BitVec 48)
    (egIntrMd : EgressIntrinsicMetadata) (globalTstamp : BitVec 48) :
    ∃ (recirc : BitVec 9) (bytes : List U8) (hdr : Headers),
      (recirc >>> 7).toNat = packet.timer.pipeId.toNat ∧
      switch.receive port ingressMacTstamp packet.bytes =
        some (bytes, { ucastEgressPort := some recirc, mcastGrpA := none }) ∧
      switchEgressParser recirc bytes = some (hdr, packet.payload) ∧
      hdr.tas = (TAS.egressPacket (Tsn.apply target switch.tables meter registers
        (packet.headers.generated ingressMacTstamp)).pkt egIntrMd globalTstamp).hdr := by
  obtain ⟨recirc, recirculates, own, gclTime, result, received⟩ := receive_control runs
    (tables ▸ started documented restarted precedence) inside control ingressMacTstamp
  refine ⟨recirc, _, _, own, received,
    (@egress_control switch packet recirc recirculates control ⟨gclTime.diffTs⟩).1, ?_⟩
  unfold TAS.egressPacket
  dsimp only
  rw [result]
  rfl

/-! ### The sample configuration -/

/-- The switch after the restart. -/
def restartedSwitch (s' : SwitchState) : Switch where
  tables := ⟨s'.installed, .first⟩
  groups := fun _ => [8, 4]
  tsn := TSN.apply .strict ⟨s'.installed, .first⟩ (fun _ => 0) s'.ingress fun _ _ _ => none

/-- The control packet for the queue 3, generated in pipe 1. -/
def sampleControl : GeneratedPacket where
  timer := { pad1 := 0, pipeId := 1, appId := 0, pad2 := 0, batchId := 0, packetId := 3 }
  payload := [0, 0]

theorem generated_contained_sample : ∃ s' : SwitchState,
    (restartedSwitch s').process 134 5 sampleControl.bytes = [] := by
  obtain ⟨s', restarted⟩ := restart_returns usedSwitch
  exact ⟨s', generated_contained directDriver_documented restarted rfl ⟨_, rfl⟩
    (.inl (by decide)) 5 sampleControl.bytes⟩

theorem control_relayed_sample : ∃ (s' : SwitchState) (recirc : BitVec 9) (bytes : List U8)
    (hdr : Headers), (recirc >>> 7).toNat = 1 ∧
      (restartedSwitch s').receive 134 5 sampleControl.bytes =
        some (bytes, { ucastEgressPort := some recirc, mcastGrpA := none }) ∧
      switchEgressParser recirc bytes = some (hdr, [0, 0]) ∧ hdr.tas.timer = some ⟨1, 0, 0, 3⟩ := by
  obtain ⟨s', restarted⟩ := restart_returns usedSwitch
  have control : sampleControl.timer.appId = 0 := rfl
  have inside : GeneratedPacket.Internal 134 := .inl (by decide)
  have runs : (restartedSwitch s').Runs .strict (fun _ => 0) s'.ingress := ⟨_, rfl⟩
  obtain ⟨recirc, bytes, hdr, own, received, parsed, same⟩ :=
    control_relayed directDriver_documented restarted rfl runs inside control 5 default 9
  refine ⟨s', recirc, bytes, hdr, own, received, parsed, ?_⟩
  rw [same]
  unfold TAS.egressPacket
  dsimp only
  rw [Tsn.apply_timerHeader]
  rfl

end P4Tas.Frame
