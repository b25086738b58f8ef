import P4Tas.Frame.TaggedFrames

/-!
# Streams through the switch

Runs of the switch over the bytes of the packets that arrive, from a start of the controller on, and
the configuration the controller was started with.

* `Arrival`, `Arrives`: a packet arrives, and its copies leave;
* `arrivals_project`: the packets that come to `TSN.p4` make a run of that control;
* `identified_headers`: what a stream asks to be written;
* `Sends`: a copy as the configuration has it;
* `copies_in_schedule`: every copy of a tagged frame is one.
-/

namespace P4Tas.Frame

open Controller Controller.Configuration Controller.StreamGateControlList DataPlane
open DataPlane.Parser (RECIRCULATION_PORTS)

/-! ## Arrivals -/

/-- A packet that arrives, with the answers of the meter, and what the headers hold that are not
valid. -/
structure Arrival where
  port : BitVec 9
  ingressMacTstamp : BitVec 48
  bytes : List U8
  meter : MeterColor → BitVec 2
  unspecified : DataPlane.Headers

namespace Arrival

/-- A frame with these headers in the control. -/
def received (a : Arrival) (tables : Tables) (hdr : Headers) : Tsn.Frame where
  tables
  meter := a.meter
  pkt := hdr.received a.unspecified a.ingressMacTstamp
  fresh := rfl

/-- The packet as it comes to `TSN.p4`. -/
def tsnFrame (tables : Tables) (a : Arrival) : Option Tsn.Frame := do
  let (hdr, _) ← switchIngressParser a.port a.bytes
  if hdr.ptp1.isSome then
    none
  else
    match hdr.timer with
    | some _ => some ⟨tables, a.meter, hdr.generated a.ingressMacTstamp, rfl⟩
    | none =>
      if hdr.mpls ≠ [] ∨ hdr.eth8021q.isSome then some (a.received tables hdr) else none

/-- The switch as the packet finds it. -/
def switch (a : Arrival) (target : Target) (tables : Tables)
    (groups : BitVec 16 → List (BitVec 9)) (registers : Tsn.Registers) : Switch where
  tables
  groups
  tsn := TSN.apply target tables a.meter registers
    (TSN.frames target tables a.meter registers a.unspecified)

/-- The registers after the packet. -/
def after (a : Arrival) (target : Target) (tables : Tables) (registers : Tsn.Registers) :
    Tsn.Registers :=
  match a.tsnFrame tables with
  | some frame => (Tsn.apply target frame.tables frame.meter registers frame.pkt).registers
  | none => registers

end Arrival

/-- A packet arrives, and its copies leave. -/
def Arrives (target : Target) (tables : Tables) (groups : BitVec 16 → List (BitVec 9))
    (registers : Tsn.Registers) (event : Arrival × List Copy) (registers' : Tsn.Registers) : Prop :=
  event.2 = (event.1.switch target tables groups registers).process event.1.port
      event.1.ingressMacTstamp event.1.bytes ∧
    registers' = event.1.after target tables registers

section Arrivals

variable {target : Target} {tables : Tables} {groups : BitVec 16 → List (BitVec 9)}
  {registers registers' : Tsn.Registers} {events : List (Arrival × List Copy)} {a : Arrival}

theorem tsnFrame_fresh {frame : Tsn.Frame} (comes : a.tsnFrame tables = some frame) :
    frame.tables = tables ∧ frame.pkt.igTmMd.packetColor = 0 := by
  unfold Arrival.tsnFrame at comes
  obtain ⟨⟨hdr, payload⟩, _, comes⟩ := Option.bind_eq_some_iff.mp comes
  dsimp only at comes
  split at comes
  · cases comes
  · split at comes
    · cases comes
      exact ⟨rfl, rfl⟩
    · split at comes
      · cases comes
        exact ⟨rfl, rfl⟩
      · cases comes

/-- The packets that come to the control make a run of it. -/
theorem arrivals_project
    (run : Transition.Run (Arrives target tables groups) registers events registers') :
    ∃ frames, Transition.Run (Tsn.step target) registers frames registers' ∧
      frames.map Prod.fst = events.filterMap fun event => event.1.tsnFrame tables := by
  refine run.projected fun r event r' arrives => ?_
  obtain ⟨_, left⟩ := arrives
  unfold Arrival.after at left
  cases comes : event.1.tsnFrame tables with
  | some frame =>
    rw [comes] at left
    exact .inl ⟨(frame, Tsn.apply target frame.tables frame.meter r frame.pkt), rfl, rfl,
      left.symm⟩
  | none =>
    rw [comes] at left
    exact .inr ⟨rfl, left.symm⟩

theorem switch_polices (a : Arrival) : (a.switch target tables groups registers).Polices target
    a.meter registers a.unspecified := by
  intro ingressMacTstamp hdr igTmMd noTimer
  unfold Arrival.switch TSN.apply
  dsimp only
  rw [noTimer]

end Arrivals

/-! ## What a stream asks for -/

/-- The destination address and the priority that the frames of a stream get. -/
def overwriting (macFromStr : String → Option (List U8)) (stream : Stream) :
    Option (BitVec 48 × BitVec 3) := do
  let newMac ← stream.overwriteMac
  let newPcp ← stream.overwritePcp
  let mac ← macFromStr newMac
  return (BitVec.ofNat 48 (bytesValue mac), newPcp.setWidth 3)

/-- The frame as the stream has it, with its color. -/
def TaggedFrame.ofStream (macFromStr : String → Option (List U8)) (stream : Stream)
    (packetColor : BitVec 2) (f : TaggedFrame) : TaggedFrame :=
  f.rewrite (((overwriting macFromStr stream).map Prod.fst).getD f.ethernet.dstAddr)
    (((overwriting macFromStr stream).map Prod.snd).getD f.tag.pcp) (FlowMeter.dei packetColor)

/-- The stream names the destination address and the VLAN of the frame. -/
def NamedBy (macFromStr : String → Option (List U8)) (stream : Stream) (f : TaggedFrame) : Prop :=
  (∃ ethDst, macFromStr stream.ethDst = some ethDst ∧
    f.ethernet.dstAddr.toNat = bytesValue ethDst) ∧ f.tag.vid.toNat = stream.vid.toNat

section Streams

variable {macFromStr : String → Option (List U8)} {cfg : Configuration} {stream : Stream}
  {tables : Tables} {pkt : Packet} {r : Request}

/-- The action of a stream that overwrites, and the data it reads; the other action reads none. -/
theorem request_overwriting (run : cfg.streamIdRequest macFromStr stream = .ok r) :
    (overwriting macFromStr stream = none ∧ r.action = .assignStreamHandle) ∨
      r.action = .assignStreamHandleOverwriteMacAndPcp ∧
        overwriting macFromStr stream = some (param r .ethDstAddr 48, param r .pcp 3) := by
  obtain ⟨schedule, _, run⟩ := Fallible.bind_eq_ok.mp run
  obtain ⟨ethDst, _, run⟩ := Fallible.bind_eq_ok.mp run
  obtain ⟨⟨action, streamData⟩, actionRun, run⟩ := Fallible.bind_eq_ok.mp run
  cases run
  unfold streamIdAction at actionRun
  unfold overwriting
  cases overwrite : stream.overwriteMac with
  | none =>
    rw [overwrite] at actionRun
    cases actionRun
    exact .inl ⟨rfl, rfl⟩
  | some newMac =>
    rw [overwrite] at actionRun
    obtain ⟨newPcp, pcp, actionRun⟩ := Fallible.bind_eq_ok.mp actionRun
    obtain ⟨mac, parsed, actionRun⟩ := Fallible.bind_eq_ok.mp actionRun
    cases actionRun
    rw [unwrap_eq_ok.mp pcp]
    dsimp only [Option.bind_eq_bind, Option.bind_some]
    rw [unwrap_eq_ok.mp parsed]
    refine .inr ⟨rfl, congrArg some (Prod.ext rfl ?_)⟩
    exact BitVec.eq_of_toNat_eq (by simp [param, Request.data?])

/-- The headers of a frame that hits the entry of a stream. -/
theorem identified_headers (run : cfg.streamIdRequest macFromStr stream = .ok r)
    (hit : tables.lookup .streamId pkt.fields = some r) :
    (StreamIdentification.apply tables pkt).hdr = { pkt.hdr with
      ethernet := { dstAddr :=
        ((overwriting macFromStr stream).map Prod.fst).getD pkt.hdr.ethernet.dstAddr }
      eth8021q := { pkt.hdr.eth8021q with pcp :=
        ((overwriting macFromStr stream).map Prod.snd).getD pkt.hdr.eth8021q.pcp } } := by
  unfold StreamIdentification.apply
  rw [hit]
  dsimp only
  rcases request_overwriting run with ⟨none, action⟩ | ⟨action, overwrites⟩
  · rw [action, none]
    rfl
  · rw [action, overwrites]
    rfl

/-- A frame that hits the entry has the address and the VLAN of the stream. -/
theorem named_of_hit {f : TaggedFrame} {hdr : Headers} {payload : List U8}
    {unspecified : DataPlane.Headers} {ingressMacTstamp : BitVec 48}
    (run : cfg.streamIdRequest macFromStr stream = .ok r)
    (accepted : f.parsed = some (hdr, payload))
    (accepts : r.Matches (hdr.received unspecified ingressMacTstamp).fields) :
    NamedBy macFromStr stream f := by
  obtain ⟨_, ⟨ethDst, parsed, keys⟩, _⟩ := streamIdRequest_isStreamEntry run
  obtain ⟨transport, rfl⟩ := TaggedFrame.parsed_headers accepted
  have dst := accepts (.ethernetDstAddr, .exact (bytesValue ethDst))
    (by rw [keys]; simp) nofun
  have vid := accepts (.eth8021qVid, .exact stream.vid.toNat) (by rw [keys]; simp) nofun
  exact ⟨⟨ethDst, parsed, dst⟩, vid⟩

/-- The copy is as the stream has it. -/
theorem policed_ofStream {f : TaggedFrame} {hdr : Headers} {payload : List U8}
    {unspecified : DataPlane.Headers} {ingressMacTstamp : BitVec 48}
    (run : cfg.streamIdRequest macFromStr stream = .ok r)
    (accepted : f.parsed = some (hdr, payload))
    (hit : tables.lookup .streamId (hdr.received unspecified ingressMacTstamp).fields = some r)
    (packetColor : BitVec 2) :
    f.policed (StreamIdentification.apply tables
      (hdr.received unspecified ingressMacTstamp)).hdr packetColor =
        f.ofStream macFromStr stream packetColor := by
  rw [identified_headers run hit]
  obtain ⟨transport, rfl⟩ := TaggedFrame.parsed_headers accepted
  rfl

end Streams

/-! ## The copies -/

/-- The ids and the periods of the configuration are as the registers and the tables need them:
they fit, no gate shares its schedule or has the id that frames without a stream have. -/
structure Policed (cfg : Configuration) : Prop where
  fits : Fits cfg
  sole : ∀ gate ∈ cfg.psfp.streamGates, SoleUser cfg gate
  short : ∀ schedule ∈ cfg.psfp.streamGateSchedules, schedule.period.toNat < 2 ^ 32
  nonzero : ∀ gate ∈ cfg.psfp.streamGates, gate.streamGateId.toNat ≠ 0

/-- The copy is of a frame that a stream names, which arrived in an open interval of the schedule of
its gate, since the last hyperperiod packet of the gate, and it is as the stream has it. -/
structure Sends (macFromStr : String → Option (List U8)) (cfg : Configuration) (tables : Tables)
    (groups : BitVec 16 → List (BitVec 9)) (earlier : List Tsn.Frame) (ingressMacTstamp : BitVec 48)
    (f : TaggedFrame) (copy : Copy) (stream : Stream) : Prop where
  configured : stream ∈ cfg.psfp.streams
  named : NamedBy macFromStr stream f
  inTime : ∃ schedule, cfg.findSchedule (cfg.streamGate stream).schedule = some schedule ∧
    SomeOpen schedule.intervals (positionSince schedule.period.toNat
      ((Tsn.gateEnds (cfg.streamGate stream).streamGateId.toNat earlier).getLastD 0)
      ingressMacTstamp)
  copied : ∃ packetColor, copy ∈ (f.ofStream macFromStr stream packetColor).copies tables groups

section Copies

variable {macFromStr : String → Option (List U8)} {devPort : U32 → U32 → Option U32}
  {driver : Driver} {cfg out : Configuration} {replies : Controller.Switch} {s s' : SwitchState}
  {apps : List AppIDMapping} {batches : List BatchIDMapping} {app app' : AppState}
  {schedules gcls streams : List Request} {precedence : Precedence} {target : Target}
  {tables : Tables} {groups : BitVec 16 → List (BitVec 9)} {registers last : Tsn.Registers}
  {earlier later : List (Arrival × List Copy)} {event : Arrival × List Copy}

/-- The control's part of a run of arrivals, under the tables of a batch. -/
theorem arrivals_frames
    (batch : Batch macFromStr replies out apps batches app app' schedules gcls streams tables)
    (run : Transition.Run (Arrives target tables groups) registers earlier last) :
    ∃ frames, Transition.Run (Tsn.step target) registers frames last ∧
      frames.map Prod.fst = (earlier.filterMap fun e => e.1.tsnFrame tables) ∧
      ∀ e ∈ frames, e.1.pkt.igTmMd.packetColor = 0 ∧
        Batch macFromStr replies out apps batches app app' schedules gcls streams e.1.tables := by
  obtain ⟨frames, steps, same⟩ := arrivals_project run
  refine ⟨frames, steps, same, fun e member => ?_⟩
  have mapped : e.1 ∈ earlier.filterMap fun e => e.1.tsnFrame tables := by
    rw [← same]
    exact List.mem_map_of_mem member
  obtain ⟨event, _, comes⟩ := List.mem_filterMap.mp mapped
  obtain ⟨ofTables, green⟩ := tsnFrame_fresh comes
  rw [ofTables]
  exact ⟨green, batch⟩

/-- The registers hold the last hyperperiod packets that arrived. -/
theorem arrivals_mirrors (prepared : Prepared cfg out apps batches) (fits : Fits cfg)
    (batch : Batch macFromStr replies out apps batches app app' schedules gcls streams tables)
    (cleared : Tsn.Cleared registers)
    (run : Transition.Run (Arrives target tables groups) registers earlier last) :
    Tsn.GateMirrors (earlier.filterMap fun e => e.1.tsnFrame tables) last := by
  obtain ⟨frames, steps, same, each⟩ := arrivals_frames batch run
  rw [← same]
  exact Tsn.run_keeps steps cleared.gateMirrors fun e member _ _ mirrors =>
    Tsn.gateMirrors_step mirrors ((each e member).2.gateInRange prepared fits)

/-- The stream of a frame that passes. -/
theorem stream_of_passed (prepared : Prepared cfg out apps batches) (policed : Policed cfg)
    {frame : Tsn.Frame} (batch : Batch macFromStr replies out apps batches app app' schedules gcls
      streams frame.tables) {before : List Tsn.Frame} (noTimer : frame.pkt.hdr.timer = none)
    (opens : frame.Opens before) :
    ∃ stream r, stream ∈ cfg.psfp.streams ∧ out.streamIdRequest macFromStr stream = .ok r ∧
      frame.tables.lookup .streamId frame.pkt.fields = some r ∧
      ∃ schedule, cfg.findSchedule (cfg.streamGate stream).schedule = some schedule ∧
        SomeOpen schedule.intervals
          (gatePosition (cfg.streamGate stream) schedule before frame) := by
  obtain ⟨gate, listed, own⟩ := batch.gate_of_opens prepared opens
  cases hit : frame.tables.lookup .streamId frame.pkt.fields with
  | none =>
    -- the id of the gate is then the initial one
    have unidentified : frame.identified = frame.pkt := by
      unfold Tsn.Frame.identified StreamIdentification.apply
      rw [hit]
    unfold Tsn.Frame.gateId at own
    rw [unidentified, frame.fresh] at own
    exact absurd own (policed.nonzero gate listed)
  | some r =>
    obtain ⟨stream, member, requested⟩ := batch.requested_of_entry prepared
      (List.mem_of_mem_filter (Tables.lookup_mem hit))
    obtain ⟨ofGates, gateId, _, _, _, schedule, found, _⟩ :=
      Batch.requested_data prepared policed.fits member requested
    have ofGate : OfGate (cfg.streamGate stream) frame := by
      refine ⟨r, ?_, gateId⟩
      unfold Tsn.Frame.stream?
      rw [noTimer]
      exact hit
    exact ⟨stream, r, member, requested, rfl, schedule, found,
      someOpen_of_opens prepared policed.fits batch (policed.sole _ ofGates) found
        (policed.short _ (KeyedList.mem_of_find? found).1) ofGate opens⟩

/-- **What leaves of the tagged traffic.**  In every run of the switch from a start of the
controller on, with a `Policed` configuration and whatever the registers blocked before, every copy
of a tagged frame on an ordinary port is of a frame that a configured stream names, that arrived in
an open interval of the schedule of its gate, and the copy is the frame with the address and the
priority of the stream, on a port of this address. -/
theorem copies_in_schedule (documented : driver.Documented)
    (restarted : Controller.run driver macFromStr replies devPort cfg s = .ok (some s'))
    (policed : Policed cfg)
    (run : Transition.Run (Arrives target ⟨s'.installed, precedence⟩ groups) s'.ingress
      (earlier ++ event :: later) last)
    (ordinary : Ordinary event.1.port) {f : TaggedFrame} (tagged : event.1.bytes = f.bytes)
    {copy : Copy} (sent : copy ∈ event.2) (ordinary' : copy.egressPort ∉ RECIRCULATION_PORTS) :
    ∃ stream, Sends macFromStr cfg ⟨s'.installed, precedence⟩ groups
      (earlier.filterMap fun e => e.1.tsnFrame ⟨s'.installed, precedence⟩)
      event.1.ingressMacTstamp f copy stream := by
  obtain ⟨out, apps, batches, app, app', schedules, gcls, streams, prepared, _, batch, cleared,
    _⟩ := started_batch documented restarted precedence
  -- the step of the frame
  obtain ⟨registers, before, rest⟩ := Transition.Run.append_iff.mp run
  obtain ⟨registers', taken, _⟩ := Transition.Run.cons_iff.mp rest
  rw [taken.1, tagged] at sent
  obtain ⟨hdr, payload, identified, accepted, written, passed, packetColor, copied⟩ :=
    copy_of_tagged (switch_polices event.1) ordinary sent ordinary'
  -- its fate
  have mirrors := arrivals_mirrors prepared policed.fits batch cleared before
  have opens : (event.1.received ⟨s'.installed, precedence⟩ hdr).Opens _ :=
    Tsn.opens_of_passed mirrors (batch.plain prepared policed.fits rfl) rfl passed
  obtain ⟨stream, r, member, requested, hit, inTime⟩ :=
    stream_of_passed prepared policed batch rfl opens
  obtain ⟨_, accepts⟩ := Request.mem_hits.mp (Tables.lookup_mem hit)
  refine ⟨stream, member, named_of_hit requested accepted accepts, inTime, packetColor, ?_⟩
  rw [← policed_ofStream requested accepted hit packetColor]
  exact written ▸ copied

/-- A frame at a position with all intervals open passes, if the earlier frames of a gate that
closes came at such positions. -/
theorem passed_of_allOpen (prepared : Prepared cfg out apps batches) (policed : Policed cfg)
    (batch : Batch macFromStr replies out apps batches app app' schedules gcls streams tables)
    (fresh : Tsn.Fresh registers)
    (run : Transition.Run (Arrives target tables groups) registers earlier last)
    {before : List Tsn.Frame}
    (arrived : (earlier.filterMap fun e => e.1.tsnFrame tables) = before) {frame : Tsn.Frame}
    (ofTables : frame.tables = tables) (green : frame.pkt.igTmMd.packetColor = 0)
    {gate : Controller.StreamGate} {schedule : Controller.StreamGateControlList}
    (listed : gate ∈ cfg.psfp.streamGates) (found : cfg.findSchedule gate.schedule = some schedule)
    (ofGate : OfGate gate frame)
    (allOpen : AllOpen schedule.intervals (gatePosition gate schedule before frame))
    (history : gate.gateClosedDueToInvalidRxEnable = true → ∀ first f between,
      before = first ++ f :: between → OfGate gate f →
        AllOpen schedule.intervals (gatePosition gate schedule first f))
    (meter : frame.PassesMeter before) :
    ¬ (Tsn.apply target frame.tables frame.meter last frame.pkt).Dropped := by
  subst arrived
  subst ofTables
  obtain ⟨frames, steps, same, each⟩ := arrivals_frames batch run
  have all (f : Tsn.Frame)
      (member : f ∈ (earlier.filterMap fun e => e.1.tsnFrame frame.tables) ++ [frame]) :
      Batch macFromStr replies out apps batches app app' schedules gcls streams f.tables := by
    rcases List.mem_append.mp member with old | new
    · rw [← same] at old
      obtain ⟨e, listed, rfl⟩ := List.mem_map.mp old
      exact (each e listed).2
    · rw [List.mem_singleton.mp new]
      exact batch
  have records := Tsn.run_records steps fresh fun e member =>
    ⟨(each e member).2.plain prepared policed.fits (each e member).1,
      (each e member).2.gateInRange prepared policed.fits⟩
  rw [same] at records
  have sole := policed.sole gate listed
  obtain ⟨noTimer, _⟩ := Batch.ofGate_metadata prepared policed.fits batch sole found ofGate
  have verdict := @Tsn.apply_verdict target last _ frame records
    (batch.plain prepared policed.fits green) noTimer
  rw [verdict.dropped_iff, not_not]
  exact ⟨passesGate_of_allOpen prepared policed.fits all sole found
    (policed.short schedule (KeyedList.mem_of_find? found).1) ofGate allOpen history, meter⟩

/-- **What of the tagged traffic leaves.**  In every run from a start of the controller on, with a
`Policed` configuration, that finds the blocking registers clear, a tagged frame of a gate that the
parser accepts, at a position where all intervals of the gate's schedule are open, is sent to every
port of the address it gets, if its meter lets it pass, and all earlier frames of a gate that closes
came at such positions.  Nothing is forwarded to a recirculation port. -/
theorem in_schedule_copied (documented : driver.Documented)
    (restarted : Controller.run driver macFromStr replies devPort cfg s = .ok (some s'))
    (policed : Policed cfg) (gatesClear : ∀ c, s.ingress.streamGate.regGateBlocked c = 0)
    (metersClear : ∀ c, s.ingress.regMeterBlocked c = 0)
    (run : Transition.Run (Arrives target ⟨s'.installed, precedence⟩ groups) s'.ingress
      (earlier ++ event :: later) last)
    (ordinary : Ordinary event.1.port) {f : TaggedFrame} (tagged : event.1.bytes = f.bytes)
    {hdr : Headers} {payload : List U8} (accepted : f.parsed = some (hdr, payload))
    {gate : Controller.StreamGate} {schedule : Controller.StreamGateControlList}
    (listed : gate ∈ cfg.psfp.streamGates) (found : cfg.findSchedule gate.schedule = some schedule)
    {before : List Tsn.Frame}
    (arrived : (earlier.filterMap fun e => e.1.tsnFrame ⟨s'.installed, precedence⟩) = before)
    {frame : Tsn.Frame} (entering : event.1.received ⟨s'.installed, precedence⟩ hdr = frame)
    (ofGate : OfGate gate frame)
    (allOpen : AllOpen schedule.intervals (gatePosition gate schedule before frame))
    (history : gate.gateClosedDueToInvalidRxEnable = true → ∀ first g between,
      before = first ++ g :: between → OfGate gate g →
        AllOpen schedule.intervals (gatePosition gate schedule first g))
    (meter : frame.PassesMeter before)
    (ordinary' : ∀ dstAddr, ∀ egressPort ∈ forwards ⟨s'.installed, precedence⟩ groups dstAddr,
      egressPort ∉ RECIRCULATION_PORTS) :
    ∃ stream ∈ cfg.psfp.streams, NamedBy macFromStr stream f ∧ cfg.streamGate stream = gate ∧
      ∃ packetColor, event.2 =
        (f.ofStream macFromStr stream packetColor).copies ⟨s'.installed, precedence⟩ groups := by
  subst entering
  obtain ⟨out, apps, batches, app, app', schedules, gcls, streams, prepared, _, batch, cleared,
    gates, meters⟩ := started_batch documented restarted precedence
  obtain ⟨registers, first, rest⟩ := Transition.Run.append_iff.mp run
  obtain ⟨registers', taken, _⟩ := Transition.Run.cons_iff.mp rest
  have fresh : Tsn.Fresh s'.ingress :=
    ⟨cleared, by rw [gates]; exact gatesClear, by rw [meters]; exact metersClear⟩
  have passed := passed_of_allOpen prepared policed batch fresh first arrived
    (by exact rfl : (event.1.received ⟨s'.installed, precedence⟩ hdr).tables = _) rfl listed found
    ofGate allOpen history meter
  -- its stream
  obtain ⟨r, identified, own⟩ := ofGate
  obtain ⟨_, hit⟩ := Batch.noTimer_of_stream? identified
  obtain ⟨stream, member, requested⟩ :=
    batch.requested_of_entry prepared (List.mem_of_mem_filter (Tables.lookup_mem hit))
  obtain ⟨ofGates, gateId, _⟩ := Batch.requested_data prepared policed.fits member requested
  have sameGate : cfg.streamGate stream = gate :=
    (policed.sole gate listed).byId _ ofGates (BitVec.eq_of_toNat_eq (gateId.symm.trans own))
  obtain ⟨_, accepts⟩ := Request.mem_hits.mp (Tables.lookup_mem hit)
  -- its copies
  have sent := process_passed (switch_polices event.1) ordinary accepted rfl rfl (ordinary' _)
    passed
  obtain ⟨packetColor, color⟩ : ∃ packetColor, (Tsn.apply target ⟨s'.installed, precedence⟩
      event.1.meter registers (hdr.received event.1.unspecified
        event.1.ingressMacTstamp)).pkt.igTmMd.packetColor = packetColor :=
    ⟨_, rfl⟩
  have written := policed_ofStream requested accepted hit packetColor
  refine ⟨stream, member, named_of_hit requested accepted accepts, sameGate, packetColor, ?_⟩
  rw [taken.1, tagged, ← written, ← color]
  exact sent

end Copies

/-! ## A stream that is overwritten -/

/-- The frames of the stream are sent to a port of the forwarding rules. -/
def rewritingStream : Stream :=
  { vid := 50, streamHandle := 1, ethDst := "00:00:00:00:00:32", overwritePcp := some 6,
    overwriteMac := some "81:E7:9D:E3:AD:40", ipv4Src := some 0x0A000001, ipv4Dst := none }

def rewritingSample : Configuration :=
  { closingSample with psfp := { closingSample.psfp with streams := [rewritingStream] } }

def rewritingPrepared : Configuration :=
  { closingPrepared with psfp := { closingPrepared.psfp with streams := [rewritingStream] } }

theorem prepare_rewritingSample : rewritingSample.prepare = .ok (rewritingPrepared, ⟨3, 0⟩) :=
  rfl

def rewritingMacFromStr : String → Option (List U8)
  | "00:00:00:00:00:32" => some [0, 0, 0, 0, 0, 0x32]
  | "81:E7:9D:E3:AD:40" => some [0x81, 0xE7, 0x9D, 0xE3, 0xAD, 0x40]
  | _ => none

theorem rewritingSample_policed : Policed rewritingSample where
  fits := {
    resolved := by
      intro s member
      cases List.mem_singleton.mp member
      exact ⟨_, List.mem_cons_self, rfl⟩
    gateIds := by decide
    meterIds := by decide
    octets := by decide }
  sole := by
    intro gate member
    rw [List.mem_singleton.mp member]
    exact {
      member := List.mem_singleton_self _
      byId := fun _ member _ => List.mem_singleton.mp member
      bySchedule := fun _ member _ => List.mem_singleton.mp member }
  short := by decide
  nonzero := by decide

def rewritingForwarding : List Request :=
  Fallible.output (forwardingRequests fun port _ => some port)

def rewritingRequests : List Request :=
  Fallible.output (tableRequests rewritingMacFromStr eightQueues rewritingPrepared ⟨3, 0⟩)

/-- The switch after a start with the configuration. -/
def rewritingSwitch : SwitchState :=
  broughtUp rewritingForwarding
    (Fallible.output (PacketGenerator.activateTrafficGenApplications rewritingPrepared))
    rewritingRequests (Fallible.output (Controller.TAS.configureAfcPorts eightQueues
      rewritingPrepared)) usedSwitch

theorem rewriting_started : Controller.run directDriver rewritingMacFromStr eightQueues
    (fun port _ => some port) rewritingSample usedSwitch = .ok (some rewritingSwitch) := by
  obtain ⟨forwarding, forwardingRun⟩ :
      ∃ forwarding, forwardingRequests (fun port _ => some port) = .ok forwarding :=
    Fallible.exists_of_isOk (by decide +kernel)
  obtain ⟨generators, generatorsRun⟩ : ∃ generators,
      PacketGenerator.activateTrafficGenApplications rewritingPrepared = .ok generators :=
    Fallible.exists_of_isOk (by decide +kernel)
  obtain ⟨afc, afcRun⟩ :
      ∃ afc, Controller.TAS.configureAfcPorts eightQueues rewritingPrepared = .ok afc :=
    Fallible.exists_of_isOk (by decide +kernel)
  obtain ⟨requests, requestsRun⟩ : ∃ requests,
      tableRequests rewritingMacFromStr eightQueues rewritingPrepared ⟨3, 0⟩ = .ok requests :=
    Fallible.exists_of_isOk (by decide +kernel)
  unfold rewritingSwitch rewritingForwarding rewritingRequests
  rw [forwardingRun, generatorsRun, afcRun, requestsRun]
  exact run_direct forwardingRun prepare_rewritingSample generatorsRun afcRun requestsRun usedSwitch

def rewritingTables : Tables :=
  ⟨rewritingSwitch.installed, .first⟩

/-- A frame of the stream arrives 2 ns after the start. -/
def rewritingArrival : Arrival where
  port := 320
  ingressMacTstamp := 2
  bytes := sampleTagged.bytes
  meter _ := 0
  unspecified := default

def rewritingCopy : Copy :=
  plainCopy 5 (sampleTagged.rewrite 0x81E79DE3AD40 6 0).sent

theorem rewriting_copied : [rewritingCopy] =
    (rewritingArrival.switch .strict rewritingTables (fun _ => [8])
      rewritingSwitch.ingress).process rewritingArrival.port rewritingArrival.ingressMacTstamp
        rewritingArrival.bytes := by
  decide +kernel

theorem rewriting_run : Transition.Run (Arrives .strict rewritingTables fun _ => [8])
    rewritingSwitch.ingress ([] ++ (rewritingArrival, [rewritingCopy]) :: [])
    (rewritingArrival.after .strict rewritingTables rewritingSwitch.ingress) :=
  .cons ⟨rewriting_copied, rfl⟩ (.nil _)

theorem copies_in_schedule_sample : ∃ stream, Sends rewritingMacFromStr rewritingSample
    rewritingTables (fun _ => [8]) [] 2 sampleTagged rewritingCopy stream := by
  have front : Ordinary rewritingArrival.port := by
    decide
  have port : rewritingCopy.egressPort ∉ RECIRCULATION_PORTS := by
    decide
  have sent : rewritingCopy ∈ [rewritingCopy] := List.mem_singleton_self _
  exact copies_in_schedule directDriver_documented rewriting_started rewritingSample_policed
    rewriting_run front rfl sent port

/-- The frame in the control. -/
def rewritingFrame : Tsn.Frame :=
  rewritingArrival.received rewritingTables
    { sampleTagged.outer with ipv4 := some (sampleIpv4 5 20 0x26e7) }

theorem rewritingFrame_ofGate : OfGate closingGate rewritingFrame := by
  have own : rewritingFrame.stream?.map (fun r => (param r .streamGateId 12).toNat) = some 1 := by
    decide +kernel
  obtain ⟨r, identified, own⟩ := Option.map_eq_some_iff.mp own
  exact ⟨r, identified, own⟩

theorem rewriting_ports (dstAddr : BitVec 48) :
    ∀ egressPort ∈ forwards rewritingTables (fun _ => [8]) dstAddr,
      egressPort ∉ RECIRCULATION_PORTS := by
  have entries : ∀ r ∈ rewritingTables.entries .layer2Forwarding, r.action = .forward →
      param r .port 9 ∉ RECIRCULATION_PORTS := by
    decide +kernel
  intro egressPort member
  rcases forwards_mem member with ⟨r, entry, forward, rfl⟩ | ⟨_, inGroup⟩
  · exact entries r entry forward
  · rw [List.mem_singleton.mp inGroup]
    decide

theorem in_schedule_copied_sample : ∃ stream ∈ rewritingSample.psfp.streams,
    NamedBy rewritingMacFromStr stream sampleTagged ∧
      rewritingSample.streamGate stream = closingGate ∧ ∃ packetColor, [rewritingCopy] =
        (sampleTagged.ofStream rewritingMacFromStr stream packetColor).copies rewritingTables
          fun _ => [8] := by
  have front : Ordinary rewritingArrival.port := by
    decide
  have position : gatePosition closingGate closingSchedule [] rewritingFrame = 2 := by
    decide +kernel
  have allOpen : AllOpen closingSchedule.intervals
      (gatePosition closingGate closingSchedule [] rewritingFrame) := by
    rw [position]
    exact closingSchedule_allOpen (by decide)
  have meter : rewritingFrame.PassesMeter [] :=
    ⟨by decide +kernel, History.not_happened_nil, fun _ => by decide +kernel⟩
  exact in_schedule_copied directDriver_documented rewriting_started rewritingSample_policed
    (fun _ => rfl) (fun _ => rfl) rewriting_run front rfl sampleTagged_parsed
    (List.mem_singleton_self _) rfl rfl rfl rewritingFrame_ofGate allOpen
    (fun _ first _ between split _ => absurd split.symm (by simp)) meter rewriting_ports

end P4Tas.Frame
