import P4Tas.Controller.Prepare
import P4Tas.Controller.RangeToTernary

/-!
# The entries of the stream gates

`stream_gate_schedule.rs`: `write_all_schedules` goes through the app mappings, looks up the gate
of each, the schedule of the gate, and then the gate again by the name of the schedule; it writes
the entries of every interval of the schedule, each interval under a fresh identifier.

* `writeAllSchedules_eq_ok`: the requests are the decompositions of the intervals in `written`,
  numbered consecutively;
* `Numbered.hits`: which decisions a packet of a gate finds among them.
-/

namespace P4Tas.Controller

namespace StreamGateControlList

/-- The request for one ternary entry of an interval. -/
def streamGateRequest (streamGateId : U32) (gateState ipv : U8)
    (intervalIdentifier maxOctetsInterval : U32) (e : U32 × U32) : Request where
  table := .streamGateInstance
  matchKeys :=
    [(.streamGateId, .exact streamGateId.toNat),
     (.diffTs, .ternary e.1.toNat e.2.toNat)]
  action := .setGateAndIpv
  actionData :=
    [(.gateState, gateState.toNat), (.ipv, ipv.toNat),
     (.intervalIdentifier, intervalIdentifier.toNat),
     (.maxOctetsInterval, maxOctetsInterval.toNat)]

def rangeToTernaryEntries (streamGateId start last : U32) (gateState ipv : U8)
    (intervalIdentifier maxOctetsInterval : U32) : Rust (List Request) := do
  let entries ← ternaryBlocks start last
  return entries.map
    (streamGateRequest streamGateId gateState ipv intervalIdentifier maxOctetsInterval)

/-- The loop over the intervals of a schedule; `identifier` is `unique_interval_identifier`. -/
def writeIntervals (streamGateId : U32) : List PSFPTimeSlice → U32 → Rust (List Request × U32)
  | [], identifier => .ok ([], identifier)
  | t :: intervals, identifier => do
    let entries ← rangeToTernaryEntries streamGateId t.low t.high t.state t.ipv identifier t.octets
    let next ← checkedAdd identifier 1
    let (rest, last) ← writeIntervals streamGateId intervals next
    return (entries ++ rest, last)

def findGateOfMapping (cfg : Configuration) (m : AppIDMapping) : Option StreamGate :=
  cfg.psfp.streamGates.find? fun g => g.streamGateId == m.streamGateId

def findGateOfSchedule (cfg : Configuration) (scheduleName : String) : Option StreamGate :=
  cfg.psfp.streamGates.find? fun g => g.schedule == scheduleName

/-- The loop over the app mappings. -/
def writeMappings (cfg : Configuration) : List AppIDMapping → U32 → Rust (List Request × U32)
  | [], identifier => .ok ([], identifier)
  | m :: mappings, identifier => do
    let gate ← unwrap (findGateOfMapping cfg m)
    let schedule ← unwrap (cfg.findSchedule gate.schedule)
    let streamGate ← unwrap (findGateOfSchedule cfg gate.schedule)
    let (entries, next) ←
      writeIntervals streamGate.streamGateId schedule.intervals identifier
    let (rest, last) ← writeMappings cfg mappings next
    return (entries ++ rest, last)

def writeAllSchedules (cfg : Configuration) (appState : AppState) :
    Rust (List Request × AppState) :=
  match cfg.psfp.appIdMappings with
  | none => .ok ([], appState)
  | some mappings => do
    let (requests, last) ← writeMappings cfg mappings appState.uniqueIntervalIdentifier
    return (requests, { appState with uniqueIntervalIdentifier := last })

/-! ## What is written -/

/-- The decomposition of an interval under a gate id and an interval identifier. -/
def intervalEntries (streamGateId : U32) (t : PSFPTimeSlice) (identifier : U32) : List Request :=
  Fallible.output
    (rangeToTernaryEntries streamGateId t.low t.high t.state t.ipv identifier t.octets)

/-- The gate id an iteration writes under, and the schedule it writes. -/
def target? (cfg : Configuration) (m : AppIDMapping) : Option (U32 × StreamGateControlList) :=
  match findGateOfMapping cfg m with
  | some gate =>
    match cfg.findSchedule gate.schedule, findGateOfSchedule cfg gate.schedule with
    | some schedule, some streamGate => some (streamGate.streamGateId, schedule)
    | _, _ => none
  | none => none

theorem target?_eq_some {cfg : Configuration} {m : AppIDMapping} {streamGateId : U32}
    {schedule : StreamGateControlList} :
    target? cfg m = some (streamGateId, schedule) ↔
      ∃ gate, findGateOfMapping cfg m = some gate ∧
        cfg.findSchedule gate.schedule = some schedule ∧
        ∃ streamGate, findGateOfSchedule cfg gate.schedule = some streamGate ∧
          streamGate.streamGateId = streamGateId := by
  unfold target?
  cases gateFound : findGateOfMapping cfg m with
  | none => simp
  | some gate =>
    cases scheduleFound : cfg.findSchedule gate.schedule with
    | none => simp [scheduleFound]
    | some schedule' =>
      cases streamGateFound : findGateOfSchedule cfg gate.schedule with
      | none => simp [streamGateFound]
      | some streamGate => simp [scheduleFound, streamGateFound, and_comm]

/-- The app mapping of a gate leads to the gate's schedule, which is written under the first gate
that names it. -/
theorem target?_eq {cfg : Configuration}
    (ids : (cfg.psfp.streamGates.map (·.streamGateId)).Nodup) {gate : StreamGate}
    (member : gate ∈ cfg.psfp.streamGates) {m : AppIDMapping} (isApp : cfg.IsAppMapping gate m) :
    ∃ first schedule, findGateOfSchedule cfg gate.schedule = some first ∧
      cfg.findSchedule gate.schedule = some schedule ∧
      target? cfg m = some (first.streamGateId, schedule) := by
  obtain ⟨idEq, schedule, scheduleFound, _⟩ := isApp
  have gateFound : findGateOfMapping cfg m = some gate :=
    (KeyedList.find?_eq_some_iff ids).mpr ⟨member, idEq.symm⟩
  obtain ⟨first, firstFound⟩ : ∃ first, findGateOfSchedule cfg gate.schedule = some first :=
    KeyedList.exists_find? member rfl
  exact ⟨first, schedule, firstFound, scheduleFound,
    target?_eq_some.mpr ⟨gate, gateFound, scheduleFound, first, firstFound, rfl⟩⟩

/-- The intervals of a schedule, each with the gate id it is written under. -/
def underGate (streamGateId : U32) (schedule : StreamGateControlList) :
    List (U32 × PSFPTimeSlice) :=
  schedule.intervals.map fun t => (streamGateId, t)

/-- The intervals an iteration over the app mappings writes, in order. -/
def written (cfg : Configuration) (mappings : List AppIDMapping) : List (U32 × PSFPTimeSlice) :=
  mappings.flatMap fun m => (target? cfg m).toList.flatMap fun x => underGate x.1 x.2

/-- A written interval belongs to the schedule of the gate it is written under, which is the first
gate that names this schedule. -/
theorem mem_written {cfg : Configuration} {mappings : List AppIDMapping}
    {pair : U32 × PSFPTimeSlice} (member : pair ∈ written cfg mappings) :
    ∃ gate schedule, findGateOfSchedule cfg gate.schedule = some gate ∧
      gate.streamGateId = pair.1 ∧ cfg.findSchedule gate.schedule = some schedule ∧
      pair.2 ∈ schedule.intervals := by
  obtain ⟨m, _, member⟩ := List.mem_flatMap.mp member
  obtain ⟨⟨streamGateId, schedule⟩, target, member⟩ := List.mem_flatMap.mp member
  obtain ⟨t, memberT, rfl⟩ := List.mem_map.mp member
  obtain ⟨gate, _, scheduleFound, first, firstFound, idEq⟩ :=
    target?_eq_some.mp (Option.mem_toList.mp target)
  obtain ⟨_, sameName⟩ := KeyedList.mem_of_find? firstFound
  rw [← sameName] at scheduleFound firstFound
  exact ⟨first, schedule, firstFound, idEq, scheduleFound, memberT⟩

/-- The decompositions of the intervals under the given identifiers. -/
def decompositions (pairs : List (U32 × PSFPTimeSlice)) (identifiers : List U32) : List Request :=
  (pairs.zip identifiers).flatMap fun x => intervalEntries x.1.1 x.1.2 x.2

theorem decompositions_append {pairs pairs' : List (U32 × PSFPTimeSlice)}
    {identifiers identifiers' : List U32} (lengths : pairs.length = identifiers.length) :
    decompositions (pairs ++ pairs') (identifiers ++ identifiers') =
      decompositions pairs identifiers ++ decompositions pairs' identifiers' := by
  unfold decompositions
  rw [List.zip_append lengths, List.flatMap_append]

/-- The requests are the decompositions of the intervals, numbered from `start` on, up to `last`. -/
structure Numbered (pairs : List (U32 × PSFPTimeSlice)) (start last : U32)
    (requests : List Request) (identifiers : List U32) : Prop where
  consecutive : identifiers.map BitVec.toNat = List.range' start.toNat pairs.length
  last_eq : last.toNat = start.toNat + pairs.length
  requests_eq : requests = decompositions pairs identifiers
  returns : ∀ pair ∈ pairs, ∃ es, ternaryBlocks pair.2.low pair.2.high = .ok es

namespace Numbered

variable {pairs pairs' : List (U32 × PSFPTimeSlice)} {start next last : U32}
  {requests requests' : List Request} {identifiers identifiers' : List U32}

theorem length_eq (numbered : Numbered pairs start last requests identifiers) :
    identifiers.length = pairs.length := by
  have lengths := congrArg List.length numbered.consecutive
  rwa [List.length_map, List.length_range'] at lengths

theorem nodup (numbered : Numbered pairs start last requests identifiers) :
    identifiers.Nodup := by
  apply List.Nodup.of_map BitVec.toNat
  rw [numbered.consecutive]
  exact List.nodup_range'

theorem append (first : Numbered pairs start next requests identifiers)
    (second : Numbered pairs' next last requests' identifiers') :
    Numbered (pairs ++ pairs') start last (requests ++ requests')
      (identifiers ++ identifiers') where
  consecutive := by
    rw [List.map_append, first.consecutive, second.consecutive, first.last_eq, List.length_append,
      List.range'_append_1]
  last_eq := by
    rw [second.last_eq, first.last_eq, List.length_append, Nat.add_assoc]
  requests_eq := by
    rw [first.requests_eq, second.requests_eq, decompositions_append first.length_eq.symm]
  returns := by
    intro pair member
    rcases List.mem_append.mp member with left | right
    · exact first.returns pair left
    · exact second.returns pair right

end Numbered

theorem writeIntervals_eq_ok {streamGateId : U32} {intervals : List PSFPTimeSlice}
    {start last : U32} {requests : List Request}
    (run : writeIntervals streamGateId intervals start = .ok (requests, last)) :
    ∃ identifiers,
      Numbered (intervals.map fun t => (streamGateId, t)) start last requests identifiers := by
  induction intervals generalizing start last requests with
  | nil =>
    cases run
    exact ⟨[], rfl, rfl, rfl, fun _ member => by cases member⟩
  | cons t intervals ih =>
    obtain ⟨entries, entriesRun, run⟩ := Fallible.bind_eq_ok.mp run
    obtain ⟨next, nextRun, run⟩ := Fallible.bind_eq_ok.mp run
    obtain ⟨⟨rest, stop⟩, restRun, run⟩ := Fallible.bind_eq_ok.mp run
    cases run
    obtain ⟨identifiers, numbered⟩ := ih restRun
    obtain ⟨blocks, blocksRun, _⟩ := Fallible.bind_eq_ok.mp entriesRun
    have one : Numbered [(streamGateId, t)] start next entries [start] := by
      refine ⟨rfl, checkedAdd_eq_ok.mp nextRun, ?_, ?_⟩
      · unfold decompositions intervalEntries
        rw [List.zip_cons_cons, List.zip_nil_left, List.flatMap_singleton, entriesRun]
        rfl
      · intro pair member
        rw [List.mem_singleton.mp member]
        exact ⟨blocks, blocksRun⟩
    exact ⟨start :: identifiers, one.append numbered⟩

theorem writeMappings_eq_ok {cfg : Configuration} {mappings : List AppIDMapping}
    {start last : U32} {requests : List Request}
    (run : writeMappings cfg mappings start = .ok (requests, last)) :
    (∀ m ∈ mappings, ∃ x, target? cfg m = some x) ∧
      ∃ identifiers, Numbered (written cfg mappings) start last requests identifiers := by
  induction mappings generalizing start last requests with
  | nil =>
    cases run
    exact ⟨fun _ member => absurd member List.not_mem_nil, [], rfl, rfl, rfl,
      fun _ member => absurd member List.not_mem_nil⟩
  | cons m mappings ih =>
    obtain ⟨gate, gateRun, run⟩ := Fallible.bind_eq_ok.mp run
    obtain ⟨schedule, scheduleRun, run⟩ := Fallible.bind_eq_ok.mp run
    obtain ⟨streamGate, streamGateRun, run⟩ := Fallible.bind_eq_ok.mp run
    obtain ⟨⟨entries, next⟩, entriesRun, run⟩ := Fallible.bind_eq_ok.mp run
    obtain ⟨⟨rest, stop⟩, restRun, run⟩ := Fallible.bind_eq_ok.mp run
    cases run
    have found : target? cfg m = some (streamGate.streamGateId, schedule) :=
      target?_eq_some.mpr ⟨gate, unwrap_eq_ok.mp gateRun, unwrap_eq_ok.mp scheduleRun, streamGate,
        unwrap_eq_ok.mp streamGateRun, rfl⟩
    obtain ⟨here, first⟩ := writeIntervals_eq_ok entriesRun
    obtain ⟨targets, there, second⟩ := ih restRun
    refine ⟨List.forall_mem_cons.mpr ⟨⟨_, found⟩, targets⟩, here ++ there, ?_⟩
    have split : written cfg (m :: mappings) =
        underGate streamGate.streamGateId schedule ++ written cfg mappings := by
      unfold written
      rw [List.flatMap_cons, found, Option.toList_some, List.flatMap_singleton]
    rw [split]
    exact first.append second

/-- A run over app mappings that returns has looked all of them up, and its requests are the
decompositions of what it wrote, numbered consecutively. -/
theorem writeAllSchedules_eq_ok {cfg : Configuration} {app app' : AppState}
    {mappings : List AppIDMapping} (mapped : cfg.psfp.appIdMappings = some mappings)
    {requests : List Request} (run : writeAllSchedules cfg app = .ok (requests, app')) :
    (∀ m ∈ mappings, ∃ x, target? cfg m = some x) ∧
      ∃ identifiers, Numbered (written cfg mappings) app.uniqueIntervalIdentifier
        app'.uniqueIntervalIdentifier requests identifiers := by
  unfold writeAllSchedules at run
  rw [mapped] at run
  obtain ⟨⟨rest, last⟩, restRun, run⟩ := Fallible.bind_eq_ok.mp run
  cases run
  exact writeMappings_eq_ok restRun

/-- The loop over the intervals returns when every interval ends below `u32::MAX` and the
identifiers suffice. -/
theorem writeIntervals_returns {intervals : List PSFPTimeSlice} {streamGateId start : U32}
    (bound : ∀ t ∈ intervals, t.high.toNat < 2 ^ 32 - 1)
    (enough : start.toNat + intervals.length < 2 ^ 32) :
    ∃ x, writeIntervals streamGateId intervals start = .ok x := by
  induction intervals generalizing start with
  | nil => exact ⟨_, rfl⟩
  | cons t intervals ih =>
    obtain ⟨boundHere, boundRest⟩ := List.forall_mem_cons.mp bound
    rw [List.length_cons] at enough
    obtain ⟨entries, entriesRun⟩ : ∃ es, ternaryBlocks t.low t.high = .ok es :=
      ternaryBlocks_returns boundHere
    obtain ⟨next, nextRun, nextEq⟩ := checkedAdd_one_returns (a := start) (by omega)
    obtain ⟨rest, restRun⟩ : ∃ x, writeIntervals streamGateId intervals next = .ok x :=
      ih boundRest (by omega)
    unfold writeIntervals rangeToTernaryEntries
    simp only [entriesRun, nextRun, restRun, Fallible.ok_bind]
    exact ⟨_, rfl⟩

/-- The loop over the app mappings returns when, besides, every mapping can be looked up. -/
theorem writeMappings_returns {cfg : Configuration} {mappings : List AppIDMapping} {start : U32}
    (targets : ∀ m ∈ mappings, ∃ x, target? cfg m = some x)
    (bound : ∀ pair ∈ written cfg mappings, pair.2.high.toNat < 2 ^ 32 - 1)
    (enough : start.toNat + (written cfg mappings).length < 2 ^ 32) :
    ∃ x, writeMappings cfg mappings start = .ok x := by
  induction mappings generalizing start with
  | nil => exact ⟨_, rfl⟩
  | cons m mappings ih =>
    obtain ⟨⟨x, found⟩, targetsRest⟩ := List.forall_mem_cons.mp targets
    have split : written cfg (m :: mappings) = underGate x.1 x.2 ++ written cfg mappings := by
      unfold written
      rw [List.flatMap_cons, found, Option.toList_some, List.flatMap_singleton]
    rw [split] at bound enough
    have count : (underGate x.1 x.2).length = x.2.intervals.length := List.length_map _
    rw [List.length_append, count] at enough
    obtain ⟨⟨entries, next⟩, entriesRun⟩ :
        ∃ y, writeIntervals x.1 x.2.intervals start = .ok y := by
      refine writeIntervals_returns (fun t member => ?_) (by omega)
      exact bound (x.1, t) (List.mem_append_left _ (List.mem_map_of_mem member))
    obtain ⟨_, numbered⟩ := writeIntervals_eq_ok entriesRun
    have nextEq : next.toNat = start.toNat + x.2.intervals.length := by
      rw [numbered.last_eq, List.length_map]
    obtain ⟨rest, restRun⟩ : ∃ y, writeMappings cfg mappings next = .ok y :=
      ih targetsRest (fun pair member => bound pair (List.mem_append_right _ member)) (by omega)
    obtain ⟨gate, gateFound, scheduleFound, streamGate, streamGateFound, idEq⟩ :=
      target?_eq_some.mp found
    unfold writeMappings
    simp only [gateFound, scheduleFound, streamGateFound, idEq, unwrap, entriesRun, restRun,
      Fallible.ok_bind]
    exact ⟨_, rfl⟩

theorem writeAllSchedules_returns {cfg : Configuration} {app : AppState}
    {mappings : List AppIDMapping} (mapped : cfg.psfp.appIdMappings = some mappings)
    (targets : ∀ m ∈ mappings, ∃ x, target? cfg m = some x)
    (bound : ∀ pair ∈ written cfg mappings, pair.2.high.toNat < 2 ^ 32 - 1)
    (enough : app.uniqueIntervalIdentifier.toNat + (written cfg mappings).length < 2 ^ 32) :
    ∃ x, writeAllSchedules cfg app = .ok x := by
  obtain ⟨⟨requests, last⟩, run⟩ := writeMappings_returns targets bound enough
  unfold writeAllSchedules
  rw [mapped]
  simp only [run, Fallible.ok_bind]
  exact ⟨_, rfl⟩

/-! ## What a packet of a gate finds -/

/-- The key fields of a packet identified to a gate at position `diffTs`. -/
def gatePacket (streamGateId : U32) (diffTs : Nat) : Request.Fields
  | .streamGateId => streamGateId.toNat
  | .diffTs => diffTs
  | _ => 0

/-- The gate state and the internal priority an entry applies. -/
def gateDecision (r : Request) : Option Nat × Option Nat :=
  (r.data? .gateState, r.data? .ipv)

/-- The gate state and the internal priority of an interval. -/
def intervalDecision (t : PSFPTimeSlice) : Option Nat × Option Nat :=
  (some t.state.toNat, some t.ipv.toNat)

/-- What a written interval applies to a packet: its decision, if it was written under the packet's
gate and contains the low 32 bits of its position. -/
def pairDecisions (streamGateId : U32) (p : Nat) (pair : U32 × PSFPTimeSlice) :
    List (Option Nat × Option Nat) :=
  if pair.1 = streamGateId ∧ pair.2.Contains (p % 2 ^ 32) then
    [intervalDecision pair.2]
  else
    []

theorem streamGateRequest_accepts {streamGateId : U32} {gateState ipv : U8}
    {intervalIdentifier maxOctetsInterval : U32} {e : U32 × U32} {fields : Request.Fields} :
    (streamGateRequest streamGateId gateState ipv intervalIdentifier maxOctetsInterval e).Matches
        fields ↔
      TernaryCover.Matches e.1.toNat e.2.toNat (fields .diffTs) ∧
        fields .streamGateId = streamGateId.toNat := by
  simp only [Request.Matches, streamGateRequest, List.forall_mem_cons, List.not_mem_nil,
    false_imp_iff, implies_true, and_true, MatchValue.Matches, ne_eq, reduceCtorEq,
    not_false_eq_true, forall_const]
  exact and_comm

theorem streamGateRequest_matches {streamGateId streamGateId' : U32} {gateState ipv : U8}
    {intervalIdentifier maxOctetsInterval : U32} {e : U32 × U32} {p : Nat} :
    (streamGateRequest streamGateId gateState ipv intervalIdentifier maxOctetsInterval e).Matches
        (gatePacket streamGateId' p) ↔
      TernaryCover.Matches e.1.toNat e.2.toNat p ∧ streamGateId = streamGateId' := by
  rw [streamGateRequest_accepts]
  refine and_congr_right fun _ => ?_
  exact BitVec.toNat_inj.trans eq_comm

/-- A packet is accepted by an entry of an interval when it has the gate id of the entries and the
interval contains the low 32 bits of its position. -/
theorem intervalEntries_accepts (streamGateId identifier : U32) {t : PSFPTimeSlice}
    (returns : ∃ es, ternaryBlocks t.low t.high = .ok es) (fields : Request.Fields) :
    (∃ r, r ∈ Request.hits fields (intervalEntries streamGateId t identifier)) ↔
      fields .streamGateId = streamGateId.toNat ∧ t.Contains (fields .diffTs % 2 ^ 32) := by
  rcases returns with ⟨es, esRun⟩
  have entries : intervalEntries streamGateId t identifier =
      es.map (streamGateRequest streamGateId t.state t.ipv identifier t.octets) := by
    unfold intervalEntries rangeToTernaryEntries
    rw [esRun]
    rfl
  have found : (Request.hits fields (intervalEntries streamGateId t identifier)).map (fun _ => ()) =
      if fields .streamGateId = streamGateId.toNat ∧ t.Contains (fields .diffTs % 2 ^ 32) then
        [()]
      else
        [] := by
    rw [entries]
    exact ternaryBlocks_hits esRun (fun _ => streamGateRequest_accepts) (fun _ => rfl)
  refine ⟨?_, ?_⟩
  · intro accepted
    rcases accepted with ⟨r, hit⟩
    by_contra neither
    rw [if_neg neither, List.map_eq_nil_iff] at found
    rw [found] at hit
    exact absurd hit List.not_mem_nil
  · intro both
    rw [if_pos both] at found
    rcases List.map_eq_singleton_iff.mp found with ⟨r, single, _⟩
    exact ⟨r, single ▸ List.mem_singleton_self r⟩

theorem intervalEntries_hits (streamGateId streamGateId' identifier : U32) {t : PSFPTimeSlice}
    (returns : ∃ es, ternaryBlocks t.low t.high = .ok es) (p : Nat) :
    (Request.hits (gatePacket streamGateId' p) (intervalEntries streamGateId t identifier)).map
        gateDecision =
      pairDecisions streamGateId' p (streamGateId, t) := by
  obtain ⟨es, esRun⟩ := returns
  unfold intervalEntries rangeToTernaryEntries
  rw [esRun]
  exact ternaryBlocks_hits esRun (fun _ => streamGateRequest_matches) (fun _ => rfl)

/-- A packet of a gate finds the decisions of the intervals written under the gate that contain its
position, in the order in which they were written. -/
theorem Numbered.hits {pairs : List (U32 × PSFPTimeSlice)} {start last : U32}
    {requests : List Request} {identifiers : List U32}
    (numbered : Numbered pairs start last requests identifiers) (streamGateId : U32) (p : Nat) :
    (Request.hits (gatePacket streamGateId p) requests).map gateDecision =
      pairs.flatMap (pairDecisions streamGateId p) := by
  have perPair : ∀ x ∈ pairs.zip identifiers,
      (Request.hits (gatePacket streamGateId p) (intervalEntries x.1.1 x.1.2 x.2)).map
        gateDecision = pairDecisions streamGateId p x.1 := fun x member =>
    intervalEntries_hits x.1.1 streamGateId x.2
      (numbered.returns x.1 (List.of_mem_zip member).1) p
  have firsts : (pairs.zip identifiers).map Prod.fst = pairs :=
    List.map_fst_zip (le_of_eq numbered.length_eq.symm)
  rw [numbered.requests_eq, decompositions, Request.hits_flatMap, List.flatMap_congr perPair]
  conv_rhs => rw [← firsts, List.flatMap_map]

/-- The entries that accept a packet belong to written intervals that were written under its gate
and contain the low 32 bits of its position. -/
theorem Numbered.mem_hits {pairs : List (U32 × PSFPTimeSlice)} {start last : U32}
    {requests : List Request} {identifiers : List U32}
    (numbered : Numbered pairs start last requests identifiers) {fields : Request.Fields}
    {r : Request} (hit : r ∈ Request.hits fields requests) :
    ∃ pair ∈ pairs, ∃ identifier, r ∈ intervalEntries pair.1 pair.2 identifier ∧
      fields .streamGateId = pair.1.toNat ∧ pair.2.Contains (fields .diffTs % 2 ^ 32) := by
  rcases Request.mem_hits.mp hit with ⟨member, accepts⟩
  rw [numbered.requests_eq] at member
  rcases List.mem_flatMap.mp member with ⟨⟨pair, identifier⟩, paired, inEntries⟩
  have written := (List.of_mem_zip paired).1
  refine ⟨pair, written, identifier, inEntries, ?_⟩
  exact (intervalEntries_accepts pair.1 identifier (numbered.returns pair written) fields).mp
    ⟨r, Request.mem_hits.mpr ⟨inEntries, accepts⟩⟩

/-- And each such interval has an entry that accepts the packet. -/
theorem Numbered.exists_hit {pairs : List (U32 × PSFPTimeSlice)} {start last : U32}
    {requests : List Request} {identifiers : List U32}
    (numbered : Numbered pairs start last requests identifiers) {fields : Request.Fields}
    {pair : U32 × PSFPTimeSlice} (written : pair ∈ pairs)
    (own : fields .streamGateId = pair.1.toNat)
    (inside : pair.2.Contains (fields .diffTs % 2 ^ 32)) :
    ∃ r, r ∈ Request.hits fields requests := by
  have firsts : (pairs.zip identifiers).map Prod.fst = pairs :=
    List.map_fst_zip (le_of_eq numbered.length_eq.symm)
  rw [← firsts] at written
  rcases List.mem_map.mp written with ⟨⟨pair', identifier⟩, paired, rfl⟩
  have returns := numbered.returns pair' (List.of_mem_zip paired).1
  rcases (intervalEntries_accepts pair'.1 identifier returns fields).mpr ⟨own, inside⟩ with
    ⟨r, hit⟩
  rcases Request.mem_hits.mp hit with ⟨member, accepts⟩
  refine ⟨r, Request.mem_hits.mpr ⟨?_, accepts⟩⟩
  rw [numbered.requests_eq]
  exact List.mem_flatMap.mpr ⟨_, paired, member⟩

end StreamGateControlList

end P4Tas.Controller
