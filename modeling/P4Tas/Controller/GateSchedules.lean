import P4Tas.Controller.StreamGateSchedule

/-!
# Which gate gets which schedule

`write_all_schedules` reaches a schedule through a gate, and then writes it under the first gate
that names this schedule.  The detour is the identity when no two gates share a schedule.  A gate
that shares its schedule with an earlier one gets no entries of its own: the schedule is written
under the earlier gate again.

* `written_ne`: a gate that is not the first to name its schedule has nothing written under its id;
* `eachGateOwn_iff`: every gate gets its own schedule exactly when shared schedules have no entries.
-/

namespace P4Tas.Controller

namespace StreamGateControlList

/-- The intervals of every gate's schedule, each with the id of that gate. -/
def ownIntervals (cfg : Configuration) : List (U32 × PSFPTimeSlice) :=
  cfg.psfp.streamGates.flatMap fun gate =>
    (cfg.findSchedule gate.schedule).toList.flatMap (underGate gate.streamGateId)

/-- The requests are, in some order, the decompositions of every gate's own intervals, each once
and under an identifier of its own. -/
def EachGateOwn (cfg : Configuration) (requests : List Request) : Prop :=
  ∃ identifiers : List U32, identifiers.Nodup ∧ identifiers.length = (ownIntervals cfg).length ∧
    requests.Perm (decompositions (ownIntervals cfg) identifiers)

/-- Gates that share a schedule share only intervals that start after their end. -/
def SharedAreEmpty (cfg : Configuration) : Prop :=
  ∀ gate ∈ cfg.psfp.streamGates, ∀ gate' ∈ cfg.psfp.streamGates,
    gate.streamGateId ≠ gate'.streamGateId → gate.schedule = gate'.schedule →
    ∀ schedule, cfg.findSchedule gate.schedule = some schedule →
    ∀ t ∈ schedule.intervals, t.high.toNat < t.low.toNat

variable {cfg : Configuration}

/-- Two pairs of a gate id and an interval whose entries are the same: the same interval, under the
same id unless the interval has no entries. -/
def SameEntries (pair pair' : U32 × PSFPTimeSlice) : Prop :=
  pair.2 = pair'.2 ∧ (pair.1 = pair'.1 ∨ pair.2.high.toNat < pair.2.low.toNat)

theorem intervalEntries_empty {t : PSFPTimeSlice} (empty : t.high.toNat < t.low.toNat)
    (streamGateId identifier : U32) : intervalEntries streamGateId t identifier = [] := by
  unfold intervalEntries rangeToTernaryEntries
  rw [ternaryBlocks_empty empty]
  rfl

theorem decompositions_congr {pairs pairs' : List (U32 × PSFPTimeSlice)}
    (same : List.Forall₂ SameEntries pairs pairs') (identifiers : List U32) :
    decompositions pairs identifiers = decompositions pairs' identifiers := by
  induction same generalizing identifiers with
  | nil => rfl
  | @cons pair pair' rest rest' head _ ih =>
    cases identifiers with
    | nil => rfl
    | cons identifier identifiers =>
      have tail := ih identifiers
      have here : intervalEntries pair.1 pair.2 identifier =
          intervalEntries pair'.1 pair'.2 identifier := by
        obtain ⟨interval, idEq | empty⟩ := head
        · rw [idEq, interval]
        · rw [← interval, intervalEntries_empty empty, intervalEntries_empty empty]
      unfold decompositions at tail ⊢
      rw [List.zip_cons_cons, List.zip_cons_cons, List.flatMap_cons, List.flatMap_cons, here, tail]

/-- When shared schedules are empty, what is written has the entries of the gates' own intervals. -/
theorem written_sameEntries (ids : (cfg.psfp.streamGates.map (·.streamGateId)).Nodup)
    {mappings : List AppIDMapping}
    (related : List.Forall₂ cfg.IsAppMapping cfg.psfp.streamGates mappings)
    (shared : SharedAreEmpty cfg) :
    List.Forall₂ SameEntries (written cfg mappings) (ownIntervals cfg) := by
  have members : List.Forall₂ (fun gate m => gate ∈ cfg.psfp.streamGates ∧ cfg.IsAppMapping gate m)
      cfg.psfp.streamGates mappings :=
    (List.forall₂_and_left _ _).mpr ⟨fun _ member => member, related⟩
  refine List.rel_flatMap members.flip ?_
  rintro m gate ⟨member, isApp⟩
  obtain ⟨first, schedule, firstFound, scheduleFound, target⟩ := target?_eq ids member isApp
  obtain ⟨memberFirst, sameSchedule⟩ := KeyedList.mem_of_find? firstFound
  dsimp only
  rw [target, scheduleFound, Option.toList_some, Option.toList_some, List.flatMap_singleton,
    List.flatMap_singleton]
  unfold underGate
  rw [List.forall₂_map_left_iff, List.forall₂_map_right_iff, List.forall₂_same]
  intro t memberT
  refine ⟨rfl, ?_⟩
  rcases Decidable.em (first.streamGateId = gate.streamGateId) with same | differ
  · exact .inl same
  · exact .inr (shared gate member first memberFirst (Ne.symm differ) sameSchedule.symm schedule
      scheduleFound t memberT)

/-- A gate that is not the first to name its schedule has nothing written under its id. -/
theorem written_ne (ids : (cfg.psfp.streamGates.map (·.streamGateId)).Nodup)
    {mappings : List AppIDMapping}
    (related : List.Forall₂ cfg.IsAppMapping cfg.psfp.streamGates mappings)
    {gate first : StreamGate} (member : gate ∈ cfg.psfp.streamGates)
    (firstFound : findGateOfSchedule cfg gate.schedule = some first)
    (differ : first.streamGateId ≠ gate.streamGateId) :
    ∀ pair ∈ written cfg mappings, pair.1 ≠ gate.streamGateId := by
  intro pair memberPair same
  obtain ⟨m, memberM, memberPair⟩ := List.mem_flatMap.mp memberPair
  obtain ⟨gate', memberGate', isApp⟩ := KeyedList.exists_related related.flip memberM
  obtain ⟨first', schedule, firstFound', _, target⟩ := target?_eq ids memberGate' isApp
  rw [target, Option.toList_some, List.flatMap_singleton] at memberPair
  obtain ⟨_, _, rfl⟩ := List.mem_map.mp memberPair
  -- the gate would be the first one to name the other gate's schedule, which is its own
  obtain ⟨memberFirst', names⟩ := KeyedList.mem_of_find? firstFound'
  have isGate : first' = gate := List.inj_on_of_nodup_map ids memberFirst' member same
  rw [isGate] at names
  rw [← names, firstFound] at firstFound'
  exact differ (by rw [Option.some.inj firstFound', isGate])

/-- A nonempty interval of a gate that is not the first to name its schedule has no entries under
the gate's id. -/
theorem not_eachGateOwn (ids : (cfg.psfp.streamGates.map (·.streamGateId)).Nodup)
    {mappings : List AppIDMapping}
    (related : List.Forall₂ cfg.IsAppMapping cfg.psfp.streamGates mappings)
    {start last : U32} {requests : List Request} {identifiers : List U32}
    (numbered : Numbered (written cfg mappings) start last requests identifiers)
    {gate first : StreamGate} (member : gate ∈ cfg.psfp.streamGates)
    (firstFound : findGateOfSchedule cfg gate.schedule = some first)
    (differ : first.streamGateId ≠ gate.streamGateId) {schedule : StreamGateControlList}
    (scheduleFound : cfg.findSchedule gate.schedule = some schedule) {t : PSFPTimeSlice}
    (memberT : t ∈ schedule.intervals) (nonempty : t.low.toNat ≤ t.high.toNat) :
    ¬ EachGateOwn cfg requests := by
  intro own
  obtain ⟨ownIdentifiers, _, lengths, perm⟩ := own
  have memberOwn : (gate.streamGateId, t) ∈ ownIntervals cfg := by
    refine List.mem_flatMap.mpr ⟨gate, member, ?_⟩
    rw [scheduleFound, Option.toList_some, List.flatMap_singleton]
    exact List.mem_map_of_mem memberT
  -- the interval is decomposed under the first gate, so its decomposition exists
  have returns : ∃ es, ternaryBlocks t.low t.high = .ok es := by
    obtain ⟨m, memberM, isApp⟩ := KeyedList.exists_related related member
    obtain ⟨first', schedule', _, scheduleFound', target⟩ := target?_eq ids member isApp
    cases Option.some.inj (scheduleFound'.symm.trans scheduleFound)
    refine numbered.returns (first'.streamGateId, t) (List.mem_flatMap.mpr ⟨m, memberM, ?_⟩)
    rw [target, Option.toList_some, List.flatMap_singleton]
    exact List.mem_map_of_mem memberT
  obtain ⟨identifier, memberZip⟩ : ∃ identifier,
      ((gate.streamGateId, t), identifier) ∈ (ownIntervals cfg).zip ownIdentifiers := by
    have firsts : ((ownIntervals cfg).zip ownIdentifiers).map Prod.fst = ownIntervals cfg :=
      List.map_fst_zip (le_of_eq lengths.symm)
    rw [← firsts] at memberOwn
    obtain ⟨x, memberX, xEq⟩ := List.mem_map.mp memberOwn
    exact ⟨x.2, xEq ▸ memberX⟩
  -- a packet of the gate at the start of the interval hits one of the entries it should have
  have hit := intervalEntries_hits gate.streamGateId gate.streamGateId identifier returns
    t.low.toNat
  have inside : t.Contains (t.low.toNat % 2 ^ 32) := by
    rw [Nat.mod_eq_of_lt t.low.isLt]
    exact ⟨le_refl _, nonempty⟩
  rw [pairDecisions, if_pos ⟨rfl, inside⟩] at hit
  obtain ⟨r, single, _⟩ := List.map_eq_singleton_iff.mp hit
  have hitR : r ∈ Request.hits (gatePacket gate.streamGateId t.low.toNat)
      (intervalEntries gate.streamGateId t identifier) := by
    rw [single]
    exact List.mem_singleton_self r
  obtain ⟨memberR, accepts⟩ := Request.mem_hits.mp hitR
  have memberRequests : r ∈ requests :=
    perm.mem_iff.mpr (List.mem_flatMap.mpr ⟨_, memberZip, memberR⟩)
  -- but nothing was written under the gate's id
  have none := numbered.hits gate.streamGateId t.low.toNat
  have missed : (written cfg mappings).flatMap (pairDecisions gate.streamGateId t.low.toNat) =
      [] := by
    rw [List.flatMap_eq_nil_iff]
    intro pair memberPair
    exact if_neg fun h => written_ne ids related member firstFound differ pair memberPair h.1
  rw [missed, List.map_eq_nil_iff] at none
  have hitRequests := Request.mem_hits.mpr ⟨memberRequests, accepts⟩
  rw [none] at hitRequests
  exact absurd hitRequests List.not_mem_nil

/-- What `configure_app_ids_stream_gate_hyperperiod` adds to the configuration. -/
theorem configureAppIds_eq_ok {cfg mapped : Configuration} {app app' : AppState}
    (run : cfg.configureAppIdsStreamGateHyperperiod app = .ok (mapped, app')) :
    ∃ mappings, List.Forall₂ cfg.IsAppMapping cfg.psfp.streamGates mappings ∧
      mapped = { cfg with psfp := { cfg.psfp with appIdMappings := some mappings } } := by
  obtain ⟨⟨mappings, last⟩, mappingsRun, run⟩ := Fallible.bind_eq_ok.mp run
  cases run
  exact ⟨mappings, (Configuration.appIdMappings_eq_ok mappingsRun).1, rfl⟩

/-- No other gate has the id of the gate, and none names its schedule. -/
structure SoleUser (cfg : Configuration) (gate : StreamGate) : Prop where
  member : gate ∈ cfg.psfp.streamGates
  byId : ∀ gate' ∈ cfg.psfp.streamGates, gate'.streamGateId = gate.streamGateId → gate' = gate
  bySchedule : ∀ gate' ∈ cfg.psfp.streamGates, gate'.schedule = gate.schedule → gate' = gate

/-- Under the id of the only user of a schedule, the intervals of this schedule are written. -/
theorem SoleUser.mem_written {gate : StreamGate} (sole : SoleUser cfg gate)
    {mappings : List AppIDMapping}
    (related : List.Forall₂ cfg.IsAppMapping cfg.psfp.streamGates mappings)
    {schedule : StreamGateControlList} (found : cfg.findSchedule gate.schedule = some schedule)
    {t : PSFPTimeSlice} :
    (gate.streamGateId, t) ∈ written cfg mappings ↔ t ∈ schedule.intervals := by
  refine ⟨?_, ?_⟩
  · intro member
    rcases StreamGateControlList.mem_written member with
      ⟨gate', schedule', firstFound, idEq, found', inside⟩
    have same := sole.byId gate' (KeyedList.mem_of_find? firstFound).1 idEq
    rw [same, found] at found'
    rw [Option.some.inj found']
    exact inside
  · intro inside
    rcases KeyedList.exists_related related sole.member with ⟨m, memberM, idEq, _⟩
    obtain ⟨gate', gateFound⟩ : ∃ gate', findGateOfMapping cfg m = some gate' :=
      KeyedList.exists_find? sole.member idEq.symm
    rcases KeyedList.mem_of_find? gateFound with ⟨member', idEq'⟩
    have sameGate := sole.byId gate' member' (idEq'.trans idEq)
    obtain ⟨first, firstFound⟩ : ∃ first, findGateOfSchedule cfg gate.schedule = some first :=
      KeyedList.exists_find? sole.member rfl
    rcases KeyedList.mem_of_find? firstFound with ⟨memberFirst, named⟩
    have sameFirst := sole.bySchedule first memberFirst named
    rw [sameGate] at gateFound
    have target : target? cfg m = some (gate.streamGateId, schedule) :=
      target?_eq_some.mpr ⟨gate, gateFound, found, first, firstFound, by rw [sameFirst]⟩
    refine List.mem_flatMap.mpr ⟨m, memberM, ?_⟩
    rw [target, Option.toList_some, List.flatMap_singleton]
    exact List.mem_map_of_mem inside

/-- **Every gate gets its own schedule** exactly when schedules that several gates share have no
entries at all. -/
theorem eachGateOwn_iff {mapped : Configuration} {app app' app'' : AppState}
    {requests : List Request} (ids : (cfg.psfp.streamGates.map (·.streamGateId)).Nodup)
    (prepared : cfg.configureAppIdsStreamGateHyperperiod app = .ok (mapped, app'))
    (run : writeAllSchedules mapped app' = .ok (requests, app'')) :
    EachGateOwn cfg requests ↔ SharedAreEmpty cfg := by
  obtain ⟨mappings, related, rfl⟩ := configureAppIds_eq_ok prepared
  obtain ⟨_, identifiers, numbered⟩ := writeAllSchedules_eq_ok rfl run
  -- the lookups do not read the app mappings
  have numberedHere : Numbered (written cfg mappings) app'.uniqueIntervalIdentifier
      app''.uniqueIntervalIdentifier requests identifiers := numbered
  refine ⟨?_, ?_⟩
  · intro own gate member gate' member' differ sameName schedule scheduleFound t memberT
    rcases Nat.lt_or_ge t.high.toNat t.low.toNat with empty | nonempty
    · exact empty
    · obtain ⟨first, firstFound⟩ : ∃ first, findGateOfSchedule cfg gate.schedule = some first :=
        KeyedList.exists_find? member rfl
      rcases Decidable.em (first.streamGateId = gate.streamGateId) with isFirst | later
      · -- then the other gate is not the first one
        exact absurd own (not_eachGateOwn ids related numberedHere member' (sameName ▸ firstFound)
          (isFirst ▸ differ) (sameName ▸ scheduleFound) memberT nonempty)
      · exact absurd own (not_eachGateOwn ids related numberedHere member firstFound later
          scheduleFound memberT nonempty)
  · intro shared
    have same := written_sameEntries ids related shared
    refine ⟨identifiers, numberedHere.nodup, numberedHere.length_eq.trans same.length_eq, ?_⟩
    rw [numberedHere.requests_eq, decompositions_congr same]

/-- The sample configuration with the first of its gates only. -/
def singleGate : Configuration :=
  { Configuration.sample with
    psfp := { Configuration.sample.psfp with
      streamGates := [{ streamGateId := 1, schedule := "psfp" }] } }

/-- Two gates with schedules of their own, which share a range. -/
def gatePair : Configuration :=
  { Configuration.sample with
    psfp := { Configuration.sample.psfp with
      streamGates :=
        [{ streamGateId := 1, schedule := "psfp" }, { streamGateId := 2, schedule := "other" }]
      streamGateSchedules :=
        [{ name := "psfp", period := 8, intervals :=
            [{ low := 0, high := 4, state := 1, ipv := 0, octets := 100 },
             { low := 4, high := 8, state := 0, ipv := 0, octets := 100 }] },
         { name := "other", period := 6, intervals :=
            [{ low := 0, high := 4, state := 0, ipv := 0, octets := 100 },
             { low := 4, high := 6, state := 1, ipv := 2, octets := 100 }] }] } }

/-- Both gates get their own schedule. -/
theorem eachGateOwn_iff_pair :
    ∃ mapped app' requests app'',
      gatePair.configureAppIdsStreamGateHyperperiod AppState.new = .ok (mapped, app') ∧
        writeAllSchedules mapped app' = .ok (requests, app'') ∧
        EachGateOwn gatePair requests := by
  let mapped : Configuration :=
    { gatePair with psfp := { gatePair.psfp with
        appIdMappings := some
          [{ appId := 1, streamGateId := 1, hyperperiodDuration := 8 },
           { appId := 2, streamGateId := 2, hyperperiodDuration := 6 }] } }
  have prepared : gatePair.configureAppIdsStreamGateHyperperiod AppState.new =
      .ok (mapped, ⟨3, 0⟩) := rfl
  obtain ⟨⟨requests, app''⟩, run⟩ : ∃ x, writeAllSchedules mapped ⟨3, 0⟩ = .ok x :=
    writeAllSchedules_returns rfl
      (List.forall_mem_cons.mpr ⟨⟨_, rfl⟩, List.forall_mem_singleton.mpr ⟨_, rfl⟩⟩)
      (by decide) (by decide)
  have names : (gatePair.psfp.streamGates.map (·.schedule)).Nodup := by decide
  have shared : SharedAreEmpty gatePair := by
    intro gate member gate' member' differ same
    rw [List.inj_on_of_nodup_map names member member' same] at differ
    exact absurd rfl differ
  exact ⟨mapped, ⟨3, 0⟩, requests, app'', prepared, run,
    (eachGateOwn_iff (by decide) prepared run).mpr shared⟩

/-- The sample configuration's second gate names the schedule of the first, and gets no entries
although the schedule has some. -/
theorem second_gate_empty :
    ∃ mapped app' requests app'',
      Configuration.sample.configureAppIdsStreamGateHyperperiod AppState.new =
          .ok (mapped, app') ∧
        writeAllSchedules mapped app' = .ok (requests, app'') ∧
        (Configuration.sample.psfp.streamGates.map (·.streamGateId)).Nodup ∧
        (Configuration.sample.psfp.streamGateSchedules.map (·.name)).Nodup ∧
        ¬ EachGateOwn Configuration.sample requests := by
  let mapped : Configuration :=
    { Configuration.sample with psfp := Configuration.samplePrepared.psfp }
  have prepared : Configuration.sample.configureAppIdsStreamGateHyperperiod AppState.new =
      .ok (mapped, ⟨3, 0⟩) := rfl
  obtain ⟨⟨requests, app''⟩, run⟩ : ∃ x, writeAllSchedules mapped ⟨3, 0⟩ = .ok x :=
    writeAllSchedules_returns rfl
      (List.forall_mem_cons.mpr ⟨⟨_, rfl⟩, List.forall_mem_singleton.mpr ⟨_, rfl⟩⟩)
      (by decide) (by decide)
  obtain ⟨mappings, related, mappedEq⟩ := configureAppIds_eq_ok prepared
  obtain ⟨_, identifiers, numbered⟩ := writeAllSchedules_eq_ok (congrArg (·.psfp.appIdMappings)
    mappedEq) run
  rw [mappedEq] at numbered
  have ids : (Configuration.sample.psfp.streamGates.map (·.streamGateId)).Nodup := by decide
  refine ⟨mapped, ⟨3, 0⟩, requests, app'', prepared, run, ids, by decide, ?_⟩
  exact not_eachGateOwn ids related numbered (List.mem_cons_of_mem _ List.mem_cons_self) rfl
    (by decide) rfl List.mem_cons_self (by decide)

end StreamGateControlList

end P4Tas.Controller
