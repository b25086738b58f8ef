import Mathlib.Data.List.Pairwise
import P4Tas.Controller.GateSchedules
import P4Tas.Controller.GuardBands
import P4Tas.Controller.Hyperperiods

/-!
# The match keys of the generated entries

When the requests of each generator have pairwise different keys.

* `Numbered.noDuplicates_iff`, `written_apart_iff`: the entries of the stream gates;
* `gclEntries_noDuplicates_iff`, `configureTasQueueId_noDuplicates_iff`: the gate control entries;
* `configureAppIds_noDuplicates_iff`: the entries of the app and batch ids, with the
  exceeded-detection sets of the periods;
* `configureStreamIdentification_noDuplicates`, `configureFlowMeter_noDuplicates`: the rest.
-/

namespace P4Tas.Controller

open Request TernaryCover

/-- Some ternary entry belongs to both intervals. -/
def PSFPTimeSlice.ShareEntry (t t' : PSFPTimeSlice) : Prop :=
  ShareBlock t.low.toNat (t.high.toNat + 1) t'.low.toNat (t'.high.toNat + 1)

/-- Some ternary entry belongs to both slices. -/
def TASTimeSlice.ShareEntry (t t' : TASTimeSlice) : Prop :=
  ShareBlock t.low.toNat (t.high.toNat + 1) t'.low.toNat (t'.high.toNat + 1)

/-- Proper intervals in a chain share no entries. -/
theorem chain_apart {ι : Type} {low high : ι → Nat} {a b : Nat} {is : List ι}
    (chain : IntervalChain.Chain low high a is b) (proper : ∀ i ∈ is, low i < high i) :
    is.Pairwise fun i j => ¬ ShareBlock (low i) (high i + 1) (low j) (high j + 1) := by
  refine chain.pairwise.imp_of_mem fun {i j} memberI memberJ before => ?_
  have properI := proper i memberI
  have properJ := proper j memberJ
  exact not_shareBlock (by omega) (by omega) (by omega)

/-! ## Stream gates -/

namespace StreamGateControlList

theorem streamGateRequest_sameKey {streamGateId streamGateId' : U32} {gateState gateState' : U8}
    {ipv ipv' : U8} {identifier identifier' octets octets' : U32} {e e' : U32 × U32} :
    (streamGateRequest streamGateId gateState ipv identifier octets e).SameKey
        (streamGateRequest streamGateId' gateState' ipv' identifier' octets' e') ↔
      streamGateId = streamGateId' ∧ e = e' := by
  refine ⟨?_, ?_⟩
  · intro same
    have gate := MatchValue.exact.inj (same.2 .streamGateId)
    have block := MatchValue.ternary.inj (same.2 .diffTs)
    exact ⟨BitVec.eq_of_toNat_eq gate,
      Prod.ext (BitVec.eq_of_toNat_eq block.1) (BitVec.eq_of_toNat_eq block.2)⟩
  · intro same
    rcases same with ⟨rfl, rfl⟩
    exact sameKey_of_matchKeys rfl rfl

theorem intervalEntries_eq {t : PSFPTimeSlice} {es : List (U32 × U32)}
    (returns : ternaryBlocks t.low t.high = .ok es) (streamGateId identifier : U32) :
    intervalEntries streamGateId t identifier =
      es.map (streamGateRequest streamGateId t.state t.ipv identifier t.octets) := by
  unfold intervalEntries rangeToTernaryEntries
  rw [returns]
  rfl

/-- Written intervals have no entry twice when those of one gate share none. -/
theorem Numbered.noDuplicates_iff {pairs : List (U32 × PSFPTimeSlice)} {start last : U32}
    {requests : List Request} {identifiers : List U32}
    (numbered : Numbered pairs start last requests identifiers)
    (proper : ∀ pair ∈ pairs, pair.2.low.toNat < pair.2.high.toNat) :
    NoDuplicates requests ↔
      pairs.Pairwise fun x y => x.1 = y.1 → ¬ x.2.ShareEntry y.2 := by
  have written : ∀ x ∈ pairs.zip identifiers, x.1 ∈ pairs := fun x member =>
    (List.of_mem_zip member).1
  have each : ∀ x ∈ pairs.zip identifiers, NoDuplicates (intervalEntries x.1.1 x.1.2 x.2) := by
    intro x member
    rcases numbered.returns x.1 (written x member) with ⟨es, run⟩
    rw [intervalEntries_eq run]
    exact ternaryBlocks_noDuplicates (proper x.1 (written x member)).le run
      fun e e' same => (streamGateRequest_sameKey.mp same).2
  have two {x y : (U32 × PSFPTimeSlice) × U32} (memberX : x ∈ pairs.zip identifiers)
      (memberY : y ∈ pairs.zip identifiers) :
      (∀ r ∈ intervalEntries x.1.1 x.1.2 x.2, ∀ r' ∈ intervalEntries y.1.1 y.1.2 y.2,
        ¬ r.SameKey r') ↔ (x.1.1 = y.1.1 → ¬ x.1.2.ShareEntry y.1.2) := by
    rcases numbered.returns x.1 (written x memberX) with ⟨es, run⟩
    rcases numbered.returns y.1 (written y memberY) with ⟨es', run'⟩
    rw [intervalEntries_eq run, intervalEntries_eq run']
    exact ternaryBlocks_apart_iff (proper x.1 (written x memberX)).le run
      (proper y.1 (written y memberY)).le run' fun e e' => streamGateRequest_sameKey
  have pairs_eq : (pairs.zip identifiers).map Prod.fst = pairs :=
    List.map_fst_zip numbered.length_eq.ge
  rw [numbered.requests_eq, decompositions, noDuplicates_flatMap, and_iff_right each,
    List.Pairwise.iff_of_mem fun memberX memberY => two memberX memberY]
  conv_rhs => rw [← pairs_eq, List.pairwise_map]

theorem Numbered.table {pairs : List (U32 × PSFPTimeSlice)} {start last : U32}
    {requests : List Request} {identifiers : List U32}
    (numbered : Numbered pairs start last requests identifiers) :
    OfTables [.streamGateInstance] requests := by
  intro r member
  rw [numbered.requests_eq, decompositions] at member
  rcases List.mem_flatMap.mp member with ⟨x, memberX, member⟩
  rcases numbered.returns x.1 (List.of_mem_zip memberX).1 with ⟨es, run⟩
  rw [intervalEntries_eq run] at member
  rcases List.mem_map.mp member with ⟨_, _, rfl⟩
  exact List.mem_singleton.mpr rfl

/-- The intervals written for one gate, under the first gate that names its schedule. -/
def writtenFor (cfg : Configuration) (gate : StreamGate) : List (U32 × PSFPTimeSlice) :=
  (findGateOfSchedule cfg gate.schedule).toList.flatMap fun first =>
    (cfg.findSchedule gate.schedule).toList.flatMap (underGate first.streamGateId)

variable {cfg : Configuration}

theorem written_eq (ids : (cfg.psfp.streamGates.map (·.streamGateId)).Nodup)
    {mappings : List AppIDMapping}
    (related : List.Forall₂ cfg.IsAppMapping cfg.psfp.streamGates mappings) :
    written cfg mappings = cfg.psfp.streamGates.flatMap (writtenFor cfg) := by
  refine (KeyedList.flatMap_related related fun gate member m isApp => ?_).symm
  rcases target?_eq ids member isApp with ⟨first, schedule, firstFound, found, target⟩
  unfold writtenFor
  simp only [firstFound, found, target, Option.toList_some, List.flatMap_singleton]

theorem mem_writtenFor {gate : StreamGate} {pair : U32 × PSFPTimeSlice} :
    pair ∈ writtenFor cfg gate ↔
      ∃ first schedule, findGateOfSchedule cfg gate.schedule = some first ∧
        cfg.findSchedule gate.schedule = some schedule ∧ first.streamGateId = pair.1 ∧
        pair.2 ∈ schedule.intervals := by
  simp only [writtenFor, underGate, List.mem_flatMap, Option.mem_toList, List.mem_map,
    Prod.ext_iff]
  refine ⟨?_, ?_⟩
  · intro h
    rcases h with ⟨first, firstFound, schedule, found, t, memberT, idEq, rfl⟩
    exact ⟨first, schedule, firstFound, found, idEq, memberT⟩
  · intro h
    rcases h with ⟨first, schedule, firstFound, found, idEq, memberT⟩
    exact ⟨first, firstFound, schedule, found, pair.2, memberT, idEq, rfl⟩

/-- The intervals of every schedule are proper. -/
def ProperIntervals (cfg : Configuration) : Prop :=
  ∀ schedule ∈ cfg.psfp.streamGateSchedules, ∀ t ∈ schedule.intervals,
    t.low.toNat < t.high.toNat

instance (cfg : Configuration) : Decidable (ProperIntervals cfg) :=
  inferInstanceAs (Decidable (∀ schedule ∈ cfg.psfp.streamGateSchedules, ∀ t ∈ _, _))

theorem ProperIntervals.of_found (proper : ProperIntervals cfg) {name : String}
    {schedule : StreamGateControlList} (found : cfg.findSchedule name = some schedule) :
    ∀ t ∈ schedule.intervals, t.low.toNat < t.high.toNat :=
  proper schedule (KeyedList.mem_of_find? found).1

/-- No two intervals of a gate's schedule share an entry. -/
def IntervalsApart (cfg : Configuration) : Prop :=
  ∀ gate ∈ cfg.psfp.streamGates, ∀ schedule, cfg.findSchedule gate.schedule = some schedule →
    schedule.intervals.Pairwise fun t t' => ¬ t.ShareEntry t'

/-- What is written for one gate is apart when the intervals of its schedule are. -/
theorem writtenFor_apart_iff {gate : StreamGate} (member : gate ∈ cfg.psfp.streamGates) :
    ((writtenFor cfg gate).Pairwise fun x y => x.1 = y.1 → ¬ x.2.ShareEntry y.2) ↔
      ∀ schedule, cfg.findSchedule gate.schedule = some schedule →
        schedule.intervals.Pairwise fun t t' => ¬ t.ShareEntry t' := by
  obtain ⟨first, firstFound⟩ : ∃ first, findGateOfSchedule cfg gate.schedule = some first :=
    KeyedList.exists_find? member rfl
  unfold writtenFor underGate
  rw [firstFound, Option.toList_some, List.flatMap_singleton]
  cases found : cfg.findSchedule gate.schedule with
  | none => simp
  | some schedule => simp [List.pairwise_map]

/-- What is written for different gates is apart when they share no schedule with intervals. -/
theorem gates_apart_iff (ids : (cfg.psfp.streamGates.map (·.streamGateId)).Nodup)
    (proper : ProperIntervals cfg) :
    (cfg.psfp.streamGates.Pairwise fun gate gate' => ∀ x ∈ writtenFor cfg gate,
        ∀ y ∈ writtenFor cfg gate', x.1 = y.1 → ¬ x.2.ShareEntry y.2) ↔ SharedAreEmpty cfg := by
  refine ⟨?_, ?_⟩
  · intro apart gate member gate' member' differ sameName schedule found t memberT
    have symmetric : Std.Symm fun gate gate' : StreamGate => ∀ x ∈ writtenFor cfg gate,
        ∀ y ∈ writtenFor cfg gate', x.1 = y.1 → ¬ x.2.ShareEntry y.2 :=
      ⟨fun _ _ holds x memberX y memberY same share =>
        holds y memberY x memberX same.symm share.symm⟩
    have distinct : gate ≠ gate' := fun same => differ (congrArg StreamGate.streamGateId same)
    obtain ⟨first, firstFound⟩ : ∃ first, findGateOfSchedule cfg gate.schedule = some first :=
      KeyedList.exists_find? member rfl
    -- both gates write the interval under the id of the same gate
    have inGate : (first.streamGateId, t) ∈ writtenFor cfg gate :=
      mem_writtenFor.mpr ⟨first, schedule, firstFound, found, rfl, memberT⟩
    have inGate' : (first.streamGateId, t) ∈ writtenFor cfg gate' :=
      mem_writtenFor.mpr ⟨first, schedule, sameName ▸ firstFound, sameName ▸ found, rfl, memberT⟩
    have ordered := proper.of_found found t memberT
    have nonempty : t.low.toNat < t.high.toNat + 1 := by omega
    exact absurd (shareBlock_self nonempty)
      (apart.forall member member' distinct _ inGate _ inGate' rfl)
  · intro shared
    refine (List.pairwise_map.mp ids).imp_of_mem ?_
    intro gate gate' member member' differ x memberX y memberY same
    rcases mem_writtenFor.mp memberX with ⟨first, schedule, firstFound, found, idEq, memberT⟩
    rcases mem_writtenFor.mp memberY with ⟨first', _, firstFound', _, idEq', _⟩
    rcases KeyedList.mem_of_find? firstFound with ⟨memberFirst, named⟩
    rcases KeyedList.mem_of_find? firstFound' with ⟨memberFirst', named'⟩
    have first_eq : first = first' := List.inj_on_of_nodup_map ids memberFirst memberFirst'
      (idEq.trans (same.trans idEq'.symm))
    have sameName : gate.schedule = gate'.schedule := by rw [← named, first_eq, named']
    have empty := shared gate member gate' member' differ sameName schedule found x.2 memberT
    have ordered := proper.of_found found x.2 memberT
    omega

/-- The entries of the stream gates have different keys when no two gates share a schedule with
intervals and no two intervals of one schedule share an entry. -/
theorem written_apart_iff (ids : (cfg.psfp.streamGates.map (·.streamGateId)).Nodup)
    (proper : ProperIntervals cfg) {mappings : List AppIDMapping}
    (related : List.Forall₂ cfg.IsAppMapping cfg.psfp.streamGates mappings) :
    ((written cfg mappings).Pairwise fun x y => x.1 = y.1 → ¬ x.2.ShareEntry y.2) ↔
      SharedAreEmpty cfg ∧ IntervalsApart cfg := by
  rw [written_eq ids related, List.pairwise_flatMap, gates_apart_iff ids proper, and_comm]
  refine and_congr_right fun _ => forall₂_congr fun gate member => ?_
  exact writtenFor_apart_iff member

end StreamGateControlList

/-! ## Gate control -/

namespace TAS

theorem gateControlRequest_sameKey {pipeId pipeId' qId qId' batchId batchId' : U8}
    {action action' : Action} {word word' : U32} {e e' : U32 × U32} :
    (gateControlRequest pipeId qId batchId action word e).SameKey
        (gateControlRequest pipeId' qId' batchId' action' word' e') ↔
      (pipeId = pipeId' ∧ qId = qId' ∧ batchId = batchId') ∧ e = e' := by
  refine ⟨?_, ?_⟩
  · intro same
    have pipe := MatchValue.exact.inj (same.2 .timerPipeId)
    have queue := MatchValue.exact.inj (same.2 .timerPacketId)
    have batch := MatchValue.exact.inj (same.2 .timerBatchId)
    have block := MatchValue.ternary.inj (same.2 .gclTimeDiffTs)
    exact ⟨⟨BitVec.eq_of_toNat_eq pipe, BitVec.eq_of_toNat_eq queue, BitVec.eq_of_toNat_eq batch⟩,
      Prod.ext (BitVec.eq_of_toNat_eq block.1) (BitVec.eq_of_toNat_eq block.2)⟩
  · intro same
    rcases same with ⟨⟨rfl, rfl, rfl⟩, rfl⟩
    exact sameKey_of_matchKeys rfl rfl

variable {switch : Switch} {port batchId port' batchId' : U8} {t t' : TASTimeSlice}
  {queue queue' : U8 × U8} {es es' : List Request}

/-- The entries of two queues have a key in common when the slices share an entry and the port, the
queue and the batch are the same. -/
theorem queueEntries_apart_iff (proper : t.low.toNat < t.high.toNat)
    (proper' : t'.low.toNat < t'.high.toNat)
    (run : queueEntries switch port batchId t queue = .ok es)
    (run' : queueEntries switch port' batchId' t' queue' = .ok es') :
    (∀ r ∈ es, ∀ r' ∈ es', ¬ r.SameKey r') ↔
      (port >>> 7 = port' >>> 7 ∧ queue.1 = queue'.1 ∧ batchId = batchId' →
        ¬ t.ShareEntry t') := by
  rcases queueEntries_eq_ok run with ⟨_, entries, _, entriesRun, rfl⟩
  rcases queueEntries_eq_ok run' with ⟨_, entries', _, entriesRun', rfl⟩
  exact ternaryBlocks_apart_iff proper.le entriesRun proper'.le entriesRun'
    fun e e' => gateControlRequest_sameKey

theorem queueEntries_noDuplicates (proper : t.low.toNat < t.high.toNat)
    (run : queueEntries switch port batchId t queue = .ok es) : NoDuplicates es := by
  rcases queueEntries_eq_ok run with ⟨_, entries, _, entriesRun, rfl⟩
  exact ternaryBlocks_noDuplicates proper.le entriesRun
    fun e e' same => (gateControlRequest_sameKey.mp same).2

/-- The entries of one slice, queue by queue. -/
theorem sliceEntries_eq
    (run : Fallible.concatMap (queueEntries switch port batchId t) t.queueStates.entries = .ok es) :
    (∀ queue ∈ t.queueStates.entries, ∃ fs, queueEntries switch port batchId t queue = .ok fs) ∧
      es = t.queueStates.entries.flatMap fun queue =>
        Fallible.output (queueEntries switch port batchId t queue) :=
  Fallible.concatMap_eq_ok.mp run

/-- A slice lists no queue twice, so no entry is written twice for it. -/
theorem sliceEntries_noDuplicates (proper : t.low.toNat < t.high.toNat)
    (run : Fallible.concatMap (queueEntries switch port batchId t) t.queueStates.entries = .ok es) :
    NoDuplicates es := by
  rcases sliceEntries_eq run with ⟨returns, rfl⟩
  rw [noDuplicates_flatMap]
  refine ⟨fun queue member => ?_, ?_⟩
  · rcases returns queue member with ⟨fs, queueRun⟩
    rw [queueRun, Fallible.output_ok]
    exact queueEntries_noDuplicates proper queueRun
  · refine (List.pairwise_map.mp t.queueStates.nodup).imp_of_mem ?_
    intro queue queue' member member' differ
    rcases returns queue member with ⟨fs, queueRun⟩
    rcases returns queue' member' with ⟨fs', queueRun'⟩
    rw [queueRun, queueRun', Fallible.output_ok, Fallible.output_ok]
    exact (queueEntries_apart_iff proper proper queueRun queueRun').mpr fun same =>
      absurd same.2.1 differ

/-- Two slices list a common queue. -/
def CommonQueue (t t' : TASTimeSlice) : Prop :=
  ∃ q ∈ t.queueStates.keys, q ∈ t'.queueStates.keys

/-- The entries of two slices of one port and batch have a key in common when the slices list a
common queue and share an entry. -/
theorem sliceEntries_apart_iff (proper : t.low.toNat < t.high.toNat)
    (proper' : t'.low.toNat < t'.high.toNat)
    (run : Fallible.concatMap (queueEntries switch port batchId t) t.queueStates.entries = .ok es)
    (run' : Fallible.concatMap (queueEntries switch port batchId t') t'.queueStates.entries =
      .ok es') :
    (∀ r ∈ es, ∀ r' ∈ es', ¬ r.SameKey r') ↔ (CommonQueue t t' → ¬ t.ShareEntry t') := by
  rcases sliceEntries_eq run with ⟨returns, rfl⟩
  rcases sliceEntries_eq run' with ⟨returns', rfl⟩
  have queues {queue queue' : U8 × U8} (member : queue ∈ t.queueStates.entries)
      (member' : queue' ∈ t'.queueStates.entries) :
      (∀ r ∈ Fallible.output (queueEntries switch port batchId t queue),
        ∀ r' ∈ Fallible.output (queueEntries switch port batchId t' queue'), ¬ r.SameKey r') ↔
        (queue.1 = queue'.1 → ¬ t.ShareEntry t') := by
    rcases returns queue member with ⟨fs, queueRun⟩
    rcases returns' queue' member' with ⟨fs', queueRun'⟩
    rw [queueRun, queueRun', Fallible.output_ok, Fallible.output_ok,
      queueEntries_apart_iff proper proper' queueRun queueRun']
    simp only [true_and, and_true]
  refine ⟨?_, ?_⟩
  · intro apart common
    rcases common with ⟨q, listed, listed'⟩
    rcases QueueStates.mem_keys.mp listed with ⟨state, member⟩
    rcases QueueStates.mem_keys.mp listed' with ⟨state', member'⟩
    refine (queues member member').mp (fun r inFirst r' inSecond => ?_) rfl
    exact apart r (List.mem_flatMap.mpr ⟨_, member, inFirst⟩) r'
      (List.mem_flatMap.mpr ⟨_, member', inSecond⟩)
  · intro apart r inFirst r' inSecond
    rcases List.mem_flatMap.mp inFirst with ⟨queue, member, inFirst⟩
    rcases List.mem_flatMap.mp inSecond with ⟨queue', member', inSecond⟩
    refine (queues member member').mpr (fun same => apart ⟨queue.1, ?_, ?_⟩) r inFirst r' inSecond
    · exact List.mem_map_of_mem member
    · exact same ▸ List.mem_map_of_mem member'

/-- The entries of a GCL have different keys when no two of its slices list a common queue and
share an entry. -/
theorem gclEntries_noDuplicates_iff {slices : List TASTimeSlice}
    (proper : ∀ t ∈ slices, t.low.toNat < t.high.toNat)
    (run : gclEntries switch port batchId slices = .ok es) :
    NoDuplicates es ↔ slices.Pairwise fun t t' => CommonQueue t t' → ¬ t.ShareEntry t' := by
  rcases Fallible.concatMap_eq_ok.mp run with ⟨returns, rfl⟩
  have each : ∀ t ∈ slices, NoDuplicates (Fallible.output
      (Fallible.concatMap (queueEntries switch port batchId t) t.queueStates.entries)) := by
    intro t member
    rcases returns t member with ⟨fs, sliceRun⟩
    rw [sliceRun]
    exact sliceEntries_noDuplicates (proper t member) sliceRun
  rw [noDuplicates_flatMap, and_iff_right each]
  refine List.Pairwise.iff_of_mem fun {t t'} member member' => ?_
  rcases returns t member with ⟨fs, sliceRun⟩
  rcases returns t' member' with ⟨fs', sliceRun'⟩
  rw [sliceRun, sliceRun']
  exact sliceEntries_apart_iff (proper t member) (proper t' member') sliceRun sliceRun'

/-- Every entry of a GCL is a gate control entry that carries the batch id. -/
theorem gclEntries_batchId {slices : List TASTimeSlice}
    (run : gclEntries switch port batchId slices = .ok es) :
    ∀ r ∈ es, r.table = .gateControlList ∧ r.keyValue .timerBatchId = .exact batchId.toNat := by
  intro r member
  rcases gclEntries_mem run member with ⟨_, _, _, _, rfl⟩
  exact ⟨rfl, rfl⟩

/-- No two slices of a mapped GCL without guard bands list a common queue and share an entry. -/
def SlicesApart (cfg : Configuration) : Prop :=
  ∀ mapping ∈ cfg.tas.gclToPortMapping, ∀ gcl, cfg.findGcl mapping.gcl = some gcl →
    gcl.guardBandWidth = 0 →
      gcl.timeSlices.Pairwise fun t t' => CommonQueue t t' → ¬ t.ShareEntry t'

/-- The time slices of every GCL are proper. -/
def ProperSlices (cfg : Configuration) : Prop :=
  ∀ gcl ∈ cfg.tas.gcls, ∀ t ∈ gcl.timeSlices, t.low.toNat < t.high.toNat

instance (cfg : Configuration) : Decidable (ProperSlices cfg) :=
  inferInstanceAs (Decidable (∀ gcl ∈ cfg.tas.gcls, ∀ t ∈ _, _))

/-- Guard bands keep the slices of a GCL apart. -/
theorem guarded_apart_iff {gcl guarded : GateControlList}
    (proper : ∀ t ∈ gcl.timeSlices, t.low.toNat < t.high.toNat)
    (run : gcl.insertGuardBands = .ok guarded) :
    (guarded.timeSlices.Pairwise fun t t' => CommonQueue t t' → ¬ t.ShareEntry t') ↔
      (gcl.guardBandWidth = 0 →
        gcl.timeSlices.Pairwise fun t t' => CommonQueue t t' → ¬ t.ShareEntry t') := by
  rcases GateControlList.insertGuardBands_eq_ok run with ⟨none, rfl⟩ | ⟨wide, slicesRun, _⟩
  · simp only [none, forall_const]
  · rcases guardedSlices_proper wide proper slicesRun with ⟨⟨b, chain⟩, properGuarded⟩
    have apart : guarded.timeSlices.Pairwise fun t t' => ¬ t.ShareEntry t' :=
      chain_apart chain properGuarded
    simp only [wide, false_imp_iff, iff_true]
    refine apart.imp ?_
    intro t t' unshared _
    exact unshared

variable {cfg out : Configuration} {apps : List AppIDMapping} {batches : List BatchIDMapping}

/-- The gate control entries have different keys when the slices of every mapped GCL are apart. -/
theorem configureTasQueueId_noDuplicates_iff
    (prepared : Configuration.Prepared cfg out apps batches)
    (ports : (cfg.tas.gclToPortMapping.map (·.port)).Nodup) (proper : ProperSlices cfg)
    {reqs : List Request} (run : configureTasQueueId switch out = .ok reqs) :
    OfTables [.gateControlList] reqs ∧ (NoDuplicates reqs ↔ SlicesApart cfg) := by
  rcases Fallible.concatMap_eq_ok.mp run with ⟨returns, rfl⟩
  rw [prepared.mappings_eq] at returns ⊢
  refine ⟨fun r member => ?_, ?_⟩
  · rcases List.mem_flatMap.mp member with ⟨mapping, mapped, member⟩
    rcases returns mapping mapped with ⟨es, mappingRun⟩
    rw [mappingRun] at member
    rcases mappingEntries_eq_ok mappingRun with ⟨_, _, _, _, gclRun⟩
    exact List.mem_singleton.mpr (gclEntries_batchId gclRun r member).1
  have foreign : cfg.tas.gclToPortMapping.Pairwise fun mapping mapping' =>
      ∀ r ∈ Fallible.output (mappingEntries switch out mapping),
        ∀ r' ∈ Fallible.output (mappingEntries switch out mapping'), ¬ r.SameKey r' := by
    refine (List.pairwise_map.mp ports).imp_of_mem ?_
    intro mapping mapping' member member' differ r inFirst r' inSecond same
    rcases returns mapping member with ⟨es, mappingRun⟩
    rcases returns mapping' member' with ⟨es', mappingRun'⟩
    rw [mappingRun] at inFirst
    rw [mappingRun'] at inSecond
    rcases mappingEntries_eq_ok mappingRun with ⟨_, batchId, _, batch, gclRun⟩
    rcases mappingEntries_eq_ok mappingRun' with ⟨_, batchId', _, batch', gclRun'⟩
    have keys := same.2 .timerBatchId
    rw [(gclEntries_batchId gclRun r inFirst).2, (gclEntries_batchId gclRun' r' inSecond).2] at keys
    have batch_eq := BitVec.eq_of_toNat_eq (MatchValue.exact.inj keys)
    exact differ (prepared.port_eq_of_batchId? batch (batch_eq ▸ batch'))
  rw [noDuplicates_flatMap, and_iff_left foreign]
  refine forall₂_congr fun mapping member => ?_
  rcases returns mapping member with ⟨es, mappingRun⟩
  rcases mappingEntries_eq_ok mappingRun with ⟨guarded, _, foundGuarded, _, gclRun⟩
  rcases prepared.findGcl_guarded foundGuarded with ⟨gcl, found, guardRun⟩
  have properGcl := proper gcl (KeyedList.mem_of_find? found).1
  have properGuarded := GateControlList.insertGuardBands_proper properGcl guardRun
  rw [mappingRun, Fallible.output_ok, gclEntries_noDuplicates_iff properGuarded gclRun,
    guarded_apart_iff properGcl guardRun]
  simp only [found, Option.some.injEq, forall_eq']

end TAS

/-! ## App ids, batch ids and periods -/

namespace PacketGenerator

open DeltaAdjustment

/-- Two periods of two iterations: they differ, or they have no entries, since no bit of the
position is a zero. -/
def PeriodsApart (p q : Nat) : Prop :=
  p = q → p % 2 ^ 48 = 2 ^ 48 - 1

instance (p q : Nat) : Decidable (PeriodsApart p q) :=
  inferInstanceAs (Decidable (_ → _))

theorem exceededRequest_sameKey {hyperperiod hyperperiod' : U64} {i i' : Nat} :
    (exceededRequest hyperperiod i).SameKey (exceededRequest hyperperiod' i') ↔
      hyperperiod = hyperperiod' ∧ i = i' := by
  refine ⟨?_, ?_⟩
  · intro same
    have duration := MatchValue.exact.inj (same.2 .hyperperiodDuration)
    exact ⟨BitVec.eq_of_toNat_eq duration, MatchValue.exact.inj (same.2 .matchPriority)⟩
  · intro same
    rcases same with ⟨rfl, rfl⟩
    exact sameKey_of_matchKeys rfl rfl

/-- The set of one period has every rank once. -/
theorem exceeded_noDuplicates (hyperperiod : U64) :
    NoDuplicates (initHyperperiodExceededDetectionTable hyperperiod) := by
  refine exceeded_pairwise fun i j _ _ differ _ _ same => ?_
  exact differ (exceededRequest_sameKey.mp same).2

/-- A period has no exceeded-detection entry when its 48 low bits are all ones. -/
theorem exceeded_eq_nil_iff {hyperperiod : U64} :
    (∀ i, i < 48 → (hyperperiod &&& all).toNat.testBit i = true) ↔
      hyperperiod.toNat % 2 ^ 48 = 2 ^ 48 - 1 := by
  rw [toNat_and_all]
  refine ⟨?_, ?_⟩
  · intro set
    apply Nat.eq_of_testBit_eq
    intro i
    rw [Nat.testBit_two_pow_sub_one]
    rcases Nat.lt_or_ge i 48 with inside | outside
    · rw [set i inside, decide_eq_true inside]
    · rw [Nat.testBit_mod_two_pow, decide_eq_false (Nat.not_lt_of_ge outside), Bool.false_and]
  · intro ones i inside
    rw [ones, Nat.testBit_two_pow_sub_one, decide_eq_true inside]

/-- The sets of two periods have a key in common when the periods are the same. -/
theorem exceeded_apart_iff {hyperperiod hyperperiod' : U64} :
    (∀ r ∈ initHyperperiodExceededDetectionTable hyperperiod,
        ∀ r' ∈ initHyperperiodExceededDetectionTable hyperperiod', ¬ r.SameKey r') ↔
      PeriodsApart hyperperiod.toNat hyperperiod'.toNat := by
  unfold PeriodsApart
  rw [← exceeded_eq_nil_iff]
  refine ⟨?_, ?_⟩
  · intro apart same i inside
    cases BitVec.eq_of_toNat_eq same
    by_contra unset
    have member := mem_exceeded.mpr ⟨i, inside, Bool.eq_false_of_not_eq_true unset, rfl⟩
    exact apart _ member _ member (sameKey_of_matchKeys rfl rfl)
  · intro apart r inFirst r' inSecond same
    rcases mem_exceeded.mp inFirst with ⟨i, inside, unset, rfl⟩
    rcases mem_exceeded.mp inSecond with ⟨i', _, _, rfl⟩
    have period_eq := (exceededRequest_sameKey.mp same).1
    have set := apart (congrArg BitVec.toNat period_eq) i inside
    rw [unset] at set
    cases set

/-- The sets of several periods. -/
theorem exceededSets_noDuplicates_iff {hyperperiods : List U64} :
    NoDuplicates (hyperperiods.flatMap initHyperperiodExceededDetectionTable) ↔
      (hyperperiods.map BitVec.toNat).Pairwise PeriodsApart := by
  rw [noDuplicates_flatMap, and_iff_right fun hyperperiod _ => exceeded_noDuplicates hyperperiod,
    List.pairwise_map]
  simp only [exceeded_apart_iff]

variable {apps : List AppIDMapping} {batches : List BatchIDMapping}

/-- The requests of `configure_app_ids`, table by table. -/
theorem configureAppIds_perm (apps : List AppIDMapping) (batches : List BatchIDMapping) :
    (apps.flatMap gateRequests ++ batches.flatMap portRequests).Perm
      (apps.map appIdStreamGateRequest ++
        (batches.map appIdTasRequest ++ (batches.map batchIdToPortRequest ++
          (apps.map (·.hyperperiodDuration) ++ batches.map (·.hyperperiodDuration)).flatMap
            initHyperperiodExceededDetectionTable))) := by
  have gates : (apps.flatMap gateRequests).Perm (apps.map appIdStreamGateRequest ++
      apps.flatMap fun m => initHyperperiodExceededDetectionTable m.hyperperiodDuration) :=
    (List.map_append_flatMap_perm apps _ _).symm
  have ports : (batches.flatMap portRequests).Perm (batches.map appIdTasRequest ++
      (batches.map batchIdToPortRequest ++
        batches.flatMap fun b => initHyperperiodExceededDetectionTable b.hyperperiodDuration)) :=
    (List.map_append_flatMap_perm batches _ _).symm.trans
      ((List.map_append_flatMap_perm batches _ _).symm.append_left _)
  rw [List.flatMap_append, List.flatMap_map, List.flatMap_map]
  refine (gates.append ports).trans ?_
  rw [List.append_assoc]
  refine List.Perm.append_left _ ?_
  -- the sets of the gates' periods move past the ids of the ports
  exact (List.perm_append_comm_assoc _ _ _).trans
    ((List.perm_append_comm_assoc _ _ _).append_left _)

end PacketGenerator

namespace Configuration

/-- The periods of the gates' schedules, and those of the mapped ports' GCLs with their guard
bands. -/
def periods (cfg : Configuration) : List Nat :=
  (cfg.psfp.streamGates.flatMap fun gate =>
    (cfg.findSchedule gate.schedule).toList.map (·.period.toNat)) ++
  cfg.tas.gclToPortMapping.flatMap fun mapping =>
    (cfg.findGcl mapping.gcl).toList.map GateControlList.guardedPeriod

variable {cfg out : Configuration} {apps : List AppIDMapping} {batches : List BatchIDMapping}

/-- They are the periods of the app and the batch mappings. -/
theorem Prepared.periods_eq (prepared : Prepared cfg out apps batches) :
    cfg.periods = (apps.map (·.hyperperiodDuration) ++ batches.map (·.hyperperiodDuration)).map
      BitVec.toNat := by
  have gates : (cfg.psfp.streamGates.flatMap fun gate =>
      (cfg.findSchedule gate.schedule).toList.map (·.period.toNat)) =
      apps.flatMap fun m => [m.hyperperiodDuration.toNat] := by
    refine KeyedList.flatMap_related prepared.apps_gates fun gate _ m isApp => ?_
    rcases isApp.2 with ⟨schedule, found, period_eq⟩
    rw [found, period_eq]
    rfl
  have ports : (cfg.tas.gclToPortMapping.flatMap fun mapping =>
      (cfg.findGcl mapping.gcl).toList.map GateControlList.guardedPeriod) =
      batches.flatMap fun b => [b.hyperperiodDuration.toNat] := by
    refine KeyedList.flatMap_related prepared.batches_ports fun mapping _ b isBatch => ?_
    rcases isBatch.2 with ⟨guarded, foundGuarded, period_eq⟩
    rcases prepared.findGcl_guarded foundGuarded with ⟨gcl, found, run⟩
    have small := guarded.period.isLt
    rw [found, period_eq, BitVec.toNat_setWidth, Nat.mod_eq_of_lt (by omega),
      GateControlList.insertGuardBands_period run]
    rfl
  unfold periods
  rw [gates, ports, ← List.map_eq_flatMap, ← List.map_eq_flatMap, List.map_append, List.map_map,
    List.map_map]
  rfl

end Configuration

namespace PacketGenerator

variable {cfg out : Configuration} {apps : List AppIDMapping} {batches : List BatchIDMapping}
  {reqs : List Request}

theorem exceededSets_table (hyperperiods : List U64) :
    OfTables [.hyperperiodExceededDetection]
      (hyperperiods.flatMap DeltaAdjustment.initHyperperiodExceededDetectionTable) := by
  intro r member
  rcases List.mem_flatMap.mp member with ⟨hyperperiod, _, member⟩
  exact List.mem_singleton.mpr (exceeded_table member).1

/-- The tables `configure_app_ids` writes. -/
def appIdTables : List Table :=
  [.appIdStreamGate, .appIdTas, .batchIdToPort, .hyperperiodExceededDetection]

/-- The app and batch ids are distinct, so only the sets of equal periods have keys in common. -/
theorem configureAppIds_noDuplicates_iff (prepared : Configuration.Prepared cfg out apps batches)
    (run : configureAppIds out = .ok reqs) :
    OfTables appIdTables reqs ∧ (NoDuplicates reqs ↔ cfg.periods.Pairwise PeriodsApart) := by
  have perm := configureAppIds_perm apps batches
  rw [← Except.ok.inj (run.symm.trans prepared.configureAppIds_eq)] at perm
  have gateIds := OfTables.map appIdStreamGateRequest (fun _ => rfl) apps
  have tasIds := OfTables.map appIdTasRequest (fun _ => rfl) batches
  have batchIds := OfTables.map batchIdToPortRequest (fun _ => rfl) batches
  have sets := exceededSets_table
    (apps.map (·.hyperperiodDuration) ++ batches.map (·.hyperperiodDuration))
  have gateIdsDistinct : NoDuplicates (apps.map appIdStreamGateRequest) :=
    .of_distinct appIdStreamGateRequest (fun m => m.appId.toNat)
      (fun _ _ same => MatchValue.exact.inj (same.2 .timerAppId)) prepared.appIds_distinct.1
  have tasIdsDistinct : NoDuplicates (batches.map appIdTasRequest) :=
    .of_distinct appIdTasRequest (fun b => b.appId.toNat)
      (fun _ _ same => MatchValue.exact.inj (same.2 .timerAppId)) prepared.appIds_distinct.2
  have batchIdsDistinct : NoDuplicates (batches.map batchIdToPortRequest) :=
    .of_distinct batchIdToPortRequest (fun b => b.batchId.toNat)
      (fun _ _ same => MatchValue.exact.inj (same.2 .timerBatchId))
      (prepared.batch_ids ▸ List.nodup_range)
  refine ⟨fun r member => ?_, ?_⟩
  · exact (gateIds.append (tasIds.append (batchIds.append sets))) r (perm.mem_iff.mp member)
  · rw [noDuplicates_perm perm,
      noDuplicates_append gateIds (tasIds.append (batchIds.append sets)) (by decide),
      noDuplicates_append tasIds (batchIds.append sets) (by decide),
      noDuplicates_append batchIds sets (by decide), exceededSets_noDuplicates_iff,
      ← prepared.periods_eq, and_iff_right gateIdsDistinct, and_iff_right tasIdsDistinct,
      and_iff_right batchIdsDistinct]

end PacketGenerator

/-! ## The other entries -/

namespace Configuration

variable {macFromStr : String → Option (List U8)} {cfg : Configuration}

/-- What a stream is identified by; an address that is not given is compared with nothing. -/
def streamKey (macFromStr : String → Option (List U8)) (stream : Stream) :
    Option Nat × U16 × U32 × U32 :=
  ((macFromStr stream.ethDst).map bytesValue, stream.vid, stream.ipv4Src.getD 0,
    stream.ipv4Dst.getD 0)

/-- The keys of a stream's entry. -/
theorem IsStreamEntry.keyValues {stream : Stream} {r : Request}
    (entry : cfg.IsStreamEntry macFromStr stream r) :
    (∃ ethDst, macFromStr stream.ethDst = some ethDst ∧
        r.keyValue .ethernetDstAddr = .exact (bytesValue ethDst)) ∧
      r.keyValue .eth8021qVid = .exact stream.vid.toNat ∧
      r.keyValue .ipv4SrcAddr =
        .ternary (stream.ipv4Src.getD 0).toNat (stream.ipv4Src.getD 0).toNat ∧
      r.keyValue .ipv4DstAddr =
        .ternary (stream.ipv4Dst.getD 0).toNat (stream.ipv4Dst.getD 0).toNat := by
  rcases entry.keys with ⟨ethDst, parsed, keys⟩
  unfold keyValue key?
  rw [keys]
  refine ⟨⟨ethDst, parsed, rfl⟩, rfl, ?_⟩
  cases stream.ipv4Src with
  | none =>
    cases stream.ipv4Dst with
    | none => exact ⟨rfl, rfl⟩
    | some dst => exact ⟨rfl, rfl⟩
  | some src =>
    cases stream.ipv4Dst with
    | none => exact ⟨rfl, rfl⟩
    | some dst => exact ⟨rfl, rfl⟩

/-- Entries with the same key are those of streams that are identified by the same. -/
theorem IsStreamEntry.streamKey_eq {stream stream' : Stream} {r r' : Request}
    (entry : cfg.IsStreamEntry macFromStr stream r)
    (entry' : cfg.IsStreamEntry macFromStr stream' r') (same : r.SameKey r') :
    streamKey macFromStr stream = streamKey macFromStr stream' := by
  rcases entry.keyValues with ⟨⟨ethDst, parsed, mac⟩, vid, src, dst⟩
  rcases entry'.keyValues with ⟨⟨ethDst', parsed', mac'⟩, vid', src', dst'⟩
  have mac_eq := MatchValue.exact.inj (mac.symm.trans ((same.2 _).trans mac'))
  have vid_eq := MatchValue.exact.inj (vid.symm.trans ((same.2 _).trans vid'))
  have src_eq := (MatchValue.ternary.inj (src.symm.trans ((same.2 _).trans src'))).1
  have dst_eq := (MatchValue.ternary.inj (dst.symm.trans ((same.2 _).trans dst'))).1
  unfold streamKey
  rw [parsed, parsed', BitVec.eq_of_toNat_eq vid_eq, BitVec.eq_of_toNat_eq src_eq,
    BitVec.eq_of_toNat_eq dst_eq, Option.map_some, Option.map_some, mac_eq]

theorem configureStreamIdentification_noDuplicates
    (distinct : (cfg.psfp.streams.map (streamKey macFromStr)).Nodup) {reqs : List Request}
    (run : cfg.configureStreamIdentification macFromStr = .ok reqs) :
    OfTables [.streamId] reqs ∧ NoDuplicates reqs := by
  have related := configureStreamIdentification_eq_ok.mp run
  refine ⟨fun r member => ?_, ?_⟩
  · rcases configureStreamIdentification_mem run member with ⟨stream, _, entry⟩
    exact List.mem_singleton.mpr entry.table_eq
  · refine KeyedList.pairwise_related related ?_ (List.pairwise_map.mp distinct)
    intro stream r stream' r' requested requested' differ same
    exact differ ((streamIdRequest_isStreamEntry requested).streamKey_eq
      (streamIdRequest_isStreamEntry requested') same)

theorem configureFlowMeter_noDuplicates
    (distinct : (cfg.psfp.flowMeters.map (·.flowMeterId)).Nodup) :
    OfTables [.flowMeterInstance] cfg.configureFlowMeter ∧ NoDuplicates cfg.configureFlowMeter := by
  refine ⟨OfTables.map flowMeterRequest (fun _ => rfl) _,
    .of_distinct flowMeterRequest (·.flowMeterId) ?_ distinct⟩
  intro f f' same
  exact BitVec.eq_of_toNat_eq (MatchValue.exact.inj (same.2 .flowMeterInstanceId))

end Configuration

theorem TAS.configureTasControlRecirculation_noDuplicates :
    OfTables [.mappingTasControlRecirculationPort] configureTasControlRecirculation ∧
      NoDuplicates configureTasControlRecirculation := by
  refine ⟨OfTables.map recirculationRequest (fun _ => rfl) _,
    .of_distinct recirculationRequest Prod.snd ?_ (by decide)⟩
  intro x y same
  exact MatchValue.exact.inj (same.2 .timerPipeId)

theorem DeltaAdjustment.initUnderflowDetectionTable_noDuplicates :
    OfTables [.underflowDetection] initUnderflowDetectionTable ∧
      NoDuplicates initUnderflowDetectionTable := by
  refine ⟨fun r member => ?_, List.pairwise_pair.mpr fun same => ?_⟩
  · rcases List.mem_pair.mp member with rfl | rfl
    · exact List.mem_singleton.mpr rfl
    · exact List.mem_singleton.mpr rfl
  · have ranks := MatchValue.exact.inj (same.2 .matchPriority)
    cases ranks

end P4Tas.Controller
