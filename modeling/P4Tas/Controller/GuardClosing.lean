import P4Tas.Controller.GuardedSchedule
import P4Tas.Controller.TasEntries
import P4Tas.Lib.Transition

/-!
# Which queues a guard band closes

The guard band after a slice lists the queues of that slice and closes them.  A queue that the slice
does not list has no entry there, and a control packet for it misses the table.

* `gclEntries_closesIn_iff`: a guard band closes a queue exactly when the slice before it lists the
  queue;
* `guardBands_close_iff`: the guard bands of a mapped GCL close every queue that some slice opens
  exactly when every slice lists these queues.
-/

namespace P4Tas.Controller

namespace GateControlList

/-- Some slice opens the queue. -/
def Opens (gcl : GateControlList) (q : U8) : Prop :=
  ∃ t ∈ gcl.timeSlices, t.queueStates.state? q = some 0

/-- Every slice lists, in whatever state, every queue that some slice opens. -/
def ListsOpened (gcl : GateControlList) : Prop :=
  ∀ q, gcl.Opens q → ∀ t ∈ gcl.timeSlices, q ∈ t.queueStates.keys

/-- In the guarded GCL every second slice is a guard band. -/
def IsGuardBand (guarded : GateControlList) (g : TASTimeSlice) : Prop :=
  ∃ i, guarded.timeSlices[2 * i + 1]? = some g

end GateControlList

namespace TAS

open Request (hits)
open Transition (Run)

/-- A control packet for the queue at a position of the hyperperiod.  An entry that it hits sets the
gate, which of several is not specified, and a missed time slot leaves the gate as it was. -/
def GateStep (port batchId q : U8) (es : List Request) (gate : Option Action) (p : Nat)
    (gate' : Option Action) : Prop :=
  (∃ r ∈ hits (controlPacket (port >>> 7) q batchId p) es, gate' = some r.action) ∨
    (hits (controlPacket (port >>> 7) q batchId p) es = [] ∧ gate' = gate)

/-- The entries close the queue throughout the slice: at every position some entry for the queue
closes it, and a run whose last control packet lies inside the slice leaves the gate closed. -/
structure ClosesIn (port batchId q : U8) (es : List Request) (g : TASTimeSlice) : Prop where
  covered : ∀ p, g.Contains p →
    ∃ r ∈ hits (controlPacket (port >>> 7) q batchId p) es, r.action = .closeQueue
  held : ∀ ps p gate, g.low.toNat < p → p < g.high.toNat →
    Run (GateStep port batchId q es) none (ps ++ [p]) gate → gate = some .closeQueue

variable {switch : Switch} {port batchId q : U8} {p : Nat} {slices : List TASTimeSlice}
  {es : List Request}

/-- Only the slices that contain the position decide. -/
theorem flatMap_sliceDecisions (slices : List TASTimeSlice) :
    slices.flatMap (sliceDecisions switch port q p) =
      (slices.filter fun t => decide (t.Contains p)).flatMap fun t =>
        (t.queueStates.state? q).toList.map (queueDecision switch port q) := by
  induction slices with
  | nil => rfl
  | cons t slices ih =>
    rw [List.flatMap_cons, ih]
    unfold sliceDecisions
    rcases Decidable.em (t.Contains p) with here | away
    · rw [if_pos here, List.filter_cons_of_pos (by simpa using here), List.flatMap_cons]
    · rw [if_neg away, List.filter_cons_of_neg (by simpa using away), List.nil_append]

/-- What a port's own control packets hit. -/
theorem gclEntries_own_hits (run : gclEntries switch port batchId slices = .ok es) (q : U8)
    (small : p < 2 ^ 32) :
    (hits (controlPacket (port >>> 7) q batchId p) es).map decision =
      slices.flatMap (sliceDecisions switch port q p) := by
  rw [gclEntries_hits run (port >>> 7) q batchId small]
  exact if_pos ⟨rfl, rfl⟩

theorem state?_setAll {qs : QueueStates} (listed : q ∈ qs.keys) :
    (qs.setAll 1).state? q = some 1 :=
  QueueStates.state?_eq_some.mpr (QueueStates.mem_setAll.mpr ⟨listed, rfl⟩)

/-- A control packet that hits a single entry does as it says. -/
theorem GateStep.of_single {gate gate' : Option Action}
    (step : GateStep port batchId q es gate p gate') {r : Request}
    (single : hits (controlPacket (port >>> 7) q batchId p) es = [r]) :
    gate' = some r.action := by
  rcases step with ⟨r', found, set⟩ | ⟨missed, _⟩
  · rw [single, List.mem_singleton] at found
    rw [set, found]
  · exact absurd (missed.symm.trans single) (List.cons_ne_nil r []).symm

/-- A slice that closes the queue does so throughout. -/
theorem closesIn_of_closed {a b : Nat} (chain : TASTimeSlice.Chain a slices b)
    (run : gclEntries switch port batchId slices = .ok es) {g : TASTimeSlice} (member : g ∈ slices)
    (closed : g.queueStates.state? q = some 1) : ClosesIn port batchId q es g := by
  have bound := g.high.isLt
  refine ⟨fun p inside => ?_, fun ps p gate lower upper steps => ?_⟩
  · have hit := gclEntries_own_hits run q (p := p) (inside.2.trans_lt bound)
    have decided : queueDecision switch port q 1 ∈
        slices.flatMap (sliceDecisions switch port q p) :=
      List.mem_flatMap.mpr ⟨g, member, mem_sliceDecisions.mpr ⟨inside, 1, closed, rfl⟩⟩
    rw [← hit] at decided
    rcases List.mem_map.mp decided with ⟨r, found, decides⟩
    exact ⟨r, found, (Prod.mk.inj decides).1⟩
  · have hit := gclEntries_own_hits run q (p := p) (upper.trans bound)
    rw [flatMap_sliceDecisions, chain.filter_inner member lower upper, List.flatMap_singleton,
      closed, Option.toList_some, List.map_singleton] at hit
    rcases List.map_eq_singleton_iff.mp hit with ⟨r, single, decides⟩
    rcases Run.append_iff.mp steps with ⟨before, _, last⟩
    rcases Run.cons_iff.mp last with ⟨after, step, done⟩
    cases Run.nil_iff.mp done
    rw [step.of_single single]
    exact congrArg some (Prod.mk.inj decides).1

/-- A slice that is covered at its start, where the slice before it ends, lists the queue, or that
slice does. -/
theorem listed_of_covered {a b : Nat} (chain : TASTimeSlice.Chain a slices b)
    (proper : ∀ t ∈ slices, t.low.toNat < t.high.toNat)
    (run : gclEntries switch port batchId slices = .ok es) {t g : TASTimeSlice}
    (memberT : t ∈ slices) (member : g ∈ slices) (meet : t.high.toNat = g.low.toNat)
    (closes : ClosesIn port batchId q es g) :
    q ∈ t.queueStates.keys ∨ q ∈ g.queueStates.keys := by
  have bound := g.low.isLt
  have properG := proper g member
  rcases closes.covered g.low.toNat ⟨le_refl _, properG.le⟩ with ⟨r, found, _⟩
  have hit := gclEntries_own_hits run q bound
  have decided : decision r ∈ slices.flatMap (sliceDecisions switch port q g.low.toNat) := by
    rw [← hit]
    exact List.mem_map_of_mem found
  rcases List.mem_flatMap.mp decided with ⟨u, memberU, decidedU⟩
  rcases mem_sliceDecisions.mp decidedU with ⟨inside, state, entry, _⟩
  have listed : q ∈ u.queueStates.keys :=
    QueueStates.mem_keys.mpr ⟨state, QueueStates.state?_eq_some.mp entry⟩
  rw [← meet] at inside
  rcases chain.eq_of_shared_end proper memberT member memberU meet inside with rfl | rfl
  · exact .inl listed
  · exact .inr listed

/-- A guard band closes the queues that the slice before it lists, and no others. -/
theorem gclEntries_closesIn_iff {gcl guarded : GateControlList} {a b : Nat}
    (chain : TASTimeSlice.Chain a gcl.timeSlices b)
    (proper : ∀ t ∈ gcl.timeSlices, t.low.toNat < t.high.toNat) (wide : gcl.guardBandWidth ≠ 0)
    (guardRun : gcl.insertGuardBands = .ok guarded)
    (run : gclEntries switch port batchId guarded.timeSlices = .ok es) {i : Nat}
    {s g : TASTimeSlice} (at_i : gcl.timeSlices[i]? = some s)
    (guard : guarded.timeSlices[2 * i + 1]? = some g) :
    ClosesIn port batchId q es g ↔ q ∈ s.queueStates.keys := by
  rcases GateControlList.insertGuardBands_eq_ok guardRun with ⟨none, _⟩ | ⟨_, slicesRun, _⟩
  · exact absurd none wide
  rcases guardedSlices_proper wide proper slicesRun with ⟨⟨_, chainGuarded⟩, properGuarded⟩
  rcases guardedSlices_getElem? chain slicesRun at_i with
    ⟨⟨t, at_t, _, high, states⟩, g', at_g, low, _, statesGuard⟩
  cases at_g.symm.trans guard
  have memberG := List.mem_of_getElem? guard
  refine ⟨?_, ?_⟩
  · intro closes
    rcases listed_of_covered chainGuarded properGuarded run (List.mem_of_getElem? at_t) memberG
      (high.trans low.symm) closes with inSlice | inGuard
    · exact states ▸ inSlice
    · rw [statesGuard] at inGuard
      rcases QueueStates.mem_keys.mp inGuard with ⟨_, entry⟩
      exact (QueueStates.mem_setAll.mp entry).1
  · intro listed
    refine closesIn_of_closed chainGuarded run memberG ?_
    rw [statesGuard]
    exact state?_setAll listed

open P4Tas.Controller.Configuration in
/-- For a mapped GCL with a guard band, of proper slices listed end to start: the entries that are
written for it close every queue that some slice opens throughout every guard band, exactly when
every slice lists all these queues. -/
theorem guardBands_close_iff {cfg out : Configuration} {app : AppState}
    (prepared : cfg.prepare = .ok (out, app)) {mapping : GCLToPortMapping}
    {gcl : GateControlList} (found : cfg.findGcl mapping.gcl = some gcl)
    (wide : gcl.guardBandWidth ≠ 0) {a b : Nat}
    (contiguous : TASTimeSlice.Chain a gcl.timeSlices b)
    (proper : ∀ t ∈ gcl.timeSlices, t.low.toNat < t.high.toNat)
    (run : mappingEntries switch out mapping = .ok es) :
    ∃ guarded batchId, gcl.insertGuardBands = .ok guarded ∧
      out.findGcl mapping.gcl = some guarded ∧ out.batchId? mapping.port = some batchId ∧
      ((∀ q, gcl.Opens q → ∀ g, guarded.IsGuardBand g → ClosesIn mapping.port batchId q es g) ↔
        gcl.ListsOpened) := by
  rcases prepare_eq_ok prepared with ⟨apps, batches, isPrepared, _⟩
  rcases mappingEntries_eq_ok run with ⟨guarded, batchId, foundGuarded, batch, gclRun⟩
  rcases isPrepared.findGcl_guarded foundGuarded with ⟨gcl', found', guardRun⟩
  cases found.symm.trans found'
  rcases GateControlList.insertGuardBands_eq_ok guardRun with ⟨none, _⟩ | ⟨_, slicesRun, _⟩
  · exact absurd none wide
  refine ⟨guarded, batchId, guardRun, foundGuarded, batch, ?_, ?_⟩
  · intro closes q opened t member
    rcases List.getElem?_of_mem member with ⟨i, at_i⟩
    rcases (guardedSlices_getElem? contiguous slicesRun at_i).2 with ⟨g, at_g, _⟩
    exact (gclEntries_closesIn_iff contiguous proper wide guardRun gclRun at_i at_g).mp
      (closes q opened g ⟨i, at_g⟩)
  · intro lists q opened g guard
    rcases guard with ⟨i, at_g⟩
    have length := guardedSlices_length slicesRun
    have inGuarded := (List.getElem?_eq_some_iff.mp at_g).1
    have inRange : i < gcl.timeSlices.length := by omega
    have at_i := List.getElem?_eq_getElem inRange
    exact (gclEntries_closesIn_iff contiguous proper wide guardRun gclRun at_i at_g).mpr
      (lists q opened _ (List.mem_of_getElem? at_i))

open P4Tas.Controller.Configuration in
/-- The GCL of `bandedSample` with its guard bands. -/
def bandedGuarded : GateControlList where
  period := 14
  name := "tas"
  guardBandWidth := 2
  timeSlices :=
    [{ low := 0, high := 6, queueStates := bothQueues 0 1 },
     { low := 6, high := 8, queueStates := bothQueues 1 1 },
     { low := 8, high := 12, queueStates := bothQueues 1 0 },
     { low := 12, high := 14, queueStates := bothQueues 1 1 }]

open P4Tas.Controller.Configuration in
/-- Both slices list the queues 2 and 3, and each opens one of them. -/
theorem guardBands_close_iff_sample :
    ∃ out app es, bandedSample.prepare = .ok (out, app) ∧
      out.findGcl "tas" = some bandedGuarded ∧
      mappingEntries Switch.sample out ⟨133, "tas"⟩ = .ok es ∧
      ∀ q ∈ [(2 : U8), 3], ∀ g, bandedGuarded.IsGuardBand g → ClosesIn 133 0 q es g := by
  have bound : ∀ t ∈ bandedGuarded.timeSlices, t.high.toNat < 2 ^ 32 - 1 := by
    intro t member
    have short : ∀ t ∈ bandedGuarded.timeSlices, t.high ≤ 14 := by decide
    exact Nat.lt_of_le_of_lt (short t member) (by decide)
  have answers : ∀ t ∈ bandedGuarded.timeSlices, ∀ q ∈ t.queueStates.keys,
      Switch.sample.Answers 133 q := by
    have queues : ∀ t ∈ bandedGuarded.timeSlices, t.queueStates.keys = [3, 2] := by decide
    intro t member q listed
    rw [queues t member] at listed
    rcases List.mem_cons.mp listed with rfl | listed
    · exact ⟨_, 3, 11, rfl, rfl, rfl⟩
    · rw [List.mem_singleton.mp listed]
      exact ⟨_, 2, 10, rfl, rfl, rfl⟩
  rcases @gclEntries_returns Switch.sample 133 0 _ answers bound with ⟨es, run⟩
  obtain ⟨⟨out, app⟩, prepared⟩ : ∃ x, bandedSample.prepare = .ok x := ⟨_, rfl⟩
  have outEq := Except.ok.inj prepared
  have foundGuarded : out.findGcl "tas" = some bandedGuarded := by
    cases outEq
    rfl
  have mapped : mappingEntries Switch.sample out ⟨133, "tas"⟩ = .ok es := by
    cases outEq
    exact (mappingEntries_eq rfl rfl).trans run
  have chain : TASTimeSlice.Chain 0 bandedGcl.timeSlices 10 := by decide
  rcases @guardBands_close_iff Switch.sample es _ _ _ prepared ⟨133, "tas"⟩ bandedGcl rfl
    (by decide) 0 10 chain (by decide) mapped with ⟨guarded, batchId, _, found, batch, closes⟩
  cases found.symm.trans foundGuarded
  have first : batchId = 0 := by
    cases outEq
    exact (Option.some.inj batch).symm
  have queues : ∀ t ∈ bandedGcl.timeSlices, t.queueStates.keys = [3, 2] := by decide
  have lists : bandedGcl.ListsOpened := by
    intro q opened t member
    rcases opened with ⟨t', member', opens⟩
    rw [queues t member, ← queues t' member']
    exact QueueStates.mem_keys.mpr ⟨0, QueueStates.state?_eq_some.mp opens⟩
  have opened : ∀ q ∈ [(2 : U8), 3], bandedGcl.Opens q := by
    intro q member
    rcases List.mem_cons.mp member with rfl | member
    · exact ⟨_, List.mem_cons_of_mem _ List.mem_cons_self, by decide⟩
    · cases List.mem_singleton.mp member
      exact ⟨_, List.mem_cons_self, by decide⟩
  refine ⟨out, app, es, prepared, foundGuarded, mapped, fun q member g guard => ?_⟩
  rw [← first]
  exact closes.mpr lists q (opened q member) g guard

/-- The second slice does not list the queue 3, which the first one opens. -/
def unlistedGcl : GateControlList where
  period := 10
  name := "tas"
  guardBandWidth := 2
  timeSlices :=
    [{ low := 0, high := 6, queueStates := ⟨[(3, 0)], List.nodup_singleton _⟩ },
     { low := 6, high := 10, queueStates := ⟨[(2, 0)], List.nodup_singleton _⟩ }]

/-- The same GCL with its guard bands. -/
def unlistedGuarded : GateControlList where
  period := 14
  name := "tas"
  guardBandWidth := 2
  timeSlices :=
    [{ low := 0, high := 6, queueStates := ⟨[(3, 0)], List.nodup_singleton _⟩ },
     { low := 6, high := 8, queueStates := ⟨[(3, 1)], List.nodup_singleton _⟩ },
     { low := 8, high := 12, queueStates := ⟨[(2, 0)], List.nodup_singleton _⟩ },
     { low := 12, high := 14, queueStates := ⟨[(2, 1)], List.nodup_singleton _⟩ }]

open P4Tas.Controller.Configuration in
/-- A queue that is opened at the position 3 and whose next control packet arrives in the second
guard band stays open there. -/
theorem guardBands_leave_open :
    ∃ out app es g,
      Configuration.prepare { sample with tas := { sample.tas with gcls := [unlistedGcl] } } =
        .ok (out, app) ∧
      out.findGcl "tas" = some unlistedGuarded ∧ out.batchId? 133 = some 0 ∧
      mappingEntries Switch.sample out ⟨133, "tas"⟩ = .ok es ∧
      unlistedGcl.Opens 3 ∧ unlistedGuarded.IsGuardBand g ∧
      g.low.toNat < 13 ∧ 13 < g.high.toNat ∧
      Run (GateStep 133 0 3 es) none [3, 13] (some .openQueue) ∧ ¬ ClosesIn 133 0 3 es g := by
  have answers : ∀ t ∈ unlistedGuarded.timeSlices, ∀ q ∈ t.queueStates.keys,
      Switch.sample.Answers 133 q := by
    have queues : ∀ t ∈ unlistedGuarded.timeSlices,
        t.queueStates.keys = [2] ∨ t.queueStates.keys = [3] := by decide
    intro t member q listed
    rcases queues t member with two | three
    · rw [two, List.mem_singleton] at listed
      rw [listed]
      exact ⟨_, 2, 10, rfl, rfl, rfl⟩
    · rw [three, List.mem_singleton] at listed
      rw [listed]
      exact ⟨_, 3, 11, rfl, rfl, rfl⟩
  have bound : ∀ t ∈ unlistedGuarded.timeSlices, t.high.toNat < 2 ^ 32 - 1 := by
    intro t member
    have short : ∀ t ∈ unlistedGuarded.timeSlices, t.high ≤ 14 := by decide
    exact Nat.lt_of_le_of_lt (short t member) (by decide)
  rcases @gclEntries_returns Switch.sample 133 0 _ answers bound with ⟨es, run⟩
  have opens : GateStep 133 0 3 es none 3 (some .openQueue) := by
    have hit := gclEntries_own_hits run 3 (p := 3) (by decide)
    rcases List.map_eq_singleton_iff.mp hit with ⟨r, single, decides⟩
    have opening : r.action = .openQueue := (Prod.mk.inj decides).1
    exact .inl ⟨r, single ▸ List.mem_singleton_self r, congrArg some opening.symm⟩
  have misses : GateStep 133 0 3 es (some .openQueue) 13 (some .openQueue) :=
    .inr ⟨List.map_eq_nil_iff.mp (gclEntries_own_hits run 3 (p := 13) (by decide)), rfl⟩
  have staysOpen : Run (GateStep 133 0 3 es) none [3, 13] (some .openQueue) :=
    .cons opens (.cons misses (.nil _))
  refine ⟨_, _, es, _, rfl, rfl, rfl, (mappingEntries_eq rfl rfl).trans run,
    ⟨_, List.mem_cons_self, by decide⟩, ⟨1, rfl⟩, by decide, by decide, staysOpen,
    fun closes => ?_⟩
  have closed := closes.held [3] 13 _ (by decide) (by decide) staysOpen
  exact absurd closed (by decide)

end TAS

end P4Tas.Controller
