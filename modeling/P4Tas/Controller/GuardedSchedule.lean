import P4Tas.Controller.GuardBands

/-!
# Guard bands preserve the schedule

For a GCL whose slices tile its period, `insert_tas_gsi` moves each slice back by the guard bands
before it and changes nothing else about it.

* `GuardBandsInserted`: what the guarded GCL is, slice by slice, and that the gates behave in it as
  they did before;
* `insertTasGsi_preserves`: the configuration after `insert_tas_gsi`.
-/

namespace P4Tas.Controller

/-! ## Gates in a list of slices -/

/-- The gate state of a queue at a position, with slices read without their ends. -/
def gateState (slices : List TASTimeSlice) (q : U8) (p : Nat) : Option U8 :=
  (slices.find? fun t => decide (t.low.toNat ≤ p ∧ p < t.high.toNat)).bind fun t =>
    t.queueStates.state? q

/-- The gate states of a queue in all slices whose closed range contains the position. -/
def gateStates (slices : List TASTimeSlice) (q : U8) (p : Nat) : List U8 :=
  (slices.filter fun t => decide (t.Contains p)).filterMap fun t => t.queueStates.state? q

/-- How long a slice keeps a queue open. -/
def TASTimeSlice.openTime (q : U8) (t : TASTimeSlice) : Nat :=
  if t.queueStates.state? q = some 0 then t.high.toNat - t.low.toNat else 0

/-- How long the slices keep a queue open. -/
def openTime (slices : List TASTimeSlice) (q : U8) : Nat :=
  (slices.map (TASTimeSlice.openTime q)).sum

/-! ## The loop over the slices -/

section Slices

variable {guardBandWidth last : U32} {slices guarded : List TASTimeSlice} {a b : Nat}

/-- The slices of a chain are as wide as the chain. -/
theorem guardedWidth_chain (chain : TASTimeSlice.Chain a slices b) :
    guardedWidth guardBandWidth slices = b - a + slices.length * guardBandWidth.toNat := by
  induction slices generalizing a with
  | nil =>
    have none : guardedWidth guardBandWidth [] = 0 := rfl
    rw [none, ← IntervalChain.Chain.nil_iff.mp chain, List.length_nil, Nat.zero_mul, Nat.sub_self]
  | cons ts rest ih =>
    obtain ⟨start, ordered, chainRest⟩ := IntervalChain.Chain.cons_iff.mp chain
    have le := chainRest.le
    rw [guardedWidth_cons, ih chainRest, List.length_cons, Nat.succ_mul]
    omega

theorem guardedSlices_returns (chain : TASTimeSlice.Chain a slices b)
    (fits : last.toNat + (b - a) + slices.length * guardBandWidth.toNat < 2 ^ 32) :
    ∃ guarded, guardedSlices guardBandWidth last slices = .ok guarded := by
  refine (guardedSlices_returns_iff fun t member => ?_).mpr ?_
  · exact (chain.bounds member).2.1
  · rw [guardedWidth_chain chain]
    omega

theorem guardedSlices_length (run : guardedSlices guardBandWidth last slices = .ok guarded) :
    guarded.length = 2 * slices.length := by
  induction slices generalizing last guarded with
  | nil =>
    cases run
    rfl
  | cons ts rest ih =>
    obtain ⟨_, _, tail, _, _, _, tailRun, rfl⟩ := guardedSlices_cons_eq_ok.mp run
    rw [List.length_cons, List.length_cons, ih tailRun, List.length_cons]
    omega

/-- Slice `i` comes back as slice `2 * i`, moved by as many guard bands, and slice `2 * i + 1` is
the guard band after it. -/
theorem guardedSlices_getElem? (chain : TASTimeSlice.Chain a slices b)
    (run : guardedSlices guardBandWidth last slices = .ok guarded) {i : Nat} {s : TASTimeSlice}
    (at_i : slices[i]? = some s) :
    (∃ t, guarded[2 * i]? = some t ∧
        t.low.toNat = last.toNat + (s.low.toNat - a) + i * guardBandWidth.toNat ∧
        t.high.toNat = last.toNat + (s.high.toNat - a) + i * guardBandWidth.toNat ∧
        t.queueStates = s.queueStates) ∧
      ∃ t, guarded[2 * i + 1]? = some t ∧
        t.low.toNat = last.toNat + (s.high.toNat - a) + i * guardBandWidth.toNat ∧
        t.high.toNat = last.toNat + (s.high.toNat - a) + (i + 1) * guardBandWidth.toNat ∧
        t.queueStates = s.queueStates.setAll 1 := by
  induction slices generalizing last guarded a i with
  | nil => cases at_i
  | cons ts rest ih =>
    obtain ⟨start, ordered, chainRest⟩ := IntervalChain.Chain.cons_iff.mp chain
    obtain ⟨high, guardHigh, tail, _, highEq, guardEq, tailRun, rfl⟩ :=
      guardedSlices_cons_eq_ok.mp run
    cases i with
    | zero =>
      cases at_i
      refine ⟨⟨_, rfl, ?_, ?_, rfl⟩, _, rfl, ?_, ?_, rfl⟩
      · dsimp only
        omega
      · dsimp only
        omega
      · dsimp only
        omega
      · dsimp only
        omega
    | succ i =>
      have member := List.mem_of_getElem? (show rest[i]? = some s from at_i)
      have bounds : ts.high.toNat ≤ s.low.toNat ∧ s.low.toNat ≤ s.high.toNat ∧
          s.high.toNat ≤ b := chainRest.bounds member
      obtain ⟨⟨t, at_t, low, high, states⟩, u, at_u, lowU, highU, statesU⟩ :=
        ih chainRest tailRun (show rest[i]? = some s from at_i)
      have split : (i + 1) * guardBandWidth.toNat =
          i * guardBandWidth.toNat + guardBandWidth.toNat := Nat.succ_mul i guardBandWidth.toNat
      have split' : (i + 1 + 1) * guardBandWidth.toNat =
          (i + 1) * guardBandWidth.toNat + guardBandWidth.toNat :=
        Nat.succ_mul (i + 1) guardBandWidth.toNat
      refine ⟨⟨t, at_t, ?_, ?_, states⟩, u, at_u, ?_, ?_, statesU⟩
      · omega
      · omega
      · omega
      · omega

/-- The guard bands keep no queue open, and the slices keep their width. -/
theorem guardedSlices_openTime (run : guardedSlices guardBandWidth last slices = .ok guarded)
    (q : U8) : openTime guarded q = openTime slices q := by
  induction slices generalizing last guarded with
  | nil =>
    cases run
    rfl
  | cons ts rest ih =>
    obtain ⟨high, guardHigh, tail, _, highEq, _, tailRun, rfl⟩ := guardedSlices_cons_eq_ok.mp run
    have content : TASTimeSlice.openTime q { ts with low := last, high := high } =
        ts.openTime q := by
      unfold TASTimeSlice.openTime
      dsimp only
      rw [show high.toNat - last.toNat = ts.high.toNat - ts.low.toNat by omega]
    have closed : (ts.queueStates.setAll 1).state? q ≠ some 0 := by
      intro open_
      have listed := QueueStates.mem_setAll.mp (QueueStates.state?_eq_some.mp open_)
      exact absurd listed.2 (by decide)
    have guard : TASTimeSlice.openTime q
        { low := high, high := guardHigh, queueStates := ts.queueStates.setAll 1 } = 0 :=
      if_neg closed
    have tailEq := ih tailRun
    unfold openTime at tailEq ⊢
    rw [List.map_cons, List.map_cons, List.map_cons, List.sum_cons, List.sum_cons, List.sum_cons,
      content, guard, tailEq, Nat.zero_add]

end Slices

/-! ## The guarded GCL -/

namespace GateControlList

/-- The slices are proper and tile the period, in order. -/
structure Tiled (gcl : GateControlList) : Prop where
  chain : TASTimeSlice.Chain 0 gcl.timeSlices gcl.period.toNat
  proper : ∀ s ∈ gcl.timeSlices, s.low.toNat < s.high.toNat

/-- The end of the last guard band. -/
def guardedEnd (gcl : GateControlList) : Nat :=
  gcl.period.toNat + gcl.timeSlices.length * gcl.guardBandWidth.toNat

/-- How far slice `i` is moved. -/
def shift (gcl : GateControlList) (i : Nat) : Nat :=
  i * gcl.guardBandWidth.toNat

/-- What a GCL becomes: every slice moved and followed by a guard band, in which every queue it
lists is closed; so the gates are in the state they were in before, at the moved positions, and open
for as long. -/
structure GuardBandsInserted (gcl guarded : GateControlList) : Prop where
  name_eq : guarded.name = gcl.name
  width_eq : guarded.guardBandWidth = gcl.guardBandWidth
  period_eq : guarded.period.toNat = gcl.guardedEnd
  length_eq : guarded.timeSlices.length = 2 * gcl.timeSlices.length
  contiguous : TASTimeSlice.Chain 0 guarded.timeSlices guarded.period.toNat
  content : ∀ i s, gcl.timeSlices[i]? = some s → ∃ t, guarded.timeSlices[2 * i]? = some t ∧
    t.low.toNat = s.low.toNat + gcl.shift i ∧ t.high.toNat = s.high.toNat + gcl.shift i ∧
    t.queueStates = s.queueStates
  guard : ∀ i s, gcl.timeSlices[i]? = some s → ∃ t, guarded.timeSlices[2 * i + 1]? = some t ∧
    t.low.toNat = s.high.toNat + gcl.shift i ∧ t.high.toNat = s.high.toNat + gcl.shift (i + 1) ∧
    t.queueStates = s.queueStates.setAll 1
  states : ∀ i s, gcl.timeSlices[i]? = some s → ∀ q x, s.low.toNat ≤ x → x < s.high.toNat →
    gateState guarded.timeSlices q (x + gcl.shift i) = gateState gcl.timeSlices q x
  inner : ∀ i s, gcl.timeSlices[i]? = some s → ∀ q x, s.low.toNat < x → x < s.high.toNat →
    gateStates guarded.timeSlices q (x + gcl.shift i) = gateStates gcl.timeSlices q x
  openTime_eq : ∀ q, openTime guarded.timeSlices q = openTime gcl.timeSlices q

/-- Nothing overflows in a GCL that tiles its period, if the last guard band ends within `u32`. -/
theorem insertGuardBands_returns {gcl : GateControlList} (wide : gcl.guardBandWidth ≠ 0)
    (tiled : gcl.Tiled) (fits : gcl.guardedEnd < 2 ^ 32) :
    ∃ (period : U32) (slices : List TASTimeSlice),
      gcl.insertGuardBands = .ok { gcl with period, timeSlices := slices } ∧
      period.toNat = gcl.guardedEnd ∧
      guardedSlices gcl.guardBandWidth 0 gcl.timeSlices = .ok slices := by
  have zero : (0 : U32).toNat = 0 := rfl
  unfold guardedEnd at fits ⊢
  rw [Nat.mul_comm gcl.timeSlices.length] at fits ⊢
  obtain ⟨slices, slicesRun⟩ :
      ∃ slices, guardedSlices gcl.guardBandWidth 0 gcl.timeSlices = .ok slices :=
    guardedSlices_returns tiled.chain (by rw [Nat.mul_comm gcl.timeSlices.length]; omega)
  obtain ⟨period, run, periodEq⟩ := insertGuardBands_of_slices wide fits slicesRun
  exact ⟨period, slices, run, periodEq, slicesRun⟩

/-- The slices and guard bands of a GCL that tiles its period, from position 0. -/
theorem guardedSlices_of_tiled {gcl : GateControlList} (tiled : gcl.Tiled)
    {slices : List TASTimeSlice}
    (run : guardedSlices gcl.guardBandWidth 0 gcl.timeSlices = .ok slices) {i : Nat}
    {s : TASTimeSlice} (at_i : gcl.timeSlices[i]? = some s) :
    (∃ t, slices[2 * i]? = some t ∧ t.low.toNat = s.low.toNat + gcl.shift i ∧
        t.high.toNat = s.high.toNat + gcl.shift i ∧ t.queueStates = s.queueStates) ∧
      ∃ t, slices[2 * i + 1]? = some t ∧ t.low.toNat = s.high.toNat + gcl.shift i ∧
        t.high.toNat = s.high.toNat + gcl.shift (i + 1) ∧
        t.queueStates = s.queueStates.setAll 1 := by
  have zero : (0 : U32).toNat = 0 := rfl
  have moved := guardedSlices_getElem? tiled.chain run at_i
  rw [zero, Nat.zero_add, Nat.zero_add, Nat.sub_zero, Nat.sub_zero] at moved
  exact moved

/-- A GCL that tiles its period gets its guard bands, if the last one ends within `u32`. -/
theorem insertGuardBands_preserves {gcl : GateControlList} (wide : gcl.guardBandWidth ≠ 0)
    (tiled : gcl.Tiled) (fits : gcl.guardedEnd < 2 ^ 32) :
    ∃ guarded, gcl.insertGuardBands = .ok guarded ∧ GuardBandsInserted gcl guarded := by
  obtain ⟨period, slices, run, periodEq, slicesRun⟩ := insertGuardBands_returns wide tiled fits
  have contiguous : TASTimeSlice.Chain 0 slices period.toNat := by
    have chain := (guardedSlices_chain tiled.chain slicesRun).1
    rw [show (0 : U32).toNat = 0 from rfl, Nat.zero_add, Nat.sub_zero] at chain
    rw [periodEq]
    exact chain
  refine ⟨_, run, rfl, rfl, periodEq, guardedSlices_length slicesRun, contiguous,
    fun i s at_i => (guardedSlices_of_tiled tiled slicesRun at_i).1,
    fun i s at_i => (guardedSlices_of_tiled tiled slicesRun at_i).2, ?_, ?_,
    guardedSlices_openTime slicesRun⟩
  · -- the only slice at the moved position is the moved slice
    intro i s at_i q x lower upper
    obtain ⟨t, at_t, low, high, states⟩ := (guardedSlices_of_tiled tiled slicesRun at_i).1
    unfold gateState
    rw [contiguous.find?_eq (List.mem_of_getElem? at_t) (by omega) (by omega),
      tiled.chain.find?_eq (List.mem_of_getElem? at_i) lower upper, Option.bind_some,
      Option.bind_some, states]
  · intro i s at_i q x lower upper
    obtain ⟨t, at_t, low, high, states⟩ := (guardedSlices_of_tiled tiled slicesRun at_i).1
    have moved := contiguous.filter_inner (List.mem_of_getElem? at_t)
      (p := x + gcl.shift i) (by omega) (by omega)
    have original := tiled.chain.filter_inner (List.mem_of_getElem? at_i) lower upper
    unfold gateStates
    rw [moved, original, List.filterMap_cons, List.filterMap_cons, states]

end GateControlList

/-! ## The whole configuration -/

namespace Configuration

/-- A GCL is left alone when it has no guard band, and gets its guard bands otherwise. -/
def GuardedAs (gcl guarded : GateControlList) : Prop :=
  (gcl.guardBandWidth = 0 → guarded = gcl) ∧
    (gcl.guardBandWidth ≠ 0 → GateControlList.GuardBandsInserted gcl guarded)

/-- `insert_tas_gsi` returns when every GCL with a guard band tiles its period and has room for its
guard bands; the GCLs keep their order, and nothing else in the configuration changes. -/
theorem insertTasGsi_preserves {cfg : Configuration}
    (room : ∀ gcl ∈ cfg.tas.gcls, gcl.guardBandWidth ≠ 0 →
      gcl.Tiled ∧ gcl.guardedEnd < 2 ^ 32) :
    ∃ gcls, cfg.insertTasGsi = .ok { cfg with tas := { cfg.tas with gcls } } ∧
      List.Forall₂ GuardedAs cfg.tas.gcls gcls := by
  have each : ∀ gcl ∈ cfg.tas.gcls, ∃ guarded, gcl.insertGuardBands = .ok guarded ∧
      GuardedAs gcl guarded := by
    intro gcl member
    rcases Decidable.em (gcl.guardBandWidth = 0) with none | wide
    · refine ⟨gcl, if_pos none, fun _ => rfl, fun wide => absurd none wide⟩
    · obtain ⟨tiled, fits⟩ := room gcl member wide
      obtain ⟨guarded, run, inserted⟩ := GateControlList.insertGuardBands_preserves wide tiled fits
      exact ⟨guarded, run, fun none => absurd none wide, fun _ => inserted⟩
  obtain ⟨gcls, related⟩ : ∃ gcls, List.Forall₂ (fun gcl guarded =>
      gcl.insertGuardBands = .ok guarded ∧ GuardedAs gcl guarded) cfg.tas.gcls gcls := by
    generalize cfg.tas.gcls = before at each
    induction before with
    | nil => exact ⟨[], .nil⟩
    | cons gcl rest ih =>
      obtain ⟨⟨guarded, run⟩, others⟩ := List.forall_mem_cons.mp each
      obtain ⟨gcls, related⟩ := ih others
      exact ⟨guarded :: gcls, .cons run related⟩
  refine ⟨gcls, insertTasGsi_eq_ok.mpr ⟨gcls, related.imp fun _ _ h => h.1, rfl⟩, ?_⟩
  exact related.imp fun _ _ h => h.2

theorem bothQueues_nodup (first second : U8) :
    ([(3, first), (2, second)].map Prod.fst : List U8).Nodup := by
  simp

/-- The states of the queues 3 and 2. -/
def bothQueues (first second : U8) : QueueStates :=
  ⟨[(3, first), (2, second)], bothQueues_nodup first second⟩

/-- Two slices that list the queues 2 and 3, with a guard band of 2 after each. -/
def bandedGcl : GateControlList where
  period := 10
  name := "tas"
  guardBandWidth := 2
  timeSlices :=
    [{ low := 0, high := 6, queueStates := bothQueues 0 1 },
     { low := 6, high := 10, queueStates := bothQueues 1 0 }]

/-- A GCL with guard bands and one without. -/
def bandedSample : Configuration :=
  { sample with tas := { sample.tas with
      gcls := [bandedGcl, { bandedGcl with name := "bare", guardBandWidth := 0 }] } }

theorem insertTasGsi_preserves_sample :
    ∃ gcls, bandedSample.insertTasGsi =
        .ok { bandedSample with tas := { bandedSample.tas with gcls } } ∧
      List.Forall₂ GuardedAs bandedSample.tas.gcls gcls := by
  refine insertTasGsi_preserves ?_
  intro gcl member wide
  rcases List.mem_cons.mp member with rfl | member
  · exact ⟨⟨by decide, by decide⟩, by decide⟩
  · cases List.mem_singleton.mp member
    exact absurd rfl wide

end Configuration

end P4Tas.Controller
