import P4Tas.Controller.Prepare

/-!
# Guard bands

`insert_tas_gsi` moves the slices of a GCL apart and fills the gaps.  The result is again a chain of
slices, it ends within the extended period, every slice of the original is followed at its end by a
slice that closes its queues, and there are no other slices.
-/

namespace P4Tas.Controller

/-- One turn of the loop: the slice is moved to `last`, its guard band follows, and the loop goes on
behind that. -/
theorem guardedSlices_cons_eq_ok {guardBandWidth last : U32} {ts : TASTimeSlice}
    {rest guarded : List TASTimeSlice} :
    guardedSlices guardBandWidth last (ts :: rest) = .ok guarded ↔
      ∃ high guardHigh : U32, ∃ tail, ts.low.toNat ≤ ts.high.toNat ∧
        high.toNat = last.toNat + (ts.high.toNat - ts.low.toNat) ∧
        guardHigh.toNat = high.toNat + guardBandWidth.toNat ∧
        guardedSlices guardBandWidth guardHigh rest = .ok tail ∧
        guarded = { ts with low := last, high := high } ::
          { low := high, high := guardHigh, queueStates := ts.queueStates.setAll 1 } :: tail := by
  refine ⟨?_, ?_⟩
  · intro run
    obtain ⟨width, widthRun, run⟩ := Fallible.bind_eq_ok.mp run
    obtain ⟨high, highRun, run⟩ := Fallible.bind_eq_ok.mp run
    obtain ⟨guardHigh, guardRun, run⟩ := Fallible.bind_eq_ok.mp run
    obtain ⟨tail, tailRun, run⟩ := Fallible.bind_eq_ok.mp run
    have widthEq := checkedSub_eq_ok.mp widthRun
    have highEq := checkedAdd_eq_ok.mp highRun
    refine ⟨high, guardHigh, tail, ?_, ?_, checkedAdd_eq_ok.mp guardRun, tailRun, ?_⟩
    · omega
    · omega
    · exact (Except.ok.inj run).symm
  · intro h
    obtain ⟨high, guardHigh, tail, ordered, highEq, guardEq, tailRun, rfl⟩ := h
    obtain ⟨width, widthRun⟩ := checkedSub_returns (a := ts.high) (b := ts.low) ordered
    have widthEq := checkedSub_eq_ok.mp widthRun
    have highRun : checkedAdd last width = .ok high := checkedAdd_eq_ok.mpr (by omega)
    rw [guardedSlices]
    simp only [widthRun, highRun, checkedAdd_eq_ok.mpr guardEq, tailRun, Fallible.ok_bind]
    rfl

/-- The length of the slices, each with its guard band. -/
def guardedWidth (guardBandWidth : U32) (slices : List TASTimeSlice) : Nat :=
  (slices.map fun t => t.high.toNat - t.low.toNat + guardBandWidth.toNat).sum

theorem guardedWidth_cons (guardBandWidth : U32) (ts : TASTimeSlice) (rest : List TASTimeSlice) :
    guardedWidth guardBandWidth (ts :: rest) =
      ts.high.toNat - ts.low.toNat + guardBandWidth.toNat + guardedWidth guardBandWidth rest :=
  List.sum_cons

/-- Nothing overflows when the end of the last guard band fits. -/
theorem guardedSlices_returns_iff {guardBandWidth last : U32} {slices : List TASTimeSlice}
    (ordered : ∀ t ∈ slices, t.low.toNat ≤ t.high.toNat) :
    (∃ guarded, guardedSlices guardBandWidth last slices = .ok guarded) ↔
      last.toNat + guardedWidth guardBandWidth slices < 2 ^ 32 := by
  induction slices generalizing last with
  | nil => exact ⟨fun _ => last.isLt, fun _ => ⟨[], rfl⟩⟩
  | cons ts rest ih =>
    obtain ⟨orderedHere, orderedRest⟩ := List.forall_mem_cons.mp ordered
    have width := guardedWidth_cons guardBandWidth ts rest
    refine ⟨?_, ?_⟩
    · intro h
      obtain ⟨guarded, run⟩ := h
      obtain ⟨high, guardHigh, tail, _, highEq, guardEq, tailRun, _⟩ :=
        guardedSlices_cons_eq_ok.mp run
      have fits := (ih orderedRest).mp ⟨tail, tailRun⟩
      omega
    · intro fits
      obtain ⟨high, highEq⟩ :
          ∃ high : U32, high.toNat = last.toNat + (ts.high.toNat - ts.low.toNat) :=
        ⟨BitVec.ofNat 32 _, Nat.mod_eq_of_lt (by omega)⟩
      obtain ⟨guardHigh, guardEq⟩ :
          ∃ guardHigh : U32, guardHigh.toNat = high.toNat + guardBandWidth.toNat :=
        ⟨BitVec.ofNat 32 _, Nat.mod_eq_of_lt (by omega)⟩
      obtain ⟨tail, tailRun⟩ := (@ih guardHigh orderedRest).mpr (by omega)
      exact ⟨_, guardedSlices_cons_eq_ok.mpr
        ⟨high, guardHigh, tail, orderedHere, highEq, guardEq, tailRun, rfl⟩⟩

/-- The guarded slices form a chain from `last`, longer than the original by one guard band for each
slice. -/
theorem guardedSlices_chain {guardBandWidth last : U32} {slices guarded : List TASTimeSlice}
    {a b : Nat} (chain : TASTimeSlice.Chain a slices b)
    (run : guardedSlices guardBandWidth last slices = .ok guarded) :
    TASTimeSlice.Chain last.toNat guarded
        (last.toNat + (b - a) + slices.length * guardBandWidth.toNat) ∧
      last.toNat + (b - a) + slices.length * guardBandWidth.toNat < 2 ^ 32 := by
  induction slices generalizing last guarded a with
  | nil =>
    cases run
    rw [← IntervalChain.Chain.nil_iff.mp chain]
    have bound := last.isLt
    simp only [Nat.sub_self, List.length_nil, Nat.zero_mul, Nat.add_zero]
    exact ⟨.nil _, bound⟩
  | cons ts rest ih =>
    obtain ⟨start, ordered, chainRest⟩ := IntervalChain.Chain.cons_iff.mp chain
    obtain ⟨high, guardHigh, tail, _, highEq, guardEq, tailRun, rfl⟩ :=
      guardedSlices_cons_eq_ok.mp run
    obtain ⟨chainTail, bound⟩ := ih chainRest tailRun
    have le := chainRest.le
    have stop : last.toNat + (b - a) + (ts :: rest).length * guardBandWidth.toNat =
        guardHigh.toNat + (b - ts.high.toNat) + rest.length * guardBandWidth.toNat := by
      rw [List.length_cons, Nat.succ_mul]
      omega
    have moved : last.toNat ≤ high.toNat := by omega
    have guard : high.toNat ≤ guardHigh.toNat := by omega
    rw [stop]
    refine ⟨IntervalChain.Chain.cons_iff.mpr ⟨rfl, moved, ?_⟩, bound⟩
    exact IntervalChain.Chain.cons_iff.mpr ⟨rfl, guard, chainTail⟩

/-- Every slice is followed by a slice that starts at its end and closes its queues. -/
theorem guardedSlices_pair {guardBandWidth last : U32} {slices guarded : List TASTimeSlice}
    (run : guardedSlices guardBandWidth last slices = .ok guarded) {s : TASTimeSlice}
    (member : s ∈ slices) :
    ∃ x ∈ guarded, ∃ y ∈ guarded, (∃ p, x.Contains p ∧ y.Contains p) ∧
      x.queueStates = s.queueStates ∧ y.queueStates = s.queueStates.setAll 1 := by
  induction slices generalizing last guarded with
  | nil => cases member
  | cons ts rest ih =>
    obtain ⟨high, guardHigh, tail, _, highEq, guardEq, tailRun, rfl⟩ :=
      guardedSlices_cons_eq_ok.mp run
    rcases List.mem_cons.mp member with rfl | later
    · refine ⟨_, List.mem_cons_self, _, List.mem_cons_of_mem _ List.mem_cons_self, ?_, rfl, rfl⟩
      -- both contain the end of the moved slice
      refine ⟨high.toNat, ⟨?_, le_refl _⟩, ⟨le_refl _, ?_⟩⟩
      · exact Nat.le_trans (Nat.le_add_right _ _) (le_of_eq highEq.symm)
      · exact Nat.le_trans (Nat.le_add_right _ _) (le_of_eq guardEq.symm)
    · obtain ⟨x, memberX, y, memberY, meets, states⟩ := ih tailRun later
      exact ⟨x, List.mem_cons_of_mem _ (List.mem_cons_of_mem _ memberX), y,
        List.mem_cons_of_mem _ (List.mem_cons_of_mem _ memberY), meets, states⟩

/-- Every guarded slice carries the states of an original one, or closes its queues. -/
theorem guardedSlices_mem {guardBandWidth last : U32} {slices guarded : List TASTimeSlice}
    (run : guardedSlices guardBandWidth last slices = .ok guarded) {t : TASTimeSlice}
    (member : t ∈ guarded) :
    ∃ s ∈ slices, t.queueStates = s.queueStates ∨ t.queueStates = s.queueStates.setAll 1 := by
  induction slices generalizing last guarded with
  | nil =>
    cases run
    cases member
  | cons ts rest ih =>
    obtain ⟨high, guardHigh, tail, _, _, _, tailRun, rfl⟩ := guardedSlices_cons_eq_ok.mp run
    rcases List.mem_cons.mp member with rfl | member
    · exact ⟨ts, List.mem_cons_self, .inl rfl⟩
    rcases List.mem_cons.mp member with rfl | member
    · exact ⟨ts, List.mem_cons_self, .inr rfl⟩
    obtain ⟨s, memberS, states⟩ := ih tailRun member
    exact ⟨s, List.mem_cons_of_mem ts memberS, states⟩

/-- With a guard band of some width, proper slices become a chain of proper slices, wherever the
originals were. -/
theorem guardedSlices_proper {guardBandWidth last : U32} {slices guarded : List TASTimeSlice}
    (wide : guardBandWidth ≠ 0) (proper : ∀ s ∈ slices, s.low.toNat < s.high.toNat)
    (run : guardedSlices guardBandWidth last slices = .ok guarded) :
    (∃ b, TASTimeSlice.Chain last.toNat guarded b) ∧
      ∀ t ∈ guarded, t.low.toNat < t.high.toNat := by
  induction slices generalizing last guarded with
  | nil =>
    cases run
    exact ⟨⟨_, .nil _⟩, fun _ member => absurd member List.not_mem_nil⟩
  | cons ts rest ih =>
    obtain ⟨properHere, properRest⟩ := List.forall_mem_cons.mp proper
    obtain ⟨high, guardHigh, tail, _, highEq, guardEq, tailRun, rfl⟩ :=
      guardedSlices_cons_eq_ok.mp run
    have positive : 0 < guardBandWidth.toNat := BitVec.toNat_pos_of_ne_zero wide
    obtain ⟨⟨b, chain⟩, properTail⟩ := ih properRest tailRun
    have moved : last.toNat < high.toNat := by omega
    have guard : high.toNat < guardHigh.toNat := by omega
    refine ⟨⟨b, IntervalChain.Chain.cons_iff.mpr ⟨rfl, moved.le, ?_⟩⟩, ?_⟩
    · exact IntervalChain.Chain.cons_iff.mpr ⟨rfl, guard.le, chain⟩
    · exact List.forall_mem_cons.mpr ⟨moved, List.forall_mem_cons.mpr ⟨guard, properTail⟩⟩

namespace GateControlList

/-- What a GCL with guard bands becomes. -/
theorem insertGuardBands_eq_ok {gcl guarded : GateControlList}
    (run : gcl.insertGuardBands = .ok guarded) :
    (gcl.guardBandWidth = 0 ∧ guarded = gcl) ∨
      (gcl.guardBandWidth ≠ 0 ∧
        guardedSlices gcl.guardBandWidth 0 gcl.timeSlices = .ok guarded.timeSlices ∧
        guarded.period.toNat = gcl.period.toNat +
          gcl.guardBandWidth.toNat * (gcl.timeSlices.length % 2 ^ 32)) := by
  unfold insertGuardBands at run
  rcases Decidable.em (gcl.guardBandWidth = 0) with none | some
  · rw [if_pos none] at run
    exact .inl ⟨none, (Except.ok.inj run).symm⟩
  · rw [if_neg some] at run
    obtain ⟨slices, slicesRun, run⟩ := Fallible.bind_eq_ok.mp run
    obtain ⟨guardTime, timeRun, run⟩ := Fallible.bind_eq_ok.mp run
    obtain ⟨period, periodRun, run⟩ := Fallible.bind_eq_ok.mp run
    cases run
    have timeEq := checkedMul_eq_ok.mp timeRun
    have periodEq := checkedAdd_eq_ok.mp periodRun
    rw [BitVec.toNat_ofNat] at timeEq
    exact .inr ⟨some, slicesRun, by rw [periodEq, timeEq]⟩

/-- A guard band is at least one wide. -/
theorem length_le_guardTime {gcl : GateControlList} (wide : gcl.guardBandWidth ≠ 0) :
    gcl.timeSlices.length ≤ gcl.guardBandWidth.toNat * gcl.timeSlices.length :=
  Nat.le_mul_of_pos_left _ (BitVec.toNat_pos_of_ne_zero wide)

/-- Behind the loop nothing overflows when the extended period fits. -/
theorem insertGuardBands_of_slices {gcl : GateControlList} (wide : gcl.guardBandWidth ≠ 0)
    (fits : gcl.period.toNat + gcl.guardBandWidth.toNat * gcl.timeSlices.length < 2 ^ 32)
    {timeSlices : List TASTimeSlice}
    (slicesRun : guardedSlices gcl.guardBandWidth 0 gcl.timeSlices = .ok timeSlices) :
    ∃ period : U32, gcl.insertGuardBands = .ok { gcl with period, timeSlices } ∧
      period.toNat = gcl.period.toNat + gcl.guardBandWidth.toNat * gcl.timeSlices.length := by
  -- so many guard bands fit into a `u32` that their number does
  have few := length_le_guardTime wide
  have count : (BitVec.ofNat 32 gcl.timeSlices.length).toNat = gcl.timeSlices.length :=
    Nat.mod_eq_of_lt (by omega)
  have product : gcl.guardBandWidth.toNat * (BitVec.ofNat 32 gcl.timeSlices.length).toNat =
      gcl.guardBandWidth.toNat * gcl.timeSlices.length := by
    rw [count]
  obtain ⟨guardTime, timeRun⟩ := checkedMul_returns
    (a := gcl.guardBandWidth) (b := BitVec.ofNat 32 gcl.timeSlices.length) (by omega)
  have timeEq := checkedMul_eq_ok.mp timeRun
  obtain ⟨period, periodRun⟩ := checkedAdd_returns (a := gcl.period) (b := guardTime) (by omega)
  have periodEq := checkedAdd_eq_ok.mp periodRun
  refine ⟨period, ?_, by omega⟩
  unfold insertGuardBands
  rw [if_neg wide]
  simp only [slicesRun, timeRun, periodRun, Fallible.ok_bind]
  rfl

/-- The period of a GCL with its guard bands. -/
def guardedPeriod (gcl : GateControlList) : Nat :=
  gcl.period.toNat + gcl.guardBandWidth.toNat * (gcl.timeSlices.length % 2 ^ 32)

theorem insertGuardBands_period {gcl guarded : GateControlList}
    (run : gcl.insertGuardBands = .ok guarded) : guarded.period.toNat = gcl.guardedPeriod := by
  unfold guardedPeriod
  rcases insertGuardBands_eq_ok run with ⟨none, rfl⟩ | ⟨_, _, periodEq⟩
  · rw [none]
    simp
  · exact periodEq

/-- Guard bands keep the slices proper. -/
theorem insertGuardBands_proper {gcl guarded : GateControlList}
    (proper : ∀ s ∈ gcl.timeSlices, s.low.toNat < s.high.toNat)
    (run : gcl.insertGuardBands = .ok guarded) :
    ∀ t ∈ guarded.timeSlices, t.low.toNat < t.high.toNat := by
  rcases insertGuardBands_eq_ok run with ⟨_, rfl⟩ | ⟨wide, slicesRun, _⟩
  · exact proper
  · exact (guardedSlices_proper wide proper slicesRun).2

/-- Guard bands keep a GCL a chain of slices within its period. -/
theorem insertGuardBands_chain {gcl guarded : GateControlList}
    (run : gcl.insertGuardBands = .ok guarded) {a b : Nat}
    (chain : TASTimeSlice.Chain a gcl.timeSlices b) (within : b ≤ gcl.period.toNat) :
    ∃ a' b', TASTimeSlice.Chain a' guarded.timeSlices b' ∧ b' ≤ guarded.period.toNat := by
  rcases insertGuardBands_eq_ok run with ⟨_, rfl⟩ | ⟨positive, slicesRun, periodEq⟩
  · exact ⟨a, b, chain, within⟩
  · obtain ⟨chain', bound⟩ := guardedSlices_chain chain slicesRun
    refine ⟨_, _, chain', ?_⟩
    have zero : (0 : U32).toNat = 0 := rfl
    have few := length_le_guardTime positive
    rw [Nat.mul_comm gcl.timeSlices.length] at bound ⊢
    -- so many guard bands fit into a `u32` that their number does
    rw [periodEq, Nat.mod_eq_of_lt (by omega)]
    omega

end GateControlList

end P4Tas.Controller
