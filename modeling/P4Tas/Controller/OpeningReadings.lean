import P4Tas.Controller.PeriodReadings
import P4Tas.DataPlane.QueueOpening
import P4Tas.DataPlane.Restart

/-!
# Reading the delays after an opening

`TAS.p4` stores how long after an opening the first packet of queue 0 was dequeued, and
`read_diff_queue_change` of the controller collects what is stored.  The registers do not tell the
queues apart: an opening is a control packet that opens some queue, if the control packet before it
did not.

* `FirstDelays`: the delays of a history of the egress pipeline;
* `run_series`: the registers of every run hold them;
* `readDiffQueueChange_eq`: the series that the controller writes down.
-/

namespace P4Tas.DataPlane.TAS

open Transition (Run)

variable {target : Target} {es before : List Arrival} {s s' : Registers} {a : Arrival}
  {ds : List (BitVec 32)}

/-! ## Delays -/

/-- The control packet opens some queue. -/
def Arrival.OpensAny (a : Arrival) : Prop :=
  Control a.pkt ∧ a.command = some .openQueue

instance (a : Arrival) : Decidable a.OpensAny :=
  inferInstanceAs (Decidable (_ ∧ _))

/-- `eg_md.deq_tstamp` -/
def Arrival.deqTstamp (a : Arrival) : BitVec 32 :=
  (calculateDequeueTimestamp a.pkt).egMd.deqTstamp

/-- The last control packet opened some queue. -/
def LeftOpen (es : List Arrival) : Prop :=
  ∃ earlier o between, es = earlier ++ o :: between ∧ o.OpensAny ∧
    ∀ a ∈ between, ¬ Control a.pkt

/-- A control packet that opens some queue after one that did not. -/
def Turns (before : List Arrival) (a : Arrival) : Prop :=
  a.OpensAny ∧ ¬ LeftOpen before

/-- A packet of queue 0 is the first one since the last opening, and this is its delay. -/
def Measured (es : List Arrival) (a : Arrival) (d : BitVec 32) : Prop :=
  a.IsData 0 ∧ ∃ earlier o between, es = earlier ++ o :: between ∧ Turns earlier o ∧
    (∀ a' ∈ between, ¬ a'.IsData 0) ∧
    (∀ mid a' after, between = mid ++ a' :: after → ¬ Turns (earlier ++ o :: mid) a') ∧
    d = a.deqTstamp - o.lowerTs

/-- The delays of a history, in their order. -/
inductive FirstDelays : List Arrival → List (BitVec 32) → Prop
  | nil : FirstDelays [] []
  | measured {es : List Arrival} {ds : List (BitVec 32)} {a : Arrival} {d : BitVec 32} :
    FirstDelays es ds → Measured es a d → FirstDelays (es ++ [a]) (ds ++ [d])
  | other {es : List Arrival} {ds : List (BitVec 32)} {a : Arrival} :
    FirstDelays es ds → (∀ d, ¬ Measured es a d) → FirstDelays (es ++ [a]) ds

theorem FirstDelays.of_nil (delays : FirstDelays [] ds) : ds = [] := by
  generalize empty : ([] : List Arrival) = es at delays
  cases delays with
  | nil => rfl
  | measured _ _ => exact absurd empty.symm (by simp)
  | other _ _ => exact absurd empty.symm (by simp)

theorem FirstDelays.of_append_singleton (delays : FirstDelays (es ++ [a]) ds) :
    ∃ ds', FirstDelays es ds' ∧
      ((∃ d, Measured es a d ∧ ds = ds' ++ [d]) ∨ (∀ d, ¬ Measured es a d) ∧ ds = ds') := by
  generalize longer : es ++ [a] = es' at delays
  cases delays with
  | nil => exact absurd longer (by simp)
  | measured earlier measured =>
    obtain ⟨rfl, last⟩ := List.append_inj' longer rfl
    cases last
    exact ⟨_, earlier, .inl ⟨_, measured, rfl⟩⟩
  | other earlier none =>
    obtain ⟨rfl, last⟩ := List.append_inj' longer rfl
    cases last
    exact ⟨_, earlier, .inr ⟨none, rfl⟩⟩

/-! ## The cells of queue 0 -/

/-- What cell 0 of the registers knows: a missed slot and the packets for any queue count. -/
def cellStep (r : QueueRecord) (a : Arrival) : QueueRecord :=
  if Control a.pkt then
    if a.command = some .openQueue then
      if r.isOpen then r else { isOpen := true, openedAt := a.lowerTs, awaited := true }
    else
      { r with isOpen := false }
  else if a.priority = 0 then
    { r with awaited := false }
  else
    r

def cell (es : List Arrival) : QueueRecord :=
  es.foldl cellStep .initial

@[simp] theorem cell_append_singleton : cell (es ++ [a]) = cellStep (cell es) a := by
  simp [cell]

theorem cell_isOpen (es : List Arrival) : (cell es).isOpen = true ↔ LeftOpen es := by
  induction es using List.reverseRecOn with
  | nil =>
    refine ⟨nofun, fun left => ?_⟩
    obtain ⟨earlier, o, between, split, _⟩ := left
    exact absurd split.symm (by simp)
  | append_singleton es a ih =>
    rw [cell_append_singleton]
    have last : ∀ {earlier o between}, es ++ [a] = earlier ++ o :: between →
        (earlier = es ∧ o = a) ∨ ∃ later, between = later ++ [a] ∧ es = earlier ++ o :: later :=
      fun split => History.split_of_append_singleton split
    unfold cellStep
    split
    · rename_i control
      split
      · rename_i opens
        refine ⟨fun _ => ⟨es, a, [], rfl, ⟨control, opens⟩, nofun⟩, fun _ => ?_⟩
        split
        · assumption
        · rfl
      · rename_i other
        refine ⟨nofun, fun left => ?_⟩
        obtain ⟨earlier, o, between, split, opensAny, none⟩ := left
        rcases last split with ⟨_, rfl⟩ | ⟨later, rfl, _⟩
        · exact absurd opensAny.2 other
        · exact absurd control (none a (by simp))
    · rename_i data
      have same : (if a.priority = 0 then { cell es with awaited := false } else cell es).isOpen =
          (cell es).isOpen := by
        split <;> rfl
      rw [same, ih]
      refine ⟨fun left => ?_, fun left => ?_⟩
      · obtain ⟨earlier, o, between, rfl, opensAny, none⟩ := left
        refine ⟨earlier, o, between ++ [a], by simp, opensAny, fun a' member => ?_⟩
        rcases List.mem_append.mp member with old | new
        · exact none a' old
        · rw [List.mem_singleton.mp new]
          exact data
      · obtain ⟨earlier, o, between, split, opensAny, none⟩ := left
        rcases last split with ⟨_, rfl⟩ | ⟨later, rfl, rfl⟩
        · exact absurd opensAny.1 data
        · exact ⟨earlier, o, later, rfl, opensAny,
            fun a' member => none a' (List.mem_append_left _ member)⟩

/-- One more arrival is an opening, or keeps the time of the last one. -/
theorem cellStep_cases (es : List Arrival) (a : Arrival) :
    (Turns es a ∧ cell (es ++ [a]) = { isOpen := true, openedAt := a.lowerTs, awaited := true }) ∨
      ¬ Turns es a ∧ (cell (es ++ [a])).openedAt = (cell es).openedAt ∧
        ((cell (es ++ [a])).awaited = true ↔ (cell es).awaited = true ∧ ¬ a.IsData 0) := by
  rw [cell_append_singleton]
  unfold Turns Arrival.OpensAny Arrival.IsData
  rw [← cell_isOpen]
  unfold cellStep
  split
  · rename_i control
    split
    · rename_i opens
      cases state : (cell es).isOpen with
      | false => exact .inl ⟨⟨⟨control, opens⟩, nofun⟩, rfl⟩
      | true =>
        refine .inr ⟨fun turns => turns.2 rfl, rfl, ?_⟩
        rw [if_pos rfl]
        exact ⟨fun awaited => ⟨awaited, fun data => data.1 control⟩, And.left⟩
    · rename_i other
      exact .inr ⟨fun turns => other turns.1.2, rfl,
        fun awaited => ⟨awaited, fun data => data.1 control⟩, And.left⟩
  · rename_i data
    refine .inr ⟨fun turns => data turns.1.1, ?_⟩
    split
    · rename_i own
      exact ⟨rfl, nofun, fun awaited => absurd ⟨data, own⟩ awaited.2⟩
    · rename_i other
      exact ⟨rfl, fun awaited => ⟨awaited, fun own => other own.2⟩, And.left⟩

/-- A packet of queue 0 is awaited exactly if there was an opening and none has come since, and then
the time is that of the last opening. -/
theorem cell_awaited (es : List Arrival) (ts : BitVec 32) :
    (cell es).awaited = true ∧ (cell es).openedAt = ts ↔
      ∃ earlier o between, es = earlier ++ o :: between ∧ Turns earlier o ∧
        (∀ a' ∈ between, ¬ a'.IsData 0) ∧
        (∀ mid a' after, between = mid ++ a' :: after → ¬ Turns (earlier ++ o :: mid) a') ∧
        ts = o.lowerTs := by
  induction es using List.reverseRecOn with
  | nil =>
    refine ⟨fun awaited => Bool.noConfusion awaited.1, fun opened => ?_⟩
    obtain ⟨earlier, o, between, split, _⟩ := opened
    exact absurd split.symm (by simp)
  | append_singleton es a ih =>
    have last : ∀ {earlier o between}, es ++ [a] = earlier ++ o :: between →
        (earlier = es ∧ o = a) ∨ ∃ later, between = later ++ [a] ∧ es = earlier ++ o :: later :=
      fun split => History.split_of_append_singleton split
    rcases cellStep_cases es a with ⟨turns, state⟩ | ⟨calm, openedAt, awaited⟩
    · rw [state]
      refine ⟨fun held => ⟨es, a, [], rfl, turns, nofun, fun mid a' after split => ?_,
        held.2.symm⟩, fun opened => ⟨rfl, ?_⟩⟩
      · exact absurd split.symm (by simp)
      · obtain ⟨earlier, o, between, split, _, _, noTurn, rfl⟩ := opened
        rcases last split with ⟨_, rfl⟩ | ⟨later, rfl, rfl⟩
        · rfl
        · exact absurd turns (noTurn later a [] rfl)
    · rw [openedAt, awaited]
      refine ⟨fun held => ?_, fun opened => ?_⟩
      · obtain ⟨earlier, o, between, rfl, turns, none, noTurn, same⟩ := ih.mp ⟨held.1.1, held.2⟩
        refine ⟨earlier, o, between ++ [a], by simp, turns, fun a' member => ?_,
          fun mid a' after split => ?_, same⟩
        · rcases List.mem_append.mp member with old | new
          · exact none a' old
          · rw [List.mem_singleton.mp new]
            exact held.1.2
        · rcases History.split_of_append_singleton split with ⟨rfl, rfl⟩ | ⟨later, _, split'⟩
          · exact calm
          · exact noTurn mid a' later split'
      · obtain ⟨earlier, o, between, split, turns, none, noTurn, same⟩ := opened
        rcases last split with ⟨rfl, rfl⟩ | ⟨later, rfl, rfl⟩
        · exact absurd turns calm
        · obtain ⟨still, time⟩ := ih.mpr ⟨earlier, o, later, rfl, turns,
            fun a' member => none a' (List.mem_append_left _ member),
            fun mid a' after split' => noTurn mid a' (after ++ [a]) (by simp [split']), same⟩
          exact ⟨⟨still, none a (by simp)⟩, time⟩

theorem measured_iff (es : List Arrival) (a : Arrival) (d : BitVec 32) :
    Measured es a d ↔ a.IsData 0 ∧ (cell es).awaited = true ∧
      d = a.deqTstamp - (cell es).openedAt := by
  refine and_congr_right fun _ => ⟨fun measured => ?_, fun held => ?_⟩
  · obtain ⟨earlier, o, between, split, turns, none, noTurn, same⟩ := measured
    obtain ⟨awaited, openedAt⟩ :=
      (cell_awaited es o.lowerTs).mpr ⟨earlier, o, between, split, turns, none, noTurn, rfl⟩
    exact ⟨awaited, openedAt.symm ▸ same⟩
  · obtain ⟨earlier, o, between, split, turns, none, noTurn, same⟩ :=
      (cell_awaited es _).mp ⟨held.1, rfl⟩
    exact ⟨earlier, o, between, split, turns, none, noTurn, same ▸ held.2⟩

/-! ## The registers -/

/-- The registers after a packet of queue 0 whose delay is stored. -/
theorem apply_stored (target : Target) (data : a.IsData 0)
    (awaited : s.regDequeueTsMeasurement 0 = 1) :
    (apply target a.tables s a.pkt).registers.nextTimeSeriesIndex =
        Function.update s.nextTimeSeriesIndex 0 (s.nextTimeSeriesIndex 0 + 1) ∧
      (apply target a.tables s a.pkt).registers.regTsDequeueDiff =
        target.write 90000 s.regTsDequeueDiff (s.nextTimeSeriesIndex 0).toNat
          (fun _ => a.deqTstamp - s.lowerLastTs 0) := by
  have front : target.cell 256 0 = some 0 := target.inRange 256 0 (by decide)
  have own : target.cell 256 (BitVec.toNat (0 : BitVec 3)) = some 0 := front
  have pcp : (calculateDequeueTimestamp a.pkt).hdr.eth8021q.pcp = 0 := BitVec.eq_of_toNat_eq data.2
  have armed := (apply_data target s data.1).2.1
  unfold apply at armed ⊢
  rw [if_neg data.1] at armed ⊢
  unfold applyData at armed ⊢
  dsimp only at armed ⊢
  rw [data.2, awaited] at armed
  rw [if_pos ⟨armed, pcp⟩]
  unfold storeDiff
  dsimp only
  rw [Target.execute_cell front, pcp, Target.read_cell own]
  exact ⟨rfl, rfl⟩

/-- Any other packet leaves the series alone. -/
theorem apply_unstored (target : Target)
    (other : ¬ (a.IsData 0 ∧ s.regDequeueTsMeasurement 0 = 1)) :
    (apply target a.tables s a.pkt).registers.nextTimeSeriesIndex = s.nextTimeSeriesIndex ∧
      (apply target a.tables s a.pkt).registers.regTsDequeueDiff = s.regTsDequeueDiff := by
  rcases Decidable.em (Control a.pkt) with control | data
  · rcases Decidable.em (a.command = some .openQueue) with opening | closing
    · rw [apply_opening target s control opening]
      split
      · exact ⟨rfl, rfl⟩
      · exact ⟨rfl, rfl⟩
    · rw [apply_closing target s control closing]
      exact ⟨rfl, rfl⟩
  · have armed := (apply_data target s data).2.1
    unfold apply at armed ⊢
    rw [if_neg data] at armed ⊢
    unfold applyData at armed ⊢
    dsimp only at armed ⊢
    rw [if_neg fun stored => ?_]
    · exact ⟨rfl, rfl⟩
    · have own : a.priority = 0 := congrArg BitVec.toNat stored.2
      rw [armed, own] at stored
      exact other ⟨⟨data, own⟩, stored.1⟩

/-- The registers hold what the cells of queue 0 know, and the delays. -/
structure Holds (es : List Arrival) (ds : List (BitVec 32)) (s : Registers) : Prop where
  state : s.queueState 0 = if (cell es).isOpen then 1 else 0
  openedAt : s.lowerLastTs 0 = (cell es).openedAt
  awaited : s.regDequeueTsMeasurement 0 = if (cell es).awaited then 1 else 0
  index : s.nextTimeSeriesIndex 0 = BitVec.ofNat 32 ds.length
  series : ds.length ≤ 90000 → ∀ k, s.regTsDequeueDiff k = ds.getD k 0

theorem holds_initial : Holds [] [] .initial where
  state := rfl
  openedAt := rfl
  awaited := rfl
  index := rfl
  series := fun _ _ => rfl

/-- A control packet is no measurement. -/
theorem holds_control (holds : Holds es ds s) (control : Control a.pkt) :
    Holds (es ++ [a]) ds (apply target a.tables s a.pkt).registers := by
  rcases Decidable.em (a.command = some .openQueue) with opening | closing
  · have known : cell (es ++ [a]) = if (cell es).isOpen then cell es
        else { isOpen := true, openedAt := a.lowerTs, awaited := true } := by
      rw [cell_append_singleton, cellStep, if_pos control, if_pos opening]
    rw [apply_opening target s control opening, holds.state]
    cases state : (cell es).isOpen with
    | true =>
      rw [state, if_pos rfl] at known
      rw [if_pos rfl, if_pos rfl]
      exact ⟨known ▸ holds.state, known ▸ holds.openedAt, known ▸ holds.awaited, holds.index,
        holds.series⟩
    | false =>
      rw [state, if_neg (by decide)] at known
      rw [if_neg (by decide)]
      refine ⟨?_, ?_, ?_, holds.index, holds.series⟩
      · rw [known]
        exact Function.update_self 0 1 s.queueState
      · rw [known]
        exact Function.update_self 0 a.lowerTs s.lowerLastTs
      · rw [known]
        exact Function.update_self 0 1 s.regDequeueTsMeasurement
  · have known : cell (es ++ [a]) = { cell es with isOpen := false } := by
      rw [cell_append_singleton, cellStep, if_pos control, if_neg closing]
    rw [apply_closing target s control closing]
    refine ⟨?_, ?_, ?_, holds.index, holds.series⟩
    · rw [known]
      exact Function.update_self 0 0 s.queueState
    · rw [known]
      exact holds.openedAt
    · rw [known]
      exact holds.awaited

/-- What a packet that is no control packet leaves of the cells. -/
theorem cell_data (data : ¬ Control a.pkt) :
    (cell (es ++ [a])).isOpen = (cell es).isOpen ∧
      (cell (es ++ [a])).openedAt = (cell es).openedAt ∧
      (cell (es ++ [a])).awaited = if a.priority = 0 then false else (cell es).awaited := by
  rw [cell_append_singleton, cellStep, if_neg data]
  split
  · exact ⟨rfl, rfl, rfl⟩
  · exact ⟨rfl, rfl, rfl⟩

theorem holds_stored (holds : Holds es ds s) (data : a.IsData 0)
    (awaited : (cell es).awaited = true) :
    Holds (es ++ [a]) (ds ++ [a.deqTstamp - (cell es).openedAt])
      (apply target a.tables s a.pkt).registers := by
  obtain ⟨_, _, state, openedAt, measurement⟩ := apply_data target s data.1
  obtain ⟨isOpen', openedAt', awaited'⟩ := @cell_data es a data.1
  have armed : s.regDequeueTsMeasurement 0 = 1 := by rw [holds.awaited, awaited, if_pos rfl]
  obtain ⟨index, series⟩ := apply_stored target data armed
  rw [if_pos data.2] at awaited'
  rw [data.2] at measurement
  refine ⟨?_, ?_, ?_, ?_, fun few k => ?_⟩
  · rw [state, isOpen']
    exact holds.state
  · rw [openedAt, openedAt']
    exact holds.openedAt
  · rw [measurement, awaited']
    exact Function.update_self 0 0 s.regDequeueTsMeasurement
  · rw [index, Function.update_self, holds.index, List.length_append]
    exact (BitVec.ofNat_add _ 1).symm
  · rw [List.length_append, List.length_singleton] at few
    have inside : ds.length < 90000 := few
    have next : (s.nextTimeSeriesIndex 0).toNat = ds.length := by
      rw [holds.index, BitVec.toNat_ofNat]
      omega
    rw [series, next, Target.write_cell (target.inRange 90000 ds.length inside), holds.openedAt]
    rcases Decidable.em (k = ds.length) with rfl | other
    · rw [Function.update_self, List.getD_append_right _ _ _ _ le_rfl, Nat.sub_self]
      rfl
    · rw [Function.update_of_ne other, holds.series inside.le k]
      rcases Nat.lt_or_gt_of_ne other with before | beyond
      · rw [List.getD_append _ _ _ _ before]
      · rw [List.getD_eq_default _ _ beyond.le, List.getD_eq_default _ _ ?_]
        rw [List.length_append]
        exact beyond

theorem holds_unstored (holds : Holds es ds s) (data : ¬ Control a.pkt)
    (other : ¬ (a.IsData 0 ∧ (cell es).awaited = true)) :
    Holds (es ++ [a]) ds (apply target a.tables s a.pkt).registers := by
  obtain ⟨_, _, state, openedAt, measurement⟩ := apply_data target s data
  obtain ⟨isOpen', openedAt', awaited'⟩ := @cell_data es a data
  have unarmed : ¬ (a.IsData 0 ∧ s.regDequeueTsMeasurement 0 = 1) := by
    intro stored
    refine other ⟨stored.1, ?_⟩
    by_contra calm
    have zero := holds.awaited
    rw [if_neg calm, stored.2] at zero
    exact absurd zero (by decide)
  obtain ⟨index, series⟩ := apply_unstored target unarmed
  refine ⟨?_, ?_, ?_, index ▸ holds.index, series ▸ holds.series⟩
  · rw [state, isOpen']
    exact holds.state
  · rw [openedAt, openedAt']
    exact holds.openedAt
  · rw [measurement, awaited']
    split
    · rename_i own
      rw [own]
      exact Function.update_self 0 0 s.regDequeueTsMeasurement
    · rename_i foreign
      rw [Function.update_of_ne (Ne.symm foreign)]
      exact holds.awaited

theorem holds_step (delays : FirstDelays es ds) (holds : Holds es ds s)
    (taken : Step target s a s') :
    ∃ ds', FirstDelays (es ++ [a]) ds' ∧ Holds (es ++ [a]) ds' s' := by
  rw [taken]
  rcases Classical.em (a.IsData 0 ∧ (cell es).awaited = true) with ⟨data, awaited⟩ | other
  · exact ⟨_, .measured delays ((measured_iff es a _).mpr ⟨data, awaited, rfl⟩),
      holds_stored holds data awaited⟩
  · refine ⟨ds, .other delays fun d measured => ?_, ?_⟩
    · obtain ⟨data, awaited, _⟩ := (measured_iff es a d).mp measured
      exact other ⟨data, awaited⟩
    · rcases Decidable.em (Control a.pkt) with control | data
      · exact holds_control holds control
      · exact holds_unstored holds data other

/-- The registers of every run hold the delays of its packets. -/
theorem run_series (run : Run (Step target) .initial es s) :
    ∃ ds, FirstDelays es ds ∧ Holds es ds s := by
  refine @Run.history _ _ _ _ _ (fun es s => ∃ ds, FirstDelays es ds ∧ Holds es ds s) es run
    ⟨[], .nil, holds_initial⟩ fun before t e t' held taken => ?_
  obtain ⟨ds, delays, holds⟩ := held
  exact holds_step delays holds taken

/-- Where no opening is lost, the delays are those after the openings of queue 0. -/
theorem measured_of_queue (run : Run (Step target) .initial es s)
    (undisturbed : Undisturbed target es) {d : BitVec 32} (measured : Measured es a d) :
    OpenedSince 0 es ∧ ∃ ts, LastOpening 0 es ts ∧ d = a.deqTstamp - ts := by
  have mirrors := run_mirrors run undisturbed
  obtain ⟨_, _, holds⟩ := run_series run
  obtain ⟨_, awaited, rfl⟩ := (measured_iff es a d).mp measured
  have since : OpenedSince 0 es := by
    refine openedSince_of_awaited ?_
    by_contra calm
    have zero := mirrors.awaited 0
    rw [holds.awaited, if_pos awaited, if_neg calm] at zero
    exact absurd zero (by decide)
  have same : (cell es).openedAt = (record 0 es).openedAt :=
    holds.openedAt.symm.trans (mirrors.openedAt 0)
  refine ⟨since, (cell es).openedAt, ?_, rfl⟩
  rw [same]
  rcases openedAt_cases 0 es with last | ⟨never, _⟩
  · exact last
  · obtain ⟨before, o, later, split, opens, _⟩ := since
    exact absurd opens (never before o later split)

end P4Tas.DataPlane.TAS

namespace P4Tas.Controller

open DataPlane
open Measurement (RegisterEntries cellValue)

/-! ## Reading -/

/-- What is pushed for cell `i`, of pipe 1. -/
def pushDelay (entries : RegisterEntries) (i : Nat) : Rust (List U32) := do
  let diff ← cellValue entries (BitVec.ofNat 32 i) "egress.tas_c.reg_ts_dequeue_diff" 1
  let bytes ← indexBe diff 0 4
  let diff := BitVec.ofNat 32 bytes
  return if diff < 4294900000 ∧ diff > 0 then [diff] else []

/-- The series that is written to the file; an empty one is not. -/
def readDiffQueueChange (switch : RegisterReplies) : Rust (Option (List U32)) := do
  let timeSeries ← match switch "egress.tas_c.reg_ts_dequeue_diff" none with
    | some entries => Fallible.concatMap (pushDelay entries) (List.range entries.len)
    | none => pure []
  return if timeSeries = [] then none else some timeSeries

/-- The switch replies with the series of its pipes. -/
def ShowsDelays (pipes : Nat → TAS.Registers) (switch : RegisterReplies) : Prop :=
  ∃ entries, switch "egress.tas_c.reg_ts_dequeue_diff" none = some entries ∧
    entries.len = 90000 ∧ ∀ i < 90000,
      Cell 4 (fun pipe => (pipes pipe).regTsDequeueDiff i) "egress.tas_c.reg_ts_dequeue_diff"
        entries i

/-- The delays that are no errors of measurement: not those of 0, nor those from 4294900000 on. -/
def errorFree (ds : List U32) : List U32 :=
  ds.filter fun d => d < 4294900000 ∧ d > 0

theorem pushDelay_eq {entries : RegisterEntries} {value : Nat → BitVec 32} {i : Nat}
    (cell : Cell 4 value "egress.tas_c.reg_ts_dequeue_diff" entries i) :
    pushDelay entries i = .ok (errorFree [value 1]) := by
  have bytes : indexBe (toBeBytes 4 (value 1).toNat).toList 0 4 = .ok (value 1).toNat := by
    rw [indexBe_eq (by rw [List.Vector.toList_length]), List.drop_zero,
      List.take_of_length_le (by rw [List.Vector.toList_length]), fromBeBytes_toBeBytes,
      Nat.mod_eq_of_lt (by exact (value 1).isLt : (value 1).toNat < 256 ^ 4)]
  have read := @cellValue_of_cell 4 32 i value _ entries 1 cell (by decide)
  have pipe : (1 : U8).toNat = 1 := rfl
  rw [pipe] at read
  unfold pushDelay errorFree
  rw [read, Fallible.ok_bind, bytes, Fallible.ok_bind, BitVec.ofNat_toNat, BitVec.setWidth_eq,
    List.filter_cons, List.filter_nil]
  simp only [decide_eq_true_eq]
  rfl

/-- The cells after the last delay are 0, and are not pushed. -/
theorem errorFree_cells {ds : List U32} {n : Nat} (few : ds.length ≤ n) :
    (List.range n).flatMap (fun i => errorFree [ds.getD i 0]) = errorFree ds := by
  have cells : (List.range n).map (fun i => ds.getD i 0) =
      ds ++ List.replicate (n - ds.length) 0 := by
    refine List.ext_getElem (by simp; omega) fun i inside inside' => ?_
    rw [List.getElem_map, List.getElem_range, List.getElem_append]
    split
    · rename_i written
      exact List.getD_eq_getElem _ _ written
    · rename_i beyond
      rw [List.getElem_replicate]
      exact List.getD_eq_default _ _ (Nat.le_of_not_lt beyond)
  have zeros : errorFree (List.replicate (n - ds.length) 0) = [] := by
    unfold errorFree
    rw [List.filter_eq_nil_iff]
    intro d member
    rw [List.eq_of_mem_replicate member]
    decide
  have joined : (List.range n).flatMap (fun i => errorFree [ds.getD i 0]) =
      errorFree ((List.range n).map fun i => ds.getD i 0) := by
    unfold errorFree
    rw [List.map_eq_flatMap, List.filter_flatMap]
  rw [joined, cells]
  unfold errorFree at zeros ⊢
  rw [List.filter_append, zeros, List.append_nil]

/-- **The delays that the controller writes down.**  After every run of the egress pipeline from a
start of the controller on, with no more measurements than the series has cells, the file gets the
delays of the first packets of queue 0 after the openings, in their order, without those that are
errors of measurement. -/
theorem readDiffQueueChange_eq {driver : Driver} {macFromStr : String → Option (List U8)}
    {replies : Switch} {devPort : U32 → U32 → Option U32} {cfg : Configuration}
    {s s' : SwitchState} {switch : RegisterReplies} {pipes : Nat → TAS.Registers} {target : Target}
    {es : List TAS.Arrival} (documented : driver.Documented)
    (restarted : run driver macFromStr replies devPort cfg s = .ok (some s'))
    (shows : ShowsDelays pipes switch)
    (steps : Transition.Run (TAS.Step target) s'.egress es (pipes 1)) :
    ∃ ds, TAS.FirstDelays es ds ∧ (ds.length ≤ 90000 → readDiffQueueChange switch =
      .ok (if errorFree ds = [] then none else some (errorFree ds))) := by
  obtain ⟨out, app, forwarding, generators, batch, afc, restart⟩ := run_eq_ok documented restarted
  rw [restart.state, (broughtUp_registers forwarding generators batch afc s).2] at steps
  obtain ⟨ds, delays, holds⟩ := TAS.run_series steps
  refine ⟨ds, delays, fun few => ?_⟩
  obtain ⟨entries, reply, length, cells⟩ := shows
  have pushed : ∀ i ∈ List.range 90000, pushDelay entries i = .ok (errorFree [ds.getD i 0]) := by
    intro i member
    rw [pushDelay_eq (cells i (List.mem_range.mp member)), holds.series few]
  have series : Fallible.concatMap (pushDelay entries) (List.range 90000) =
      .ok (errorFree ds) := by
    rw [Fallible.concatMap_eq_ok, ← errorFree_cells few]
    refine ⟨fun i member => ⟨_, pushed i member⟩, ?_⟩
    refine (List.flatMap_congr fun i member => ?_).symm
    rw [pushed i member, Fallible.output_ok]
  unfold readDiffQueueChange
  rw [reply]
  dsimp only
  rw [length, series]
  rfl

/-! ### Samples -/

/-- A packet of queue 0 that is dequeued at time 10. -/
def sampleFirst : TAS.Arrival where
  tables := { installed := [], precedence := .first }
  pkt := { (default : EgressPacket) with
    hdr := { timer := none, gclTime := none, eth8021q := ⟨0, 0, 0⟩ }
    egIntrMd := { enqTstamp := 7, deqTimedelta := 3 } }
  fresh := rfl

/-- The switch replies with these registers for all of its pipes. -/
def delaySwitch (registers : TAS.Registers) : RegisterReplies := fun _ _ =>
  some { sampleReply 4 (fun _ => registers.regTsDequeueDiff) with len := 90000 }

theorem delaySwitch_shows (registers : TAS.Registers) :
    ShowsDelays (fun _ => registers) (delaySwitch registers) := by
  refine ⟨_, rfl, rfl, fun i inside => ?_⟩
  obtain ⟨entry, values, got, data, piped⟩ := @sampleReply_cell 4 32 i
    (fun _ => registers.regTsDequeueDiff) "egress.tas_c.reg_ts_dequeue_diff" (by omega)
  exact ⟨entry, values, got, data, piped⟩

/-- Queue 0 is opened at time 5, and its first packet is dequeued at time 10. -/
theorem sampleFirst_delays {ds : List (BitVec 32)}
    (delays : TAS.FirstDelays [TAS.sampleOpening 0 5, sampleFirst] ds) : ds = [5] := by
  have opening : TAS.Measured [TAS.sampleOpening 0 5] sampleFirst 5 := by
    rw [TAS.measured_iff]
    exact ⟨⟨by decide, rfl⟩, by decide +kernel, by decide +kernel⟩
  have none (d : BitVec 32) : ¬ TAS.Measured [] (TAS.sampleOpening 0 5) d := by
    rw [TAS.measured_iff]
    exact fun measured => Bool.noConfusion measured.2.1
  obtain ⟨first, earlier, ⟨d, measured, rfl⟩ | ⟨other, _⟩⟩ :=
    @TAS.FirstDelays.of_append_singleton [TAS.sampleOpening 0 5] sampleFirst ds delays
  · obtain ⟨start, nothing, ⟨d', measured', _⟩ | ⟨_, rfl⟩⟩ :=
      @TAS.FirstDelays.of_append_singleton [] (TAS.sampleOpening 0 5) first earlier
    · exact absurd measured' (none d')
    · rw [nothing.of_nil, (TAS.measured_iff _ _ _).mp measured |>.2.2]
      exact congrArg (· :: []) ((TAS.measured_iff _ _ _).mp opening).2.2.symm
  · exact absurd opening (other 5)

theorem readDiffQueueChange_eq_sample : ∃ s' last,
    run directDriver sampleMacFromStr eightQueues (fun port _ => some port) closingSample
        usedSwitch = .ok (some s') ∧
      Transition.Run (TAS.Step .strict) s'.egress [TAS.sampleOpening 0 5, sampleFirst] last ∧
      readDiffQueueChange (delaySwitch last) = .ok (some [5]) := by
  obtain ⟨s', restarted⟩ := restart_returns usedSwitch
  have steps : Transition.Run (TAS.Step .strict) s'.egress [TAS.sampleOpening 0 5, sampleFirst] _ :=
    .cons rfl (.cons rfl (.nil _))
  obtain ⟨ds, delays, reads⟩ := readDiffQueueChange_eq directDriver_documented restarted
    (delaySwitch_shows _) steps
  refine ⟨s', _, restarted, steps, ?_⟩
  rw [sampleFirst_delays delays] at reads
  exact reads (by decide)

end P4Tas.Controller
