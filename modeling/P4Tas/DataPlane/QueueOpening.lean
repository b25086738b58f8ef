import P4Tas.DataPlane.Tas
import P4Tas.Lib.History
import P4Tas.Lib.Transition

/-!
# Which opening a packet is measured against

A control packet is for one queue, but `TAS.p4` keeps its state and the time of its opening in cell
0 of the registers, and a data packet reads the cell of its priority.  A missed time slot counts as
a closing.

* `QueueRecord`: what the registers are for, one record a queue;
* `measured_against_opening`: in a run in which no other queue is opened, and queue 0 is not opened
  again after its state was lost, every packet is measured against the last opening of its queue;
* `opening_of_other_queue`: an opening of queue 1 that its packets do not see.
-/

namespace P4Tas.DataPlane

namespace TAS

open Transition (Run)

/-- A packet that arrives in the egress pipeline, and the tables it meets.  The parser leaves the
metadata zero. -/
structure Arrival where
  tables : Tables
  pkt : EgressPacket
  fresh : pkt.egMd = default

namespace Arrival

/-- The queue a control packet is for. -/
def queue (a : Arrival) : Nat :=
  (a.pkt.hdr.timer.map (·.packetId.toNat)).getD 0

def priority (a : Arrival) : Nat :=
  a.pkt.hdr.eth8021q.pcp.toNat

/-- The action of the entry of the gate control list that is hit. -/
def command (a : Arrival) : Option Action :=
  (a.tables.lookup .gateControlList a.pkt.fields).map (·.action)

/-- A data packet of the queue. -/
def IsData (a : Arrival) (q : Nat) : Prop :=
  ¬ Control a.pkt ∧ a.priority = q

/-- A control packet that opens the queue. -/
def CommandsOpen (a : Arrival) (q : Nat) : Prop :=
  Control a.pkt ∧ a.queue = q ∧ a.command = some .openQueue

/-- The lower half of the egress timestamp. -/
def lowerTs (a : Arrival) : BitVec 32 :=
  a.pkt.globalTstamp.setWidth 32

end Arrival

/-- The registers before and after an arrival. -/
def Step (target : Target) (s : Registers) (a : Arrival) (s' : Registers) : Prop :=
  s' = (apply target a.tables s a.pkt).registers

variable {target : Target} {es before later : List Arrival} {s s' : Registers} {a : Arrival}
  {q : Nat}

/-! ## The queues -/

/-- What there is to know about a queue: whether it is open, when it was opened last, and whether a
packet of it has yet to follow that. -/
structure QueueRecord where
  isOpen : Bool
  openedAt : BitVec 32
  awaited : Bool

namespace QueueRecord

def initial : QueueRecord where
  isOpen := false
  openedAt := 0
  awaited := false

def step (q : Nat) (r : QueueRecord) (a : Arrival) : QueueRecord :=
  if Control a.pkt then
    if a.queue = q then
      match a.command with
      | some .openQueue =>
        if r.isOpen then r else { isOpen := true, openedAt := a.lowerTs, awaited := true }
      | some .closeQueue => { r with isOpen := false }
      | _ => r
    else
      r
  else if a.priority = q then
    { r with awaited := false }
  else
    r

end QueueRecord

/-- The record of a queue after a list of arrivals. -/
def record (q : Nat) (es : List Arrival) : QueueRecord :=
  es.foldl (QueueRecord.step q) .initial

/-- The arrival changes the queue from closed to open. -/
def Opens (q : Nat) (before : List Arrival) (a : Arrival) : Prop :=
  a.CommandsOpen q ∧ (record q before).isOpen = false

/-- The last opening of the queue was at this time. -/
def LastOpening (q : Nat) (es : List Arrival) (ts : BitVec 32) : Prop :=
  ∃ before a later, es = before ++ a :: later ∧ Opens q before a ∧ ts = a.lowerTs ∧
    ∀ mid a' after, later = mid ++ a' :: after → ¬ Opens q (before ++ a :: mid) a'

def NeverOpened (q : Nat) (es : List Arrival) : Prop :=
  ∀ before a later, es = before ++ a :: later → ¬ Opens q before a

/-- The queue was opened, and no packet of it has followed. -/
def OpenedSince (q : Nat) (es : List Arrival) : Prop :=
  ∃ before a later, es = before ++ a :: later ∧ Opens q before a ∧ ∀ a' ∈ later, ¬ a'.IsData q

@[simp] theorem record_append_singleton :
    record q (es ++ [a]) = (record q es).step q a := by
  simp [record]

/-- One more arrival is an opening, or leaves the time of the last one. -/
theorem step_openedAt (q : Nat) (es : List Arrival) (a : Arrival) :
    (Opens q es a ∧ (record q (es ++ [a])).openedAt = a.lowerTs) ∨
      ¬ Opens q es a ∧ (record q (es ++ [a])).openedAt = (record q es).openedAt := by
  rw [record_append_singleton]
  unfold Opens Arrival.CommandsOpen QueueRecord.step
  split
  · rename_i control
    split
    · rename_i own
      split
      · rename_i commanded
        cases state : (record q es).isOpen with
        | false => exact .inl ⟨⟨⟨control, own, commanded⟩, rfl⟩, rfl⟩
        | true => exact .inr ⟨fun opens => Bool.noConfusion opens.2, rfl⟩
      · rename_i commanded
        exact .inr ⟨fun opens => absurd (commanded.symm.trans opens.1.2.2) nofun, rfl⟩
      · rename_i other _
        exact .inr ⟨fun opens => other opens.1.2.2, rfl⟩
    · rename_i other
      exact .inr ⟨fun opens => other opens.1.2.1, rfl⟩
  · rename_i data
    refine .inr ⟨fun opens => data opens.1.1, ?_⟩
    split
    · rfl
    · rfl

/-- The record has the time of the last opening. -/
theorem openedAt_cases (q : Nat) (es : List Arrival) :
    LastOpening q es (record q es).openedAt ∨
      NeverOpened q es ∧ (record q es).openedAt = 0 := by
  induction es using List.reverseRecOn with
  | nil =>
    refine .inr ⟨fun before a later split => ?_, rfl⟩
    exact absurd split.symm (List.append_ne_nil_of_right_ne_nil _ (List.cons_ne_nil _ _))
  | append_singleton es a ih =>
    rcases step_openedAt q es a with ⟨opens, at_now⟩ | ⟨other, as_before⟩
    · refine .inl ⟨es, a, [], rfl, opens, at_now, fun mid a' after split => ?_⟩
      exact absurd split.symm (List.append_ne_nil_of_right_ne_nil _ (List.cons_ne_nil _ _))
    · rw [as_before]
      rcases ih with ⟨before, a0, later, rfl, opens, at_a0, last⟩ | ⟨never, zero⟩
      · refine .inl ⟨before, a0, later ++ [a], by simp, opens, at_a0, fun mid a' after split => ?_⟩
        rcases History.split_of_append_singleton split with ⟨rfl, rfl⟩ | ⟨earlier, _, split'⟩
        · exact other
        · exact last mid a' earlier split'
      · refine .inr ⟨fun before a' later split => ?_, zero⟩
        rcases History.split_of_append_singleton split with ⟨rfl, rfl⟩ | ⟨earlier, _, split'⟩
        · exact other
        · exact never before a' earlier split'

/-- A packet of the queue is awaited after an opening, until it arrives. -/
theorem step_awaited (awaited : (record q (es ++ [a])).awaited = true) :
    Opens q es a ∨ (record q es).awaited = true ∧ ¬ a.IsData q := by
  rw [record_append_singleton] at awaited
  unfold QueueRecord.step at awaited
  unfold Opens Arrival.CommandsOpen Arrival.IsData
  split at awaited
  · rename_i control
    have still : ¬ (¬ Control a.pkt ∧ a.priority = q) := fun data => data.1 control
    split at awaited
    · rename_i own
      split at awaited
      · rename_i commanded
        cases state : (record q es).isOpen with
        | false => exact .inl ⟨⟨control, own, commanded⟩, rfl⟩
        | true =>
          rw [state] at awaited
          exact .inr ⟨awaited, still⟩
      · exact .inr ⟨awaited, still⟩
      · exact .inr ⟨awaited, still⟩
    · exact .inr ⟨awaited, still⟩
  · split at awaited
    · cases awaited
    · rename_i other
      exact .inr ⟨awaited, fun data => other data.2⟩

theorem openedSince_of_awaited (awaited : (record q es).awaited = true) : OpenedSince q es := by
  induction es using List.reverseRecOn with
  | nil => cases awaited
  | append_singleton es a ih =>
    rcases step_awaited awaited with opens | ⟨waiting, other⟩
    · exact ⟨es, a, [], rfl, opens, nofun⟩
    · rcases ih waiting with ⟨before, a0, later, rfl, opens, none⟩
      refine ⟨before, a0, later ++ [a], by simp, opens, fun a' member => ?_⟩
      rcases List.mem_append.mp member with old | new
      · exact none a' old
      · rw [List.mem_singleton.mp new]
        exact other

/-! ## What an arrival does to the registers -/

/-- The list leaves 1 for an opening and 0 for anything else. -/
theorem gateControlList_newQueueState (a : Arrival) :
    (gateControlList a.tables a.pkt).egMd.newQueueState =
      if a.command = some .openQueue then 1 else 0 := by
  have zero : a.pkt.egMd.newQueueState = 0 := by
    rw [a.fresh]
    rfl
  unfold gateControlList Arrival.command
  cases a.tables.lookup .gateControlList a.pkt.fields with
  | none => exact zero
  | some r =>
    dsimp only [Option.map_some]
    split
    · rename_i opens
      exact (if_pos (congrArg some opens)).symm
    · rename_i closes
      have other : some r.action ≠ some .openQueue := by
        rw [closes]
        nofun
      exact (if_neg other).symm
    · rename_i other _
      rw [if_neg (fun same => other (Option.some.inj same))]
      exact zero

theorem gateControlList_globalTstamp (tables : Tables) (pkt : EgressPacket) :
    (gateControlList tables pkt).globalTstamp = pkt.globalTstamp := by
  unfold gateControlList
  split
  · split
    · rfl
    · rfl
    · rfl
  · rfl

/-- An opening sets cell 0, and where that was 0 it records the time there. -/
theorem apply_opening (target : Target) (s : Registers) (control : Control a.pkt)
    (opening : a.command = some .openQueue) :
    (apply target a.tables s a.pkt).registers =
      if s.queueState 0 = 1 then
        s
      else
        { s with
          queueState := Function.update s.queueState 0 1
          lowerLastTs := Function.update s.lowerLastTs 0 a.lowerTs
          regDequeueTsMeasurement := Function.update s.regDequeueTsMeasurement 0 1 } := by
  have opened : (gateControlList a.tables a.pkt).egMd.newQueueState = 1 :=
    (gateControlList_newQueueState a).trans (if_pos opening)
  have stamp := gateControlList_globalTstamp a.tables a.pkt
  unfold apply applyControl Target.execute Target.write readAndSetQueueState Arrival.lowerTs
  rw [if_pos control, target.inRange 256 0 (by decide)]
  dsimp only
  rw [opened, stamp]
  rcases Decidable.em (s.queueState 0 = 1) with same | changed
  · rw [if_pos same, if_neg (by simp [same]), ← same, Function.update_eq_self]
  · rw [if_neg changed, if_pos (by simpa using changed), if_pos rfl]

/-- Any other control packet clears cell 0 of the state. -/
theorem apply_closing (target : Target) (s : Registers) (control : Control a.pkt)
    (other : a.command ≠ some .openQueue) :
    (apply target a.tables s a.pkt).registers =
      { s with queueState := Function.update s.queueState 0 0 } := by
  have closed : (gateControlList a.tables a.pkt).egMd.newQueueState = 0 :=
    (gateControlList_newQueueState a).trans (if_neg other)
  have never : ¬ (0 : BitVec 8) = 1 := by decide
  unfold apply applyControl Target.execute readAndSetQueueState
  rw [if_pos control, target.inRange 256 0 (by decide)]
  dsimp only
  rw [closed, if_neg never, ite_self]

theorem applyData_eq (target : Target) (s : Registers) (pkt : EgressPacket) :
    (applyData target s pkt).previousQueueStateTs =
        target.read 256 s.lowerLastTs pkt.hdr.eth8021q.pcp.toNat ∧
      (applyData target s pkt).doDequeueTsMeasurement =
        (target.execute 256 s.regDequeueTsMeasurement pkt.hdr.eth8021q.pcp.toNat
          readAndDeactivateDequeueMeasurement).2 ∧
      (applyData target s pkt).registers.queueState = s.queueState ∧
      (applyData target s pkt).registers.lowerLastTs = s.lowerLastTs ∧
      (applyData target s pkt).registers.regDequeueTsMeasurement =
        (target.execute 256 s.regDequeueTsMeasurement pkt.hdr.eth8021q.pcp.toNat
          readAndDeactivateDequeueMeasurement).1 := by
  refine ⟨rfl, rfl, ?_⟩
  unfold applyData
  dsimp only
  -- both branches keep these registers
  split
  · exact ⟨rfl, rfl, rfl⟩
  · exact ⟨rfl, rfl, rfl⟩

/-- A data packet reads the cells of its priority, and resets the measurement there. -/
theorem apply_data (target : Target) (s : Registers) (data : ¬ Control a.pkt) :
    (apply target a.tables s a.pkt).previousQueueStateTs = s.lowerLastTs a.priority ∧
      (apply target a.tables s a.pkt).doDequeueTsMeasurement =
        s.regDequeueTsMeasurement a.priority ∧
      (apply target a.tables s a.pkt).registers.queueState = s.queueState ∧
      (apply target a.tables s a.pkt).registers.lowerLastTs = s.lowerLastTs ∧
      (apply target a.tables s a.pkt).registers.regDequeueTsMeasurement =
        Function.update s.regDequeueTsMeasurement a.priority 0 := by
  have inside : a.pkt.hdr.eth8021q.pcp.toNat < 256 :=
    a.pkt.hdr.eth8021q.pcp.isLt.trans (by decide)
  have selects := target.inRange 256 a.pkt.hdr.eth8021q.pcp.toNat inside
  rcases applyData_eq target s a.pkt with ⟨previous, armed, state, openedAt, measurement⟩
  unfold apply
  rw [if_neg data]
  refine ⟨?_, ?_, state, openedAt, ?_⟩
  · rw [previous]
    exact Target.read_cell selects
  · rw [armed, Target.execute_cell selects]
    rfl
  · rw [measurement, Target.execute_cell selects]
    rfl

/-! ## Runs -/

/-- An opening of another queue than 0, or one of queue 0 that finds its state lost although the
queue is open. -/
def Disturbs (before : List Arrival) (s : Registers) (a : Arrival) : Prop :=
  ∃ q, a.CommandsOpen q ∧ (q ≠ 0 ∨ s.queueState 0 = 0 ∧ (record 0 before).isOpen = true)

/-- The registers hold the records. -/
structure Mirrors (es : List Arrival) (s : Registers) : Prop where
  state : s.queueState 0 = 0 ∨ s.queueState 0 = 1 ∧ (record 0 es).isOpen = true
  others : ∀ q ≠ 0, (record q es).isOpen = false
  openedAt : ∀ q, s.lowerLastTs q = (record q es).openedAt
  awaited : ∀ q, s.regDequeueTsMeasurement q = if (record q es).awaited then 1 else 0

theorem mirrors_initial : Mirrors [] .initial where
  state := .inl rfl
  others := fun _ _ => rfl
  openedAt := fun _ => rfl
  awaited := fun _ => rfl

/-- The packets of other queues change nothing in the record of a queue. -/
theorem record_other (control : Control a.pkt) (other : a.queue ≠ q) :
    record q (es ++ [a]) = record q es := by
  rw [record_append_singleton, QueueRecord.step, if_pos control, if_neg other]

theorem mirrors_opening (mirrors : Mirrors es s) (control : Control a.pkt)
    (opening : a.command = some .openQueue) (undisturbed : ¬ Disturbs es s a) :
    Mirrors (es ++ [a]) (apply target a.tables s a.pkt).registers := by
  have zero : a.queue = 0 := by
    by_contra other
    exact undisturbed ⟨a.queue, ⟨control, rfl, opening⟩, .inl other⟩
  have others (q : Nat) (other : q ≠ 0) : record q (es ++ [a]) = record q es :=
    record_other control (zero.trans_ne other.symm)
  have own : record 0 (es ++ [a]) =
      if (record 0 es).isOpen then record 0 es
      else { isOpen := true, openedAt := a.lowerTs, awaited := true } := by
    rw [record_append_singleton, QueueRecord.step, if_pos control, if_pos zero, opening]
  rw [apply_opening target s control opening]
  rcases mirrors.state with cleared | ⟨set, isOpen⟩
  · -- queue 0 is closed, since its state was not lost
    have closed : (record 0 es).isOpen = false := by
      by_contra lost
      exact undisturbed ⟨0, ⟨control, zero, opening⟩, .inr ⟨cleared, by simpa using lost⟩⟩
    rw [closed] at own
    rw [if_neg (by rw [cleared]; decide)]
    refine ⟨.inr ⟨Function.update_self 0 1 s.queueState, by rw [own]; rfl⟩, fun q other => ?_,
      fun q => ?_, fun q => ?_⟩
    · rw [others q other]
      exact mirrors.others q other
    · rcases Decidable.em (q = 0) with rfl | other
      · rw [own]
        exact Function.update_self 0 a.lowerTs s.lowerLastTs
      · rw [others q other]
        exact (Function.update_of_ne other _ _).trans (mirrors.openedAt q)
    · rcases Decidable.em (q = 0) with rfl | other
      · rw [own]
        exact Function.update_self 0 1 s.regDequeueTsMeasurement
      · rw [others q other]
        exact (Function.update_of_ne other _ _).trans (mirrors.awaited q)
  · rw [isOpen, if_pos rfl] at own
    have same (q : Nat) : record q (es ++ [a]) = record q es := by
      rcases Decidable.em (q = 0) with rfl | other
      · exact own
      · exact others q other
    rw [if_pos set]
    refine ⟨.inr ⟨set, by rw [own]; exact isOpen⟩, fun q other => ?_, fun q => ?_, fun q => ?_⟩
    · rw [same q]
      exact mirrors.others q other
    · rw [same q]
      exact mirrors.openedAt q
    · rw [same q]
      exact mirrors.awaited q

/-- A closing or a missed slot closes at most the queue. -/
theorem record_closing (es : List Arrival) (q : Nat) (control : Control a.pkt)
    (other : a.command ≠ some .openQueue) :
    (record q (es ++ [a])).openedAt = (record q es).openedAt ∧
      (record q (es ++ [a])).awaited = (record q es).awaited ∧
      ((record q es).isOpen = false → (record q (es ++ [a])).isOpen = false) := by
  rw [record_append_singleton, QueueRecord.step, if_pos control]
  split
  · split
    · rename_i opening
      exact absurd opening other
    · exact ⟨rfl, rfl, fun _ => rfl⟩
    · exact ⟨rfl, rfl, id⟩
  · exact ⟨rfl, rfl, id⟩

theorem mirrors_closing (mirrors : Mirrors es s) (control : Control a.pkt)
    (other : a.command ≠ some .openQueue) :
    Mirrors (es ++ [a]) (apply target a.tables s a.pkt).registers := by
  have records (q : Nat) := record_closing es q control other
  rw [apply_closing target s control other]
  refine ⟨.inl (Function.update_self 0 0 s.queueState), fun q nonzero => ?_, fun q => ?_,
    fun q => ?_⟩
  · exact (records q).2.2 (mirrors.others q nonzero)
  · rw [(records q).1]
    exact mirrors.openedAt q
  · rw [(records q).2.1]
    exact mirrors.awaited q

theorem mirrors_data (mirrors : Mirrors es s) (data : ¬ Control a.pkt) :
    Mirrors (es ++ [a]) (apply target a.tables s a.pkt).registers := by
  have records (q : Nat) : record q (es ++ [a]) =
      if a.priority = q then { record q es with awaited := false } else record q es := by
    rw [record_append_singleton, QueueRecord.step, if_neg data]
  have kept (q : Nat) : (record q (es ++ [a])).isOpen = (record q es).isOpen ∧
      (record q (es ++ [a])).openedAt = (record q es).openedAt := by
    rw [records q]
    split
    · exact ⟨rfl, rfl⟩
    · exact ⟨rfl, rfl⟩
  rcases apply_data target s data with ⟨_, _, state, openedAt, awaited⟩
  refine ⟨?_, fun q nonzero => ?_, fun q => ?_, fun q => ?_⟩
  · rw [state, (kept 0).1]
    exact mirrors.state
  · rw [(kept q).1]
    exact mirrors.others q nonzero
  · rw [openedAt, (kept q).2]
    exact mirrors.openedAt q
  · rw [awaited, records q]
    rcases Decidable.em (a.priority = q) with rfl | other
    · rw [if_pos rfl]
      exact Function.update_self _ _ _
    · rw [if_neg other, Function.update_of_ne (Ne.symm other)]
      exact mirrors.awaited q

theorem mirrors_step (mirrors : Mirrors es s) (undisturbed : ¬ Disturbs es s a)
    (taken : Step target s a s') : Mirrors (es ++ [a]) s' := by
  rw [taken]
  rcases Decidable.em (Control a.pkt) with control | data
  · rcases Decidable.em (a.command = some .openQueue) with opening | other
    · exact mirrors_opening mirrors control opening undisturbed
    · exact mirrors_closing mirrors control other
  · exact mirrors_data mirrors data

/-- No arrival of the run is disturbing. -/
def Undisturbed (target : Target) (es : List Arrival) : Prop :=
  ∀ before a after s, es = before ++ a :: after → Run (Step target) .initial before s →
    ¬ Disturbs before s a

theorem run_mirrors (run : Run (Step target) .initial es s) (undisturbed : Undisturbed target es) :
    Mirrors es s := by
  induction es using List.reverseRecOn generalizing s with
  | nil => exact Run.nil_iff.mp run ▸ mirrors_initial
  | append_singleton es a ih =>
    rcases Run.append_iff.mp run with ⟨t, earlier, last⟩
    rcases Run.cons_iff.mp last with ⟨t', taken, last⟩
    have mirrors := ih earlier fun before a' after u split left =>
      undisturbed before a' (after ++ [a]) u (by simp [split]) left
    rw [← Run.nil_iff.mp last]
    exact mirrors_step mirrors (undisturbed es a [] t rfl earlier) taken

/-- What a data packet of the queue reads is of its own openings: the time of the last one, and
a measurement only when there was one since the last packet of the queue. -/
structure MeasuredAgainst (q : Nat) (es : List Arrival) (result : Result) : Prop where
  opening : LastOpening q es result.previousQueueStateTs ∨
    NeverOpened q es ∧ result.previousQueueStateTs = 0
  armed : result.doDequeueTsMeasurement ≠ 0 → OpenedSince q es

/-- In every run without a disturbing arrival each data packet is measured against the last opening
of its queue. -/
theorem measured_against_opening (run : Run (Step target) .initial es s)
    (undisturbed : Undisturbed target es) (a : Arrival) (data : ¬ Control a.pkt) :
    MeasuredAgainst a.priority es (apply target a.tables s a.pkt) := by
  have mirrors := run_mirrors run undisturbed
  rcases apply_data target s data with ⟨previous, armed, _⟩
  refine ⟨?_, fun nonzero => ?_⟩
  · rw [previous, mirrors.openedAt]
    exact openedAt_cases a.priority es
  · rw [armed, mirrors.awaited] at nonzero
    refine openedSince_of_awaited ?_
    by_contra calm
    exact nonzero (if_neg calm)

/-! ## Samples -/

/-- The entry that opens a queue at any position. -/
def sampleRequest (q : Nat) : Request where
  table := .gateControlList
  matchKeys := [(.gclTimeDiffTs, .ternary 0 0), (.timerAppId, .exact 0), (.timerPipeId, .exact 0),
    (.timerBatchId, .exact 0), (.timerPacketId, .exact q)]
  action := .openQueue
  actionData := [(.afc, q)]

def sampleOpening (q : BitVec 16) (ts : BitVec 48) : Arrival where
  tables := { installed := [sampleRequest q.toNat], precedence := .first }
  pkt := { (default : EgressPacket) with
    hdr := { timer := some ⟨0, 0, 0, q⟩, gclTime := some ⟨0⟩, eth8021q := ⟨0, 0, 0⟩ }
    globalTstamp := ts }
  fresh := rfl

def sampleData (pcp : BitVec 3) : Arrival where
  tables := { installed := [], precedence := .first }
  pkt := { (default : EgressPacket) with
    hdr := { timer := none, gclTime := none, eth8021q := ⟨pcp, 0, 0⟩ } }
  fresh := rfl

/-- The queue was never open before. -/
theorem sampleOpening_opens {q : BitVec 16} {ts : BitVec 48}
    (hit : (sampleOpening q ts).command = some .openQueue) :
    Opens q.toNat [] (sampleOpening q ts) :=
  ⟨⟨⟨⟨0, 0, 0, q⟩, rfl, rfl⟩, rfl, hit⟩, rfl⟩

/-- A control packet for queue 2 outside its time slices. -/
def sampleMiss : Arrival where
  tables := { installed := [], precedence := .first }
  pkt := { (default : EgressPacket) with
    hdr := { timer := some ⟨0, 0, 0, 2⟩, gclTime := some ⟨0⟩, eth8021q := ⟨0, 0, 0⟩ } }
  fresh := rfl

/-- Between the opening of queue 0 at time 5 and its next packet come another control packet and a
packet of queue 1. -/
def sampleArrivals : List Arrival :=
  [sampleData 0, sampleOpening 0 5, sampleMiss, sampleData 1]

theorem measured_against_opening_sample :
    ∃ s, Run (Step .strict) .initial sampleArrivals s ∧
      MeasuredAgainst 0 sampleArrivals
        (apply .strict (sampleData 0).tables s (sampleData 0).pkt) ∧
      (apply .strict (sampleData 0).tables s (sampleData 0).pkt).previousQueueStateTs = 5 ∧
      (apply .strict (sampleData 0).tables s (sampleData 0).pkt).doDequeueTsMeasurement = 1 := by
  have run : Run (Step .strict) .initial sampleArrivals _ :=
    .cons rfl (.cons rfl (.cons rfl (.cons rfl (.nil _))))
  have data : ¬ Control (sampleData 0).pkt := by decide
  refine ⟨_, run, measured_against_opening run ?_ (sampleData 0) data, by decide +kernel,
    by decide +kernel⟩
  -- only queue 0 is opened, and only once
  have commands : ∀ i < 4, ∀ a ∈ sampleArrivals[i]?, a.command = some .openQueue →
      i = 1 ∧ a.queue = 0 := by
    decide +kernel
  have closed : (record 0 (sampleArrivals.take 1)).isOpen = false := by decide +kernel
  intro before a after s split _ disturbs
  rcases disturbs with ⟨q, ⟨_, own, opens⟩, other⟩
  rcases History.position_of_split split with ⟨inside, taken, here⟩
  rcases commands before.length inside a here opens with ⟨first, zero⟩
  rcases other with other | ⟨_, isOpen⟩
  · exact other (own.symm.trans zero)
  · rw [← first, taken] at closed
    exact absurd (closed.symm.trans isOpen) Bool.false_ne_true

/-- Queue 1 is opened at time 7, and its next packet is measured against time 0. -/
theorem opening_of_other_queue :
    ∃ s, Run (Step .strict) .initial [sampleOpening 1 7] s ∧ ¬ Control (sampleData 1).pkt ∧
      (sampleData 1).priority = 1 ∧ LastOpening 1 [sampleOpening 1 7] 7 ∧
      (apply .strict (sampleData 1).tables s (sampleData 1).pkt).previousQueueStateTs = 0 ∧
      ¬ MeasuredAgainst 1 [sampleOpening 1 7]
        (apply .strict (sampleData 1).tables s (sampleData 1).pkt) := by
  have hit : (sampleOpening 1 7).command = some .openQueue := by decide +kernel
  have read : (apply .strict (sampleData 1).tables
      (apply .strict (sampleOpening 1 7).tables .initial (sampleOpening 1 7).pkt).registers
      (sampleData 1).pkt).previousQueueStateTs = 0 := by
    decide +kernel
  refine ⟨_, .cons rfl (.nil _), by decide, rfl,
    ⟨[], sampleOpening 1 7, [], rfl, sampleOpening_opens hit, rfl, fun mid a' after split => ?_⟩,
    read, fun measured => ?_⟩
  · exact absurd split.symm (List.append_ne_nil_of_right_ne_nil _ (List.cons_ne_nil _ _))
  · rcases measured.opening with ⟨before, a, later, split, _, same, _⟩ | ⟨never, _⟩
    · rcases List.append_eq_singleton_iff.mp split.symm with ⟨rfl, rest⟩ | ⟨_, rest⟩
      · cases rest
        exact absurd (read.symm.trans same) (by decide)
      · cases rest
    · exact never [] _ [] rfl (sampleOpening_opens hit)

end TAS

end P4Tas.DataPlane
