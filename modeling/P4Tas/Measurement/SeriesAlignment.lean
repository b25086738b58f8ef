import Mathlib.Data.List.Chain
import P4Tas.Measurement.BuildTimeseries
import P4Tas.Measurement.Ingress

/-!
# When the two series of a queue are aligned

The last packet of a burst is written when the next queue becomes active, at the index of that
queue, so a burst has the same place in both series as long as every burst is counted.  The register
of the active queue starts at 0, as if queue 0 had been active, and a sequence that starts with
queue 0 does not count its first burst.

* `Log`, `measure_logs`: the series as lists that grow, and that the registers hold them;
* `log_firsts`, `log_lasts`: the series after a sequence of bursts;
* `series_aligned_iff`: the series of a queue are aligned, unless it is queue 0, the sequence starts
  with it, and it has more than eight bursts;
* `shifted_series`: nine bursts that start with queue 0.
-/

namespace P4Tas.Measurement

open DataPlane (Target Register)

/-! ## Bursts -/

/-- Consecutive packets of one queue, by their timestamps. -/
structure Burst where
  priority : BitVec 3
  stamps : List (BitVec 48)
  nonempty : stamps ≠ []

namespace Burst

def first (b : Burst) : BitVec 48 :=
  b.stamps.head b.nonempty

def last (b : Burst) : BitVec 48 :=
  b.stamps.getLast b.nonempty

def packets (b : Burst) : List Packet :=
  b.stamps.map fun ts => ⟨b.priority, ts⟩

theorem first_mem (b : Burst) : b.first ∈ b.stamps :=
  List.head_mem b.nonempty

theorem last_mem (b : Burst) : b.last ∈ b.stamps :=
  List.getLast_mem b.nonempty

end Burst

/-- The queues take turns. -/
def Cyclic (bursts : List Burst) : Prop :=
  bursts.IsChain fun b b' => b'.priority = b.priority + 1

/-- The timestamps are not zero, and increase over the whole sequence. -/
structure Increasing (bursts : List Burst) : Prop where
  nonzero : ∀ b ∈ bursts, ∀ ts ∈ b.stamps, ts ≠ 0
  sorted : (bursts.flatMap (·.stamps)).Pairwise (· < ·)

/-- The bursts of one queue. -/
def burstsOf (q : BitVec 3) (bursts : List Burst) : List Burst :=
  bursts.filter (·.priority = q)

theorem burstsOf_cons_own {q : BitVec 3} {b : Burst} (bursts : List Burst) (own : b.priority = q) :
    burstsOf q (b :: bursts) = b :: burstsOf q bursts :=
  List.filter_cons_of_pos (decide_eq_true own)

theorem burstsOf_cons_other {q : BitVec 3} {b : Burst} (bursts : List Burst)
    (other : b.priority ≠ q) : burstsOf q (b :: bursts) = burstsOf q bursts :=
  List.filter_cons_of_neg (by simpa using other)

/-- Every queue has fewer bursts than its registers have cells. -/
def Few (bursts : List Burst) : Prop :=
  ∀ q, (burstsOf q bursts).length < 4096

/-- At every place that both series have they give the timestamps of the first and the last packet
of one burst of the queue. -/
def Aligned (q : BitVec 3) (bursts : List Burst) (firsts lasts : List U64) : Prop :=
  ∀ (k : Nat) (f l : U64), firsts[k]? = some f → lasts[k]? = some l →
    ∃ b ∈ bursts, b.priority = q ∧ f = b.first.setWidth 64 ∧ l = b.last.setWidth 64

/-- The sequence starts with queue 0. -/
def StartsAtZero (bursts : List Burst) : Prop :=
  ∃ b rest, bursts = b :: rest ∧ b.priority = 0

/-! ## The series as lists -/

/-- What the registers are for: the active queue, the previous packet, and two lists of timestamps
for each queue. -/
structure Log where
  active : BitVec 3
  previous : BitVec 48
  firsts : BitVec 3 → List (BitVec 48)
  lasts : BitVec 3 → List (BitVec 48)

namespace Log

def initial : Log where
  active := 0
  previous := 0
  firsts := fun _ => []
  lasts := fun _ => []

/-- Another queue becomes active with this packet. -/
def change (log : Log) (pcp : BitVec 3) (first last : BitVec 48) : Log where
  active := pcp
  previous := last
  firsts := Function.update log.firsts pcp (log.firsts pcp ++ [first])
  lasts := Function.update log.lasts (pcp - 1) (log.lasts (pcp - 1) ++ [log.previous])

def step (log : Log) (pkt : Packet) : Log :=
  if log.active = pkt.pcp then
    { log with previous := pkt.ingressMacTstamp }
  else
    log.change pkt.pcp pkt.ingressMacTstamp pkt.ingressMacTstamp

end Log

/-- The registers hold the lists, cell by cell. -/
structure Logs (log : Log) (registers : Registers) : Prop where
  active : registers.lastQueueActive 0 = log.active.setWidth 8
  previous : registers.tsLastPacket.value 0 = log.previous
  index : ∀ q, registers.nextTimeSeriesIndex q.toNat = BitVec.ofNat 32 (log.firsts q).length
  lengths : ∀ q, (log.lasts (q - 1)).length = (log.firsts q).length
  firsts : ∀ q i, (registers.tsSeriesFirstPacket q).value i = (log.firsts q)[i]?.getD 0
  lasts : ∀ q i, (registers.tsSeriesLastPacket q).value i = (log.lasts q)[i]?.getD 0

variable {target : Target} {log : Log} {registers : Registers} {pkt : Packet} {q : BitVec 3}
  {bursts : List Burst}

theorem zero_value (i : Nat) : Timestamps.zero.value i = 0 :=
  BitVec.zero_append_zero

theorem logs_initial : Logs .initial .initial where
  active := rfl
  previous := zero_value 0
  index := fun _ => rfl
  lengths := fun _ => rfl
  firsts := fun _ i => zero_value i
  lasts := fun _ i => zero_value i

theorem getD_append_singleton {α : Type} (xs : List α) (y d : α) (i : Nat) :
    (xs ++ [y])[i]?.getD d = if i = xs.length then y else xs[i]?.getD d := by
  rcases Nat.lt_trichotomy i xs.length with inside | same | beyond
  · rw [List.getElem?_append_left inside, if_neg (Nat.ne_of_lt inside)]
  · rw [same, List.getElem?_concat_length, if_pos rfl]
    rfl
  · rw [List.getElem?_eq_none (by simp; omega), List.getElem?_eq_none (by omega),
      if_neg (Nat.ne_of_gt beyond)]

/-- A packet of the active queue is only the previous one of the next. -/
theorem apply_same (target : Target) (logs : Logs log registers) (same : log.active = pkt.pcp) :
    Logs { log with previous := pkt.ingressMacTstamp } (apply target registers pkt) := by
  have active := logs.active
  rw [same] at active
  rcases timestampRegister_eq target registers.tsLastPacket pkt.ingressMacTstamp with ⟨stored, _⟩
  unfold apply
  rw [Target.execute_cell (target.inRange 256 0 (by decide))]
  dsimp only [readAndSetQueueState]
  rw [if_neg (by simp [active])]
  refine ⟨?_, stored, logs.index, logs.lengths, logs.firsts, logs.lasts⟩
  dsimp only
  rw [Function.update_self, same]

theorem setWidth_inj {v w : Nat} {x y : BitVec v} (wider : v ≤ w)
    (same : x.setWidth w = y.setWidth w) : x = y := by
  have values := congrArg BitVec.toNat same
  rw [BitVec.toNat_setWidth_of_le wider, BitVec.toNat_setWidth_of_le wider] at values
  exact BitVec.eq_of_toNat_eq values

/-- A packet of another queue is appended to two series, as long as there are cells. -/
theorem apply_change (target : Target) (logs : Logs log registers) (other : log.active ≠ pkt.pcp)
    (space : (log.firsts pkt.pcp).length < 4096) :
    Logs (log.change pkt.pcp pkt.ingressMacTstamp pkt.ingressMacTstamp)
      (apply target registers pkt) := by
  have changed : registers.lastQueueActive 0 ≠ pkt.pcp.setWidth 8 := by
    rw [logs.active]
    exact fun same => other (setWidth_inj (by decide) same)
  have small : pkt.pcp.toNat < 256 := pkt.pcp.isLt.trans (by decide)
  have index : (registers.nextTimeSeriesIndex pkt.pcp.toNat).toNat =
      (log.firsts pkt.pcp).length := by
    rw [logs.index, BitVec.toNat_ofNat, Nat.mod_eq_of_lt (by omega)]
  have inside : (registers.nextTimeSeriesIndex pkt.pcp.toNat).toNat < 4096 := index ▸ space
  rcases timestampRegister_eq target registers.tsLastPacket pkt.ingressMacTstamp with
    ⟨stored, previous⟩
  unfold apply
  rw [Target.execute_cell (target.inRange 256 0 (by decide))]
  dsimp only [readAndSetQueueState]
  rw [if_pos (by simpa using changed), Target.execute_cell (target.inRange 256 _ small), previous,
    logs.previous]
  unfold writeSeries Log.change getAndIncrementNextTimeSeriesIndex
  refine ⟨Function.update_self 0 (pkt.pcp.setWidth 8) registers.lastQueueActive, stored,
    fun q => ?_, fun q => ?_, fun q i => ?_, fun q i => ?_⟩
  · dsimp only
    rcases Decidable.em (q = pkt.pcp) with rfl | apart
    · rw [Function.update_self, Function.update_self, logs.index, List.length_append,
        BitVec.ofNat_add]
      rfl
    · have cells : q.toNat ≠ pkt.pcp.toNat := fun same => apart (BitVec.eq_of_toNat_eq same)
      rw [Function.update_of_ne cells, Function.update_of_ne apart, logs.index]
  · dsimp only
    rcases Decidable.em (q = pkt.pcp) with rfl | apart
    · rw [Function.update_self, Function.update_self, List.length_append, List.length_append,
        logs.lengths]
      rfl
    · have before : q - 1 ≠ pkt.pcp - 1 := fun same => apart ((BitVec.sub_left_inj _).mp same)
      rw [Function.update_of_ne before, Function.update_of_ne apart, logs.lengths]
  · dsimp only
    rcases Decidable.em (q = pkt.pcp) with rfl | apart
    · rw [Function.update_self, Function.update_self,
        timestampSeriesRegister_value target _ _ inside, getD_append_singleton, index, logs.firsts]
    · rw [Function.update_of_ne apart, Function.update_of_ne apart, logs.firsts]
  · dsimp only
    rcases Decidable.em (q = pkt.pcp - 1) with rfl | apart
    · rw [Function.update_self, Function.update_self,
        timestampSeriesRegister_value target _ _ inside, getD_append_singleton, index, logs.lasts,
        logs.lengths]
    · rw [Function.update_of_ne apart, Function.update_of_ne apart, logs.lasts]

/-- The lists grow. -/
theorem step_length_le (log : Log) (pkt : Packet) (q : BitVec 3) :
    (log.firsts q).length ≤ ((log.step pkt).firsts q).length := by
  unfold Log.step
  split
  · exact Nat.le_refl _
  · unfold Log.change
    dsimp only
    rcases Decidable.em (q = pkt.pcp) with rfl | apart
    · rw [Function.update_self, List.length_append]
      exact Nat.le_add_right _ _
    · rw [Function.update_of_ne apart]

/-- The registers hold the lists after any sequence of packets that leaves no list longer than they
are. -/
theorem measure_logs (target : Target) (logs : Logs log registers) (pkts : List Packet)
    (space : ∀ q, ((pkts.foldl Log.step log).firsts q).length ≤ 4096) :
    Logs (pkts.foldl Log.step log) (measure target registers pkts) := by
  unfold measure
  induction pkts using List.reverseRecOn with
  | nil => exact logs
  | append_singleton pkts pkt ih =>
    simp only [List.foldl_append, List.foldl_cons, List.foldl_nil] at space ⊢
    have earlier := ih fun q => (step_length_le _ pkt q).trans (space q)
    generalize pkts.foldl Log.step log = log at earlier space ⊢
    rcases Decidable.em (log.active = pkt.pcp) with same | other
    · rw [Log.step, if_pos same]
      exact apply_same target earlier same
    · have stepped : log.step pkt =
          log.change pkt.pcp pkt.ingressMacTstamp pkt.ingressMacTstamp := if_neg other
      rw [stepped] at space ⊢
      have grown := space pkt.pcp
      unfold Log.change at grown
      dsimp only at grown
      rw [Function.update_self, List.length_append] at grown
      exact apply_change target earlier other grown

/-! ## The series after a sequence of bursts -/

namespace Log

/-- A burst of another queue begins. -/
def burst (log : Log) (b : Burst) : Log :=
  if log.active = b.priority then
    { log with previous := b.last }
  else
    log.change b.priority b.first b.last

end Log

theorem foldl_same (log : Log) (pcp : BitVec 3) (stamps : List (BitVec 48)) (ts : BitVec 48)
    (same : log.active = pcp) :
    ((ts :: stamps).map fun ts => Packet.mk pcp ts).foldl Log.step log =
      { log with previous := (ts :: stamps).getLast (List.cons_ne_nil ts stamps) } := by
  induction stamps generalizing log ts with
  | nil => exact if_pos same
  | cons ts' stamps ih =>
    have stepped : log.step ⟨pcp, ts⟩ = { log with previous := ts } := if_pos same
    rw [List.map_cons, List.foldl_cons, stepped, ih { log with previous := ts } ts' same,
      List.getLast_cons_cons]

/-- The packets of a burst come to one change at most. -/
theorem foldl_packets (log : Log) (b : Burst) : b.packets.foldl Log.step log = log.burst b := by
  rcases b with ⟨pcp, stamps, nonempty⟩
  unfold Log.burst Burst.packets Burst.first Burst.last
  cases stamps with
  | nil => exact absurd rfl nonempty
  | cons ts stamps =>
    dsimp only
    rcases Decidable.em (log.active = pcp) with same | other
    · rw [if_pos same]
      exact foldl_same log pcp stamps ts same
    · have stepped : log.step ⟨pcp, ts⟩ = log.change pcp ts ts := if_neg other
      rw [if_neg other, List.map_cons, List.foldl_cons, stepped]
      cases stamps with
      | nil => rfl
      | cons ts' stamps =>
        rw [foldl_same (log.change pcp ts ts) pcp stamps ts' rfl]
        rfl

/-- The packet before each burst of the queue that follows `q`, where `previous` is before the first
burst. -/
def previousOf (q : BitVec 3) : BitVec 48 → List Burst → List (BitVec 48)
  | _, [] => []
  | previous, b :: bursts =>
    if b.priority - 1 = q then previous :: previousOf q b.last bursts
    else previousOf q b.last bursts

theorem succ_ne : ∀ p : BitVec 3, p + 1 ≠ p := by
  decide

/-- Bursts that another queue is active before, up to the first, are all counted. -/
theorem log_series (log : Log) (cyclic : Cyclic bursts)
    (changes : ∀ b ∈ bursts.head?, log.active ≠ b.priority) (q : BitVec 3) :
    (bursts.foldl Log.burst log).firsts q = log.firsts q ++ (burstsOf q bursts).map Burst.first ∧
      (bursts.foldl Log.burst log).lasts q = log.lasts q ++ previousOf q log.previous bursts := by
  induction bursts generalizing log with
  | nil => exact ⟨(List.append_nil _).symm, (List.append_nil _).symm⟩
  | cons b bursts ih =>
    have stepped : log.burst b = log.change b.priority b.first b.last :=
      if_neg (changes b rfl)
    have next : ∀ b' ∈ bursts.head?, b.priority ≠ b'.priority := fun b' member =>
      ne_of_eq_of_ne rfl (((List.isChain_cons.mp cyclic).1 b' member).trans_ne
        (succ_ne b.priority)).symm
    rw [List.foldl_cons, stepped]
    rcases ih (log.change b.priority b.first b.last) cyclic.tail next with ⟨firsts, lasts⟩
    rw [firsts, lasts]
    rw [previousOf]
    unfold Log.change
    dsimp only
    refine ⟨?_, ?_⟩
    · rcases Decidable.em (b.priority = q) with rfl | apart
      · rw [Function.update_self, burstsOf_cons_own bursts rfl, List.map_cons, List.append_assoc,
          List.singleton_append]
      · rw [Function.update_of_ne (Ne.symm apart), burstsOf_cons_other bursts apart]
    · rcases Decidable.em (b.priority - 1 = q) with rfl | apart
      · rw [Function.update_self, if_pos rfl, List.append_assoc, List.singleton_append]
      · rw [Function.update_of_ne (Ne.symm apart), if_neg apart]

/-- Before a burst of the next queue comes a burst of the queue. -/
theorem previousOf_eq (q : BitVec 3) (b : Burst) (cyclic : Cyclic (b :: bursts)) :
    previousOf q b.last bursts = (burstsOf q (b :: bursts).dropLast).map Burst.last := by
  induction bursts generalizing b with
  | nil => rfl
  | cons b' bursts ih =>
    have follows : b'.priority - 1 = b.priority := by
      rw [(List.isChain_cons_cons.mp cyclic).1, BitVec.add_sub_cancel]
    rw [previousOf, ih b' (List.isChain_cons_cons.mp cyclic).2, follows, List.dropLast_cons_cons]
    split
    · rename_i own
      rw [burstsOf_cons_own _ own, List.map_cons]
    · rename_i other
      rw [burstsOf_cons_other _ other]

/-- The bursts that are counted. -/
def counted : List Burst → List Burst
  | [] => []
  | b :: bursts => if b.priority = 0 then bursts else b :: bursts

/-- The series after the whole sequence, as they are returned: the first packets of the bursts that
are counted, and the last packets of all but the last burst. -/
theorem log_bursts (cyclic : Cyclic bursts) (q : BitVec 3) :
    ((bursts.foldl Log.burst .initial).firsts q) = (burstsOf q (counted bursts)).map Burst.first ∧
      nonzero ((bursts.foldl Log.burst .initial).lasts q) =
        nonzero ((burstsOf q bursts.dropLast).map Burst.last) := by
  cases bursts with
  | nil => exact ⟨rfl, rfl⟩
  | cons b bursts =>
    have rest : Cyclic bursts := cyclic.tail
    rw [counted, ← previousOf_eq q b cyclic]
    rcases Decidable.em (b.priority = 0) with zero | other
    · -- queue 0 counts as active before its first burst
      have stepped : Log.initial.burst b = { Log.initial with previous := b.last } :=
        if_pos zero.symm
      have next : ∀ b' ∈ bursts.head?, Log.initial.active ≠ b'.priority := fun b' member =>
        ne_of_eq_of_ne rfl (((List.isChain_cons.mp cyclic).1 b' member).trans_ne
          (zero ▸ succ_ne b.priority)).symm
      rw [List.foldl_cons, stepped, if_pos zero]
      rcases log_series { Log.initial with previous := b.last } rest next q with ⟨firsts, lasts⟩
      exact ⟨firsts, congrArg nonzero lasts⟩
    · have next : ∀ b' ∈ (b :: bursts).head?, Log.initial.active ≠ b'.priority := by
        intro b' member
        cases member
        exact Ne.symm other
      rcases log_series .initial cyclic next q with ⟨firsts, lasts⟩
      rw [if_neg other, lasts, previousOf]
      refine ⟨firsts, ?_⟩
      -- nothing comes before the first burst
      split
      · exact nonzero_append [0] _
      · rfl

/-! ## What the controller reads -/

/-- The packets of a sequence of bursts. -/
def packetsOf (bursts : List Burst) : List Packet :=
  bursts.flatMap Burst.packets

/-- The switch replies with the cells of the series of the queue. -/
structure SeriesReplies (switch : String → Option RegisterEntries) (q : BitVec 3) (pipe : U8)
    (registers : Registers) : Prop where
  lowerFirst : ∃ entries, switch (seriesName (q.setWidth 8) "first" "lower") = some entries ∧
    Replies 4 (registers.tsSeriesFirstPacket q).lowerLastTsSeries
      (seriesName (q.setWidth 8) "first" "lower") pipe entries
  higherFirst : ∃ entries, switch (seriesName (q.setWidth 8) "first" "higher") = some entries ∧
    Replies 2 (registers.tsSeriesFirstPacket q).higherLastTsSeries
      (seriesName (q.setWidth 8) "first" "higher") pipe entries
  lowerLast : ∃ entries, switch (seriesName (q.setWidth 8) "last" "lower") = some entries ∧
    Replies 4 (registers.tsSeriesLastPacket q).lowerLastTsSeries
      (seriesName (q.setWidth 8) "last" "lower") pipe entries
  higherLast : ∃ entries, switch (seriesName (q.setWidth 8) "last" "higher") = some entries ∧
    Replies 2 (registers.tsSeriesLastPacket q).higherLastTsSeries
      (seriesName (q.setWidth 8) "last" "higher") pipe entries

variable {switch : String → Option RegisterEntries} {pipe : U8}

theorem nonzero_replicate (n : Nat) : nonzero (List.replicate n 0) = [] := by
  unfold nonzero
  rw [List.filter_replicate, if_neg (by decide)]
  rfl

/-- The cells beyond the list are left out. -/
theorem nonzero_cells {f : Nat → BitVec 48} {xs : List (BitVec 48)} {n : Nat}
    (holds : ∀ i, f i = xs[i]?.getD 0) (fits : xs.length ≤ n) :
    nonzero ((List.range n).map f) = nonzero xs := by
  have cells : (List.range n).map f = xs ++ List.replicate (n - xs.length) 0 := by
    refine List.ext_getElem (by simp; omega) fun i inside _ => ?_
    rw [List.getElem_map, List.getElem_range, holds]
    rcases Nat.lt_or_ge i xs.length with stored | beyond
    · rw [List.getElem_append_left stored, List.getElem?_eq_getElem stored]
      rfl
    · rw [List.getElem_append_right beyond, List.getElem?_eq_none beyond, List.getElem_replicate]
      rfl
  rw [cells, nonzero_append, nonzero_replicate, List.append_nil]

theorem buildTimeseries_cells {ts : Timestamps} {xs : List (BitVec 48)}
    {lower higher : RegisterEntries}
    {lowerName higherName : String} (holds : ∀ i, ts.value i = xs[i]?.getD 0)
    (fits : xs.length ≤ 4096) (lowerReplies : Replies 4 ts.lowerLastTsSeries lowerName pipe lower)
    (higherReplies : Replies 2 ts.higherLastTsSeries higherName pipe higher) :
    buildTimeseries (some lower) (some higher) lowerName higherName pipe = .ok (nonzero xs) :=
  (buildTimeseries_eq lowerReplies higherReplies).trans
    (congrArg Except.ok (nonzero_cells holds fits))

theorem counted_suffix (bursts : List Burst) : counted bursts <:+ bursts := by
  cases bursts with
  | nil => exact List.suffix_rfl
  | cons b bursts =>
    rw [counted]
    split
    · exact List.suffix_cons b bursts
    · exact List.suffix_rfl

/-- The controller gets the two series of the queue. -/
theorem getRegisterTimeseries_eq (target : Target) (cyclic : Cyclic bursts) (few : Few bursts)
    (replies : SeriesReplies switch q pipe (measure target .initial (packetsOf bursts))) :
    getRegisterTimeseries switch (q.setWidth 8) pipe =
      .ok (nonzero ((burstsOf q (counted bursts)).map Burst.first),
        nonzero ((burstsOf q bursts.dropLast).map Burst.last)) := by
  have folded : (packetsOf bursts).foldl Log.step .initial = bursts.foldl Log.burst .initial := by
    unfold packetsOf
    rw [List.foldl_flatMap]
    congr 1
    funext log b
    exact foldl_packets log b
  have space (q : BitVec 3) : ((bursts.foldl Log.burst .initial).firsts q).length ≤ 4096 := by
    have sublist := ((counted_suffix bursts).sublist.filter (·.priority = q)).length_le
    have bound := few q
    unfold burstsOf at bound
    rw [(log_bursts cyclic q).1, List.length_map]
    exact sublist.trans bound.le
  have logs : Logs (bursts.foldl Log.burst .initial)
      (measure target .initial (packetsOf bursts)) := by
    rw [← folded]
    refine measure_logs target logs_initial _ fun q => ?_
    rw [folded]
    exact space q
  have space' : ((bursts.foldl Log.burst .initial).lasts q).length ≤ 4096 := by
    have lengths := logs.lengths (q + 1)
    rw [BitVec.add_sub_cancel] at lengths
    exact lengths.trans_le (space (q + 1))
  rcases replies.lowerFirst with ⟨_, lowerFirst, lowerFirstReplies⟩
  rcases replies.higherFirst with ⟨_, higherFirst, higherFirstReplies⟩
  rcases replies.lowerLast with ⟨_, lowerLast, lowerLastReplies⟩
  rcases replies.higherLast with ⟨_, higherLast, higherLastReplies⟩
  unfold getRegisterTimeseries
  rw [lowerFirst, higherFirst, lowerLast, higherLast,
    buildTimeseries_cells (logs.firsts q) (space q) lowerFirstReplies higherFirstReplies,
    Fallible.ok_bind,
    buildTimeseries_cells (logs.lasts q) space' lowerLastReplies higherLastReplies,
    Fallible.ok_bind, (log_bursts cyclic q).1, (log_bursts cyclic q).2]
  rfl

/-! ## Alignment -/

theorem nonzero_map {stamp : Burst → BitVec 48} (increasing : Increasing bursts)
    (member : ∀ b, stamp b ∈ b.stamps) {bs : List Burst} (subset : ∀ b ∈ bs, b ∈ bursts) :
    nonzero (bs.map stamp) = bs.map fun b => (stamp b).setWidth 64 := by
  have all : ∀ ts ∈ bs.map stamp, decide (ts ≠ 0) = true := by
    intro ts mapped
    rcases List.mem_map.mp mapped with ⟨b, inside, rfl⟩
    exact decide_eq_true (increasing.nonzero b (subset b inside) _ (member b))
  unfold nonzero
  rw [List.filter_eq_self.mpr all, List.map_map]
  rfl

/-- If every burst of the queue is counted, the k-th elements are of the k-th burst. -/
theorem aligned_of_counted (all : burstsOf q (counted bursts) = burstsOf q bursts) :
    Aligned q bursts ((burstsOf q (counted bursts)).map fun b => b.first.setWidth 64)
      ((burstsOf q bursts.dropLast).map fun b => b.last.setWidth 64) := by
  intro k f l first last
  rw [List.getElem?_map, Option.map_eq_some_iff] at first last
  rcases first with ⟨b, atFirst, rfl⟩
  rcases last with ⟨b', atLast, rfl⟩
  rcases (List.dropLast_prefix bursts).filter (·.priority = q) with ⟨rest, whole⟩
  have inside := (List.getElem?_eq_some_iff.mp atLast).1
  have same : b = b' := by
    rw [all] at atFirst
    unfold burstsOf at atFirst
    rw [← whole] at atFirst
    exact Option.some.inj (atFirst.symm.trans ((List.getElem?_append_left inside).trans atLast))
  have member := List.mem_filter.mp (List.mem_of_getElem? (all ▸ atFirst))
  exact ⟨b, member.1, of_decide_eq_true member.2, rfl, by rw [same]⟩

theorem priority_eq {b : Burst} (cyclic : Cyclic (b :: bursts)) {i : Nat}
    (inside : i < (b :: bursts).length) :
    (b :: bursts)[i].priority = b.priority + BitVec.ofNat 3 i := by
  induction i with
  | zero => exact (BitVec.add_zero _).symm
  | succ i ih =>
    rw [List.isChain_iff_getElem.mp cyclic i inside, ih (by omega), BitVec.add_assoc,
      BitVec.ofNat_add]
    rfl

/-- Queue 0 has its second turn after the eighth burst. -/
theorem second_turn {b : Burst} (cyclic : Cyclic (b :: bursts)) (zero : b.priority = 0) :
    burstsOf 0 bursts = [] ↔ (b :: bursts).length ≤ 8 := by
  refine ⟨?_, ?_⟩
  · intro none
    by_contra many
    have inside : 7 < bursts.length := by
      rw [List.length_cons] at many
      omega
    have turn := priority_eq cyclic (by rw [List.length_cons]; omega : 8 < (b :: bursts).length)
    rw [zero] at turn
    exact List.filter_eq_nil_iff.mp none bursts[7] (List.getElem_mem inside)
      (decide_eq_true turn)
  · intro short
    refine List.filter_eq_nil_iff.mpr fun b' member turn => ?_
    rcases List.mem_iff_getElem.mp member with ⟨i, inside, rfl⟩
    have small : i < 7 := by
      rw [List.length_cons] at short
      omega
    have priority := priority_eq cyclic
      (by rw [List.length_cons]; omega : i + 1 < (b :: bursts).length)
    rw [List.getElem_cons_succ, of_decide_eq_true turn, zero] at priority
    have value := congrArg BitVec.toNat (priority.trans (BitVec.zero_add _))
    rw [BitVec.toNat_ofNat, Nat.mod_eq_of_lt (by omega)] at value
    exact Nat.succ_ne_zero i value.symm

/-- The timestamps of a burst come before those of a later one. -/
theorem last_lt_first {b b' : Burst} (increasing : Increasing (b :: bursts))
    (later : b' ∈ bursts) : b.last < b'.first := by
  have sorted := increasing.sorted
  rw [List.flatMap_cons] at sorted
  exact (List.pairwise_append.mp sorted).2.2 _ b.last_mem _
    (List.mem_flatMap.mpr ⟨b', later, b'.first_mem⟩)

theorem first_le_last {b : Burst} (increasing : Increasing bursts) (member : b ∈ bursts) :
    b.first ≤ b.last := by
  have sorted : b.stamps.Pairwise (· < ·) := by
    refine increasing.sorted.sublist ?_
    rw [List.flatMap_def]
    exact List.sublist_flatten_of_mem (List.mem_map_of_mem member)
  rcases b with ⟨priority, stamps, nonempty⟩
  unfold Burst.first Burst.last
  dsimp only at sorted ⊢
  cases stamps with
  | nil => exact absurd rfl nonempty
  | cons ts stamps =>
    cases stamps with
    | nil => exact BitVec.le_refl _
    | cons ts' stamps =>
      rw [List.head_cons, List.getLast_cons_cons]
      exact BitVec.le_of_lt ((List.pairwise_cons.mp sorted).1 _ (List.getLast_mem _))

/-- If the first burst is not counted, the first packet of the second one is put beside the last
packet of the first. -/
theorem not_aligned {b : Burst} (increasing : Increasing (b :: bursts)) (zero : b.priority = 0)
    (again : burstsOf 0 bursts ≠ []) :
    ¬ Aligned 0 (b :: bursts) ((burstsOf 0 bursts).map fun b => b.first.setWidth 64)
      ((burstsOf 0 (b :: bursts).dropLast).map fun b => b.last.setWidth 64) := by
  intro aligned
  rcases List.exists_cons_of_ne_nil again with ⟨b', others, second⟩
  have later : b' ∈ bursts :=
    (List.mem_filter.mp (second ▸ List.mem_cons_self : b' ∈ burstsOf 0 bursts)).1
  have more : bursts ≠ [] := List.ne_nil_of_mem later
  rw [second, List.dropLast_cons_of_ne_nil more, burstsOf_cons_own _ zero] at aligned
  rcases aligned 0 _ _ rfl rfl with ⟨c, member, _, first, last⟩
  have order := first_le_last increasing member
  rw [← setWidth_inj (by decide) first, ← setWidth_inj (by decide) last] at order
  exact absurd (last_lt_first increasing later) (BitVec.not_lt.mpr order)

theorem aligned_nil (q : BitVec 3) (bursts : List Burst) (lasts : List U64) :
    Aligned q bursts [] lasts := by
  intro k f l first
  cases first

/-- The returned series are aligned, unless the queue is the first one, 0, and it has a second
turn. -/
theorem aligned_iff (increasing : Increasing bursts) (cyclic : Cyclic bursts) (q : BitVec 3) :
    Aligned q bursts ((burstsOf q (counted bursts)).map fun b => b.first.setWidth 64)
        ((burstsOf q bursts.dropLast).map fun b => b.last.setWidth 64) ↔
      ¬ (q = 0 ∧ StartsAtZero bursts ∧ 8 < bursts.length) := by
  cases bursts with
  | nil =>
    refine iff_of_true (aligned_nil q [] _) ?_
    rintro ⟨_, ⟨b, rest, split, _⟩, _⟩
    cases split
  | cons b bursts =>
    rcases Decidable.em (b.priority = 0) with zero | other
    · have uncounted : counted (b :: bursts) = bursts := if_pos zero
      rcases Decidable.em (q = 0) with rfl | apart
      · rcases Nat.lt_or_ge 8 (b :: bursts).length with many | short
        · have again : burstsOf 0 bursts ≠ [] := fun none =>
            Nat.not_le.mpr many ((second_turn cyclic zero).mp none)
          rw [uncounted]
          exact iff_of_false (not_aligned increasing zero again)
            (not_not_intro ⟨rfl, ⟨b, bursts, rfl, zero⟩, many⟩)
        · rw [uncounted, (second_turn cyclic zero).mpr short]
          exact iff_of_true (aligned_nil 0 _ _) fun both => Nat.not_lt.mpr short both.2.2
      · refine iff_of_true (aligned_of_counted ?_) fun both => apart both.1
        rw [uncounted, burstsOf_cons_other]
        rw [zero]
        exact Ne.symm apart
    · refine iff_of_true (aligned_of_counted (congrArg (burstsOf q) (if_neg other))) ?_
      rintro ⟨_, ⟨_, _, split, zero⟩, _⟩
      cases split
      exact other zero

/-- For a cyclic sequence of bursts the controller gets two series for each queue, and they are
aligned unless the queue is 0, the sequence starts with it, and it has more than eight bursts. -/
theorem series_aligned_iff (target : Target) (q : BitVec 3) (cyclic : Cyclic bursts)
    (increasing : Increasing bursts) (few : Few bursts)
    (replies : SeriesReplies switch q pipe (measure target .initial (packetsOf bursts))) :
    ∃ firsts lasts, getRegisterTimeseries switch (q.setWidth 8) pipe = .ok (firsts, lasts) ∧
      (Aligned q bursts firsts lasts ↔
        ¬ (q = 0 ∧ StartsAtZero bursts ∧ 8 < bursts.length)) := by
  refine ⟨_, _, getRegisterTimeseries_eq target cyclic few replies, ?_⟩
  have counts : ∀ b ∈ burstsOf q (counted bursts), b ∈ bursts := fun b member =>
    (counted_suffix bursts).subset (List.mem_filter.mp member).1
  have ends : ∀ b ∈ burstsOf q bursts.dropLast, b ∈ bursts := fun b member =>
    (List.dropLast_subset bursts) (List.mem_filter.mp member).1
  rw [nonzero_map increasing Burst.first_mem counts, nonzero_map increasing Burst.last_mem ends]
  exact aligned_iff increasing cyclic q

/-! ## Samples -/

/-- A reply with the cells of a register of `n` bytes for pipe 0. -/
def sampleReply (n : Nat) {w : Nat} (register : Register w) : RegisterEntries where
  len := 4096
  get := fun i => some ⟨fun _ => some [(toBeBytes n (register i.toNat).toNat).toList]⟩

/-- A switch that knows the series of queue 0. -/
def sampleSwitch (registers : Registers) (name : String) : Option RegisterEntries :=
  if name = seriesName 0 "first" "lower" then
    some (sampleReply 4 (registers.tsSeriesFirstPacket 0).lowerLastTsSeries)
  else if name = seriesName 0 "first" "higher" then
    some (sampleReply 2 (registers.tsSeriesFirstPacket 0).higherLastTsSeries)
  else if name = seriesName 0 "last" "lower" then
    some (sampleReply 4 (registers.tsSeriesLastPacket 0).lowerLastTsSeries)
  else
    some (sampleReply 2 (registers.tsSeriesLastPacket 0).higherLastTsSeries)

theorem sampleReply_replies (n : Nat) {w : Nat} (register : Register w) (name : String) :
    Replies n register name 0 (sampleReply n register) := by
  refine ⟨rfl, fun i inside => ⟨_, _, rfl, rfl, ?_⟩⟩
  rw [BitVec.toNat_ofNat, Nat.mod_eq_of_lt (by omega)]
  rfl

theorem sampleSwitch_replies (registers : Registers) :
    SeriesReplies (sampleSwitch registers) 0 0 registers where
  lowerFirst := ⟨_, if_pos rfl, sampleReply_replies _ _ _⟩
  higherFirst := ⟨_, (if_neg (by decide)).trans (if_pos rfl), sampleReply_replies _ _ _⟩
  lowerLast := ⟨_, (if_neg (by decide)).trans ((if_neg (by decide)).trans (if_pos rfl)),
    sampleReply_replies _ _ _⟩
  higherLast := ⟨_, (if_neg (by decide)).trans ((if_neg (by decide)).trans (if_neg (by decide))),
    sampleReply_replies _ _ _⟩

/-- Bursts of one packet each, from a queue and a time on. -/
def sampleBursts : Nat → BitVec 3 → BitVec 48 → List Burst
  | 0, _, _ => []
  | n + 1, q, ts => ⟨q, [ts], List.cons_ne_nil _ _⟩ :: sampleBursts n (q + 1) (ts + 1)

theorem sampleBursts_cyclic (n : Nat) (q : BitVec 3) (ts : BitVec 48) :
    Cyclic (sampleBursts n q ts) := by
  induction n generalizing q ts with
  | zero => exact List.IsChain.nil
  | succ n ih =>
    refine List.isChain_cons.mpr ⟨fun b member => ?_, ih (q + 1) (ts + 1)⟩
    cases n with
    | zero => cases member
    | succ n =>
      cases member
      rfl

theorem few_of_short (short : bursts.length < 4096) : Few bursts :=
  fun _ => (List.length_filter_le _ _).trans_lt short

/-- Bursts that start with queue 7: the second and the tenth are of queue 0. -/
theorem series_aligned_iff_sample :
    ∃ firsts lasts, getRegisterTimeseries (sampleSwitch (measure .strict .initial
        (packetsOf (sampleBursts 11 7 1)))) ((0 : BitVec 3).setWidth 8) 0 = .ok (firsts, lasts) ∧
      (Aligned 0 (sampleBursts 11 7 1) firsts lasts ↔
        ¬ ((0 : BitVec 3) = 0 ∧ StartsAtZero (sampleBursts 11 7 1) ∧
          8 < (sampleBursts 11 7 1).length)) :=
  series_aligned_iff .strict 0 (sampleBursts_cyclic 11 7 1)
    ⟨by simp [sampleBursts], by simp [sampleBursts]⟩ (few_of_short (by decide))
    (sampleSwitch_replies _)

/-- Nine bursts of one packet each, at times 1 to 9: time 9 of the second burst of queue 0 is put
beside time 1 of the first. -/
theorem shifted_series :
    ∃ bursts switch, Cyclic bursts ∧ Increasing bursts ∧ Few bursts ∧
      SeriesReplies switch 0 0 (measure .strict .initial (packetsOf bursts)) ∧
      getRegisterTimeseries switch ((0 : BitVec 3).setWidth 8) 0 = .ok ([9], [1]) ∧
      ¬ Aligned 0 bursts [9] [1] := by
  have few : Few (sampleBursts 9 0 1) := few_of_short (by decide)
  refine ⟨sampleBursts 9 0 1, sampleSwitch (measure .strict .initial
    (packetsOf (sampleBursts 9 0 1))), sampleBursts_cyclic 9 0 1,
    ⟨by simp [sampleBursts], by simp [sampleBursts]⟩, few, sampleSwitch_replies _, ?_,
    fun aligned => ?_⟩
  · exact getRegisterTimeseries_eq .strict (sampleBursts_cyclic 9 0 1) few (sampleSwitch_replies _)
  · exact absurd (aligned 0 9 1 rfl rfl) (by decide)

end P4Tas.Measurement
