import P4Tas.Controller.MatchKeys
import P4Tas.Controller.RangeCover

/-!
# Slices that share their endpoints

Neighbouring slices both contain the point where they meet, and the decompositions of both contain
an entry that accepts it.

* `Adjacent.noDuplicates`: the decompositions of slices listed end to start have no entry in
  common, whatever is written for the entries.
* `adjacentSlices_noDuplicates`: hence no two writes of a GCL, or of a schedule, collide.
-/

namespace P4Tas.Controller

open Request TernaryCover

/-- The slices are proper, each begins where the one before it ends, and the last ends below
`u32::MAX`. -/
structure Adjacent {ι : Type} (low high : ι → U32) (slices : List ι) : Prop where
  proper : ∀ t ∈ slices, low t < high t
  joined : slices.IsChain fun t t' => low t' = high t
  below : ∀ t ∈ slices.getLast?, (high t).toNat < 2 ^ 32 - 1

/-- Two requests that match a key on different pairs have different keys. -/
theorem noDuplicates_of_pairs {k : Key} {es : List Request}
    (keyed : ∀ r ∈ es, ∃ value mask, r.key? k = some (.ternary value mask))
    (distinct : (ternaryPairs k es).Nodup) : NoDuplicates es := by
  refine (List.pairwise_filterMap.mp distinct).imp_of_mem ?_
  intro r r' member member' differ same
  rcases keyed r member with ⟨value, mask, key⟩
  rcases keyed r' member' with ⟨value', mask', key'⟩
  have values := same.2 k
  unfold keyValue at values
  rw [key, key', Option.getD_some, Option.getD_some] at values
  rw [key, key', values] at differ
  exact differ _ rfl _ rfl rfl

namespace Adjacent

variable {ι : Type} {low high : ι → U32} {slices : List ι}

theorem tail {t : ι} (adjacent : Adjacent low high (t :: slices)) : Adjacent low high slices where
  proper := (List.forall_mem_cons.mp adjacent.proper).2
  joined := adjacent.joined.of_cons
  below := by
    intro last final
    refine adjacent.below last ?_
    cases slices with
    | nil => cases final
    | cons t' slices => exact final

/-- They lead from the start of the first to an end below `u32::MAX`. -/
theorem chain {t : ι} (adjacent : Adjacent low high (t :: slices)) :
    ∃ b, b < 2 ^ 32 - 1 ∧ IntervalChain.Chain (fun t => (low t).toNat) (fun t => (high t).toNat)
      (low t).toNat (t :: slices) b := by
  induction slices generalizing t with
  | nil =>
    have ordered : (low t).toNat < (high t).toNat := adjacent.proper t List.mem_cons_self
    exact ⟨(high t).toNat, adjacent.below t rfl, .cons ordered.le (.nil _)⟩
  | cons t' slices ih =>
    have ordered : (low t).toNat < (high t).toNat := adjacent.proper t List.mem_cons_self
    have meet : low t' = high t := (List.isChain_cons_cons.mp adjacent.joined).1
    rcases ih adjacent.tail with ⟨b, below, rest⟩
    rw [meet] at rest
    exact ⟨b, below, .cons ordered.le rest⟩

/-- Their decompositions have no block in common. -/
theorem apart (adjacent : Adjacent low high slices) : slices.Pairwise fun t t' =>
    ¬ ShareBlock (low t).toNat ((high t).toNat + 1) (low t').toNat ((high t').toNat + 1) := by
  cases slices with
  | nil => exact .nil
  | cons t slices =>
    rcases adjacent.chain with ⟨b, _, chain⟩
    exact chain_apart chain adjacent.proper

theorem high_lt (adjacent : Adjacent low high slices) {t : ι} (member : t ∈ slices) :
    (high t).toNat < 2 ^ 32 - 1 := by
  cases slices with
  | nil => cases member
  | cons t' slices =>
    rcases adjacent.chain with ⟨b, below, chain⟩
    exact (chain.bounds member).2.2.trans_lt below

/-- The decompositions of all slices, in order. -/
def blocks (low high : ι → U32) (slices : List ι) : List (U32 × U32) :=
  slices.flatMap fun t => Fallible.output (ternaryBlocks (low t) (high t))

/-- No pair of value and mask is emitted twice. -/
theorem blocks_nodup (adjacent : Adjacent low high slices) : (blocks low high slices).Nodup := by
  have returns : ∀ t ∈ slices, ∃ es, ternaryBlocks (low t) (high t) = .ok es := fun t member =>
    ternaryBlocks_returns (adjacent.high_lt member)
  unfold blocks
  rw [List.nodup_flatMap]
  refine ⟨fun t member => ?_, adjacent.apart.imp_of_mem ?_⟩
  · rcases returns t member with ⟨es, run⟩
    rw [run]
    exact ternaryBlocks_nodup (Nat.le_of_lt (adjacent.proper t member)) run
  · intro t t' member member' apart
    rcases returns t member with ⟨es, run⟩
    rcases returns t' member' with ⟨es', run'⟩
    have common := ternaryBlocks_common_iff (Nat.le_of_lt (adjacent.proper t member)) run
      (Nat.le_of_lt (adjacent.proper t' member')) run'
    simp only [Function.onFun, run, run', Fallible.output_ok]
    intro e inFirst inSecond
    exact apart (common.mp ⟨e, inFirst, inSecond⟩)

/-- The writes for the slices, one for each pair, all match on different pairs. -/
theorem noDuplicates (adjacent : Adjacent low high slices) {k : Key}
    (build : ι → U32 × U32 → Request) {f : ι → Rust (List Request)}
    (keyed : ∀ t e, (build t e).key? k = some (.ternary e.1.toNat e.2.toNat))
    (builds : ∀ t es, ternaryBlocks (low t) (high t) = .ok es → f t = .ok (es.map (build t))) :
    ∃ requests, Fallible.concatMap f slices = .ok requests ∧
      (ternaryPairs k requests).Nodup ∧ NoDuplicates requests := by
  have runs : ∀ t ∈ slices, ∃ es, ternaryBlocks (low t) (high t) = .ok es ∧
      f t = .ok (es.map (build t)) := by
    intro t member
    rcases (ternaryBlocks_returns (adjacent.high_lt member) :
      ∃ es, ternaryBlocks (low t) (high t) = .ok es) with ⟨es, run⟩
    exact ⟨es, run, builds t es run⟩
  have returns : ∀ t ∈ slices, ∃ rs, f t = .ok rs := by
    intro t member
    rcases runs t member with ⟨es, _, run⟩
    exact ⟨_, run⟩
  have pairs : ternaryPairs k (slices.flatMap fun t => Fallible.output (f t)) =
      (blocks low high slices).map natPair := by
    unfold ternaryPairs blocks
    rw [List.filterMap_flatMap, List.map_flatMap]
    refine List.flatMap_congr fun t member => ?_
    rcases runs t member with ⟨es, blocksRun, run⟩
    rw [blocksRun, run]
    exact ternaryPairs_map (keyed t) es
  have injective : Function.Injective natPair := by
    intro e e' same
    exact Prod.ext (BitVec.eq_of_toNat_eq (congrArg Prod.fst same))
      (BitVec.eq_of_toNat_eq (congrArg Prod.snd same))
  have distinct : (ternaryPairs k (slices.flatMap fun t => Fallible.output (f t))).Nodup := by
    rw [pairs]
    exact adjacent.blocks_nodup.map injective
  refine ⟨_, Fallible.concatMap_eq_ok.mpr ⟨returns, rfl⟩, distinct,
    noDuplicates_of_pairs (fun r member => ?_) distinct⟩
  rcases List.mem_flatMap.mp member with ⟨t, memberT, member⟩
  rcases runs t memberT with ⟨es, _, run⟩
  rw [run] at member
  rcases List.mem_map.mp member with ⟨e, _, rfl⟩
  exact ⟨_, _, keyed t e⟩

end Adjacent

/-! ## The two writers -/

/-- The entries of the slices for one pipe, queue and batch match on different pairs, whatever
action each slice has, and a GCL with these slices asks for no entry twice. -/
def TAS.WritesApart (slices : List TASTimeSlice) : Prop :=
  (∀ (pipeId qId batchId : U8) (action : TASTimeSlice → Action) (afcValue : TASTimeSlice → U32),
    ∃ requests, Fallible.concatMap (fun t => TAS.rangeToTernaryEntries t.low t.high pipeId qId
        batchId (action t) (afcValue t)) slices = .ok requests ∧
      (ternaryPairs .gclTimeDiffTs requests).Nodup ∧ NoDuplicates requests) ∧
  ∀ (switch : Switch) (port batchId : U8) (requests : List Request),
    TAS.gclEntries switch port batchId slices = .ok requests → NoDuplicates requests

/-- The entries of the intervals for one stream gate match on different pairs, and a schedule with
these intervals asks for no entry twice. -/
def StreamGateControlList.WritesApart (intervals : List PSFPTimeSlice) : Prop :=
  (∀ (streamGateId : U32) (identifier : PSFPTimeSlice → U32),
    ∃ requests, Fallible.concatMap (fun t => StreamGateControlList.rangeToTernaryEntries
        streamGateId t.low t.high t.state t.ipv (identifier t) t.octets) intervals = .ok requests ∧
      (ternaryPairs .diffTs requests).Nodup ∧ NoDuplicates requests) ∧
  ∀ (streamGateId start last : U32) (requests : List Request),
    StreamGateControlList.writeIntervals streamGateId intervals start = .ok (requests, last) →
      NoDuplicates requests

theorem TAS.writesApart_of_adjacent {slices : List TASTimeSlice}
    (adjacent : Adjacent (·.low) (·.high) slices) : TAS.WritesApart slices := by
  refine ⟨fun pipeId qId batchId action afcValue => ?_, fun switch port batchId requests run => ?_⟩
  · refine adjacent.noDuplicates
      (fun t => gateControlRequest pipeId qId batchId (action t) (afcValue t))
      (fun _ _ => rfl) fun t es run => ?_
    unfold rangeToTernaryEntries
    rw [run]
    rfl
  · refine (gclEntries_noDuplicates_iff adjacent.proper run).mpr (adjacent.apart.imp ?_)
    intro t t' apart _
    exact apart

theorem StreamGateControlList.writesApart_of_adjacent {intervals : List PSFPTimeSlice}
    (adjacent : Adjacent (·.low) (·.high) intervals) :
    StreamGateControlList.WritesApart intervals := by
  refine ⟨fun streamGateId identifier => ?_, fun streamGateId start last requests run => ?_⟩
  · refine adjacent.noDuplicates
      (fun t => streamGateRequest streamGateId t.state t.ipv (identifier t) t.octets)
      (fun _ _ => rfl) fun t es run => ?_
    unfold rangeToTernaryEntries
    rw [run]
    rfl
  · rcases writeIntervals_eq_ok run with ⟨identifiers, numbered⟩
    rw [numbered.noDuplicates_iff, List.pairwise_map]
    · refine adjacent.apart.imp ?_
      intro t t' apart _
      exact apart
    · intro pair member
      rcases List.mem_map.mp member with ⟨t, memberT, rfl⟩
      exact adjacent.proper t memberT

/-- Slices that share their endpoints have no entry in common, so that no two writes of a GCL or of
a schedule of them collide. -/
theorem adjacentSlices_noDuplicates {slices : List TASTimeSlice} {intervals : List PSFPTimeSlice}
    (adjacent : Adjacent (·.low) (·.high) slices)
    (adjacentIntervals : Adjacent (·.low) (·.high) intervals) :
    TAS.WritesApart slices ∧ StreamGateControlList.WritesApart intervals :=
  ⟨TAS.writesApart_of_adjacent adjacent,
    StreamGateControlList.writesApart_of_adjacent adjacentIntervals⟩

/-- An odd and an even shared endpoint. -/
theorem adjacentSlices_noDuplicates_sample :
    TAS.WritesApart [⟨0, 5, ⟨[(3, 0)], by decide⟩⟩, ⟨5, 8, ⟨[(3, 1)], by decide⟩⟩] ∧
      StreamGateControlList.WritesApart [⟨0, 6, 1, 0, 100⟩, ⟨6, 9, 0, 0, 100⟩] :=
  adjacentSlices_noDuplicates
    { proper := by simp, joined := by simp, below := by simp }
    { proper := by simp, joined := by simp, below := by simp }

end P4Tas.Controller
