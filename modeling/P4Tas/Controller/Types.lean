import Mathlib.Data.List.Nodup
import Mathlib.Data.Nat.Basic
import P4Tas.Lib.IntervalChain
import P4Tas.Rust

/-!
# The configuration and its parts

The records of `types.rs`, with the fields the modelled functions use.  The gate states of a time
slice are a `HashMap` in the source: `QueueStates` lists its entries in an arbitrary order, each
queue once.
-/

namespace P4Tas.Controller

structure AppState where
  lastConfiguredAppId : U8
  uniqueIntervalIdentifier : U32
  deriving DecidableEq, Repr

/-- App id 0 is configured for TAS control traffic. -/
def AppState.new : AppState where
  lastConfiguredAppId := 1
  uniqueIntervalIdentifier := 0

structure Stream where
  vid : U16
  streamHandle : U8
  ethDst : String
  overwritePcp : Option U8
  overwriteMac : Option String
  ipv4Src : Option U32
  ipv4Dst : Option U32

structure StreamHandle where
  streamHandle : U8 := 0
  streamGateInstance : U32 := 0
  flowMeterInstance : U32 := 0

structure StreamFilter where
  streamHandle : U8 := 0
  streamBlockEnable : Bool := false

structure StreamGate where
  streamGateId : U32 := 0
  schedule : String := ""
  gateClosedDueToInvalidRxEnable : Bool := false
  gateClosedDueToOctetsExceededEmable : Bool := false

structure FlowMeter where
  flowMeterId : U32 := 0
  cirKbps : U64 := 0
  pirKbps : U64 := 0
  cbs : U64 := 0
  pbs : U64 := 0
  dropYellow : Bool := false
  markRed : Bool := false
  colorAware : Bool := false

structure PSFPTimeSlice where
  low : U32
  high : U32
  state : U8
  ipv : U8
  octets : U32
  deriving DecidableEq, Repr

/-- The closed range of the slice contains the position. -/
abbrev PSFPTimeSlice.Contains : PSFPTimeSlice → Nat → Prop :=
  IntervalChain.Contains (fun t => t.low.toNat) (fun t => t.high.toNat)

/-- The slices are listed end to start, from one position to another. -/
abbrev PSFPTimeSlice.Chain : Nat → List PSFPTimeSlice → Nat → Prop :=
  IntervalChain.Chain (fun t => t.low.toNat) (fun t => t.high.toNat)

structure StreamGateControlList where
  name : String
  period : U64
  intervals : List PSFPTimeSlice

structure AppIDMapping where
  appId : U8
  streamGateId : U32
  hyperperiodDuration : U64
  deriving DecidableEq, Repr

structure PSFP where
  streams : List Stream
  streamHandles : List StreamHandle
  streamFilters : List StreamFilter
  streamGates : List StreamGate
  flowMeters : List FlowMeter
  streamGateSchedules : List StreamGateControlList
  appIdMappings : Option (List AppIDMapping) := none

/-- The gate state of each listed queue, in the order an iteration over the map visits them. -/
structure QueueStates where
  entries : List (U8 × U8)
  nodup : (entries.map Prod.fst).Nodup

namespace QueueStates

def keys (qs : QueueStates) : List U8 :=
  qs.entries.map Prod.fst

/-- `for v in values_mut() { *v = state; }` -/
def setAll (qs : QueueStates) (state : U8) : QueueStates where
  entries := qs.entries.map fun e => (e.1, state)
  nodup := by
    have keys : (qs.entries.map fun e => (e.1, state)).map Prod.fst = qs.entries.map Prod.fst := by
      rw [List.map_map]
      rfl
    rw [keys]
    exact qs.nodup

/-- The state of a listed queue. -/
def state? (qs : QueueStates) (q : U8) : Option U8 :=
  qs.entries.lookup q

end QueueStates

structure TASTimeSlice where
  low : U32
  high : U32
  queueStates : QueueStates

/-- The closed range of the slice contains the position. -/
abbrev TASTimeSlice.Contains : TASTimeSlice → Nat → Prop :=
  IntervalChain.Contains (fun t => t.low.toNat) (fun t => t.high.toNat)

/-- The slices are listed end to start, from one position to another. -/
abbrev TASTimeSlice.Chain : Nat → List TASTimeSlice → Nat → Prop :=
  IntervalChain.Chain (fun t => t.low.toNat) (fun t => t.high.toNat)

structure GateControlList where
  period : U32
  name : String
  timeSlices : List TASTimeSlice
  guardBandWidth : U32

structure GCLToPortMapping where
  port : U8
  gcl : String
  deriving DecidableEq, Repr

structure BatchIDMapping where
  appId : U8
  batchId : U8
  egressDevPort : U8
  hyperperiodDuration : U64
  deriving DecidableEq, Repr

structure TAS where
  gclToPortMapping : List GCLToPortMapping
  gcls : List GateControlList
  batchMappings : Option (List BatchIDMapping) := none

structure Configuration where
  psfp : PSFP
  tas : TAS

namespace QueueStates

variable {qs : QueueStates} {q state : U8}

theorem entries_unique {a b : U8} (left : (q, a) ∈ qs.entries) (right : (q, b) ∈ qs.entries) :
    a = b := by
  have same := List.inj_on_of_nodup_map qs.nodup left right rfl
  exact (Prod.mk.inj same).2

/-- Looking a queue up finds its entry. -/
theorem state?_eq_some : qs.state? q = some state ↔ (q, state) ∈ qs.entries := by
  have found_mem {value : U8} (found : qs.entries.lookup q = some value) :
      (q, value) ∈ qs.entries := by
    obtain ⟨before, after, split, _⟩ := List.lookup_eq_some_iff.mp found
    rw [split]
    exact List.mem_append_right before List.mem_cons_self
  unfold state?
  refine ⟨?_, ?_⟩
  · exact found_mem
  · intro member
    cases found : qs.entries.lookup q with
    | none =>
      have absent := List.lookup_eq_none_iff.mp found (q, state) member
      simp at absent
    | some other => rw [entries_unique (found_mem found) member]

/-- Going through the entries of the map and keeping those of one queue is looking it up. -/
theorem flatMap_state? {α : Type} (qs : QueueStates) (q : U8) (f : U8 → α) :
    (qs.entries.flatMap fun e => if e.1 = q then [f e.2] else []) =
      (qs.state? q).toList.map f := by
  obtain ⟨entries, nodup⟩ := qs
  unfold state?
  induction entries with
  | nil => rfl
  | cons e es ih =>
    obtain ⟨fresh, nodup⟩ := List.nodup_cons.mp nodup
    rw [List.flatMap_cons, ih nodup]
    by_cases here : e.1 = q
    · have absent : es.lookup q = none := by
        rw [List.lookup_eq_none_iff]
        intro other member
        have : q ∈ es.map Prod.fst → False := here ▸ fresh
        simp only [bne_iff_ne, ne_eq]
        intro same
        exact this (List.mem_map.mpr ⟨other, member, same.symm⟩)
      have found : (e :: es).lookup q = some e.2 := by
        rw [List.lookup_cons, ← here, beq_self_eq_true]
      rw [if_pos here, absent, found]
      rfl
    · have skip : (e :: es).lookup q = es.lookup q := by
        rw [List.lookup_cons, beq_eq_false_iff_ne.mpr (Ne.symm here)]
      rw [if_neg here, skip, List.nil_append]

theorem mem_keys : q ∈ qs.keys ↔ ∃ state, (q, state) ∈ qs.entries := by
  simp [keys]

theorem mem_setAll {value : U8} :
    (q, value) ∈ (qs.setAll state).entries ↔ q ∈ qs.keys ∧ value = state := by
  rw [mem_keys]
  simp only [setAll, List.mem_map, Prod.mk.injEq, Prod.exists]
  refine ⟨?_, ?_⟩
  · intro h
    obtain ⟨a, b, member, rfl, rfl⟩ := h
    exact ⟨⟨b, member⟩, rfl⟩
  · intro h
    obtain ⟨⟨b, member⟩, rfl⟩ := h
    exact ⟨q, b, member, rfl, rfl⟩

end QueueStates

end P4Tas.Controller
