import Mathlib.Data.List.Basic
import Mathlib.Data.List.Pairwise
import Mathlib.Order.Lattice

/-!
# Chains of closed intervals

A schedule lists intervals end to start: each begins at the point where the one before it ends.
Read as closed intervals, neighbours share that point.

* `Chain low high a is b`: the intervals `is` lead from `a` to `b`, each starting where its
  predecessor stops;
* `Chain.pairwise`: an interval ends no later than any later one begins, so two of them meet in at
  most one point (`Chain.meet_iff`);
* `Chain.forall_meet_iff`: so a relation holds between any two that meet exactly when it holds
  across every shared endpoint;
* `Chain.filter_inner`, `Chain.find?_eq`: a point inside an interval lies in no other, and neither
  does its start when the intervals are read without their ends;
* `Chain.once`: read without its end, exactly one interval contains a point between `a` and `b`;
* `Chain.count`: with proper intervals, a point of `[a, b]` lies in one of them, or in two when it
  is a shared endpoint.
-/

namespace IntervalChain

variable {α ι : Type} {low high : ι → α}

/-- Some interval before the last ends at the point. -/
def SharedEnd (high : ι → α) (is : List ι) (p : α) : Prop :=
  ∃ k i, is[k]? = some i ∧ k + 1 < is.length ∧ high i = p

theorem sharedEnd_cons {i : ι} {p : α} :
    SharedEnd high (i :: is) p ↔ (is ≠ [] ∧ high i = p) ∨ SharedEnd high is p := by
  refine ⟨?_, ?_⟩
  · intro h
    obtain ⟨k, j, at_k, inner, ends⟩ := h
    cases k with
    | zero =>
      have here : i = j := by simpa using at_k
      have more : is ≠ [] := by
        intro empty
        rw [empty] at inner
        exact absurd inner (Nat.lt_irrefl _)
      exact .inl ⟨more, here ▸ ends⟩
    | succ k =>
      refine .inr ⟨k, j, by simpa using at_k, ?_, ends⟩
      rw [List.length_cons] at inner
      exact Nat.lt_of_succ_lt_succ inner
  · intro h
    rcases h with ⟨more, ends⟩ | ⟨k, j, at_k, inner, ends⟩
    · refine ⟨0, i, rfl, ?_, ends⟩
      rw [List.length_cons]
      exact Nat.succ_lt_succ (List.length_pos_of_ne_nil more)
    · refine ⟨k + 1, j, by simpa using at_k, ?_, ends⟩
      rw [List.length_cons]
      exact Nat.succ_lt_succ inner

variable [LinearOrder α]

/-- The point lies in the closed interval. -/
def Contains (low high : ι → α) (i : ι) (p : α) : Prop :=
  low i ≤ p ∧ p ≤ high i

instance (low high : ι → α) (i : ι) (p : α) : Decidable (Contains low high i p) :=
  inferInstanceAs (Decidable (_ ∧ _))

/-- Each interval starts where its predecessor stops, the first at `a`, and the last ends at
`b`. -/
inductive Chain (low high : ι → α) : α → List ι → α → Prop
  | nil (a : α) : Chain low high a [] a
  | cons {i : ι} {is : List ι} {b : α} :
    low i ≤ high i → Chain low high (high i) is b → Chain low high (low i) (i :: is) b

namespace Chain

theorem nil_iff {a b : α} : Chain low high a [] b ↔ a = b := by
  refine ⟨?_, ?_⟩
  · intro chain
    cases chain
    rfl
  · intro same
    exact same ▸ .nil a

theorem cons_iff {a b : α} {i : ι} {is : List ι} :
    Chain low high a (i :: is) b ↔ low i = a ∧ low i ≤ high i ∧ Chain low high (high i) is b := by
  refine ⟨?_, ?_⟩
  · intro chain
    cases chain with
    | cons ordered rest => exact ⟨rfl, ordered, rest⟩
  · intro h
    obtain ⟨rfl, ordered, rest⟩ := h
    exact .cons ordered rest

instance decidable : (a : α) → (is : List ι) → (b : α) → Decidable (Chain low high a is b)
  | a, [], b => decidable_of_iff (a = b) nil_iff.symm
  | a, i :: is, b =>
    have : Decidable (Chain low high (high i) is b) := decidable (high i) is b
    decidable_of_iff (low i = a ∧ low i ≤ high i ∧ Chain low high (high i) is b) cons_iff.symm

variable {a b : α} {is : List ι}

theorem le (chain : Chain low high a is b) : a ≤ b := by
  induction chain with
  | nil a => exact le_refl a
  | cons ordered _ ih => exact ordered.trans ih

theorem bounds (chain : Chain low high a is b) {i : ι} (member : i ∈ is) :
    a ≤ low i ∧ low i ≤ high i ∧ high i ≤ b := by
  induction chain with
  | nil a => cases member
  | @cons j js b ordered rest ih =>
    rcases List.mem_cons.mp member with rfl | later
    · exact ⟨le_refl _, ordered, rest.le⟩
    · obtain ⟨lower, order, upper⟩ := ih later
      exact ⟨ordered.trans lower, order, upper⟩

/-- An interval ends no later than any later one begins. -/
theorem pairwise (chain : Chain low high a is b) : is.Pairwise fun i j => high i ≤ low j := by
  induction chain with
  | nil a => exact .nil
  | cons _ rest ih => exact .cons (fun j later => (rest.bounds later).1) ih

/-- An interval and a later one meet in at most the point where the first ends. -/
theorem meet_iff {i j : ι} (ordered : low i ≤ high i) (ordered' : low j ≤ high j)
    (before : high i ≤ low j) :
    (∃ p, Contains low high i p ∧ Contains low high j p) ↔ high i = low j := by
  refine ⟨?_, ?_⟩
  · intro h
    obtain ⟨p, inI, inJ⟩ := h
    exact le_antisymm before (inJ.1.trans inI.2)
  · intro same
    exact ⟨high i, ⟨ordered, le_refl _⟩, ⟨same.ge, same.trans_le ordered'⟩⟩

/-- Of a symmetric and reflexive relation, to hold between any two intervals that meet is to hold
across every shared endpoint. -/
theorem forall_meet_iff (chain : Chain low high a is b) {A : ι → ι → Prop}
    (reflexive : ∀ i, A i i) (symmetric : ∀ i j, A i j → A j i) :
    (∀ i ∈ is, ∀ j ∈ is, (∃ p, Contains low high i p ∧ Contains low high j p) → A i j) ↔
      is.Pairwise fun i j => high i = low j → A i j := by
  refine ⟨?_, ?_⟩
  · intro all
    refine chain.pairwise.imp_of_mem fun {i j} memberI memberJ before same => ?_
    have meets := (meet_iff (chain.bounds memberI).2.1 (chain.bounds memberJ).2.1 before).mpr same
    exact all i memberI j memberJ meets
  · intro boundaries
    have ordered : is.Pairwise fun i j =>
        (∃ p, Contains low high i p ∧ Contains low high j p) → A i j :=
      (chain.pairwise.and boundaries).imp_of_mem fun {i j} memberI memberJ h meets =>
        h.2 ((meet_iff (chain.bounds memberI).2.1 (chain.bounds memberJ).2.1 h.1).mp meets)
    have flipped := ordered.imp fun {i j} holds =>
      (fun meets => symmetric i j (holds (meets.imp fun p h => h.symm)) :
        (∃ p, Contains low high j p ∧ Contains low high i p) → A j i)
    exact fun i memberI j memberJ =>
      ordered.forall_of_forall_of_flip (fun i _ _ => reflexive i) flipped memberI memberJ

/-- The intervals of a chain lie to one side of a point below its start. -/
theorem filter_eq_nil (chain : Chain low high a is b) {p : α} (outside : p < a) :
    is.filter (fun i => decide (Contains low high i p)) = [] := by
  rw [List.filter_eq_nil_iff]
  intro i member inside
  have lower := (chain.bounds member).1
  exact absurd ((of_decide_eq_true inside).1) (not_le_of_gt (outside.trans_le lower))

/-- The chain's first interval is the only one that can contain its starting point. -/
theorem filter_start (chain : Chain low high a is b) (proper : ∀ i ∈ is, low i < high i)
    (nonempty : is ≠ []) :
    ∃ i rest, is = i :: rest ∧ is.filter (fun i => decide (Contains low high i a)) = [i] := by
  cases chain with
  | nil => exact absurd rfl nonempty
  | @cons i rest b ordered later =>
    refine ⟨i, rest, rfl, ?_⟩
    have below : low i < high i := proper i List.mem_cons_self
    rw [List.filter_cons_of_pos (by simpa using ⟨le_refl _, ordered⟩), later.filter_eq_nil below]

/-- A point inside an interval of the chain lies in no other. -/
theorem filter_inner (chain : Chain low high a is b) {i : ι} (member : i ∈ is) {p : α}
    (lower : low i < p) (upper : p < high i) :
    is.filter (fun j => decide (Contains low high j p)) = [i] := by
  induction chain with
  | nil a => cases member
  | @cons first rest b _ later ih =>
    rcases List.mem_cons.mp member with rfl | after
    · have here : Contains low high i p := ⟨lower.le, upper.le⟩
      rw [List.filter_cons_of_pos (by simpa using here), later.filter_eq_nil upper]
    · have past : high first < p := (later.bounds after).1.trans_lt lower
      have away : ¬ Contains low high first p := fun inside => absurd inside.2 (not_le_of_gt past)
      rw [List.filter_cons_of_neg (by simpa using away), ih after]

/-- One of two intervals ends before the other begins. -/
theorem apart_of_ne (chain : Chain low high a is b) {i j : ι} (memberI : i ∈ is)
    (memberJ : j ∈ is) (differ : i ≠ j) : high i ≤ low j ∨ high j ≤ low i := by
  have symmetric : Std.Symm fun i j => high i ≤ low j ∨ high j ≤ low i :=
    ⟨fun _ _ order => order.symm⟩
  have ordered : is.Pairwise fun i j => high i ≤ low j ∨ high j ≤ low i :=
    chain.pairwise.imp Or.inl
  exact ordered.forall memberI memberJ differ

/-- Where one proper interval ends and another begins, there is no third. -/
theorem eq_of_shared_end (chain : Chain low high a is b) (proper : ∀ i ∈ is, low i < high i)
    {i j k : ι} (memberI : i ∈ is) (memberJ : j ∈ is) (memberK : k ∈ is) (meet : high i = low j)
    (inside : Contains low high k (high i)) : k = i ∨ k = j := by
  by_contra other
  rcases not_or.mp other with ⟨notI, notJ⟩
  have properI := proper i memberI
  have properJ := proper j memberJ
  have properK := proper k memberK
  rcases chain.apart_of_ne memberK memberI notI with before | after
  · exact absurd (inside.2.trans before) (not_le_of_gt properI)
  · -- then it begins at the shared point
    have start : low k = high i := le_antisymm inside.1 after
    rcases chain.apart_of_ne memberK memberJ notJ with before | after
    · rw [← meet, ← start] at before
      exact absurd before (not_le_of_gt properK)
    · rw [start, meet] at after
      exact absurd after (not_le_of_gt properJ)

/-- Read without their ends, the intervals of a chain contain a point at most once, so a search
finds the one that does. -/
theorem find?_eq (chain : Chain low high a is b) {i : ι} (member : i ∈ is) {p : α}
    (lower : low i ≤ p) (upper : p < high i) :
    is.find? (fun j => decide (low j ≤ p ∧ p < high j)) = some i := by
  induction chain with
  | nil a => cases member
  | @cons first rest b _ later ih =>
    rcases List.mem_cons.mp member with rfl | after
    · exact List.find?_cons_of_pos (decide_eq_true ⟨lower, upper⟩)
    · have past : high first ≤ p := (later.bounds after).1.trans lower
      have away : ¬ (low first ≤ p ∧ p < high first) := fun inside =>
        absurd inside.2 (not_lt_of_ge past)
      rw [List.find?_cons_of_neg (by simpa using away)]
      exact ih after

/-- Read without their ends, the intervals of a chain share the points from `a` to `b` out among
them. -/
theorem once (chain : Chain low high a is b) (p : α) :
    (is.filter fun i => decide (low i ≤ p ∧ p < high i)).length =
      if a ≤ p ∧ p < b then 1 else 0 := by
  induction chain with
  | nil a =>
    rw [if_neg fun inside => absurd inside.2 (not_lt_of_ge inside.1)]
    rfl
  | @cons i rest b ordered later ih =>
    rcases lt_or_ge p (high i) with before | past
    · have outside : ¬ (high i ≤ p ∧ p < b) := fun inside => absurd inside.1 (not_le_of_gt before)
      rw [if_neg outside] at ih
      rcases Decidable.em (low i ≤ p) with from_start | below
      · rw [List.filter_cons_of_pos (by simpa using ⟨from_start, before⟩), List.length_cons, ih,
          if_pos ⟨from_start, before.trans_le later.le⟩]
      · rw [List.filter_cons_of_neg (by simpa using fun inside => absurd inside below), ih,
          if_neg fun inside => below inside.1]
    · have away : ¬ (low i ≤ p ∧ p < high i) := fun inside => absurd inside.2 (not_lt_of_ge past)
      rw [List.filter_cons_of_neg (by simpa using away), ih]
      have same : (high i ≤ p ∧ p < b) ↔ low i ≤ p ∧ p < b :=
        and_congr_left fun _ => ⟨fun _ => ordered.trans past, fun _ => past⟩
      exact if_congr same rfl rfl

/-- In a chain of proper intervals a point is contained in two of them when it is a shared
endpoint, and in one otherwise. -/
theorem count (chain : Chain low high a is b) (proper : ∀ i ∈ is, low i < high i)
    (nonempty : is ≠ []) {p : α} (lower : a ≤ p) (upper : p ≤ b) :
    (SharedEnd high is p → (is.filter fun i => decide (Contains low high i p)).length = 2) ∧
      (¬ SharedEnd high is p → (is.filter fun i => decide (Contains low high i p)).length = 1) := by
  induction chain with
  | nil a => exact absurd rfl nonempty
  | @cons i rest b ordered later ih =>
    have properRest : ∀ j ∈ rest, low j < high j := fun j member =>
      proper j (List.mem_cons_of_mem i member)
    have away (past : high i ≤ p) (h : SharedEnd high rest p) : p ≠ high i := by
      -- an interval after the first is proper, so it ends after the first one does
      intro same
      obtain ⟨k, j, at_k, _, ends⟩ := h
      have member := List.mem_of_getElem? at_k
      have start := (later.bounds member).1
      exact absurd (ends.trans same) (start.trans_lt (properRest j member)).ne'
    rcases lt_trichotomy p (high i) with before | same | after
    · -- inside the first interval, before its end
      have here : Contains low high i p := ⟨lower, before.le⟩
      have single : ((i :: rest).filter fun j => decide (Contains low high j p)) = [i] := by
        rw [List.filter_cons_of_pos (by simpa using here), later.filter_eq_nil before]
      have unshared : ¬ SharedEnd high (i :: rest) p := by
        intro shared
        rcases sharedEnd_cons.mp shared with ⟨_, ends⟩ | ⟨k, j, at_k, _, ends⟩
        · exact absurd ends before.ne'
        · have bounds := later.bounds (List.mem_of_getElem? at_k)
          have past : high i ≤ p := bounds.1.trans (bounds.2.1.trans ends.le)
          exact absurd past (not_le_of_gt before)
      exact ⟨fun shared => absurd shared unshared, fun _ => by rw [single]; rfl⟩
    · -- at the end of the first interval
      subst same
      have here : Contains low high i (high i) := ⟨ordered, le_refl _⟩
      rw [List.filter_cons_of_pos (by simpa using here)]
      rcases Decidable.em (rest = []) with last | more
      · subst last
        have unshared : ¬ SharedEnd high [i] (high i) := by
          intro shared
          obtain ⟨k, _, _, inner, _⟩ := shared
          exact absurd inner (by simp)
        exact ⟨fun shared => absurd shared unshared, fun _ => rfl⟩
      · obtain ⟨j, _, _, single⟩ := later.filter_start properRest more
        rw [single]
        exact ⟨fun _ => rfl,
          fun unshared => absurd (sharedEnd_cons.mpr (.inl ⟨more, rfl⟩)) unshared⟩
    · -- past the first interval
      have outside : ¬ Contains low high i p := fun inside => absurd inside.2 (not_le_of_gt after)
      have more : rest ≠ [] := by
        intro empty
        subst empty
        exact absurd (nil_iff.mp later ▸ upper) (not_le_of_gt after)
      have shift : SharedEnd high (i :: rest) p ↔ SharedEnd high rest p := by
        rw [sharedEnd_cons]
        refine ⟨?_, ?_⟩
        · intro h
          rcases h with ⟨_, ends⟩ | shared
          · exact absurd ends after.ne
          · exact shared
        · exact .inr
      rw [List.filter_cons_of_neg (by simpa using outside), shift]
      exact ih properRest more after.le upper

end Chain

end IntervalChain
