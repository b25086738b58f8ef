import Mathlib.Data.List.Forall2
import Mathlib.Data.List.Nodup

/-!
# Lookup by key in a list of records

A program that keeps its records in a vector looks one up with a search for the first record whose
key has a given value.  When the keys are distinct the search is membership; when two lists are
related record by record and the relation keeps the keys, so are the results of the searches.
-/

namespace KeyedList

variable {α β κ : Type} {key : α → κ} {key' : β → κ} {as : List α} {bs : List β} {k : κ}

/-- Every record of the first list has a related one in the second. -/
theorem exists_related {R : α → β → Prop} (related : List.Forall₂ R as bs) {a : α}
    (member : a ∈ as) : ∃ b ∈ bs, R a b := by
  induction related with
  | nil => cases member
  | @cons c b as bs head _ ih =>
    rcases List.mem_cons.mp member with rfl | later
    · exact ⟨b, List.mem_cons_self, head⟩
    · obtain ⟨b', memberB, holds⟩ := ih later
      exact ⟨b', List.mem_cons_of_mem b memberB, holds⟩

/-- Related lists have the same keys. -/
theorem map_key_forall₂ {R : α → β → Prop} (related : List.Forall₂ R as bs)
    (keeps : ∀ a b, R a b → key a = key' b) : as.map key = bs.map key' := by
  induction related with
  | nil => rfl
  | cons head _ ih => rw [List.map_cons, List.map_cons, keeps _ _ head, ih]

/-- Related records that produce the same lists produce the same concatenation. -/
theorem flatMap_related {γ : Type} {R : α → β → Prop} (related : List.Forall₂ R as bs)
    {f : α → List γ} {g : β → List γ} (same : ∀ a ∈ as, ∀ b, R a b → f a = g b) :
    as.flatMap f = bs.flatMap g := by
  induction related with
  | nil => rfl
  | @cons a b as bs head _ ih =>
    have rest := ih fun a' later => same a' (List.mem_cons_of_mem a later)
    rw [List.flatMap_cons, List.flatMap_cons, same a List.mem_cons_self b head, rest]

/-- What holds between any two records of the first list carries over to the second. -/
theorem pairwise_related {R : α → β → Prop} {S : α → α → Prop} {T : β → β → Prop}
    (related : List.Forall₂ R as bs)
    (carries : ∀ a b a' b', R a b → R a' b' → S a a' → T b b') (pairwise : as.Pairwise S) :
    bs.Pairwise T := by
  induction related with
  | nil => exact .nil
  | @cons a b as bs head tail ih =>
    rcases List.pairwise_cons.mp pairwise with ⟨first, rest⟩
    refine .cons (fun b' later => ?_) (ih rest)
    rcases exists_related tail.flip later with ⟨a', laterA, related'⟩
    exact carries a b a' b' head related' (first a' laterA)

/-- The records of the first list are related to those of the third by those of the second. -/
theorem related_trans {γ : Type} {R : α → β → Prop} {S : β → γ → Prop} {cs : List γ}
    (first : List.Forall₂ R as bs) (second : List.Forall₂ S bs cs) :
    List.Forall₂ (fun a c => ∃ b, R a b ∧ S b c) as cs := by
  induction first generalizing cs with
  | nil =>
    cases second
    exact .nil
  | cons head _ ih =>
    cases second with
    | cons head' tail' => exact .cons ⟨_, head, head'⟩ (ih tail')

/-- What related records have in common exactly when the first has a property, all of them have in
common exactly when all records of the first list have it. -/
theorem forall₂_iff_forall {R P : α → β → Prop} {Q : α → Prop} (related : List.Forall₂ R as bs)
    (each : ∀ a ∈ as, ∀ b, R a b → (P a b ↔ Q a)) : List.Forall₂ P as bs ↔ ∀ a ∈ as, Q a := by
  induction related with
  | nil => simp
  | cons head _ ih =>
    obtain ⟨eachHead, eachTail⟩ := List.forall_mem_cons.mp each
    rw [List.forall₂_cons, List.forall_mem_cons, eachHead _ head, ih eachTail]

variable [BEq κ]

/-- The searches through two related lists have related results. -/
theorem find?_forall₂ {R : α → β → Prop} (related : List.Forall₂ R as bs)
    (keeps : ∀ a b, R a b → key a = key' b) :
    (as.find? (fun x => key x == k) = none ∧ bs.find? (fun x => key' x == k) = none) ∨
      ∃ a b, R a b ∧ as.find? (fun x => key x == k) = some a ∧
        bs.find? (fun x => key' x == k) = some b := by
  induction related with
  | nil => exact .inl ⟨rfl, rfl⟩
  | @cons a b as bs head _ ih =>
    have same := keeps a b head
    cases here : key a == k with
    | true =>
      refine .inr ⟨a, b, head, List.find?_cons_of_pos here, ?_⟩
      exact List.find?_cons_of_pos (by rw [← same]; exact here)
    | false =>
      have skipA : ¬ (key a == k) = true := by simp [here]
      have skipB : ¬ (key' b == k) = true := by rw [← same]; exact skipA
      rw [List.find?_cons_of_neg (p := fun x => key x == k) skipA,
        List.find?_cons_of_neg (p := fun x => key' x == k) skipB]
      exact ih

variable [LawfulBEq κ]

/-- The same where the first key is an image of the second record's own. -/
theorem find?_image {ν : Type} [BEq ν] [LawfulBEq ν] {R : α → β → Prop} {own : β → ν}
    {image : ν → κ} (injective : Function.Injective image) (related : List.Forall₂ R as bs)
    (keeps : ∀ a b, R a b → key a = image (own b)) (v : ν) :
    (as.find? (fun x => key x == image v) = none ∧ bs.find? (fun y => own y == v) = none) ∨
      ∃ a b, R a b ∧ as.find? (fun x => key x == image v) = some a ∧
        bs.find? (fun y => own y == v) = some b := by
  have same : (fun y => own y == v) = fun y => image (own y) == image v := by
    funext y
    rw [Bool.eq_iff_iff, beq_iff_eq, beq_iff_eq]
    exact injective.eq_iff.symm
  rw [same]
  exact find?_forall₂ related keeps

/-- Where only one record has the key, the related one is found. -/
theorem exists_find?_of_unique {ν : Type} [BEq ν] [LawfulBEq ν] {R : α → β → Prop} {own : β → ν}
    {image : ν → κ} (injective : Function.Injective image) (related : List.Forall₂ R as bs)
    (keeps : ∀ a b, R a b → key a = image (own b)) {v : ν} {a : α}
    (unique : as.filter (fun x => key x == image v) = [a]) :
    ∃ b, bs.find? (fun y => own y == v) = some b ∧ R a b := by
  have found : as.find? (fun x => key x == image v) = some a := by
    rw [← List.head?_filter, unique]
    rfl
  rcases find?_image injective related keeps v with ⟨none, _⟩ | ⟨a', b, holds, here, there⟩
  · cases none.symm.trans found
  · cases here.symm.trans found
    exact ⟨b, there, holds⟩

/-- A record that is found is in the list and has the key. -/
theorem mem_of_find? {a : α} (found : as.find? (fun x => key x == k) = some a) :
    a ∈ as ∧ key a = k :=
  ⟨List.mem_of_find?_eq_some found, by simpa using List.find?_some found⟩

/-- Some record is found when one has the key. -/
theorem exists_find? {a : α} (member : a ∈ as) (has : key a = k) :
    ∃ b, as.find? (fun x => key x == k) = some b := by
  cases found : as.find? (fun x => key x == k) with
  | some b => exact ⟨b, rfl⟩
  | none =>
    have absent := List.find?_eq_none.mp found a member
    exact absurd has (by simpa using absent)

theorem find?_eq_some_iff (distinct : (as.map key).Nodup) {a : α} :
    as.find? (fun x => key x == k) = some a ↔ a ∈ as ∧ key a = k := by
  refine ⟨?_, ?_⟩
  · exact mem_of_find?
  · intro h
    obtain ⟨member, has⟩ := h
    obtain ⟨b, found⟩ := exists_find? member has
    obtain ⟨memberB, hasB⟩ := mem_of_find? found
    rw [found, List.inj_on_of_nodup_map distinct memberB member (hasB.trans has.symm)]

end KeyedList
