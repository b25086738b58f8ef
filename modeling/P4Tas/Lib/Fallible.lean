import Mathlib.Data.List.Forall2

/-!
# Fallible computations over lists

Inversion lemmas for computations in `Except ε`, and the fold that concatenates the lists a
fallible function produces.  `concatMap_eq_ok` turns a successful fold into a `List.flatMap`, so
that later proofs work with plain lists.
-/

namespace Fallible

universe u v

variable {ε : Type u} {α β : Type v}

theorem bind_eq_ok {x : Except ε α} {f : α → Except ε β} {b : β} :
    x >>= f = .ok b ↔ ∃ a, x = .ok a ∧ f a = .ok b := by
  cases x with
  | error e => simp [bind, Except.bind]
  | ok a => simp [bind, Except.bind]

theorem bind_eq_error {x : Except ε α} {f : α → Except ε β} {e : ε} :
    x >>= f = .error e ↔ x = .error e ∨ ∃ a, x = .ok a ∧ f a = .error e := by
  cases x with
  | error e => simp [bind, Except.bind]
  | ok a => simp [bind, Except.bind]

@[simp] theorem ok_bind (a : α) (f : α → Except ε β) : (Except.ok a >>= f) = f a :=
  rfl

@[simp] theorem error_bind (e : ε) (f : α → Except ε β) : (Except.error e >>= f) = .error e :=
  rfl

theorem exists_of_isOk {x : Except ε α} (returned : x.isOk = true) : ∃ a, x = .ok a := by
  cases x with
  | error e => cases returned
  | ok a => exact ⟨a, rfl⟩

theorem exists_of_any {x : Except ε α} {p : α → Bool} (returned : x.toOption.any p = true) :
    ∃ a, x = .ok a ∧ p a = true := by
  cases x with
  | error e => cases returned
  | ok a => exact ⟨a, rfl, returned⟩

/-- The error of a computation that fails. -/
def error? : Except ε α → Option ε
  | .ok _ => none
  | .error e => some e

theorem error?_eq_some {x : Except ε α} {e : ε} : error? x = some e ↔ x = .error e := by
  cases x with
  | ok a => simp [error?]
  | error e => simp [error?]

/-- The list a computation produces, empty when it fails. -/
def output : Except ε (List β) → List β
  | .ok bs => bs
  | .error _ => []

@[simp] theorem output_ok (bs : List β) : output (.ok bs : Except ε (List β)) = bs :=
  rfl

/-- Run `f` on every element, left to right, and concatenate what it produces. -/
def concatMap (f : α → Except ε (List β)) : List α → Except ε (List β)
  | [] => .ok []
  | a :: as => do
    let bs ← f a
    let rest ← concatMap f as
    return bs ++ rest

theorem concatMap_eq_ok {f : α → Except ε (List β)} {as : List α} {bs : List β} :
    concatMap f as = .ok bs ↔
      (∀ a ∈ as, ∃ xs, f a = .ok xs) ∧ bs = as.flatMap (fun a => output (f a)) := by
  induction as generalizing bs with
  | nil => simp [concatMap, eq_comm]
  | cons a as ih =>
    simp only [concatMap, bind_eq_ok, List.forall_mem_cons, List.flatMap_cons]
    refine ⟨?_, ?_⟩
    · intro h
      obtain ⟨xs, head, rest, tail, result⟩ := h
      obtain ⟨all, rfl⟩ := ih.mp tail
      cases result
      exact ⟨⟨⟨xs, head⟩, all⟩, by rw [head, output_ok]⟩
    · intro h
      obtain ⟨⟨⟨xs, head⟩, all⟩, rfl⟩ := h
      exact ⟨xs, head, _, ih.mpr ⟨all, rfl⟩, by rw [head, output_ok]; rfl⟩

/-- What the fold produces comes from one of the elements. -/
theorem mem_concatMap {f : α → Except ε (List β)} {as : List α} {bs : List β}
    (run : concatMap f as = .ok bs) {b : β} : b ∈ bs ↔ ∃ a ∈ as, ∃ xs, f a = .ok xs ∧ b ∈ xs := by
  rcases concatMap_eq_ok.mp run with ⟨all, rfl⟩
  rw [List.mem_flatMap]
  refine exists_congr fun a => and_congr_right fun member => ?_
  rcases all a member with ⟨xs, head⟩
  rw [head, output_ok]
  refine ⟨fun inside => ⟨xs, rfl, inside⟩, ?_⟩
  intro h
  obtain ⟨_, same, inside⟩ := h
  cases same
  exact inside

/-- A traversal succeeds exactly when it succeeds on every element. -/
theorem mapM_eq_ok {f : α → Except ε β} {as : List α} {bs : List β} :
    as.mapM f = .ok bs ↔ List.Forall₂ (fun a b => f a = .ok b) as bs := by
  induction as generalizing bs with
  | nil =>
    rw [List.mapM_nil, List.forall₂_nil_left_iff]
    exact ⟨fun h => (Except.ok.inj h).symm, fun h => by rw [h]; rfl⟩
  | cons a as ih =>
    simp only [List.mapM_cons, bind_eq_ok, List.forall₂_cons_left_iff]
    refine ⟨?_, ?_⟩
    · intro h
      obtain ⟨b, head, rest, tail, result⟩ := h
      cases result
      exact ⟨b, rest, head, ih.mp tail, rfl⟩
    · intro h
      obtain ⟨b, rest, head, tail, rfl⟩ := h
      exact ⟨b, head, rest, ih.mpr tail, rfl⟩

/-- The fold returns when the computation returns on every element. -/
theorem concatMap_returns_iff {f : α → Except ε (List β)} {as : List α} :
    (∃ bs, concatMap f as = .ok bs) ↔ ∀ a ∈ as, ∃ xs, f a = .ok xs := by
  refine ⟨?_, fun all => ⟨_, concatMap_eq_ok.mpr ⟨all, rfl⟩⟩⟩
  intro h
  obtain ⟨bs, run⟩ := h
  exact (concatMap_eq_ok.mp run).1

/-- A traversal returns when the computation returns on every element. -/
theorem mapM_returns_iff {f : α → Except ε β} {as : List α} :
    (∃ bs, as.mapM f = .ok bs) ↔ ∀ a ∈ as, ∃ b, f a = .ok b := by
  simp only [mapM_eq_ok]
  induction as with
  | nil => simp
  | cons a as ih =>
    rw [List.forall_mem_cons, ← ih]
    refine ⟨?_, ?_⟩
    · intro h
      obtain ⟨bs, related⟩ := h
      cases related with
      | cons head tail => exact ⟨⟨_, head⟩, _, tail⟩
    · intro h
      obtain ⟨⟨b, head⟩, bs, tail⟩ := h
      exact ⟨b :: bs, .cons head tail⟩

end Fallible
