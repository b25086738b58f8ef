import Mathlib.Data.List.Basic

/-!
# Noninterference

A machine takes inputs of several parties and answers each.  The inputs of one party are `visible`,
and `observe` is what this party sees of an answer.  The other inputs do not interfere when the
observations are those of the machine on the visible inputs alone.

* `Unwinding`: a relation between states that the visible inputs carry along with equal
  observations, and the others do not leave;
* `Unwinding.observed_visible`: the observations of a run are those of its visible inputs;
* `Unwinding.noninterference`: two runs with the same visible inputs have the same observations;
* `Unwinding.joint`: observers that each see a part of the answers can be taken together.
-/

namespace Noninterference

variable {σ ε ω δ : Type}

/-- The observations of a run. -/
def observed (step : σ → ε → σ × ω) (observe : ε → ω → Option δ) : σ → List ε → List δ
  | _, [] => []
  | s, e :: es =>
    (observe e (step s e).2).toList ++ observed step observe (step s e).1 es

/-- States that stay related, and cannot be told apart by the visible inputs. -/
structure Unwinding (step : σ → ε → σ × ω) (observe : ε → ω → Option δ) (visible : ε → Bool)
    (related : σ → σ → Prop) : Prop where
  hidden : ∀ s t e, related s t → visible e = false → related (step s e).1 t
  silent : ∀ e o, visible e = false → observe e o = none
  shown : ∀ s t e, related s t → visible e = true → related (step s e).1 (step t e).1
  agrees : ∀ s t e, related s t → visible e = true →
    observe e (step s e).2 = observe e (step t e).2

namespace Unwinding

variable {step : σ → ε → σ × ω} {observe : ε → ω → Option δ} {visible : ε → Bool}
  {related : σ → σ → Prop}

/-- The inputs that are not visible can be left out. -/
theorem observed_visible (unwinding : Unwinding step observe visible related) {s t : σ}
    (start : related s t) (es : List ε) :
    observed step observe s es = observed step observe t (es.filter visible) := by
  induction es generalizing s t with
  | nil => rfl
  | cons e es ih =>
    cases seen : visible e with
    | false =>
      rw [List.filter_cons_of_neg (by rw [seen]; exact Bool.false_ne_true), observed,
        unwinding.silent e _ seen, Option.toList_none, List.nil_append]
      exact ih (unwinding.hidden s t e start seen)
    | true =>
      rw [List.filter_cons_of_pos seen, observed, observed, unwinding.agrees s t e start seen,
        ih (unwinding.shown s t e start seen)]

/-- Two runs with the same visible inputs, in whatever company, have the same observations. -/
theorem noninterference (unwinding : Unwinding step observe visible related)
    (refl : ∀ s, related s s) {s t : σ} (start : related s t) {es es' : List ε}
    (same : es.filter visible = es'.filter visible) :
    observed step observe s es = observed step observe t es' := by
  rw [unwinding.observed_visible start, same, ← unwinding.observed_visible (refl t)]

/-- An observer whose every observation is one that some party makes. -/
theorem joint {κ : Type} {party : κ → Prop} {observes : κ → ε → ω → Option δ}
    {relates : κ → σ → σ → Prop}
    (unwindings : ∀ k, party k → Unwinding step (observes k) visible (relates k))
    (silent : ∀ e o, visible e = false → observe e o = none)
    (seen : ∀ e, visible e = true →
      (∃ k, party k ∧ ∀ o, observe e o = observes k e o) ∨ ∀ o, observe e o = none) :
    Unwinding step observe visible fun s t => ∀ k, party k → relates k s t where
  hidden := fun s t e related hidden k among =>
    (unwindings k among).hidden s t e (related k among) hidden
  silent := silent
  shown := fun s t e related shown k among =>
    (unwindings k among).shown s t e (related k among) shown
  agrees := by
    intro s t e related shown
    rcases seen e shown with ⟨k, among, same⟩ | unseen
    · rw [same, same]
      exact (unwindings k among).agrees s t e (related k among) shown
    · rw [unseen, unseen]

end Unwinding

end Noninterference
