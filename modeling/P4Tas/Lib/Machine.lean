import Mathlib.Data.List.Induction
import P4Tas.Lib.Fallible
import P4Tas.Lib.Transition

/-!
# Fallible machines

A machine is a function from a state and an input to the next state and an output, or an error.  Its
steps are a transition system whose events are the pairs of an input and its output; `exec` runs it
on a list of inputs.

* `always_iff`: a property holds throughout a run exactly when no step of it breaks the property;
* `exec_eq_ok`: the executions that return are the runs of the transition system;
* `Steps.unique`, `run_unique`: a machine is deterministic.
-/

namespace Machine

open Transition (Run)

variable {σ ι ο ε : Type}

/-- An input and the output for it. -/
structure Event (ι ο : Type) where
  input : ι
  output : ο

/-- The machine takes the event in state `s` and goes to `s'`. -/
def Steps (f : σ → ι → Except ε (σ × ο)) (s : σ) (e : Event ι ο) (s' : σ) : Prop :=
  f s e.input = .ok (s', e.output)

/-- The machine on a list of inputs. -/
def exec (f : σ → ι → Except ε (σ × ο)) (s : σ) : List ι → Except ε (List (Event ι ο) × σ)
  | [] => .ok ([], s)
  | input :: inputs => do
    let (s', output) ← f s input
    let (es, last) ← exec f s' inputs
    return ({ input, output } :: es, last)

variable {f : σ → ι → Except ε (σ × ο)} {s s' t u : σ} {e : Event ι ο} {es : List (Event ι ο)}

theorem Steps.unique (taken : Steps f s e s') (taken' : Steps f s e t) : s' = t := by
  have same := taken.symm.trans taken'
  cases same
  rfl

theorem exec_eq_ok {inputs : List ι} :
    exec f s inputs = .ok (es, u) ↔ Run (Steps f) s es u ∧ es.map Event.input = inputs := by
  induction inputs generalizing s es with
  | nil =>
    refine ⟨?_, ?_⟩
    · intro run
      cases run
      exact ⟨.nil _, rfl⟩
    · rintro ⟨run, none⟩
      cases List.map_eq_nil_iff.mp none
      rw [← Run.nil_iff.mp run]
      rfl
  | cons input inputs ih =>
    refine ⟨?_, ?_⟩
    · intro run
      rcases Fallible.bind_eq_ok.mp run with ⟨⟨s', output⟩, first, run⟩
      rcases Fallible.bind_eq_ok.mp run with ⟨⟨rest, last⟩, looped, run⟩
      cases run
      rcases ih.mp looped with ⟨later, rfl⟩
      exact ⟨.cons first later, rfl⟩
    · rintro ⟨run, inputs_eq⟩
      cases es with
      | nil => cases inputs_eq
      | cons e es =>
        rcases Run.cons_iff.mp run with ⟨s', first, later⟩
        rcases List.cons_eq_cons.mp inputs_eq with ⟨rfl, rest_eq⟩
        have rest := ih.mpr ⟨later, rest_eq⟩
        unfold exec
        rw [first, Fallible.ok_bind]
        dsimp only
        rw [rest]
        rfl

theorem exec_returns {inputs : List ι} (returned : (exec f s inputs).isOk = true) :
    ∃ es u, Run (Steps f) s es u ∧ es.map Event.input = inputs := by
  rcases Fallible.exists_of_isOk returned with ⟨⟨es, u⟩, run⟩
  exact ⟨es, u, exec_eq_ok.mp run⟩

/-- What is computed of the last state of an execution holds of the last state of the run. -/
theorem run_satisfies {p : σ → Bool} {inputs : List ι} (run : Run (Steps f) s es u)
    (inputs_eq : es.map Event.input = inputs)
    (evaluated : (exec f s inputs).toOption.any (fun r => p r.2) = true) : p u = true := by
  rw [exec_eq_ok.mpr ⟨run, inputs_eq⟩] at evaluated
  exact evaluated

theorem run_unique (run : Run (Steps f) s es t) (run' : Run (Steps f) s es u) : t = u := by
  have same := (exec_eq_ok.mpr ⟨run, rfl⟩).symm.trans (exec_eq_ok.mpr ⟨run', rfl⟩)
  cases same
  rfl

/-- A run goes on from the state that a prefix of it reaches. -/
theorem run_split {before after : List (Event ι ο)} (run : Run (Steps f) s (before ++ after) u)
    (left : Run (Steps f) s before t) : Run (Steps f) t after u := by
  rcases Run.append_iff.mp run with ⟨t', left', right⟩
  rw [run_unique left left']
  exact right

/-- A property holds in every state of a run exactly when every step of it meets the condition under
which the step preserves the property. -/
theorem always_iff {I : σ → Prop} {Q : σ → ι → Prop} (run : Run (Steps f) s es u) (start : I s)
    (preserved : ∀ t e t', I t → Steps f t e t' → (I t' ↔ Q t e.input)) :
    (∀ before after t, es = before ++ after → Run (Steps f) s before t → I t) ↔
      ∀ before e after t, es = before ++ e :: after → Run (Steps f) s before t → Q t e.input := by
  refine ⟨?_, ?_⟩
  · rintro always before e after t rfl left
    rcases Run.cons_iff.mp (run_split run left) with ⟨t', taken, _⟩
    have here := always before (e :: after) t rfl left
    have next := always (before ++ [e]) after t' (by simp)
      (Run.append_iff.mpr ⟨t, left, Run.cons_iff.mpr ⟨t', taken, .nil t'⟩⟩)
    exact (preserved t e t' here taken).mp next
  · intro guarded before after t split left
    clear run
    induction before using List.reverseRecOn generalizing after t with
    | nil => exact Run.nil_iff.mp left ▸ start
    | append_singleton before e ih =>
      rcases Run.append_iff.mp left with ⟨t0, left, last⟩
      rcases Run.cons_iff.mp last with ⟨t', taken, last⟩
      have split' := split.trans (List.append_cons before e after).symm
      have here := ih (e :: after) t0 split' left
      rw [← Run.nil_iff.mp last]
      exact (preserved t0 e t' here taken).mpr (guarded before e after t0 split' left)

end Machine
