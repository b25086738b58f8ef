/-!
# Runs of a transition system

A transition system is a relation between a state, an event and the next state; an event carries
what the step consumes and what it produces.  `Run` lists the events of a sequence of steps.

* `Run.append_iff`, `Run.cons_iff`: a run splits at any of its events;
* `Run.invariant`: what every step preserves holds throughout a run;
* `Run.history`: the same for a relation between the events so far and the state;
* `Run.projected`: a run is a run of a system that takes some of its steps;
* `Run.eventually_always`: what one kind of step establishes and every step preserves holds at every
  later step of a run.
-/

namespace Transition

variable {σ ε : Type} {step : σ → ε → σ → Prop}

/-- A sequence of steps and their events. -/
inductive Run (step : σ → ε → σ → Prop) : σ → List ε → σ → Prop
  | nil (s : σ) : Run step s [] s
  | cons {s t u : σ} {e : ε} {es : List ε} : step s e t → Run step t es u → Run step s (e :: es) u

namespace Run

variable {s u : σ}

theorem nil_iff : Run step s [] u ↔ s = u := by
  refine ⟨?_, ?_⟩
  · intro run
    cases run
    rfl
  · intro same
    exact same ▸ .nil s

theorem cons_iff {e : ε} {es : List ε} :
    Run step s (e :: es) u ↔ ∃ t, step s e t ∧ Run step t es u := by
  refine ⟨?_, ?_⟩
  · intro run
    cases run with
    | cons first rest => exact ⟨_, first, rest⟩
  · intro h
    obtain ⟨t, first, rest⟩ := h
    exact .cons first rest

theorem append_iff {es es' : List ε} :
    Run step s (es ++ es') u ↔ ∃ t, Run step s es t ∧ Run step t es' u := by
  induction es generalizing s with
  | nil =>
    refine ⟨?_, ?_⟩
    · intro run
      exact ⟨s, .nil s, run⟩
    · intro h
      obtain ⟨t, none, run⟩ := h
      exact nil_iff.mp none ▸ run
  | cons e es ih =>
    rw [List.cons_append, cons_iff]
    refine ⟨?_, ?_⟩
    · intro h
      obtain ⟨t, first, run⟩ := h
      obtain ⟨v, left, right⟩ := ih.mp run
      exact ⟨v, .cons first left, right⟩
    · intro h
      obtain ⟨v, left, right⟩ := h
      obtain ⟨t, first, left⟩ := cons_iff.mp left
      exact ⟨t, first, ih.mpr ⟨v, left, right⟩⟩

/-- What every step of the run preserves holds at its end. -/
theorem invariant {I : σ → Prop} {es : List ε} (run : Run step s es u) (start : I s)
    (preserved : ∀ t e t', e ∈ es → I t → step t e t' → I t') : I u := by
  induction run with
  | nil s => exact start
  | @cons s t u e es first _ ih =>
    exact ih (preserved s e t List.mem_cons_self start first) fun t e t' member =>
      preserved t e t' (List.mem_cons_of_mem _ member)

/-- What holds of the state and the events so far, if each step extends it by its event. -/
theorem history {I : List ε → σ → Prop} {es : List ε} (run : Run step s es u) (start : I [] s)
    (preserved : ∀ before t e t', I before t → step t e t' → I (before ++ [e]) t') : I es u := by
  have extend : ∀ before, I before s → I (before ++ es) u := by
    clear start
    induction run with
    | nil s =>
      intro before holds
      rwa [List.append_nil]
    | @cons s t u e es first _ ih =>
      intro before holds
      rw [List.append_cons]
      exact ih (before ++ [e]) (preserved before s e t holds first)
  exact extend [] start

/-- A run is one of another system on the same states, if each of its steps is a step there or
changes nothing.  The events there are those that have a key, in their order. -/
theorem projected {ε' κ : Type} {step' : σ → ε' → σ → Prop} {key : ε → Option κ} {key' : ε' → κ}
    {es : List ε} (run : Run step s es u)
    (simulates : ∀ s e t, step s e t →
      (∃ e', key e = some (key' e') ∧ step' s e' t) ∨ key e = none ∧ s = t) :
    ∃ es', Run step' s es' u ∧ es'.map key' = es.filterMap key := by
  induction run with
  | nil s => exact ⟨[], .nil s, rfl⟩
  | @cons s t u e es first _ ih =>
    obtain ⟨es', run', keys⟩ := ih
    rcases simulates s e t first with ⟨e', keyed, first'⟩ | ⟨keyless, rfl⟩
    · refine ⟨e' :: es', .cons first' run', ?_⟩
      rw [List.map_cons, List.filterMap_cons_some keyed, keys]
    · exact ⟨es', run', by rw [List.filterMap_cons_none keyless, keys]⟩

/-- A property that one event establishes and every later step preserves holds before each later
event of the run. -/
theorem eventually_always {I : σ → Prop} {before middle after : List ε} {e e' : ε}
    (run : Run step s (before ++ e :: middle ++ e' :: after) u)
    (established : ∀ t t', step t e t' → I t')
    (preserved : ∀ t e t', e ∈ middle → I t → step t e t' → I t') :
    ∃ t t', I t ∧ step t e' t' := by
  obtain ⟨t, left, right⟩ := append_iff.mp run
  obtain ⟨t0, _, left⟩ := append_iff.mp left
  obtain ⟨t1, first, left⟩ := cons_iff.mp left
  obtain ⟨t2, last, _⟩ := cons_iff.mp right
  exact ⟨t, t2, left.invariant (established t0 t1 first) preserved, last⟩

end Run

end Transition
