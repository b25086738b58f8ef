import Mathlib.Data.List.Induction

/-!
# What a history last wrote

A slot of a state is written by some events and cleared by others; `held` is what it holds after a
list of events.

* `held_append_singleton`: one more event;
* `held_of_clears`: nothing before a clearing event matters;
* `held_source`: what is held was written by an event, and neither written nor cleared since;
* `held_since`: what is held after a write is that or a later one;
* `split_of_append_singleton`, `split_of_singleton`: an event of a longer history is the new one, or
  was there before;
* `position_of_split`: an event of a history, by its position;
* `pairwise_of_splits`: two events of a history, in their order;
* `split_of_filterMap`: a history splits at the event that wrote a given element of what it wrote;
* `happened_append_singleton`: what has happened after one more event;
* `foldl_establishes`: what events establish and keep holds after them.
-/

namespace History

variable {ε β : Type}

/-- The slot after an event. -/
def update (write : ε → Option β) (clears : ε → Bool) (slot : Option β) (e : ε) : Option β :=
  if clears e then none else (write e).or slot

/-- The slot after a list of events. -/
def held (write : ε → Option β) (clears : ε → Bool) (es : List ε) : Option β :=
  es.foldl (update write clears) none

variable {write : ε → Option β} {clears : ε → Bool} {before middle es : List ε} {e : ε} {b : β}

@[simp] theorem held_nil : held write clears [] = none := rfl

theorem held_append_singleton :
    held write clears (es ++ [e]) = update write clears (held write clears es) e := by
  simp [held]

theorem held_of_clears (cleared : clears e) :
    held write clears (before ++ e :: middle) = held write clears middle := by
  simp [held, update, cleared]

/-- What is held comes from the last event that wrote, and none cleared since. -/
theorem held_source (found : held write clears es = some b) :
    ∃ earlier e later, es = earlier ++ e :: later ∧ write e = some b ∧
      ∀ e' ∈ later, write e' = none ∧ clears e' = false := by
  induction es using List.reverseRecOn with
  | nil => simp at found
  | append_singleton es e ih =>
    rw [held_append_singleton] at found
    unfold update at found
    split at found
    · cases found
    · rename_i kept
      cases wrote : write e with
      | some b' =>
        rw [wrote] at found
        exact ⟨es, e, [], rfl, wrote.trans found, nofun⟩
      | none =>
        rw [wrote] at found
        rcases ih found with ⟨earlier, e', later, rfl, wrote', quiet⟩
        refine ⟨earlier, e', later ++ [e], by simp, wrote', fun e'' member => ?_⟩
        rcases List.mem_append.mp member with old | new
        · exact quiet e'' old
        · rw [List.mem_singleton.mp new]
          exact ⟨wrote, by simpa using kept⟩

theorem held_since {earlier later : List ε} {b' : β} (wrote : write e = some b')
    (found : held write clears (earlier ++ e :: later) = some b) :
    b = b' ∨ ∃ e' ∈ later, write e' = some b := by
  induction later using List.reverseRecOn with
  | nil =>
    rw [held_append_singleton, update, wrote] at found
    split at found
    · cases found
    · exact .inl (Option.some.inj found).symm
  | append_singleton later x ih =>
    rw [← List.cons_append, ← List.append_assoc, held_append_singleton, update] at found
    split at found
    · cases found
    · rcases Option.or_eq_some_iff.mp found with new | ⟨_, old⟩
      · exact .inr ⟨x, by simp, new⟩
      · rcases ih old with same | ⟨e', member, since⟩
        · exact .inl same
        · exact .inr ⟨e', List.mem_append_left _ member, since⟩

/-- An event of a list and the events before it, by its position. -/
theorem position_of_split {after : List ε} (split : es = before ++ e :: after) :
    before.length < es.length ∧ es.take before.length = before ∧
      es[before.length]? = some e := by
  rw [split, List.length_append, List.length_cons]
  refine ⟨by omega, List.take_left, ?_⟩
  rw [List.getElem?_append_right (Nat.le_refl _), Nat.sub_self, List.getElem?_cons_zero]

theorem split_of_append_singleton {after : List ε} {x : ε}
    (split : es ++ [e] = before ++ x :: after) :
    (before = es ∧ x = e) ∨ ∃ earlier, after = earlier ++ [e] ∧ es = before ++ x :: earlier := by
  rcases List.eq_nil_or_concat after with rfl | ⟨earlier, last, rfl⟩
  · rcases List.append_inj' split rfl with ⟨same, here⟩
    cases here
    exact .inl ⟨same.symm, rfl⟩
  · have split' : es ++ [e] = (before ++ x :: earlier) ++ [last] := by
      rw [split, List.concat_eq_append, List.append_assoc, List.cons_append]
    rcases List.append_inj' split' rfl with ⟨same, here⟩
    cases here
    exact .inr ⟨earlier, by rw [List.concat_eq_append], same⟩

theorem split_of_singleton {after : List ε} {x : ε} (split : [x] = before ++ e :: after) :
    before = [] ∧ e = x := by
  rcases @split_of_append_singleton _ before [] x after e split with ⟨same, here⟩ | ⟨_, _, none⟩
  · exact ⟨same, here⟩
  · exact absurd none (by simp)

/-- What holds of any two events of a history, wherever it is split at them, holds of all pairs in
their order. -/
theorem pairwise_of_splits {R : ε → ε → Prop}
    (related : ∀ before x between y after, es = before ++ x :: between ++ y :: after → R x y) :
    es.Pairwise R := by
  induction es with
  | nil => exact List.Pairwise.nil
  | cons e es ih =>
    refine List.pairwise_cons.mpr ⟨fun y member => ?_, ih fun before x between y after split => ?_⟩
    · rcases List.append_of_mem member with ⟨between, after, rfl⟩
      exact related [] e between y after rfl
    · exact related (e :: before) x between y after (by rw [split]; rfl)

/-- What the events before an event wrote are the elements before the one it wrote. -/
theorem split_of_filterMap {k : Nat} (found : (es.filterMap write)[k]? = some b) :
    ∃ earlier e later, es = earlier ++ e :: later ∧ write e = some b ∧
      earlier.filterMap write = (es.filterMap write).take k := by
  induction es generalizing k with
  | nil => cases found
  | cons e es ih =>
    cases wrote : write e with
    | none =>
      rw [List.filterMap_cons_none wrote] at found ⊢
      obtain ⟨earlier, e', later, rfl, wrote', same⟩ := ih found
      refine ⟨e :: earlier, e', later, rfl, wrote', ?_⟩
      rw [List.filterMap_cons_none wrote, same]
    | some b' =>
      rw [List.filterMap_cons_some wrote] at found ⊢
      cases k with
      | zero =>
        cases found
        exact ⟨[], e, es, rfl, wrote, rfl⟩
      | succ k =>
        obtain ⟨earlier, e', later, rfl, wrote', same⟩ := ih found
        refine ⟨e :: earlier, e', later, rfl, wrote', ?_⟩
        rw [List.filterMap_cons_some wrote, same, List.take_succ_cons]

/-- An event of the history was of a kind, which may depend on the events before it. -/
def Happened (kind : List ε → ε → Prop) (es : List ε) : Prop :=
  ∃ earlier e later, es = earlier ++ e :: later ∧ kind earlier e

theorem not_happened_nil {kind : List ε → ε → Prop} : ¬ Happened kind [] := by
  intro h
  obtain ⟨earlier, e, later, split, _⟩ := h
  exact List.append_ne_nil_of_right_ne_nil earlier (List.cons_ne_nil e later) split.symm

theorem happened_append_singleton {kind : List ε → ε → Prop} :
    Happened kind (es ++ [e]) ↔ Happened kind es ∨ kind es e := by
  refine ⟨fun h => ?_, fun h => ?_⟩
  · obtain ⟨earlier, e', later, split, happens⟩ := h
    rcases split_of_append_singleton split with ⟨rfl, rfl⟩ | ⟨later', _, split'⟩
    · exact .inr happens
    · exact .inl ⟨earlier, e', later', split', happens⟩
  · rcases h with ⟨earlier, e', later, rfl, happens⟩ | now
    · exact ⟨earlier, e', later ++ [e], by simp, happens⟩
    · exact ⟨es, e, [], rfl, now⟩

/-- What each event of a list keeps, and some events establish, holds after the list if it held
before or one of these events is in the list. -/
theorem foldl_establishes {σ : Type} {step : σ → ε → σ} {Q : σ → Prop} {sets : ε → Prop} {s : σ}
    (keeps : ∀ s, ∀ e ∈ es, Q s → Q (step s e)) (establishes : ∀ s, ∀ e ∈ es, sets e → Q (step s e))
    (start : Q s ∨ ∃ e ∈ es, sets e) : Q (es.foldl step s) := by
  induction es generalizing s with
  | nil =>
    rcases start with holds | ⟨e, member, _⟩
    · exact holds
    · cases member
  | cons e es ih =>
    refine ih (fun s e' member => keeps s e' (List.mem_cons_of_mem e member))
      (fun s e' member => establishes s e' (List.mem_cons_of_mem e member)) ?_
    rcases start with holds | ⟨e', member, isSet⟩
    · exact .inl (keeps s e List.mem_cons_self holds)
    · rcases List.mem_cons.mp member with rfl | later
      · exact .inl (establishes s e' List.mem_cons_self isSet)
      · exact .inr ⟨e', later, isSet⟩

end History
