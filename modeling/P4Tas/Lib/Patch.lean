/-!
# Patches of a list

A patch writes strings over a list, each from a position of its own.

* `window_write`, `window_write_of_apart`: a string that fits is read back, and what it does not
  cover is left as it was;
* `writeAll_window`, `writeAll_of_apart`: the same for a patch whose strings do not overlap;
* `IsPatched`: so the result of a patch is described by what is read at each place.
-/

namespace Patch

variable {α : Type} {xs ys : List α} {start i n : Nat}

/-- `xs` with `ys` written over it from `start` on. -/
def write (xs : List α) (start : Nat) (ys : List α) : List α :=
  xs.take start ++ ys ++ xs.drop (start + ys.length)

/-- The string fits into the list. -/
def Fits (xs : List α) (w : Nat × List α) : Prop :=
  w.1 + w.2.length ≤ xs.length

/-- The `n` positions from `i` on are not written to. -/
def Apart (i n : Nat) (w : Nat × List α) : Prop :=
  i + n ≤ w.1 ∨ w.1 + w.2.length ≤ i

instance (i n : Nat) (w : Nat × List α) : Decidable (Apart i n w) :=
  inferInstanceAs (Decidable (_ ∨ _))

theorem length_write (fits : Fits xs (start, ys)) : (write xs start ys).length = xs.length := by
  have bound : start + ys.length ≤ xs.length := fits
  unfold write
  simp only [List.length_append, List.length_take, List.length_drop]
  omega

/-- What was written is read back. -/
theorem window_write (fits : Fits xs (start, ys)) :
    ((write xs start ys).drop start).take ys.length = ys := by
  have bound : start + ys.length ≤ xs.length := fits
  have front : (xs.take start).length = start := List.length_take_of_le (by omega)
  unfold write
  rw [List.append_assoc, List.drop_left' front, List.take_left' rfl]

/-- What was not written to is left as it was. -/
theorem window_write_of_apart (fits : Fits xs (start, ys)) (apart : Apart i n (start, ys)) :
    ((write xs start ys).drop i).take n = (xs.drop i).take n := by
  have bound : start + ys.length ≤ xs.length := fits
  have front : (xs.take start).length = start := List.length_take_of_le (by omega)
  unfold write
  rcases apart with before | after
  · have ends : i + n ≤ start := before
    rw [List.append_assoc, List.drop_append_of_le_length (by omega),
      List.take_append_of_le_length (by simp only [List.length_drop]; omega), List.drop_take,
      List.take_take, Nat.min_eq_left (by omega)]
  · have begins : start + ys.length ≤ i := after
    have length : (xs.take start ++ ys).length = start + ys.length := by
      rw [List.length_append, front]
    rw [List.drop_append, List.drop_of_length_le (by omega), List.nil_append, List.drop_drop,
      length, Nat.add_sub_cancel' begins]

/-- The strings of a patch, written one after the other. -/
def writeAll (xs : List α) : List (Nat × List α) → List α
  | [] => xs
  | w :: ws => writeAll (write xs w.1 w.2) ws

/-- No string overlaps a later one. -/
def Separate (ws : List (Nat × List α)) : Prop :=
  ws.Pairwise fun w w' => Apart w.1 w.2.length w'

variable {w : Nat × List α} {ws : List (Nat × List α)}

theorem Fits.write (fits : Fits xs w) {w' : Nat × List α} (fits' : Fits xs w') :
    Fits (Patch.write xs w.1 w.2) w' := by
  unfold Fits
  rw [length_write fits]
  exact fits'

theorem length_writeAll (fits : ∀ w ∈ ws, Fits xs w) : (writeAll xs ws).length = xs.length := by
  induction ws generalizing xs with
  | nil => rfl
  | cons w ws ih =>
    rcases List.forall_mem_cons.mp fits with ⟨first, others⟩
    exact (ih fun w' member => first.write (others w' member)).trans (length_write first)

theorem writeAll_append (ws ws' : List (Nat × List α)) :
    writeAll xs (ws ++ ws') = writeAll (writeAll xs ws) ws' := by
  induction ws generalizing xs with
  | nil => rfl
  | cons w ws ih => exact ih

theorem writeAll_of_apart (fits : ∀ w ∈ ws, Fits xs w) (apart : ∀ w ∈ ws, Apart i n w) :
    ((writeAll xs ws).drop i).take n = (xs.drop i).take n := by
  induction ws generalizing xs with
  | nil => rfl
  | cons w ws ih =>
    rcases List.forall_mem_cons.mp fits with ⟨first, others⟩
    rcases List.forall_mem_cons.mp apart with ⟨away, aways⟩
    exact (ih (fun w' member => first.write (others w' member)) aways).trans
      (window_write_of_apart first away)

theorem writeAll_window (separate : Separate ws) (fits : ∀ w ∈ ws, Fits xs w) (member : w ∈ ws) :
    ((writeAll xs ws).drop w.1).take w.2.length = w.2 := by
  induction ws generalizing xs with
  | nil => cases member
  | cons w' ws ih =>
    rcases List.forall_mem_cons.mp fits with ⟨first, others⟩
    rcases List.pairwise_cons.mp separate with ⟨apart, later⟩
    have fitsLater : ∀ w ∈ ws, Fits (write xs w'.1 w'.2) w := fun w member =>
      first.write (others w member)
    rcases List.mem_cons.mp member with rfl | after
    · exact (writeAll_of_apart fitsLater apart).trans (window_write first)
    · exact ih later fitsLater after

/-- `ys` has the strings of the patch at their places, and is otherwise `xs`. -/
structure IsPatched (xs : List α) (ws : List (Nat × List α)) (ys : List α) : Prop where
  length : ys.length = xs.length
  read : ∀ w ∈ ws, (ys.drop w.1).take w.2.length = w.2
  kept : ∀ i n, (∀ w ∈ ws, Apart i n w) → (ys.drop i).take n = (xs.drop i).take n

theorem writeAll_isPatched (separate : Separate ws) (fits : ∀ w ∈ ws, Fits xs w) :
    IsPatched xs ws (writeAll xs ws) where
  length := length_writeAll fits
  read := fun _ member => writeAll_window separate fits member
  kept := fun _ _ apart => writeAll_of_apart fits apart

/-- An element that is written on its own. -/
theorem getElem?_of_window {x : α} (window : (ys.drop i).take 1 = [x]) : ys[i]? = some x := by
  have first := congrArg (fun zs => zs[0]?) window
  simpa using first

/-- An element that no string covers. -/
theorem IsPatched.getElem? (patched : IsPatched xs ws ys) (apart : ∀ w ∈ ws, Apart i 1 w) :
    ys[i]? = xs[i]? := by
  have window := congrArg (fun zs => zs[0]?) (patched.kept i 1 apart)
  simpa using window

end Patch
