import Mathlib.Data.Vector.Basic
import P4Tas.Lib.BigEndian
import P4Tas.Lib.Patch
import P4Tas.Rust

/-!
# Slices and byte arrays

The bounds-checked operations on vectors and slices: an index, a range, an assignment or a copy that
does not fit panics.  A vector or slice is a list, an array of a fixed size a `List.Vector`.

Every operation has an equation for the case that it fits, and `onlyOutOfBounds` for the other.
-/

namespace P4Tas

section Slices

variable {α : Type}

/-- `xs[i]` -/
def index (xs : List α) (i : Nat) : Rust α :=
  match xs[i]? with
  | some x => .ok x
  | none => .error .outOfBounds

/-- `xs[start..stop]` -/
def slice (xs : List α) (start stop : Nat) : Rust (List α) :=
  if start ≤ stop ∧ stop ≤ xs.length then
    .ok ((xs.take stop).drop start)
  else
    .error .outOfBounds

/-- `xs[i] = x` -/
def assign (xs : List α) (i : Nat) (x : α) : Rust (List α) :=
  if i < xs.length then .ok (xs.set i x) else .error .outOfBounds

/-- `xs[start..stop].copy_from_slice(ys)` -/
def copyInto (xs : List α) (start stop : Nat) (ys : List α) : Rust (List α) :=
  if start ≤ stop ∧ stop ≤ xs.length ∧ ys.length = stop - start then
    .ok (xs.take start ++ ys ++ xs.drop stop)
  else
    .error .outOfBounds

/-- An array with the given elements. -/
def array {n : Nat} (xs : List α) (fits : xs.length = n) : List.Vector α n :=
  ⟨xs, fits⟩

/-- `array.copy_from_slice(xs)` -/
def copyFromSlice (n : Nat) (xs : List α) : Rust (List.Vector α n) :=
  if fits : xs.length = n then .ok (array xs fits) else .error .outOfBounds

variable {xs ys : List α} {i start stop : Nat} {x : α}

theorem index_eq (fits : i < xs.length) : index xs i = .ok xs[i] := by
  unfold index
  rw [List.getElem?_eq_getElem fits]

theorem slice_eq (ordered : start ≤ stop) (fits : stop ≤ xs.length) :
    slice xs start stop = .ok ((xs.take stop).drop start) :=
  if_pos ⟨ordered, fits⟩

theorem length_of_assign (run : assign xs i x = .ok ys) :
    i < xs.length ∧ ys.length = xs.length := by
  unfold assign at run
  split at run
  · rename_i fits
    cases run
    simp [fits]
  · cases run

theorem copyInto_eq (ordered : start ≤ stop) (fits : stop ≤ xs.length)
    (same : ys.length = stop - start) :
    copyInto xs start stop ys = .ok (xs.take start ++ ys ++ xs.drop stop) :=
  if_pos ⟨ordered, fits, same⟩

theorem length_of_copyInto {zs : List α} (run : copyInto xs start stop ys = .ok zs) :
    stop ≤ xs.length ∧ zs.length = xs.length := by
  unfold copyInto at run
  split at run
  · rename_i fits
    cases run
    simp [fits]
    omega
  · cases run

theorem copyInto_returns (xs ys : List α) (ordered : start ≤ stop) (fits : stop ≤ xs.length)
    (same : ys.length = stop - start) :
    ∃ zs, copyInto xs start stop ys = .ok zs ∧ zs.length = xs.length := by
  have run := copyInto_eq ordered fits same
  exact ⟨_, run, (length_of_copyInto run).2⟩

/-- A copy that fits is a write. -/
theorem copyInto_eq_write (fits : Patch.Fits xs (start, ys)) (same : stop = start + ys.length) :
    copyInto xs start stop ys = .ok (Patch.write xs start ys) := by
  cases same
  exact copyInto_eq (Nat.le_add_right _ _) fits (Nat.add_sub_cancel_left _ _).symm

theorem assign_eq_copyInto (xs : List α) (i : Nat) (x : α) :
    assign xs i x = copyInto xs i (i + 1) [x] := by
  unfold assign copyInto
  rcases Nat.lt_or_ge i xs.length with inside | outside
  · rw [if_pos inside, if_pos ⟨Nat.le_succ i, inside, by simp⟩,
      List.set_eq_take_append_cons_drop, if_pos inside]
    simp
  · rw [if_neg (by omega), if_neg (by omega)]

/-- Copies, each to a position of its own. -/
def copyAll (xs : List α) (ws : List (Nat × List α)) : Rust (List α) :=
  ws.foldlM (fun xs w => copyInto xs w.1 (w.1 + w.2.length) w.2) xs

/-- Copies that fit are a patch. -/
theorem copyAll_eq {ws : List (Nat × List α)} (fits : ∀ w ∈ ws, Patch.Fits xs w) :
    copyAll xs ws = .ok (Patch.writeAll xs ws) := by
  unfold copyAll
  induction ws generalizing xs with
  | nil => rfl
  | cons w ws ih =>
    rcases List.forall_mem_cons.mp fits with ⟨first, others⟩
    rw [List.foldlM_cons, copyInto_eq_write first rfl, Fallible.ok_bind]
    exact ih fun w' member => first.write (others w' member)

theorem copyFromSlice_eq {n : Nat} (fits : xs.length = n) :
    copyFromSlice n xs = .ok (array xs fits) :=
  dif_pos fits

end Slices

/-! ## Computations that only panic for bounds -/

/-- The computation returns, or panics for an index or a length. -/
def OnlyOutOfBounds {α : Type} (x : Rust α) : Prop :=
  ∀ p, x = .error p → p = .outOfBounds

namespace OnlyOutOfBounds

variable {α β : Type}

theorem bind {x : Rust α} {f : α → Rust β} (first : OnlyOutOfBounds x)
    (rest : ∀ a, OnlyOutOfBounds (f a)) : OnlyOutOfBounds (x >>= f) := by
  intro p failed
  rcases Fallible.bind_eq_error.mp failed with inFirst | ⟨a, _, inRest⟩
  · exact first p inFirst
  · exact rest a p inRest

theorem index (xs : List α) (i : Nat) : OnlyOutOfBounds (P4Tas.index xs i) := by
  intro p failed
  unfold P4Tas.index at failed
  split at failed
  · cases failed
  · exact (Except.error.inj failed).symm

theorem assign (xs : List α) (i : Nat) (x : α) : OnlyOutOfBounds (P4Tas.assign xs i x) := by
  intro p failed
  unfold P4Tas.assign at failed
  split at failed
  · cases failed
  · exact (Except.error.inj failed).symm

theorem copyInto (xs ys : List α) (start stop : Nat) :
    OnlyOutOfBounds (P4Tas.copyInto xs start stop ys) := by
  intro p failed
  unfold P4Tas.copyInto at failed
  split at failed
  · cases failed
  · exact (Except.error.inj failed).symm

end OnlyOutOfBounds

/-! ## Equal parts of two buffers -/

section Windows

variable {α : Type} {xs ys : List α} {start m i n : Nat}

/-- What lies within an equal part is equal. -/
theorem window_eq (same : (xs.drop start).take m = (ys.drop start).take m) (begins : start ≤ i)
    (ends : i + n ≤ start + m) : (xs.drop i).take n = (ys.drop i).take n := by
  obtain ⟨k, rfl⟩ := Nat.exists_eq_add_of_le begins
  have part : ∀ zs : List α, (zs.drop (start + k)).take n =
      (((zs.drop start).take m).drop k).take n := by
    intro zs
    rw [List.drop_take, List.take_take, List.drop_drop, Nat.min_eq_left (by omega)]
  rw [part xs, part ys, same]

theorem getElem_of_window (inside : i < xs.length) (inside' : i < ys.length)
    (same : (xs.drop i).take 1 = (ys.drop i).take 1) : ys[i] = xs[i] := by
  rw [List.drop_eq_getElem_cons inside, List.drop_eq_getElem_cons inside', List.take_succ_cons,
    List.take_succ_cons] at same
  exact (List.cons_eq_cons.mp same).1.symm

end Windows

/-! ## Big-endian bytes -/

abbrev Bytes (n : Nat) := List.Vector U8 n

/-- The number a big-endian byte string denotes. -/
def fromBeBytes (bytes : List U8) : Nat :=
  bytes.foldl (fun value byte => value * 256 + byte.toNat) 0

/-- The `n` low bytes of a number, most significant first. -/
def toBeBytes (n value : Nat) : Bytes n :=
  ⟨(List.range n).map fun i => BitVec.ofNat 8 (value >>> (8 * (n - 1 - i))), by simp⟩

theorem fromBeBytes_append (xs ys : List U8) :
    fromBeBytes (xs ++ ys) = fromBeBytes xs * 256 ^ ys.length + fromBeBytes ys :=
  BigEndian.value_append xs ys

/-- The bytes of a number denote it, as far as they go. -/
theorem fromBeBytes_toBeBytes (n value : Nat) :
    fromBeBytes (toBeBytes n value).toList = value % 256 ^ n :=
  BigEndian.value_bytes n value

/-- `uN::from_be_bytes([xs[start], …, xs[start + n - 1]])`, as a number. -/
def indexBe (xs : List U8) (start n : Nat) : Rust Nat := do
  let bytes ← (List.range' start n).mapM (index xs)
  return fromBeBytes bytes

theorem indexBe_eq {xs : List U8} {start n : Nat} (fits : start + n ≤ xs.length) :
    indexBe xs start n = .ok (fromBeBytes ((xs.drop start).take n)) := by
  have bytes : (List.range' start n).mapM (index xs) = .ok ((xs.drop start).take n) := by
    rw [Fallible.mapM_eq_ok, List.forall₂_iff_get]
    refine ⟨by simp; omega, fun i inside inside' => ?_⟩
    simp only [List.length_range'] at inside
    simp only [List.get_eq_getElem, List.getElem_range', List.getElem_take, List.getElem_drop,
      Nat.one_mul]
    exact index_eq (by omega)
  unfold indexBe
  rw [bytes]
  rfl

end P4Tas
