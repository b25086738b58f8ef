import P4Tas.DataPlane.Register
import P4Tas.Slice

/-!
# Reading the measured series

`build_timeseries` of the measurement controller puts the halves of the timestamps of a register
together and leaves out those that are zero.

* `buildTimeseries_eq`: what it returns for the cells of two registers.
-/

namespace P4Tas.Measurement

open DataPlane (Register)

/-- The data of a cell by name, and for each name the values of the pipes. -/
structure RegisterEntry where
  data : String → Option (List (List U8))

/-- `Register::entries()` of a reply of the switch. -/
structure RegisterEntries where
  len : Nat
  get : U32 → Option RegisterEntry

/-- `entries.get(&i).unwrap().get_data().get("{name}.f1").unwrap().get(pipe).unwrap()` -/
def cellValue (entries : RegisterEntries) (i : U32) (name : String) (pipe : U8) :
    Rust (List U8) := do
  let entry ← unwrap (entries.get i)
  let values ← unwrap (entry.data (name ++ ".f1"))
  unwrap values[pipe.toNat]?

/-- The timestamp of one cell. -/
def combineTimestamp (lowerValue higherValue : List U8) : Rust U64 := do
  let h0 ← index higherValue 0
  let h1 ← index higherValue 1
  let l0 ← index lowerValue 0
  let l1 ← index lowerValue 1
  let l2 ← index lowerValue 2
  let l3 ← index lowerValue 3
  return BitVec.ofNat 64 (fromBeBytes [0, 0, h0, h1, l0, l1, l2, l3])

/-- One round of the loop: what is pushed for cell `i`. -/
def pushTimestamp (lower higher : RegisterEntries)
    (lowerTsRegisterName higherTsRegisterName : String) (pipe : U8) (i : Nat) :
    Rust (List U64) := do
  let lowerValue ← cellValue lower (BitVec.ofNat 32 i) lowerTsRegisterName pipe
  let higherValue ← cellValue higher (BitVec.ofNat 32 i) higherTsRegisterName pipe
  let timestamp ← combineTimestamp lowerValue higherValue
  return if timestamp > 0 then [timestamp] else []

/-- The replies are `none` for an error. -/
def buildTimeseries (lowerTsEntries higherTsEntries : Option RegisterEntries)
    (lowerTsRegisterName higherTsRegisterName : String) (pipe : U8) : Rust (List U64) :=
  match lowerTsEntries, higherTsEntries with
  | some lower, some higher =>
    if lower.len = higher.len ∧ lower.len ≠ 0 then
      Fallible.concatMap
        (pushTimestamp lower higher lowerTsRegisterName higherTsRegisterName pipe)
        (List.range lower.len)
    else
      .ok []
  | _, _ => .ok []

/-- The names of the registers of a queue. -/
def seriesName (queueIndex : U8) (packet half : String) : String :=
  "ingress.ts_series_prio_" ++ toString queueIndex.toNat ++ "_" ++ packet ++ "_packet_c." ++ half ++
    "_last_ts_series"

/-- The series of the first and of the last packets of a queue; the switch replies to the name of a
register. -/
def getRegisterTimeseries (switch : String → Option RegisterEntries) (queueIndex pipe : U8) :
    Rust (List U64 × List U64) := do
  let timeSeriesFirst ← buildTimeseries
    (switch (seriesName queueIndex "first" "lower"))
    (switch (seriesName queueIndex "first" "higher"))
    (seriesName queueIndex "first" "lower") (seriesName queueIndex "first" "higher") pipe
  let timeSeriesLast ← buildTimeseries
    (switch (seriesName queueIndex "last" "lower"))
    (switch (seriesName queueIndex "last" "higher"))
    (seriesName queueIndex "last" "lower") (seriesName queueIndex "last" "higher") pipe
  return (timeSeriesFirst, timeSeriesLast)

/-! ## What is returned -/

/-- The reply holds the cells of a register of `n` bytes. -/
structure Replies (n : Nat) {w : Nat} (register : Register w) (name : String) (pipe : U8)
    (entries : RegisterEntries) : Prop where
  len : entries.len = 4096
  cell : ∀ i < 4096, ∃ entry values, entries.get (BitVec.ofNat 32 i) = some entry ∧
    entry.data (name ++ ".f1") = some values ∧
    values[pipe.toNat]? = some (toBeBytes n (register i).toNat).toList

variable {lower higher : RegisterEntries} {lowerRegister : Register 32}
  {higherRegister : Register 16} {lowerName higherName : String} {pipe : U8}

theorem cellValue_eq {n w i : Nat} {register : Register w} {name : String}
    {entries : RegisterEntries} (replies : Replies n register name pipe entries)
    (inside : i < 4096) : cellValue entries (BitVec.ofNat 32 i) name pipe =
      .ok (toBeBytes n (register i).toNat).toList := by
  rcases replies.cell i inside with ⟨entry, values, got, named, piped⟩
  unfold cellValue
  rw [got, unwrap, Fallible.ok_bind, named, unwrap, Fallible.ok_bind, piped, unwrap]

/-- The halves make up the timestamp. -/
theorem combineTimestamp_eq (low : BitVec 32) (high : BitVec 16) :
    combineTimestamp (toBeBytes 4 low.toNat).toList (toBeBytes 2 high.toNat).toList =
      .ok ((high ++ low).setWidth 64) := by
  have run : combineTimestamp (toBeBytes 4 low.toNat).toList (toBeBytes 2 high.toNat).toList =
      .ok (BitVec.ofNat 64 (fromBeBytes ([0, 0] ++ ((toBeBytes 2 high.toNat).toList ++
        (toBeBytes 4 low.toNat).toList)))) :=
    rfl
  have zeros : fromBeBytes [0, 0] = 0 := rfl
  have sum : high.toNat * 256 ^ 4 + low.toNat = (high ++ low).toNat := by
    rw [BitVec.toNat_append, ← Nat.shiftLeft_add_eq_or_of_lt low.isLt, Nat.shiftLeft_eq]
    norm_num
  rw [run, fromBeBytes_append, fromBeBytes_append, zeros, Nat.zero_mul, Nat.zero_add,
    fromBeBytes_toBeBytes, fromBeBytes_toBeBytes, List.Vector.toList_length,
    Nat.mod_eq_of_lt (by exact high.isLt : high.toNat < 256 ^ 2),
    Nat.mod_eq_of_lt (by exact low.isLt : low.toNat < 256 ^ 4), sum, BitVec.ofNat_toNat]

/-- The timestamps that are not zero, as they are pushed. -/
def nonzero (values : List (BitVec 48)) : List U64 :=
  (values.filter (· ≠ 0)).map (·.setWidth 64)

theorem nonzero_append (xs ys : List (BitVec 48)) :
    nonzero (xs ++ ys) = nonzero xs ++ nonzero ys := by
  unfold nonzero
  rw [List.filter_append, List.map_append]

theorem flatMap_nonzero {α : Type} (f : α → BitVec 48) (xs : List α) :
    (xs.flatMap fun x => nonzero [f x]) = nonzero (xs.map f) := by
  induction xs with
  | nil => rfl
  | cons x xs ih =>
    rw [List.flatMap_cons, ih, ← nonzero_append, List.map_cons, List.singleton_append]

theorem setWidth_pos (x : BitVec 48) : x.setWidth 64 > 0 ↔ x ≠ 0 := by
  rw [gt_iff_lt, BitVec.lt_def, BitVec.toNat_setWidth_of_le (by decide), ne_eq, ← BitVec.toNat_inj]
  exact Nat.pos_iff_ne_zero

theorem pushTimestamp_eq {i : Nat} (inside : i < 4096)
    (lowerReplies : Replies 4 lowerRegister lowerName pipe lower)
    (higherReplies : Replies 2 higherRegister higherName pipe higher) :
    pushTimestamp lower higher lowerName higherName pipe i =
      .ok (nonzero [higherRegister i ++ lowerRegister i]) := by
  unfold pushTimestamp
  rw [cellValue_eq lowerReplies inside, Fallible.ok_bind, cellValue_eq higherReplies inside,
    Fallible.ok_bind, combineTimestamp_eq, Fallible.ok_bind]
  unfold nonzero
  rcases Decidable.em (higherRegister i ++ lowerRegister i = 0) with empty | stored
  · rw [empty]
    rfl
  · have kept : [higherRegister i ++ lowerRegister i].filter (· ≠ 0) =
        [higherRegister i ++ lowerRegister i] :=
      List.filter_cons_of_pos (decide_eq_true stored)
    rw [if_pos ((setWidth_pos _).mpr stored), kept]
    rfl

/-- The series are the timestamps of the cells that are not zero. -/
theorem buildTimeseries_eq (lowerReplies : Replies 4 lowerRegister lowerName pipe lower)
    (higherReplies : Replies 2 higherRegister higherName pipe higher) :
    buildTimeseries (some lower) (some higher) lowerName higherName pipe =
      .ok (nonzero ((List.range 4096).map fun i => higherRegister i ++ lowerRegister i)) := by
  have pushed (i : Nat) (member : i ∈ List.range 4096) :=
    pushTimestamp_eq (List.mem_range.mp member) lowerReplies higherReplies
  unfold buildTimeseries
  dsimp only
  rw [if_pos ⟨lowerReplies.len.trans higherReplies.len.symm, by rw [lowerReplies.len]; decide⟩,
    lowerReplies.len]
  refine Fallible.concatMap_eq_ok.mpr ⟨fun i member => ⟨_, pushed i member⟩, ?_⟩
  rw [← flatMap_nonzero]
  exact List.flatMap_congr fun i member => by rw [pushed i member, Fallible.output_ok]

end P4Tas.Measurement
