import P4Tas.DataPlane.Packet
import Mathlib.Data.List.MinMax

/-!
# Table lookup

The tables of the switch hold the requests the controller has installed.  Of the entries that accept
a packet the switch applies one with the smallest `$MATCH_PRIORITY`; which of several it applies is
not specified, so a lookup takes the choice as a parameter.
-/

namespace P4Tas.DataPlane

/-- How the switch picks among the entries that accept a packet. -/
structure Precedence where
  choose : List Request → Option Request
  isSome : ∀ rs, rs ≠ [] → ∃ r, choose rs = some r
  mem : ∀ rs r, choose rs = some r → r ∈ rs
  least : ∀ rs r, choose rs = some r → ∀ r' ∈ rs, r.priority ≤ r'.priority

/-- The first installed one of smallest priority. -/
def Precedence.first : Precedence where
  choose := List.argmin Request.priority
  isSome := by
    intro rs nonempty
    cases found : rs.argmin Request.priority with
    | none => exact absurd (List.argmin_eq_none.mp found) nonempty
    | some r => exact ⟨r, rfl⟩
  mem := fun _ _ found => List.argmin_mem found
  least := fun _ _ found _ member => List.le_of_mem_argmin member found

/-- The installed entries, and the choice among those that accept a packet. -/
structure Tables where
  installed : List Request
  precedence : Precedence

namespace Tables

variable {tables : Tables} {table : Table} {fields : Request.Fields}

/-- The entries of one table. -/
def entries (tables : Tables) (table : Table) : List Request :=
  tables.installed.filter fun r => r.table = table

/-- The entry a table applies to a packet, `none` on a miss. -/
def lookup (tables : Tables) (table : Table) (fields : Request.Fields) : Option Request :=
  tables.precedence.choose (Request.hits fields (tables.entries table))

theorem lookup_mem {r : Request} (found : tables.lookup table fields = some r) :
    r ∈ Request.hits fields (tables.entries table) :=
  tables.precedence.mem _ _ found

/-- A table is missed exactly when none of its entries accepts the packet. -/
theorem lookup_eq_none :
    tables.lookup table fields = none ↔ Request.hits fields (tables.entries table) = [] := by
  refine ⟨?_, ?_⟩
  · intro missed
    cases accepted : Request.hits fields (tables.entries table) with
    | nil => rfl
    | cons first rest =>
      have nonempty : Request.hits fields (tables.entries table) ≠ [] := by
        rw [accepted]
        exact List.cons_ne_nil first rest
      obtain ⟨r, found⟩ := tables.precedence.isSome _ nonempty
      exact absurd (missed.symm.trans found) nofun
  · intro none
    cases found : tables.lookup table fields with
    | none => rfl
    | some r =>
      have member := lookup_mem found
      rw [none] at member
      exact absurd member List.not_mem_nil

/-- Where no two entries accept the packet, the one that does is applied. -/
theorem lookup_eq_some_iff {r : Request}
    (unique : ∀ s ∈ Request.hits fields (tables.entries table),
      ∀ s' ∈ Request.hits fields (tables.entries table), s = s') :
    tables.lookup table fields = some r ↔ r ∈ Request.hits fields (tables.entries table) := by
  refine ⟨lookup_mem, ?_⟩
  intro member
  obtain ⟨s, found⟩ := tables.precedence.isSome _ (List.ne_nil_of_mem member)
  rw [unique r member s (lookup_mem found)]
  exact found

theorem lookup_singleton {r : Request} (entries : tables.entries table = [r])
    (accepts : r.Matches fields) : tables.lookup table fields = some r := by
  have hits : Request.hits fields (tables.entries table) = [r] := by
    rw [entries]
    simp [Request.hits, accepts]
  rw [lookup_eq_some_iff, hits]
  · exact List.mem_singleton_self r
  · rw [hits]
    intro s here s' here'
    exact (List.mem_singleton.mp here).trans (List.mem_singleton.mp here').symm

end Tables

/-- A piece of action data, cut to the width of the parameter. -/
def param (r : Request) (p : Param) (width : Nat) : BitVec width :=
  BitVec.ofNat width ((r.data? p).getD 0)

/-- A boolean piece of action data. -/
def flag (r : Request) (p : Param) : Bool :=
  (r.data? p).getD 0 ≠ 0

end P4Tas.DataPlane
