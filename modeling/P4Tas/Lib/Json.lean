import Mathlib.Algebra.Group.Int.Defs
import Mathlib.Algebra.Group.Nat.Defs
import Mathlib.Data.List.Forall2

/-!
# JSON documents and the records read from them

A document is a tree of values; the members of an object are listed in the order of the text, keys
may repeat.  A record is read from an object field by field: a field that is given twice is an
error, a key that is no field is ignored, and a field that is not given has a default, if any.

* `get?`, `natural?`, `text?`, `flag`, `elements`: what a document says under a key;
* `required`, `optional`, `withDefault`: how a field of a record is read;
* `required_natural`, `required_text`, `withDefault_flag`, `required_list`: a record that was read
  holds what the document says.
-/

/-- `float` stands for every number that is not written as an integer. -/
inductive Json
  | null
  | bool (b : Bool)
  | integer (n : Int)
  | float (significand exponent : Int)
  | str (s : String)
  | arr (elements : List Json)
  | obj (members : List (String × Json))

namespace Json

/-! ## What a document says -/

/-- The keys of an object. -/
def keys : Json → List String
  | .obj members => members.map (·.1)
  | _ => []

/-- The value of a key of an object, the first one if the key repeats. -/
def get? (key : String) : Json → Option Json
  | .obj members => (members.find? fun m => m.1 == key).map (·.2)
  | _ => none

def natural? (key : String) (j : Json) : Option Nat :=
  match j.get? key with
  | some (.integer (.ofNat n)) => some n
  | _ => none

def text? (key : String) (j : Json) : Option String :=
  match j.get? key with
  | some (.str s) => some s
  | _ => none

/-- A flag that is not given is not set. -/
def flag (key : String) (j : Json) : Bool :=
  match j.get? key with
  | some (.bool b) => b
  | _ => false

/-- The elements of a list; none where there is no list. -/
def elements (key : String) (j : Json) : List Json :=
  match j.get? key with
  | some (.arr js) => js
  | _ => []

/-! ## Readers -/

/-- An unsigned integer of `w` bits. -/
def unsigned (w : Nat) : Json → Option (BitVec w)
  | .integer (.ofNat n) => if n < 2 ^ w then some (BitVec.ofNat w n) else none
  | _ => none

/-- A signed integer of `w` bits. -/
def signed (w : Nat) : Json → Option Int
  | .integer n => if -2 ^ (w - 1) ≤ n ∧ n < 2 ^ (w - 1) then some n else none
  | _ => none

def boolean : Json → Option Bool
  | .bool b => some b
  | _ => none

def string : Json → Option String
  | .str s => some s
  | _ => none

section Readers

variable {α : Type}

def list (read : Json → Option α) : Json → Option (List α)
  | .arr js => js.mapM read
  | _ => none

/-- A record is read from the members of an object. -/
def record (read : List (String × Json) → Option α) : Json → Option α
  | .obj members => read members
  | _ => none

/-- The value of a field, if it is given; an error if it is given twice. -/
def field (key : String) (members : List (String × Json)) : Option (Option Json) :=
  match members.filter fun m => m.1 == key with
  | [] => some none
  | [m] => some (some m.2)
  | _ => none

def required (read : Json → Option α) (key : String) (members : List (String × Json)) :
    Option α := do
  let given ← field key members
  let j ← given
  read j

/-- A field that may be left out or be `null`. -/
def optional (read : Json → Option α) (key : String) (members : List (String × Json)) :
    Option (Option α) := do
  match ← field key members with
  | none => return none
  | some .null => return none
  | some j => return some (← read j)

/-- A field that has this value where it is left out. -/
def withDefault (default : α) (read : Json → Option α) (key : String)
    (members : List (String × Json)) : Option α := do
  match ← field key members with
  | none => return default
  | some j => read j

end Readers

/-! ## What a record holds -/

variable {α : Type} {read : Json → Option α} {key : String} {members : List (String × Json)}

theorem get?_obj (key : String) (members : List (String × Json)) :
    (obj members).get? key = (members.find? fun m => m.1 == key).map (·.2) :=
  rfl

/-- A key that an object does not have is not set. -/
theorem flag_of_not_mem_keys {j : Json} (absent : key ∉ j.keys) : j.flag key = false := by
  unfold flag
  cases j with
  | obj members =>
    have none : members.find? (fun m => m.1 == key) = none := by
      rw [List.find?_eq_none]
      intro m member
      rw [beq_iff_eq]
      intro same
      exact absent (List.mem_map.mpr ⟨m, member, same⟩)
    rw [get?_obj, none]
    rfl
  | _ => rfl

theorem field_eq_some {given : Option Json} (run : field key members = some given) :
    (obj members).get? key = given := by
  unfold field at run
  rw [get?_obj, ← List.head?_filter]
  split at run
  · rename_i none
    cases run
    rw [none]
    rfl
  · rename_i one
    cases run
    rw [one]
    rfl
  · cases run

theorem required_eq_some {a : α} (run : required read key members = some a) :
    ∃ j, (obj members).get? key = some j ∧ read j = some a := by
  obtain ⟨given, fieldRun, run⟩ := Option.bind_eq_some_iff.mp run
  obtain ⟨j, rfl, readRun⟩ := Option.bind_eq_some_iff.mp run
  exact ⟨j, field_eq_some fieldRun, readRun⟩

theorem withDefault_eq_some {default a : α} (run : withDefault default read key members = some a) :
    ((obj members).get? key = none ∧ a = default) ∨
      ∃ j, (obj members).get? key = some j ∧ read j = some a := by
  obtain ⟨given, fieldRun, run⟩ := Option.bind_eq_some_iff.mp run
  cases given with
  | none =>
    cases run
    exact .inl ⟨field_eq_some fieldRun, rfl⟩
  | some j => exact .inr ⟨j, field_eq_some fieldRun, run⟩

theorem required_natural {w : Nat} {v : BitVec w}
    (run : required (unsigned w) key members = some v) :
    (obj members).natural? key = some v.toNat := by
  obtain ⟨j, given, readRun⟩ := required_eq_some run
  unfold natural?
  rw [given]
  unfold unsigned at readRun
  split at readRun
  · rename_i n
    split at readRun
    · rename_i fits
      cases readRun
      rw [BitVec.toNat_ofNat, Nat.mod_eq_of_lt fits]
    · cases readRun
  · cases readRun

theorem required_text {s : String} (run : required string key members = some s) :
    (obj members).text? key = some s := by
  obtain ⟨j, given, readRun⟩ := required_eq_some run
  unfold text?
  rw [given]
  cases j with
  | str s' =>
    cases readRun
    rfl
  | _ => cases readRun

theorem boolean_eq_some {j : Json} {b : Bool} : boolean j = some b ↔ j = .bool b := by
  cases j <;> simp [boolean]

theorem required_flag {b : Bool} (run : required boolean key members = some b) :
    (obj members).flag key = b := by
  obtain ⟨j, given, readRun⟩ := required_eq_some run
  unfold flag
  rw [given, boolean_eq_some.mp readRun]

/-- A flag with the default of a flag. -/
theorem withDefault_flag {b : Bool} (run : withDefault false boolean key members = some b) :
    (obj members).flag key = b := by
  unfold flag
  rcases withDefault_eq_some run with ⟨absent, rfl⟩ | ⟨j, given, readRun⟩
  · rw [absent]
  · rw [given, boolean_eq_some.mp readRun]

/-- A list is read element by element. -/
theorem mapM_eq_some {js : List Json} {as : List α} (run : js.mapM read = some as) :
    List.Forall₂ (fun j a => read j = some a) js as := by
  induction js generalizing as with
  | nil =>
    cases run
    exact .nil
  | cons j js ih =>
    rw [List.mapM_cons] at run
    obtain ⟨a, readRun, run⟩ := Option.bind_eq_some_iff.mp run
    obtain ⟨rest, restRun, run⟩ := Option.bind_eq_some_iff.mp run
    cases run
    exact .cons readRun (ih restRun)

theorem required_list {as : List α} (run : required (list read) key members = some as) :
    List.Forall₂ (fun j a => read j = some a) ((obj members).elements key) as := by
  obtain ⟨j, given, readRun⟩ := required_eq_some run
  unfold elements
  rw [given]
  cases j with
  | arr js => exact mapM_eq_some readRun
  | _ => cases readRun

/-- What is read from an object is read from its members. -/
theorem record_eq_some {readMembers : List (String × Json) → Option α} {j : Json} {a : α}
    (run : record readMembers j = some a) :
    ∃ members, j = .obj members ∧ readMembers members = some a := by
  cases j with
  | obj members => exact ⟨members, rfl, run⟩
  | _ => cases run

end Json
