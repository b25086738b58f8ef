import P4Tas.Request
import Mathlib.Logic.Function.Basic

/-!
# Registers

A register of the switch is an array of cells, and a register action reads and writes the cell an
index selects.  What an index beyond the declared size selects depends on the target: another cell,
or none, and then the action is not executed.
-/

namespace P4Tas.DataPlane

abbrev Register (w : Nat) := Nat → BitVec w

/-- Which cell of a register of a given size an index selects. -/
structure Target where
  cell : Nat → Nat → Option Nat
  inRange : ∀ size index, index < size → cell size index = some index

/-- The target that executes no action for an index out of range. -/
def Target.strict : Target where
  cell size index := if index < size then some index else none
  inRange := fun _ _ inside => if_pos inside

namespace Target

variable {w : Nat} {α : Type}

/-- Executes a register action, which maps the value of the cell to its new value and the value it
reads. -/
def execute [Inhabited α] (target : Target) (size : Nat) (register : Register w) (index : Nat)
    (action : BitVec w → BitVec w × α) : Register w × α :=
  match target.cell size index with
  | some c => (Function.update register c (action (register c)).1, (action (register c)).2)
  | none => (register, default)

/-- Executes a register action that reads nothing. -/
def write (target : Target) (size : Nat) (register : Register w) (index : Nat)
    (action : BitVec w → BitVec w) : Register w :=
  match target.cell size index with
  | some c => Function.update register c (action (register c))
  | none => register

/-- Executes a register action that changes nothing. -/
def read (target : Target) (size : Nat) (register : Register w) (index : Nat) : BitVec w :=
  match target.cell size index with
  | some c => register c
  | none => 0

/-- The index selects a cell, so that an action is executed. -/
def executes (target : Target) (size index : Nat) : Bool :=
  (target.cell size index).isSome

/-- A cell that holds a value keeps it through a write of this value. -/
theorem write_const_keeps {target : Target} {size index c : Nat} {register : Register w}
    {value : BitVec w} (holds : register c = value) :
    target.write size register index (fun _ => value) c = value := by
  unfold write
  cases target.cell size index with
  | none => exact holds
  | some c' =>
    rcases Decidable.em (c = c') with rfl | other
    · exact Function.update_self _ _ _
    · exact (Function.update_of_ne other _ _).trans holds

/-- A write that is executed leaves its value in the cell. -/
theorem write_const_cell {target : Target} {size index c : Nat} {register : Register w}
    {value : BitVec w} (selects : target.cell size index = some c) :
    target.write size register index (fun _ => value) c = value := by
  unfold write
  rw [selects]
  exact Function.update_self _ _ _

theorem read_cell {target : Target} {size index c : Nat} {register : Register w}
    (selects : target.cell size index = some c) : target.read size register index = register c := by
  unfold read
  rw [selects]

theorem execute_cell [Inhabited α] {target : Target} {size index c : Nat} {register : Register w}
    (selects : target.cell size index = some c) (action : BitVec w → BitVec w × α) :
    target.execute size register index action =
      (Function.update register c (action (register c)).1, (action (register c)).2) := by
  unfold execute
  rw [selects]

theorem write_cell {target : Target} {size index c : Nat} {register : Register w}
    (selects : target.cell size index = some c) (action : BitVec w → BitVec w) :
    target.write size register index action =
      Function.update register c (action (register c)) := by
  unfold write
  rw [selects]

/-- An action that changes no value and reads the default reads the default from any cell. -/
theorem execute_still [Inhabited α] (target : Target) (size index : Nat) {register : Register w}
    {action : BitVec w → BitVec w × α}
    (still : ∀ c, action (register c) = (register c, default)) :
    target.execute size register index action = (register, default) := by
  unfold execute
  cases target.cell size index with
  | none => rfl
  | some c =>
    dsimp only
    rw [still c, Function.update_eq_self]

/-- A written value is read when the index selects a cell. -/
theorem read_write (target : Target) (size index : Nat) (register : Register w)
    (value : BitVec w) :
    target.read size (target.write size register index fun _ => value) index =
      if target.executes size index then value else target.read size register index := by
  unfold read write executes
  cases target.cell size index with
  | none => rfl
  | some c => exact Function.update_self _ _ _

/-! ## Cells of one party -/

/-- The registers hold the same values in some cells. -/
def AgreeOn (cells : Nat → Prop) (register register' : Register w) : Prop :=
  ∀ c, cells c → register c = register' c

theorem AgreeOn.refl (cells : Nat → Prop) (register : Register w) :
    AgreeOn cells register register :=
  fun _ _ => rfl

theorem AgreeOn.symm {cells : Nat → Prop} {register register' : Register w}
    (agree : AgreeOn cells register register') : AgreeOn cells register' register :=
  fun c member => (agree c member).symm

section

variable (target : Target) {size index : Nat} {cells : Nat → Prop}
  {register register' : Register w}

/-- An action on one of the cells reads the same value and leaves the registers in agreement. -/
theorem execute_inside [Inhabited α] (agree : AgreeOn cells register register')
    (inside : index < size) (own : cells index) (action : BitVec w → BitVec w × α) :
    AgreeOn cells (target.execute size register index action).1
        (target.execute size register' index action).1 ∧
      (target.execute size register index action).2 =
        (target.execute size register' index action).2 := by
  unfold execute
  rw [target.inRange size index inside]
  dsimp only
  rw [agree index own]
  refine ⟨fun c member => ?_, rfl⟩
  rcases Decidable.em (c = index) with same | other
  · rw [same, Function.update_self, Function.update_self]
  · rw [Function.update_of_ne other, Function.update_of_ne other]
    exact agree c member

/-- An action on another cell does not matter. -/
theorem execute_outside [Inhabited α] (agree : AgreeOn cells register register')
    (inside : index < size) (foreign : ¬ cells index) (action : BitVec w → BitVec w × α) :
    AgreeOn cells (target.execute size register index action).1 register' := by
  unfold execute
  rw [target.inRange size index inside]
  intro c member
  have other : c ≠ index := fun same => foreign (same ▸ member)
  exact (Function.update_of_ne other _ _).trans (agree c member)

theorem write_inside (agree : AgreeOn cells register register') (inside : index < size)
    (own : cells index) (action : BitVec w → BitVec w) :
    AgreeOn cells (target.write size register index action)
      (target.write size register' index action) := by
  have executed := (execute_inside target agree inside own fun value => (action value, ())).1
  unfold execute at executed
  unfold write
  rw [target.inRange size index inside] at executed ⊢
  exact executed

theorem write_outside (agree : AgreeOn cells register register') (inside : index < size)
    (foreign : ¬ cells index) (action : BitVec w → BitVec w) :
    AgreeOn cells (target.write size register index action) register' := by
  have executed := execute_outside target agree inside foreign fun value => (action value, ())
  unfold execute at executed
  unfold write
  rw [target.inRange size index inside] at executed ⊢
  exact executed

theorem read_inside (agree : AgreeOn cells register register') (inside : index < size)
    (own : cells index) :
    target.read size register index = target.read size register' index := by
  unfold read
  rw [target.inRange size index inside]
  exact agree index own

end

end Target

end P4Tas.DataPlane
