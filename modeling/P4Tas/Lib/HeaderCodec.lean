import Mathlib.Logic.Equiv.Prod
import P4Tas.Lib.BigEndian

/-!
# Headers in a packet

A header is a type whose values are the bit strings of a fixed number of bytes: a record of bit
fields, in their order.  It is extracted from the front of a packet, and emitted to bytes.

* `BitFields.pair`: the bits of a record are those of its fields;
* `extract_eq_some`: what is extracted from a packet is what the packet begins with;
* `extract_append`: what was emitted is extracted;
* `bind_extract_eq_some`: the packets a parser accepts that begins with a header.
-/

namespace BitFields

variable {α β : Type} {v w : Nat}

/-- A single field. -/
def field (w : Nat) : BitVec w ≃ BitVec w :=
  Equiv.refl _

/-- Two bit strings, one after the other. -/
def append (v w : Nat) : BitVec v × BitVec w ≃ BitVec (v + w) where
  toFun p := p.1 ++ p.2
  invFun x := (x.extractLsb' w v, x.extractLsb' 0 w)
  left_inv := fun _ =>
    Prod.ext BitVec.extractLsb'_append_eq_left BitVec.extractLsb'_append_eq_right
  right_inv := fun _ => BitVec.extractLsb'_append_extractLsb'

/-- The fields of the first record, then those of the second. -/
def pair (first : α ≃ BitVec v) (second : β ≃ BitVec w) : α × β ≃ BitVec (v + w) :=
  (Equiv.prodCongr first second).trans (append v w)

@[simp] theorem pair_apply (first : α ≃ BitVec v) (second : β ≃ BitVec w) (a : α) (b : β) :
    pair first second (a, b) = first a ++ second b :=
  rfl

/-- The bytes of two bit strings, the second of whole bytes. -/
theorem bytes_append (m n : Nat) (whole : w = 8 * n) (x : BitVec v) (y : BitVec w) :
    BigEndian.bytes (m + n) (x ++ y).toNat =
      BigEndian.bytes m x.toNat ++ BigEndian.bytes n y.toNat := by
  have power : 2 ^ w = 256 ^ n := by
    rw [whole, pow_mul]
    rfl
  have below : y.toNat < 256 ^ n := power ▸ y.isLt
  rw [BitVec.toNat_append, ← Nat.shiftLeft_add_eq_or_of_lt y.isLt, Nat.shiftLeft_eq, power,
    BigEndian.bytes_append m n x.toNat below]

end BitFields

/-- A type of headers. -/
class Header (α : Type) where
  size : Nat
  width : Nat
  bits : α ≃ BitVec width
  width_eq : width = 8 * size

namespace Header

variable {α : Type} [Header α] {h : α} {packet rest : List (BitVec 8)}

/-- The bytes of a header. -/
def emit (h : α) : List (BitVec 8) :=
  BigEndian.bytes (size α) (bits h).toNat

/-- The bytes of a header that may be invalid. -/
def emit? : Option α → List (BitVec 8)
  | some h => emit h
  | none => []

/-- The header at the front of a packet, and what follows it; `none` for a packet that is too
short. -/
def extract (packet : List (BitVec 8)) : Option (α × List (BitVec 8)) :=
  if size α ≤ packet.length then
    some (bits.symm (BitVec.ofNat _ (BigEndian.value (packet.take (size α)))),
      packet.drop (size α))
  else
    none

@[simp] theorem emit?_none_append (rest : List (BitVec 8)) :
    emit? (none : Option α) ++ rest = rest := (rfl)

@[simp] theorem emit?_some (h : α) : emit? (some h) = emit h := rfl

@[simp] theorem length_emit (h : α) : (emit h).length = size α :=
  BigEndian.length_bytes _ _

theorem pow_width : 2 ^ width α = 256 ^ size α := by
  rw [width_eq, pow_mul]
  rfl

theorem value_emit (h : α) : BigEndian.value (emit h) = (bits h).toNat := by
  unfold emit
  rw [BigEndian.value_bytes, ← pow_width]
  exact Nat.mod_eq_of_lt (bits h).isLt

/-- The bytes of the header that a byte string stands for are this string. -/
theorem emit_symm {xs : List (BitVec 8)} (length : xs.length = size α) :
    emit (bits.symm (BitVec.ofNat _ (BigEndian.value xs)) : α) = xs := by
  unfold emit
  rw [Equiv.apply_symm_apply, BitVec.toNat_ofNat, pow_width, ← length,
    Nat.mod_eq_of_lt (BigEndian.value_lt xs), BigEndian.bytes_value]

/-- What is emitted is extracted. -/
theorem extract_append (h : α) (rest : List (BitVec 8)) :
    extract (emit h ++ rest) = some (h, rest) := by
  unfold extract
  rw [if_pos (by simp), List.take_left' (length_emit h), List.drop_left' (length_emit h),
    value_emit, BitVec.ofNat_toNat, BitVec.setWidth_eq, Equiv.symm_apply_apply]

/-- The extracted header and the rest make up the packet. -/
theorem extract_eq_some : extract packet = some (h, rest) ↔ packet = emit h ++ rest := by
  refine ⟨?_, ?_⟩
  · intro extracted
    unfold extract at extracted
    split at extracted
    · rename_i long
      cases extracted
      rw [emit_symm (List.length_take_of_le long), List.take_append_drop]
    · cases extracted
  · rintro rfl
    exact extract_append h rest

/-- A parser that goes on after a header accepts the packets that begin with one. -/
theorem bind_extract_eq_some {β : Type} {next : α × List (BitVec 8) → Option β} {x : β} :
    extract packet >>= next = some x ↔
      ∃ h rest, packet = emit h ++ rest ∧ next (h, rest) = some x := by
  refine Option.bind_eq_some_iff.trans (Prod.exists.trans ?_)
  exact exists_congr fun h => exists_congr fun rest => and_congr_left' extract_eq_some

theorem emit_injective : Function.Injective (emit : α → List (BitVec 8)) := by
  intro h h' same
  have extracted := extract_append h []
  rw [same, extract_append] at extracted
  cases extracted
  rfl

end Header
