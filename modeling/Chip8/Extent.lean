import Chip8.Fault

/-!
Contract: how many bytes one block can have.

Owns:
- `IsWord`, the numbers that a size can be at all: sizes are signed words of 64 bits;
- `Room`, how many bytes can be held, which is for the surroundings to say;
- `Extent.ofInt`, which reads a number as the size of a block;
- `Extent.hold`, which refuses a block for which there is no room.

A number that is no word is refused before anything else is said of it.
-/

namespace Chip8.Extent

/-- The greatest size there is. -/
def greatest : Nat := 0x7FFFFFFFFFFFFFFF

/-- How many bytes can be held at once: no more than a size can say. -/
structure Room where
  bytes : Nat
  bytes_le : bytes ≤ greatest
deriving DecidableEq, Repr

/-- The bytes that go with a block which never changes and count towards its size. -/
def heading : Nat := 33

/-- Whether a number is a signed word of 64 bits. -/
abbrev IsWord (number : Int) : Prop :=
  -(greatest : Int) - 1 ≤ number ∧ number ≤ greatest

/-- A block of so many bytes, if there is room for it. -/
def hold (room : Room) (size : Nat) : Except Fault Nat :=
  if room.bytes < size then .error .outOfMemory else .ok size

/-- The size of a block that has `extra` bytes besides those asked for. -/
def ofInt (room : Room) (extra : Nat) (requested : Int) : Except Fault Nat :=
  if ¬IsWord requested then .error .sizeTooLarge
  else if requested < 0 then .error .negativeSize
  else if greatest < requested.toNat + extra then .error .sizeTooLarge
  else hold room requested.toNat

variable {room : Room}

theorem hold_eq_ok_iff {size held : Nat} :
    hold room size = .ok held ↔ size ≤ room.bytes ∧ held = size := by
  unfold hold
  split
  · rename_i tooLarge
    exact ⟨fun accepted => absurd accepted (by simp), fun fits => absurd fits.1 (by omega)⟩
  · rename_i fits
    simp only [Except.ok.injEq]
    exact ⟨fun same => ⟨by omega, same.symm⟩, fun both => both.2.symm⟩

/-- A size that is accepted is the one asked for. -/
theorem toNat_of_ofInt {extra : Nat} {requested : Int} {size : Nat}
    (accepted : ofInt room extra requested = .ok size) :
    0 ≤ requested ∧ requested.toNat = size := by
  unfold ofInt at accepted
  split at accepted
  · contradiction
  · split at accepted
    · contradiction
    · split at accepted
      · contradiction
      · exact ⟨by omega, (hold_eq_ok_iff.1 accepted).2.symm⟩

/-- A size is refused for what it is or for want of room. -/
theorem fault_of_ofInt {extra : Nat} {requested : Int} {fault : Fault}
    (refused : ofInt room extra requested = .error fault) :
    fault = .sizeTooLarge ∨ fault = .negativeSize ∨ fault = .outOfMemory := by
  unfold ofInt hold at refused
  split at refused
  · exact Or.inl (Except.error.inj refused).symm
  · split at refused
    · exact Or.inr (Or.inl (Except.error.inj refused).symm)
    · split at refused
      · exact Or.inl (Except.error.inj refused).symm
      · split at refused
        · exact Or.inr (Or.inr (Except.error.inj refused).symm)
        · contradiction

end Chip8.Extent
