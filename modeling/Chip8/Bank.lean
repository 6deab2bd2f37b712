import Chip8.Extent

/-!
Contract: a bank of bytes addressed by integers of any size.

Owns:
- checked reads and writes of one byte, which refuse every address outside the bank;
- blocks, cut out by a pair of positions that may count from the end of the bank;
- `overlay`, the unchecked change of a run of bytes that all block writes come down to.

Does not own: wrapping of addresses, which is the machine's business.
-/

namespace Chip8

structure Bank (size : Nat) where
  bytes : Vector UInt8 size
deriving DecidableEq, Repr

namespace Bank

variable {size : Nat}

def blank (size : Nat) : Bank size :=
  ⟨Vector.replicate size 0⟩

/-- The number of bytes asked for, if a bank can have so many. -/
def sizeOf (room : Extent.Room) (requested : Int) : Except Fault Nat :=
  Extent.ofInt room 0 requested

def toList (bank : Bank size) : List UInt8 :=
  bank.bytes.toList

/-- Whether `location` is the address of a byte. -/
abbrev Holds (size : Nat) (location : Int) : Prop :=
  0 ≤ location ∧ location < size

def check (size : Nat) (location : Int) : Except Fault Unit :=
  if Holds size location then .ok () else .error (.addressOutside location)

def get (bank : Bank size) (address : Fin size) : UInt8 :=
  bank.bytes[address]

def set (bank : Bank size) (address : Fin size) (byte : UInt8) : Bank size :=
  ⟨bank.bytes.set address byte⟩

def read (bank : Bank size) (location : Int) : Except Fault UInt8 :=
  if inside : Holds size location then
    .ok (bank.get ⟨location.toNat, by omega⟩)
  else
    .error (.addressOutside location)

def write (bank : Bank size) (location : Int) (byte : UInt8) : Except Fault (Bank size) :=
  if inside : Holds size location then
    .ok (bank.set ⟨location.toNat, by omega⟩ byte)
  else
    .error (.addressOutside location)

def byteOf (value : Int) : Except Fault UInt8 :=
  if 0 ≤ value ∧ value < 256 then .ok (UInt8.ofNat value.toNat) else .error .notAByte

/-- Stores a number; the address is looked at first, then whether the number is a byte. -/
def store (bank : Bank size) (location value : Int) : Except Fault (Bank size) := do
  check size location
  bank.write location (← byteOf value)

/-- The place of a position among `size` bytes: one below zero counts from the end, and
positions beyond either end stand for that end. -/
def cut (size : Nat) (position : Int) : Nat :=
  if position < 0 then (position + size).toNat else min position.toNat size

/-- The bytes between two cuts, none if the second comes first. -/
def readBlock (bank : Bank size) (location count : Int) : List UInt8 :=
  (bank.bytes.extract (cut size location) (cut size (location + count))).toList

/-- Replaces the bytes from `start` on; what reaches beyond the bank is dropped. -/
def overlay (bank : Bank size) (start : Nat) : List UInt8 → Bank size
  | [] => bank
  | byte :: rest => overlay ⟨bank.bytes.setIfInBounds start byte⟩ (start + 1) rest

/-- Puts a block between the cuts at its two ends, whose space it has to fill. -/
def assign (bank : Bank size) (location top : Int) (block : List UInt8) : Attempt (Bank size) :=
  if cut size top - cut size location = block.length then
    (bank.overlay (cut size location) block, none)
  else
    (bank, some .sizeMismatch)

/-- Only the address of the last byte is checked. -/
def writeBlock (bank : Bank size) (location : Int) (block : List UInt8) : Attempt (Bank size) :=
  let top := location + block.length
  .guarded bank (check size (top - 1)) fun _ => bank.assign location top block

/-- Like the writing of a block of zeros, for which there has to be room once its last address was
checked. -/
def zeroBlock (bank : Bank size) (room : Extent.Room) (offset count : Int) : Attempt (Bank size) :=
  let top := offset + count
  .guarded bank (check size (top - 1)) fun _ =>
    .guarded bank (Extent.ofInt room Extent.heading count) fun zeros =>
      bank.assign offset top (List.replicate zeros 0)

def clear (bank : Bank size) (room : Extent.Room) : Attempt (Bank size) :=
  bank.zeroBlock room 0 size

/-! ### What the operations do to the bytes -/

theorem read_of_holds (bank : Bank size) {location : Int} (inside : Holds size location) :
    bank.read location = .ok (bank.get ⟨location.toNat, by omega⟩) :=
  dif_pos inside

theorem read_of_not_holds (bank : Bank size) {location : Int} (outside : ¬Holds size location) :
    bank.read location = .error (.addressOutside location) :=
  dif_neg outside

theorem write_of_holds (bank : Bank size) {location : Int} (inside : Holds size location)
    (byte : UInt8) :
    bank.write location byte = .ok (bank.set ⟨location.toNat, by omega⟩ byte) :=
  dif_pos inside

@[simp] theorem get_set_self (bank : Bank size) (address : Fin size) (byte : UInt8) :
    (bank.set address byte).get address = byte := by
  simp [get, set]

theorem get_set_of_ne (bank : Bank size) {address other : Fin size} (apart : other ≠ address)
    (byte : UInt8) : (bank.set address byte).get other = bank.get other := by
  have valuesApart : address.val ≠ other.val := fun same => apart (Fin.ext same.symm)
  simp [get, set, Vector.getElem_set_ne, valuesApart]

@[simp] theorem overlay_nil (bank : Bank size) (start : Nat) : bank.overlay start [] = bank :=
  rfl

/-- Within the block the bytes are those of the block, elsewhere those from before. -/
theorem get_overlay (bank : Bank size) (start : Nat) (block : List UInt8) (address : Fin size) :
    (bank.overlay start block).get address =
      if start ≤ address.val then (block[address.val - start]?).getD (bank.get address)
      else bank.get address := by
  induction block generalizing bank start with
  | nil => simp
  | cons byte rest inductionHypothesis =>
    rw [overlay, inductionHypothesis]
    by_cases same : start = address.val
    · subst same
      rw [if_neg (by omega)]
      simp [get]
    · have kept : get ⟨bank.bytes.setIfInBounds start byte⟩ address = bank.get address := by
        simp [get, Vector.getElem_setIfInBounds_ne, same]
      rw [kept]
      by_cases before : start + 1 ≤ address.val
      · have shifted : address.val - start = (address.val - (start + 1)) + 1 := by omega
        rw [if_pos before, if_pos (by omega), shifted, List.getElem?_cons_succ]
      · rw [if_neg before, if_neg (by omega)]

end Bank

end Chip8
