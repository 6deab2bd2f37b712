import Chip8.Proofs.Bank.Block

/-!
Contract: what accesses to a bank do at its two ends.

Owns:
- `Bank.WriteEnds` and `Bank.ZeroEnds`, the ways in which the two block writes end;
- `Bank.Stored`, a block put where it belongs and nothing else changed, and that a block write comes
  to this or leaves every byte as it was, wherever it is aimed;
- `Bank.Leaves`, an access to some address outside the bank, and which accesses report one.

Does not own: wrapping of addresses, which is the machine's business.
-/

namespace Chip8

namespace Bank

variable {size : Nat}

/-! ### How block writes end -/

/-- The ways in which the writing of a block ends. -/
inductive WriteEnds (bank : Bank size) (location : Int) (block : List UInt8) :
    Attempt (Bank size) → Prop where
  | lastOutside (outside : ¬Holds size (location + block.length - 1)) :
    WriteEnds bank location block (bank, some (.addressOutside (location + block.length - 1)))
  | fromBelow (lastInside : Holds size (location + block.length - 1)) (below : location < 0) :
    WriteEnds bank location block (bank, some .sizeMismatch)
  | stored (lastInside : Holds size (location + block.length - 1)) (notBelow : 0 ≤ location) :
    WriteEnds bank location block (bank.overlay location.toNat block, none)

theorem writeEnds (bank : Bank size) (location : Int) (block : List UInt8) :
    WriteEnds bank location block (bank.writeBlock location block) := by
  rw [writeBlock_eq]
  split
  · rename_i lastInside
    split
    · rename_i below
      exact .fromBelow lastInside below
    · rename_i notBelow
      exact .stored lastInside (Int.not_lt.mp notBelow)
  · rename_i outside
    exact .lastOutside outside

/-- The ways in which the writing of zeros ends; with room for them it ends like that of a block. -/
inductive ZeroEnds (bank : Bank size) (room : Extent.Room) (offset count : Int) :
    Attempt (Bank size) → Prop where
  | lastOutside (outside : ¬Holds size (offset + count - 1)) :
    ZeroEnds bank room offset count (bank, some (.addressOutside (offset + count - 1)))
  | noRoom {fault : Fault} (lastInside : Holds size (offset + count - 1))
    (refused : Extent.ofInt room Extent.heading count = .error fault) :
    ZeroEnds bank room offset count (bank, some fault)
  | written {zeros : Nat} (lastInside : Holds size (offset + count - 1))
    (held : Extent.ofInt room Extent.heading count = .ok zeros) :
    ZeroEnds bank room offset count (bank.writeBlock offset (List.replicate zeros 0))

theorem zeroEnds (bank : Bank size) (room : Extent.Room) (offset count : Int) :
    ZeroEnds bank room offset count (bank.zeroBlock room offset count) := by
  rw [zeroBlock_eq]
  split
  · rename_i lastInside
    cases held : Extent.ofInt room Extent.heading count with
    | error fault => exact .noRoom lastInside held
    | ok zeros => exact .written lastInside held
  · rename_i outside
    exact .lastOutside outside

/-! ### Blocks that are stored -/

/-- In `after` the bytes of a block stand from a location on, and all others are as before. -/
structure Stored (before after : Bank size) (location : Int) (block : List UInt8) : Prop where
  notBelow : 0 ≤ location
  notBeyond : location + block.length ≤ size
  stored : ∀ (address : Fin size) (place : Nat) (byte : UInt8), block[place]? = some byte →
    (address.val : Int) = location + place → after.get address = byte
  kept : ∀ address : Fin size,
    ¬(location ≤ address.val ∧ (address.val : Int) < location + block.length) →
      after.get address = before.get address

theorem stored_overlay (bank : Bank size) {location : Int} {block : List UInt8}
    (notBelow : 0 ≤ location) (notBeyond : location + block.length ≤ size) :
    Stored bank (bank.overlay location.toNat block) location block where
  notBelow := notBelow
  notBeyond := notBeyond
  stored := by
    intro address place byte found there
    exact bank.get_overlay_of_getElem? found (by omega)
  kept := by
    intro address outside
    exact bank.get_overlay_of_outside (by omega)

/-- An attempt that stores a block where it belongs, or is refused and changes no byte. -/
def StoresOrKeeps (bank : Bank size) (location : Int) (block : List UInt8)
    (attempt : Attempt (Bank size)) : Prop :=
  (attempt.2 = none ∧ Stored bank attempt.1 location block) ∨
    (attempt.2 ≠ none ∧ ∀ address, attempt.1.get address = bank.get address)

section BlockWrites

variable {bank : Bank size} {room : Extent.Room} {location count : Int} {block : List UInt8}

theorem storesOrKeeps_of_refused (fault : Fault) :
    bank.StoresOrKeeps location block (bank, some fault) :=
  Or.inr ⟨nofun, fun _ => rfl⟩

theorem storesOrKeeps_writeBlock : bank.StoresOrKeeps location block
    (bank.writeBlock location block) := by
  have ends := bank.writeEnds location block
  generalize bank.writeBlock location block = attempt at ends ⊢
  cases ends with
  | lastOutside => exact storesOrKeeps_of_refused _
  | fromBelow => exact storesOrKeeps_of_refused _
  | stored lastInside notBelow =>
    exact Or.inl ⟨rfl, bank.stored_overlay notBelow (by omega)⟩

theorem storesOrKeeps_zeroBlock : bank.StoresOrKeeps location (List.replicate count.toNat 0)
    (bank.zeroBlock room location count) := by
  have ends := bank.zeroEnds room location count
  generalize bank.zeroBlock room location count = attempt at ends ⊢
  cases ends with
  | lastOutside => exact storesOrKeeps_of_refused _
  | noRoom => exact storesOrKeeps_of_refused _
  | written lastInside held =>
    obtain ⟨-, rfl⟩ := Extent.toNat_of_ofInt held
    exact storesOrKeeps_writeBlock

theorem writeBlock_accepted_iff : (bank.writeBlock location block).2 = none ↔
    0 ≤ location ∧ Holds size (location + block.length - 1) := by
  have ends := bank.writeEnds location block
  generalize bank.writeBlock location block = attempt at ends ⊢
  cases ends with
  | lastOutside outside => exact iff_of_false nofun fun inside => outside inside.2
  | fromBelow _ below => exact iff_of_false nofun fun inside => Int.not_lt.mpr inside.1 below
  | stored lastInside notBelow => exact iff_of_true rfl ⟨notBelow, lastInside⟩

theorem zeroBlock_accepted_iff : (bank.zeroBlock room location count).2 = none ↔
    (0 ≤ location ∧ Holds size (location + count - 1)) ∧
      0 ≤ count ∧ (Extent.ofInt room Extent.heading count).isOk = true := by
  have ends := bank.zeroEnds room location count
  generalize bank.zeroBlock room location count = attempt at ends ⊢
  cases ends with
  | lastOutside outside => exact iff_of_false nofun fun inside => outside inside.1.2
  | noRoom _ refused =>
    rw [refused]
    exact iff_of_false nofun fun inside => nomatch inside.2.2
  | written _ held =>
    have notNegative := (Extent.toNat_of_ofInt held).1
    rw [writeBlock_accepted_iff, length_zeros held, held]
    exact ⟨fun inside => ⟨inside, notNegative, rfl⟩, And.left⟩

end BlockWrites

/-- Wherever a block is aimed, writing it either stores all of it there and nothing else or leaves
every byte as it was, and so does writing zeros. A block is stored exactly if it does not begin
below the bank and its last byte has an address; zeros moreover need room of their own. -/
theorem block_writes_exact_or_nothing (bank : Bank size) (room : Extent.Room)
    (location count : Int) (block : List UInt8) :
    (bank.StoresOrKeeps location block (bank.writeBlock location block) ∧
        ((bank.writeBlock location block).2 = none ↔
          0 ≤ location ∧ Holds size (location + block.length - 1))) ∧
      bank.StoresOrKeeps location (List.replicate count.toNat 0)
          (bank.zeroBlock room location count) ∧
        ((bank.zeroBlock room location count).2 = none ↔
          (0 ≤ location ∧ Holds size (location + count - 1)) ∧
            0 ≤ count ∧ (Extent.ofInt room Extent.heading count).isOk = true) :=
  ⟨⟨storesOrKeeps_writeBlock, writeBlock_accepted_iff⟩, storesOrKeeps_zeroBlock,
    zeroBlock_accepted_iff⟩

/-! ### Addresses that are outside -/

/-- One of `count` addresses from a location on is no address of a byte. -/
def Leaves (size : Nat) (location count : Int) : Prop :=
  ∃ address, location ≤ address ∧ address < location + count ∧ ¬Holds size address

/-- An access that begins below the bank and ends inside. -/
def EntersFromBelow (size : Nat) (location count : Int) : Prop :=
  location < 0 ∧ Holds size (location + count - 1)

/-- An access that is refused under one of its addresses that are outside. -/
def Reports {α : Type} (size : Nat) (location count : Int) (result : Except Fault α) : Prop :=
  ∃ address, location ≤ address ∧ address < location + count ∧ ¬Holds size address ∧
    result = .error (.addressOutside address)

/-- The bytes at `count` addresses from a location on. -/
structure ReadsOff (bank : Bank size) (location count : Int) (bytes : List UInt8) : Prop where
  length : (bytes.length : Int) = count
  found : ∀ (place : Nat), (place : Int) < count → ∃ address : Fin size,
    (address.val : Int) = location + place ∧ bytes[place]? = some (bank.get address)

section Outside

variable {bank : Bank size} {room : Extent.Room} {location count value : Int} {block : List UInt8}

theorem leaves_iff (notEmpty : 1 ≤ count) :
    Leaves size location count ↔ location < 0 ∨ size < location + count := by
  constructor
  · rintro ⟨address, notBefore, notBehind, outside⟩
    omega
  · rintro (below | beyond)
    · exact ⟨location, Int.le_refl _, by omega, by omega⟩
    · exact ⟨location + count - 1, by omega, by omega, by omega⟩

theorem leaves_one_iff : Leaves size location 1 ↔ ¬Holds size location := by
  rw [leaves_iff (Int.le_refl 1)]
  omega

/-- An access that leaves the bank without coming in from below has its last address outside. -/
theorem leaves_and_not_entersFromBelow_iff (notEmpty : 1 ≤ count) :
    Leaves size location count ∧ ¬EntersFromBelow size location count ↔
      ¬Holds size (location + count - 1) := by
  rw [leaves_iff notEmpty]
  unfold EntersFromBelow
  omega

theorem reports_last (notEmpty : 1 ≤ count) (lastOutside : ¬Holds size (location + count - 1))
    {α : Type} : Reports size location count
      (.error (.addressOutside (location + count - 1)) : Except Fault α) :=
  ⟨_, by omega, by omega, lastOutside, rfl⟩

theorem not_reports_of_ok {α : Type} {result : α} :
    ¬Reports size location count (.ok result : Except Fault α) := by
  rintro ⟨address, -, -, -, contrary⟩
  contradiction

theorem not_reports_of_error {α : Type} {fault : Fault}
    (other : ∀ address, fault ≠ .addressOutside address) :
    ¬Reports size location count (.error fault : Except Fault α) := by
  rintro ⟨address, -, -, -, same⟩
  exact other address (Except.error.inj same)

theorem reports_read_iff : Reports size location 1 (bank.read location) ↔
    Leaves size location 1 := by
  rw [leaves_one_iff]
  by_cases inside : Holds size location
  · rw [read_of_holds bank inside]
    exact iff_of_false not_reports_of_ok (not_not_intro inside)
  · rw [read_of_not_holds bank inside]
    exact iff_of_true ⟨location, by omega, by omega, inside, rfl⟩ inside

/-- The address is looked at before the value. -/
theorem reports_store_iff : Reports size location 1 (bank.store location value) ↔
    Leaves size location 1 := by
  rw [leaves_one_iff]
  unfold store check
  by_cases inside : Holds size location
  · rw [if_pos inside]
    refine iff_of_false ?_ (not_not_intro inside)
    change ¬Reports size location 1 ((byteOf value).bind (bank.write location))
    unfold byteOf
    split
    · change ¬Reports size location 1 (bank.write location _)
      rw [write_of_holds bank inside]
      exact not_reports_of_ok
    · exact not_reports_of_error nofun
  · rw [if_neg inside]
    exact iff_of_true ⟨location, by omega, by omega, inside, rfl⟩ inside

theorem reports_writeBlock_iff (notEmpty : block ≠ []) :
    Reports size location block.length (bank.writeBlock location block).result ↔
      ¬Holds size (location + block.length - 1) := by
  have positive := List.length_pos_iff.mpr notEmpty
  have ends := bank.writeEnds location block
  generalize bank.writeBlock location block = attempt at ends ⊢
  cases ends with
  | lastOutside outside => exact iff_of_true (reports_last (by omega) outside) outside
  | fromBelow lastInside =>
    exact iff_of_false (not_reports_of_error nofun) (not_not_intro lastInside)
  | stored lastInside => exact iff_of_false not_reports_of_ok (not_not_intro lastInside)

theorem reports_zeroBlock_iff (notEmpty : 1 ≤ count) :
    Reports size location count (bank.zeroBlock room location count).result ↔
      ¬Holds size (location + count - 1) := by
  have ends := bank.zeroEnds room location count
  generalize bank.zeroBlock room location count = attempt at ends ⊢
  cases ends with
  | lastOutside outside => exact iff_of_true (reports_last notEmpty outside) outside
  | noRoom lastInside refused =>
    refine iff_of_false (not_reports_of_error ?_) (not_not_intro lastInside)
    rintro address rfl
    simpa using Extent.fault_of_ofInt refused
  | @written zeros lastInside held =>
    have length := length_zeros held
    have notNil : List.replicate zeros (0 : UInt8) ≠ [] := by
      rw [← List.length_pos_iff]
      omega
    rw [← length]
    exact reports_writeBlock_iff notNil

theorem readBlock_eq (bank : Bank size) (location count : Int) :
    bank.readBlock location count =
      (bank.toList.drop (cut size location)).take
        (cut size (location + count) - cut size location) :=
  Vector.toList_extract

/-- A block is read off the addresses asked for exactly if all of them are inside. -/
theorem readsOff_readBlock_iff (notEmpty : 1 ≤ count) :
    ReadsOff bank location count (bank.readBlock location count) ↔ ¬Leaves size location count := by
  rw [leaves_iff notEmpty]
  constructor
  · rintro ⟨-, found⟩
    obtain ⟨first, firstThere, -⟩ := found 0 (by omega)
    obtain ⟨last, lastThere, -⟩ := found (count - 1).toNat (by omega)
    omega
  · intro inside
    have start : cut size location = location.toNat := by
      unfold cut
      split <;> omega
    have space : cut size (location + count) - cut size location = count.toNat := by
      rw [start]
      unfold cut
      split <;> omega
    rw [readBlock_eq, space, start]
    refine ⟨?_, ?_⟩
    · rw [List.length_take, List.length_drop, length_toList]
      omega
    · intro place within
      refine ⟨⟨location.toNat + place, by omega⟩, by dsimp only; omega, ?_⟩
      rw [List.getElem?_take, if_pos (by omega), List.getElem?_drop, ← getElem?_toList]

end Outside

/-- Accesses to one byte report each address outside the bank. Block writes do so as well unless
they come in from below, which is refused for another reason. A block read is never refused; it
gives the bytes at the addresses asked for exactly if all of them are inside. -/
theorem outside_reported_iff (bank : Bank size) (room : Extent.Room) (location value : Int)
    {block : List UInt8} {count : Int} (blockNotEmpty : block ≠ []) (notEmpty : 1 ≤ count) :
    ((Reports size location 1 (bank.read location) ↔ Leaves size location 1) ∧
        (Reports size location 1 (bank.store location value) ↔ Leaves size location 1)) ∧
      ((Reports size location block.length (bank.writeBlock location block).result ↔
          Leaves size location block.length ∧ ¬EntersFromBelow size location block.length) ∧
        (Reports size location count (bank.zeroBlock room location count).result ↔
          Leaves size location count ∧ ¬EntersFromBelow size location count)) ∧
      (ReadsOff bank location count (bank.readBlock location count) ↔
        ¬Leaves size location count) := by
  have length : 1 ≤ (block.length : Int) := by
    have positive := List.length_pos_iff.mpr blockNotEmpty
    omega
  rw [leaves_and_not_entersFromBelow_iff length, leaves_and_not_entersFromBelow_iff notEmpty]
  exact ⟨⟨reports_read_iff, reports_store_iff⟩,
    ⟨reports_writeBlock_iff blockNotEmpty, reports_zeroBlock_iff notEmpty⟩,
    readsOff_readBlock_iff notEmpty⟩

/-- Two bytes at either end of a small bank. -/
theorem outside_reported_unless_from_below :
    let bank : Bank 4 := ⟨#v[10, 20, 30, 40]⟩
    let room : Extent.Room := ⟨64, by decide⟩
    let block : List UInt8 := [1, 2]
    block ≠ [] ∧ (1 : Int) ≤ 2 ∧
      (Reports 4 3 2 (bank.writeBlock 3 block).result ∧
        Reports 4 3 2 (bank.zeroBlock room 3 2).result ∧
        ¬ReadsOff bank 3 2 (bank.readBlock 3 2)) ∧
      Reports 4 (-1) 1 (bank.read (-1)) ∧ Reports 4 (-1) 1 (bank.store (-1) 300) ∧
      ¬Reports 4 (-1) 2 (bank.writeBlock (-1) block).result ∧
      ¬Reports 4 (-1) 2 (bank.zeroBlock room (-1) 2).result ∧
      ReadsOff bank 2 2 (bank.readBlock 2 2) := by
  intro bank room block
  have blockNotEmpty : block ≠ [] := List.cons_ne_nil 1 [2]
  have notEmpty : (1 : Int) ≤ 2 := by decide
  obtain ⟨-, ⟨written, zeroed⟩, readBeyond⟩ :=
    outside_reported_iff bank room 3 0 blockNotEmpty notEmpty
  obtain ⟨⟨read, stored⟩, ⟨writtenBelow, zeroedBelow⟩, -⟩ :=
    outside_reported_iff bank room (-1) 300 blockNotEmpty notEmpty
  have readInside := (outside_reported_iff bank room 2 0 blockNotEmpty notEmpty).2.2
  have beyond : Leaves 4 3 2 ∧ ¬EntersFromBelow 4 3 2 :=
    (leaves_and_not_entersFromBelow_iff notEmpty).mpr (by decide)
  have fromBelow : EntersFromBelow 4 (-1) 2 := ⟨by decide, by decide⟩
  have below : Leaves 4 (-1) 1 := leaves_one_iff.mpr (by decide)
  have inside : ¬Leaves 4 2 2 := (not_congr (leaves_iff notEmpty)).mpr (by decide)
  exact ⟨blockNotEmpty, notEmpty,
    ⟨written.mpr beyond, zeroed.mpr beyond, fun exact => readBeyond.mp exact beyond.1⟩,
    read.mpr below, stored.mpr below, fun reported => (writtenBelow.mp reported).2 fromBelow,
    fun reported => (zeroedBelow.mp reported).2 fromBelow, readInside.mpr inside⟩

/-- Every access that leaves the bank is refused under an address outside, and a block read that
does not leave it gives the bytes at the addresses asked for. -/
structure ReportsOutside (bank : Bank size) : Prop where
  read : ∀ location, Leaves size location 1 → Reports size location 1 (bank.read location)
  write : ∀ location value, Leaves size location 1 →
    Reports size location 1 (bank.store location value)
  readBlock : ∀ location count, 1 ≤ count → Leaves size location count →
    Reports size location count (.ok (bank.readBlock location count) : Except Fault (List UInt8))
  writeBlock : ∀ location block, block ≠ [] → Leaves size location block.length →
    Reports size location block.length (bank.writeBlock location block).result
  zeroBlock : ∀ room location count, 1 ≤ count → Leaves size location count →
    Reports size location count (bank.zeroBlock room location count).result
  readsOff : ∀ location count, 1 ≤ count → ¬Leaves size location count →
    ReadsOff bank location count (bank.readBlock location count)

/-- A block read two bytes below the bank is taken from its end, one that reaches beyond the end is
cut short, and a block that comes in from below is refused as one of the wrong size. -/
theorem block_access_outside_unreported :
    let bank : Bank 4 := ⟨#v[10, 20, 30, 40]⟩
    let room : Extent.Room := ⟨64, by decide⟩
    Leaves 4 (-2) 1 ∧ bank.readBlock (-2) 1 = [30] ∧
      Leaves 4 3 2 ∧ bank.readBlock 3 2 = [40] ∧
      Leaves 4 (-1) 2 ∧ bank.writeBlock (-1) [1, 2] = (bank, some .sizeMismatch) ∧
      bank.zeroBlock room (-1) 2 = (bank, some .sizeMismatch) ∧ ¬bank.ReportsOutside := by
  intro bank room
  have below : Leaves 4 (-2) 1 := leaves_one_iff.mpr (by decide)
  have beyond : Leaves 4 3 2 := (leaves_iff (by decide)).mpr (by decide)
  have fromBelow : Leaves 4 (-1) 2 := (leaves_iff (by decide)).mpr (by decide)
  refine ⟨below, by decide, beyond, by decide, fromBelow, rfl, rfl, ?_⟩
  intro law
  exact not_reports_of_ok (law.readBlock (-2) 1 (by decide) below)

end Bank

end Chip8
