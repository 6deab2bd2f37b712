import Chip8.Bank

/-!
Contract: blocks of bytes read as the bytes at their addresses.

Owns:
- that a bank is known by its bytes, and where the bytes of a block stand after it was put over
  a bank;
- the two block writes as one decision on the ends of the block;
- that writing all bytes of one bank over another gives the first bank.

Does not own: what is said of addresses outside a bank.
-/

namespace Chip8.Bank

variable {size : Nat}

theorem ext_get {left right : Bank size} (same : ∀ address, left.get address = right.get address) :
    left = right := by
  obtain ⟨leftBytes⟩ := left
  obtain ⟨rightBytes⟩ := right
  congr 1
  apply Vector.ext
  intro position inside
  exact same ⟨position, inside⟩

@[simp] theorem length_toList (bank : Bank size) : bank.toList.length = size :=
  Vector.length_toList

theorem getElem?_toList (bank : Bank size) (address : Fin size) :
    bank.toList[address.val]? = some (bank.get address) := by
  have inside : address.val < bank.toList.length := by
    rw [length_toList]
    exact address.isLt
  rw [List.getElem?_eq_getElem inside]
  simp [toList, get]

/-! ### Blocks put over a bank -/

/-- The bytes of a block stand where it was put. -/
theorem get_overlay_of_getElem? (bank : Bank size) {start place : Nat} {block : List UInt8}
    {byte : UInt8} {address : Fin size} (found : block[place]? = some byte)
    (there : address.val = start + place) : (bank.overlay start block).get address = byte := by
  rw [get_overlay, if_pos (by omega), there, Nat.add_sub_cancel_left, found, Option.getD_some]

/-- Before a block and behind it the bytes are as they were. -/
theorem get_overlay_of_outside (bank : Bank size) {start : Nat} {block : List UInt8}
    {address : Fin size} (outside : address.val < start ∨ start + block.length ≤ address.val) :
    (bank.overlay start block).get address = bank.get address := by
  rw [get_overlay]
  split
  · rw [List.getElem?_eq_none (by omega), Option.getD_none]
  · rfl

/-- A block put over the cells of a bank one after the other: its first byte, then the rest. -/
theorem overlay_cons (bank : Bank size) {start : Nat} (inside : start < size) (byte : UInt8)
    (rest : List UInt8) :
    bank.overlay start (byte :: rest) =
      (bank.set ⟨start, inside⟩ byte).overlay (start + 1) rest := by
  have same : bank.bytes.setIfInBounds start byte = bank.bytes.set start byte inside := by
    apply Vector.ext
    intro place placeInside
    rw [Vector.getElem_setIfInBounds, Vector.getElem_set]
  rw [overlay, same]
  rfl

theorem overlay_append (bank : Bank size) (start : Nat) (front back : List UInt8) :
    bank.overlay start (front ++ back) =
      (bank.overlay start front).overlay (start + front.length) back := by
  induction front generalizing bank start with
  | nil => rfl
  | cons byte rest inductionHypothesis =>
    rw [List.cons_append, overlay, inductionHypothesis, List.length_cons,
      show start + 1 + rest.length = start + (rest.length + 1) by omega]
    rfl

theorem overlay_toList (bank other : Bank size) : bank.overlay 0 other.toList = other := by
  apply ext_get
  intro address
  exact bank.get_overlay_of_getElem? (other.getElem?_toList address) (Nat.zero_add _).symm

theorem prefix_toList_overlay (bank : Bank size) {block : List UInt8}
    (fits : block.length ≤ size) : block <+: (bank.overlay 0 block).toList := by
  rw [List.prefix_iff_getElem?]
  intro place within
  let address : Fin size := ⟨place, by omega⟩
  have found : block[place]? = some block[place] := List.getElem?_eq_getElem within
  have byte : (bank.overlay 0 block).get address = block[place] :=
    bank.get_overlay_of_getElem? found (Nat.zero_add place).symm
  rw [← byte]
  exact (bank.overlay 0 block).getElem?_toList address

/-- A block as large as a bank is all that the bank holds when it was put there. -/
theorem toList_overlay (bank : Bank size) {block : List UInt8} (fills : block.length = size) :
    (bank.overlay 0 block).toList = block := by
  have begins := bank.prefix_toList_overlay (Nat.le_of_eq fills)
  exact (begins.eq_of_length (fills.trans (bank.overlay 0 block).length_toList.symm)).symm

/-- A block that a bank begins with already changes nothing when it is put there. -/
theorem overlay_of_prefix {bank : Bank size} {block : List UInt8}
    (already : block <+: bank.toList) : bank.overlay 0 block = bank := by
  apply ext_get
  intro address
  by_cases within : address.val < block.length
  · have byte := List.prefix_iff_getElem?.mp already address.val within
    rw [getElem?_toList, Option.some.injEq] at byte
    rw [byte]
    exact bank.get_overlay_of_getElem? (List.getElem?_eq_getElem within) (Nat.zero_add _).symm
  · exact bank.get_overlay_of_outside (by omega)

/-! ### Block writes -/

/-- Where the last byte of a block has an address, there is as much space between the cuts at the
two ends as the block is long unless the block begins below the bank. -/
theorem space_eq_iff {location : Int} {count : Nat}
    (lastInside : Holds size (location + count - 1)) :
    cut size (location + count) - cut size location = count ↔ 0 ≤ location := by
  have top : cut size (location + count) = (location + count).toNat := by
    unfold cut
    rw [if_neg (by omega)]
    omega
  rw [top]
  unfold cut
  split <;> omega

theorem writeBlock_eq (bank : Bank size) (location : Int) (block : List UInt8) :
    bank.writeBlock location block =
      if Holds size (location + block.length - 1) then
        if location < 0 then (bank, some .sizeMismatch)
        else (bank.overlay location.toNat block, none)
      else (bank, some (.addressOutside (location + block.length - 1))) := by
  unfold writeBlock check
  dsimp only
  split
  · rename_i lastInside
    change bank.assign location (location + block.length) block = _
    unfold assign
    by_cases below : location < 0
    · have space := (not_congr (space_eq_iff lastInside)).mpr (Int.not_le.mpr below)
      rw [if_pos below, if_neg space]
    · have start : cut size location = location.toNat := by
        unfold cut
        rw [if_neg below]
        omega
      rw [if_neg below, if_pos ((space_eq_iff lastInside).mpr (Int.not_lt.mp below)), start]
  · rfl

theorem length_zeros {room : Extent.Room} {extra zeros : Nat} {count : Int}
    (held : Extent.ofInt room extra count = .ok zeros) :
    ((List.replicate zeros (0 : UInt8)).length : Int) = count := by
  obtain ⟨notNegative, rfl⟩ := Extent.toNat_of_ofInt held
  rw [List.length_replicate]
  exact Int.toNat_of_nonneg notNegative

/-- Zeros are written like any block once there is room for them. -/
theorem zeroBlock_eq (bank : Bank size) (room : Extent.Room) (offset count : Int) :
    bank.zeroBlock room offset count =
      if Holds size (offset + count - 1) then
        Attempt.guarded bank (Extent.ofInt room Extent.heading count) fun zeros =>
          bank.writeBlock offset (List.replicate zeros 0)
      else (bank, some (.addressOutside (offset + count - 1))) := by
  unfold zeroBlock check
  dsimp only
  split
  · rename_i lastInside
    cases held : Extent.ofInt room Extent.heading count with
    | error fault => rfl
    | ok zeros =>
      change bank.assign offset (offset + count) (List.replicate zeros 0) =
        bank.writeBlock offset (List.replicate zeros 0)
      unfold writeBlock check
      dsimp only
      rw [length_zeros held, if_pos lastInside]
      rfl
  · rfl

/-- A block as large as a bank that is not empty replaces all of it. -/
theorem writeBlock_toList (notEmpty : 0 < size) (bank other : Bank size) :
    bank.writeBlock 0 other.toList = (other, none) := by
  have lastInside : Holds size (0 + other.toList.length - 1) := by
    rw [length_toList]
    constructor <;> omega
  rw [writeBlock_eq, if_pos lastInside, if_neg (by decide), Int.toNat_zero, overlay_toList]

end Chip8.Bank
