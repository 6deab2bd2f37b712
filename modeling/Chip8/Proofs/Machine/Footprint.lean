import Chip8.Machine

/-!
Contract: the parts of a machine that may change, and machines that differ in no other part.

Owns:
- `Footprint`, with the footprint of every word;
- `Machine.Within`, that nothing outside a footprint has changed, with a lemma for each way of
  changing a machine.

Does not own: the instructions, and which values the changed parts take.
-/

namespace Chip8

/-- The parts of a machine that may change. The flags of the keys are not among them. -/
structure Footprint where
  registers : Register → Prop
  index : Prop
  memory : Address → Prop
  stack : Prop
  delay : Prop
  sound : Prop
  display : Prop
  latch : Prop

def Footprint.nothing : Footprint :=
  ⟨fun _ => False, False, fun _ => False, False, False, False, False, False⟩

/-! ### Words and what they may change -/

namespace Word

/-- A word of the last family, which the lower byte tells apart. -/
def IsDevice (word : Word) (kind : UInt8) : Prop :=
  word.family = 0xF ∧ word.nn = kind

instance (word : Word) (kind : UInt8) : Decidable (word.IsDevice kind) :=
  inferInstanceAs (Decidable (word.family = 0xF ∧ word.nn = kind))

/-- The result of the word goes to its first register. -/
def StoresResult (word : Word) : Prop :=
  word.family = 0x6 ∨ word.family = 0x7 ∨
    (word.family = 0x8 ∧ (word.n.val ≤ 0x7 ∨ word.n.val = 0xE)) ∨ word.family = 0xC ∨
    word.IsDevice 0x07

def StoresFlag (word : Word) (flagsIndexOverflow : Bool) : Prop :=
  (word.family = 0x8 ∧ ((0x4 ≤ word.n.val ∧ word.n.val ≤ 0x7) ∨ word.n.val = 0xE)) ∨
    word.family = 0xD ∨ (flagsIndexOverflow = true ∧ word.IsDevice 0x1E)

/-- One of so many addresses from `index` on, counted around the end of memory. -/
def Reaches (index : Int) (last : Nat) (address : Address) : Prop :=
  ∃ offset ≤ last, (address.val : Int) = (index + offset) % 0x1000

def footprint (word : Word) (flagsIndexOverflow : Bool) (index : Int) : Footprint where
  registers register :=
    (register = word.x ∧ word.StoresResult) ∨
      (register = Register.flag ∧ word.StoresFlag flagsIndexOverflow) ∨
      (register ≤ word.x ∧ word.IsDevice 0x65)
  index := word.family = 0xA ∨ word.IsDevice 0x1E ∨ word.IsDevice 0x29
  memory address :=
    (word.IsDevice 0x33 ∧ Reaches index 2 address) ∨
      (word.IsDevice 0x55 ∧ Reaches index word.x.val address)
  stack := word.family = 0x2 ∨ word = 0x00EE
  delay := word.IsDevice 0x15
  sound := word.IsDevice 0x18
  display := word = 0x00E0 ∨ word.family = 0xD
  latch := word.IsDevice 0x0A

theorem reaches_wrap {index : Int} {offset last : Nat} (notBeyond : offset ≤ last) :
    Reaches index last (Address.wrap (index + offset)) := by
  refine ⟨offset, notBeyond, ?_⟩
  simp only [Address.wrap]
  omega

end Word

/-! ### Machines that differ within a footprint -/

theorem Bank.eq_set_of_write {size : Nat} {bank next : Bank size} {location : Int} {byte : UInt8}
    (written : bank.write location byte = .ok next) :
    ∃ inside : location.toNat < size,
      0 ≤ location ∧ next = bank.set ⟨location.toNat, inside⟩ byte := by
  unfold write at written
  split at written
  · rename_i holds
    cases written
    exact ⟨by omega, holds.1, rfl⟩
  · contradiction

namespace Machine

theorem register_setRegister_self (machine : Machine) (number : Register) (byte : UInt8) :
    (machine.setRegister number byte).register number = byte :=
  Vector.getElem_set_self number.isLt

theorem register_setRegister_of_ne (machine : Machine) {number other : Register}
    (apart : other ≠ number) (byte : UInt8) :
    (machine.setRegister number byte).register other = machine.register other := by
  have placesApart : number.val ≠ other.val := fun same => apart (Fin.ext same.symm)
  exact Vector.getElem_set_ne number.isLt other.isLt placesApart

/-- Each part is in the footprint or as it was before. -/
structure Within (footprint : Footprint) (before after : Machine) : Prop where
  registers : ∀ number, footprint.registers number ∨
    after.register number = before.register number
  index : footprint.index ∨ after.index = before.index
  memory : ∀ address, footprint.memory address ∨ after.ram.get address = before.ram.get address
  stack : footprint.stack ∨ after.stack = before.stack
  delay : footprint.delay ∨ after.timers.delay = before.timers.delay
  sound : footprint.sound ∨ after.timers.sound = before.timers.sound
  display : footprint.display ∨ after.display = before.display
  latch : footprint.latch ∨
    (after.keypad.armed = before.keypad.armed ∧ after.keypad.latch = before.keypad.latch)
  keys : after.keypad.down = before.keypad.down

namespace Within

variable {footprint : Footprint} {before now : Machine}

theorem refl (footprint : Footprint) (machine : Machine) : Within footprint machine machine :=
  ⟨fun _ => Or.inr rfl, Or.inr rfl, fun _ => Or.inr rfl, Or.inr rfl, Or.inr rfl, Or.inr rfl,
    Or.inr rfl, Or.inr ⟨rfl, rfl⟩, rfl⟩

variable (within : Within footprint before now)

include within

theorem setRegister {number : Register} (allowed : footprint.registers number) (byte : UInt8) :
    Within footprint before (now.setRegister number byte) := by
  refine { within with registers := ?_ }
  intro other
  by_cases same : other = number
  · subst same
    exact Or.inl allowed
  · rw [register_setRegister_of_ne now same]
    exact within.registers other

theorem setFlag (allowed : footprint.registers Register.flag) (flag : Bool) :
    Within footprint before (now.setFlag flag) :=
  within.setRegister allowed _

theorem setRam {ram : Bank 4096}
    (elsewhere : ∀ address, footprint.memory address ∨ ram.get address = now.ram.get address) :
    Within footprint before { now with ram := ram } := by
  refine { within with memory := ?_ }
  intro address
  rcases elsewhere address with allowed | same
  · exact Or.inl allowed
  · dsimp only
    rw [same]
    exact within.memory address

theorem setByte {place : Address} (allowed : footprint.memory place) (byte : UInt8) :
    Within footprint before { now with ram := now.ram.set place byte } := by
  apply within.setRam
  intro address
  by_cases same : address = place
  · subst same
    exact Or.inl allowed
  · exact Or.inr (Bank.get_set_of_ne now.ram same byte)

theorem setIndex (allowed : footprint.index) (index : Int) :
    Within footprint before { now with index := index } :=
  { within with index := Or.inl allowed }

theorem setPc (pc : Int) : Within footprint before { now with pc := pc } :=
  { within with }

theorem setDisplay (allowed : footprint.display) (display : Display Resolution.standard) :
    Within footprint before { now with display := display } :=
  { within with display := Or.inl allowed }

theorem setDelay (allowed : footprint.delay) (value : Int) :
    Within footprint before { now with timers := now.timers.setDelay value } :=
  { within with delay := Or.inl allowed, sound := within.sound }

theorem setSound (allowed : footprint.sound) (value : Int) :
    Within footprint before { now with timers := now.timers.setSound value } :=
  { within with delay := within.delay, sound := Or.inl allowed }

theorem setKeypad (allowed : footprint.latch) {keypad : Keypad}
    (sameKeys : keypad.down = now.keypad.down) :
    Within footprint before { now with keypad := keypad } :=
  { within with latch := Or.inl allowed, keys := sameKeys.trans within.keys }

end Within

end Machine

end Chip8
