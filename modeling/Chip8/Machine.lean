import Chip8.CallStack
import Chip8.Display
import Chip8.Instruction
import Chip8.Keypad
import Chip8.Timers

/-!
Contract: all that a program can see or change.

Owns: `Machine` with its fresh state, its reset, the loading of programs, and the accessors that
instructions are made of. The index and the program counter are kept as given; the operations
that a program can reach keep them to twelve bits.
-/

namespace Chip8

structure Machine where
  ram : Bank 4096
  registers : Vector UInt8 16
  index : Int
  pc : Int
  stack : CallStack 16
  timers : Timers
  display : Display Resolution.standard
  keypad : Keypad
deriving DecidableEq, Repr

namespace Machine

/-- Everything but memory above the font is as on a fresh machine, so a program can run again. -/
def reset (machine : Machine) : Machine where
  ram := machine.ram.overlay Font.location Font.bytes
  registers := Vector.replicate 16 0
  index := 0
  pc := programStart
  stack := CallStack.empty
  timers := Timers.zero
  display := Display.blank
  keypad := Keypad.released

def fresh : Machine where
  ram := (Bank.blank 4096).overlay Font.location Font.bytes
  registers := Vector.replicate 16 0
  index := 0
  pc := programStart
  stack := CallStack.empty
  timers := Timers.zero
  display := Display.blank
  keypad := Keypad.released

/-- The size is looked at first, so a program too large changes nothing. -/
def load (machine : Machine) (program : List UInt8) : Attempt Machine :=
  if programLimit < program.length then
    (machine, some (.programTooLarge program.length))
  else
    (machine.ram.writeBlock programStart program).within fun ram => { machine with ram := ram }

/-! ### Registers and memory -/

def register (machine : Machine) (number : Register) : UInt8 :=
  machine.registers.get number

def setRegister (machine : Machine) (register : Register) (byte : UInt8) : Machine :=
  { machine with registers := machine.registers.set register byte }

/-- The flag tells of a carry, a missing borrow, a bit shifted out or a collision. -/
def setFlag (machine : Machine) (flag : Bool) : Machine :=
  machine.setRegister Register.flag (if flag then 1 else 0)

/-- A register by any number; one below zero counts from the last register. The number is looked
at first, then whether the value is a byte. -/
def setRegisterAt (machine : Machine) (register value : Int) : Except Fault Machine :=
  let place := if register < 0 then register + 16 else register
  if inside : 0 ≤ place ∧ place < 16 then do
    return machine.setRegister ⟨place.toNat, by omega⟩ (← Bank.byteOf value)
  else
    .error .indexOutside

/-- The byte at an address of which the low twelve bits count. -/
def byteAt (machine : Machine) (location : Int) : UInt8 :=
  machine.ram.get (Address.wrap location)

def setByteAt (machine : Machine) (location : Int) (byte : UInt8) : Machine :=
  { machine with ram := machine.ram.set (Address.wrap location) byte }

/-! ### Program counter -/

/-- The word at the program counter. Its first byte has to be in memory, its second wraps. -/
def fetch (machine : Machine) : Except Fault Word := do
  let high ← machine.ram.read machine.pc
  return Word.ofBytes high (machine.byteAt (machine.pc + 1))

/-- Puts a word where the next one is fetched; a word of more than sixteen bits is no pair of
bytes. -/
def place (machine : Machine) (word : Int) : Except Fault Machine := do
  let ram ← machine.ram.store machine.pc (word >>> (8 : Nat))
  return setByteAt { machine with ram := ram } (machine.pc + 1) (UInt8.ofNat (word % 256).toNat)

def advance (machine : Machine) : Machine :=
  { machine with pc := (machine.pc + 2) % 4096 }

def retreat (machine : Machine) : Machine :=
  { machine with pc := (machine.pc - 2) % 4096 }

/-! ### Timers and keys -/

def tick (machine : Machine) : Machine :=
  { machine with timers := machine.timers.tick }

def setKeyAt (machine : Machine) (key : Int) (pressed : Bool) : Except Fault Machine := do
  return { machine with keypad := ← machine.keypad.setKeyAt key pressed }

end Machine

end Chip8
