import Chip8.Machine

/-!
Contract: copies of a machine, and going back to one.

Owns: `Snapshot`, which holds what a restore puts back and no more (neither the latch of the
keypad nor whether it is armed), and `Machine.restore`, which accepts fields of any shape, puts
them back one after the other and stops at the first that does not fit.
-/

namespace Chip8

structure Snapshot where
  memory : List UInt8
  registers : List UInt8
  index : Int
  pc : Int
  /-- Oldest entry first. -/
  stack : List Int
  delay : Int
  sound : Int
  screen : Grid
  keys : List Bool
deriving DecidableEq, Repr

namespace Machine

def snapshot (machine : Machine) : Snapshot where
  memory := machine.ram.toList
  registers := machine.registers.toList
  index := machine.index
  pc := machine.pc
  stack := machine.stack.oldestFirst
  delay := machine.timers.delay
  sound := machine.timers.sound
  screen := machine.display.grid
  keys := machine.keypad.down

def registersOf (bytes : List UInt8) : Except Fault (Vector UInt8 16) :=
  if sixteen : bytes.toArray.size = 16 then
    .ok ⟨bytes.toArray, sixteen⟩
  else
    .error .sizeMismatch

def restoreMemory (machine : Machine) (memory : List UInt8) : Attempt Machine :=
  (machine.ram.writeBlock 0 memory).within fun ram => { machine with ram := ram }

def restoreRegisters (machine : Machine) (registers : List UInt8) : Attempt Machine :=
  .guarded machine (registersOf registers) fun registers =>
    ({ machine with registers := registers }, none)

def restoreStack (machine : Machine) (entries : List Int) : Attempt Machine :=
  .guarded machine (CallStack.ofOldestFirst entries) fun stack =>
    ({ machine with stack := stack }, none)

def restoreScreen (machine : Machine) (screen : Grid) : Attempt Machine :=
  (machine.display.load screen).within fun display => { machine with display := display }

/-- The stages of a restore, in order. -/
def restoreStages (saved : Snapshot) : List (Machine → Attempt Machine) := [
  (·.restoreMemory saved.memory),
  (·.restoreRegisters saved.registers),
  fun machine => ({ machine with index := saved.index, pc := saved.pc }, none),
  (·.restoreStack saved.stack),
  fun machine => ({ machine with timers := ⟨saved.delay, saved.sound⟩ }, none),
  (·.restoreScreen saved.screen),
  fun machine => ({ machine with keypad := { machine.keypad with down := saved.keys } }, none)]

/-- Runs stages until one is stopped; what was done by then stays. -/
def runStages : List (Machine → Attempt Machine) → Machine → Attempt Machine
  | [], machine => (machine, none)
  | stage :: later, machine => (stage machine).andThen (runStages later)

def restore (machine : Machine) (saved : Snapshot) : Attempt Machine :=
  runStages (restoreStages saved) machine

end Machine

end Chip8
