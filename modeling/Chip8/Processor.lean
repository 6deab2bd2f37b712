import Chip8.Machine.Snapshot

/-!
Contract: the processor around a machine.

Owns:
- `Status`, one of running, awaiting a key and halted, and `HaltCause`, the three ways in which
  a program does something impossible;
- `RandomSource`, a sequence of numbers of which a count is drawn;
- `Processor` with its start, its reset, and saving and restoring.

Does not own: the execution of instructions.
-/

namespace Chip8

inductive HaltCause where
  | notAnInstruction
  | stackOverflow
  | stackUnderflow
deriving DecidableEq, Repr

/-- What is said of the instruction `word` at `address` that halted the processor. -/
def HaltCause.message (cause : HaltCause) (word : Word) (address : Int) : String :=
  match cause with
  | .notAnInstruction =>
    "Opcode 0x" ++ Hex.padded 4 word.toNat ++ " at address 0x" ++ Hex.padded 3 address ++
      " is not a CHIP-8 instruction"
  | .stackOverflow => Fault.message .stackOverflow
  | .stackUnderflow => Fault.message .stackUnderflow

inductive Status where
  | running
  /-- The next key to go down is stored in `register`. -/
  | awaitingKey (register : Register)
  | halted (cause : HaltCause) (word : Word) (address : Int)
deriving DecidableEq, Repr

namespace Status

def isRunning : Status → Bool
  | .running => true
  | _ => false

def isAwaitingKey : Status → Bool
  | .awaitingKey _ => true
  | _ => false

def isHalted : Status → Bool
  | .halted .. => true
  | _ => false

def reason : Status → Option String
  | .halted cause word address => some (cause.message word address)
  | _ => none

end Status

/-- The number of the next draw depends on how many were drawn, and on nothing else. -/
structure RandomSource where
  answer : Nat → Int
  drawn : Nat

def RandomSource.draw (source : RandomSource) : Int × RandomSource :=
  (source.answer source.drawn, { source with drawn := source.drawn + 1 })

structure Processor where
  machine : Machine
  status : Status
  /-- The word decoded last. -/
  word : Word
  /-- Where that word was fetched. -/
  fetchedAt : Int
  /-- Adding to the index sets the flag register when the index leaves twelve bits. -/
  flagsIndexOverflow : Bool
  /-- Every instruction is reported before it is executed. -/
  tracing : Bool
  random : RandomSource

namespace Processor

def start (flagsIndexOverflow tracing : Bool) (random : RandomSource) : Processor where
  machine := Machine.fresh
  status := .running
  word := 0
  fetchedAt := programStart
  flagsIndexOverflow := flagsIndexOverflow
  tracing := tracing
  random := random

def load (processor : Processor) (program : List UInt8) : Attempt Processor :=
  (processor.machine.load program).within fun machine => { processor with machine := machine }

def reset (processor : Processor) : Processor :=
  { processor with
    machine := processor.machine.reset
    status := .running
    word := 0
    fetchedAt := programStart }

def tick (processor : Processor) : Processor :=
  { processor with machine := processor.machine.tick }

def setKeyAt (processor : Processor) (key : Int) (pressed : Bool) : Except Fault Processor := do
  return { processor with machine := ← processor.machine.setKeyAt key pressed }

def soundActive (processor : Processor) : Bool :=
  processor.machine.timers.soundActive

/-! ### Saving and restoring -/

structure Saved where
  snapshot : Snapshot
  status : Status
deriving DecidableEq, Repr

def save (processor : Processor) : Saved :=
  ⟨processor.machine.snapshot, processor.status⟩

/-- Going back to a wait for a key starts the wait anew. A snapshot that does not fit leaves the
status alone. -/
def restore (processor : Processor) (saved : Saved) : Attempt Processor :=
  match processor.machine.restore saved.snapshot with
  | (machine, some fault) => ({ processor with machine := machine }, some fault)
  | (machine, none) =>
    let machine :=
      if saved.status.isAwaitingKey then
        { machine with keypad := machine.keypad.beginWait }
      else
        machine
    ({ processor with
      machine := machine
      status := saved.status
      fetchedAt := saved.snapshot.pc }, none)

end Processor

end Chip8
