import Chip8.Processor.Dump
import Chip8.Processor.Execute

/-!
Contract: one step of the processor.

Owns:
- `Processor.complete`, which turns the impossible acts of a program into a halt at the
  instruction that did it;
- `Processor.step`, the whole of it: nothing when halted, a look at the latch when awaiting a
  key, else fetch, report, execute.

Does not own: when steps are made.
-/

namespace Chip8.Processor

/-- What a step leads to, with the line reported on the way. -/
structure StepReport where
  processor : Processor
  trace : Option String
  fault : Option Fault

/-- Carries out the word fetched last. A halt puts the program counter back on it; after a fault
it stays behind it. -/
def complete (processor : Processor) : Processor × Option Fault :=
  let behind := processor.withMachine processor.machine.advance
  match behind.execute (Instruction.decode processor.word) with
  | .ok next => (next, none)
  | .error (.fault fault) => (behind, some fault)
  | .error (.halt cause) =>
    ({ behind with
      machine := { behind.machine with pc := processor.fetchedAt }
      status := .halted cause processor.word processor.fetchedAt }, none)

/-- Stores the latched key, if there is one, and moves past the waiting instruction. -/
def collectKey (processor : Processor) (register : Register) : Processor :=
  match processor.machine.keypad.take with
  | none => processor
  | some (key, keypad) =>
    let machine := { processor.machine with keypad := keypad }
    { processor with
      machine := (machine.setRegister register (UInt8.ofNat key.val)).advance
      status := .running }

def runInstruction (processor : Processor) : StepReport :=
  let fetchedAt := processor.machine.pc
  match processor.machine.fetch with
  | .error fault => ⟨{ processor with fetchedAt := fetchedAt }, none, some fault⟩
  | .ok word =>
    let fetched := { processor with fetchedAt := fetchedAt, word := word }
    let trace := if fetched.tracing then some fetched.dump else none
    let (next, fault) := fetched.complete
    ⟨next, trace, fault⟩

def step (processor : Processor) : StepReport :=
  match processor.status with
  | .halted .. => ⟨processor, none, none⟩
  | .awaitingKey register => ⟨processor.collectKey register, none, none⟩
  | .running => processor.runInstruction

end Chip8.Processor
