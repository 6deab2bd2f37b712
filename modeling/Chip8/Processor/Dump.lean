import Chip8.Instruction.Mnemonic
import Chip8.Processor

/-!
Contract: the text that shows a processor to somebody debugging a program.

Owns: `Processor.dump`, one line with the registers, the timers and the instruction decoded last,
and `Processor.fullDump`, which adds the stack and why the processor halted.
-/

namespace Chip8.Processor

/-- Register 15 comes first and register 0 last. -/
def registersText (machine : Machine) : String :=
  String.join ((machine.registers.toList.reverse).map Hex.byte)

def dump (processor : Processor) : String :=
  let machine := processor.machine
  "V: 0x" ++ registersText machine ++
    " I: 0x" ++ Hex.padded 3 machine.index ++
    " DT: 0x" ++ Hex.padded 2 machine.timers.delay ++
    " ST: 0x" ++ Hex.padded 2 machine.timers.sound ++
    " PC: 0x" ++ Hex.padded 3 processor.fetchedAt ++
    " OP: 0x" ++ Hex.padded 4 processor.word.toNat ++
    " IN: " ++ (Instruction.decode processor.word).mnemonic

/-- Oldest entry first. -/
def stackText (stack : CallStack 16) : String :=
  if stack.entries.isEmpty then
    " (Empty)"
  else
    String.join (stack.oldestFirst.map fun entry => " 0x" ++ Hex.padded 3 entry)

def fullDump (processor : Processor) : String :=
  processor.dump ++ "\nStack:" ++ stackText processor.machine.stack ++
    match processor.status.reason with
    | some reason => "\nReason: " ++ reason
    | none => ""

end Chip8.Processor
