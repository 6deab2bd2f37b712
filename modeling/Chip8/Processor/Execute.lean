import Chip8.Processor

/-!
Contract: what each instruction does.

Owns: `Processor.execute`, the effect of an instruction after the program counter has moved past
it, and the effects it is made of. An instruction that fails does so before it changes anything.

Does not own: fetching, and what a failure leads to.
-/

namespace Chip8

/-- Why an instruction was not carried out. -/
inductive Stop where
  | halt (cause : HaltCause)
  | fault (fault : Fault)
deriving DecidableEq, Repr

namespace Processor

/-- Replaces the machine. -/
def withMachine (processor : Processor) (machine : Machine) : Processor :=
  { processor with machine := machine }

def skipIf (processor : Processor) (condition : Bool) : Processor :=
  if condition then processor.withMachine processor.machine.advance else processor

/-- Stores a result and then the flag, which wins where both go to register 15. -/
def setWithFlag (processor : Processor) (register : Register) (byte : UInt8) (flag : Bool) :
    Processor :=
  processor.withMachine ((processor.machine.setRegister register byte).setFlag flag)

/-- The registers from 0 up to and including one. -/
def registersUpTo (last : Register) : List Register :=
  (List.finRange 16).filter (· ≤ last)

def returnFromCall (processor : Processor) : Except Stop Processor :=
  match processor.machine.stack.pop with
  | .error _ => .error (.halt .stackUnderflow)
  | .ok (address, stack) =>
    .ok (processor.withMachine { processor.machine with pc := address, stack := stack })

def callTo (processor : Processor) (target : Address) : Except Stop Processor :=
  match processor.machine.stack.push processor.machine.pc with
  | .error _ => .error (.halt .stackOverflow)
  | .ok stack =>
    .ok (processor.withMachine { processor.machine with pc := target.val, stack := stack })

def drawSprite (processor : Processor) (x y : UInt8) (height : Nat) : Processor :=
  let machine := processor.machine
  let rows : List Int := (List.range height).map fun (row : Nat) =>
    Int.ofNat (machine.byteAt (machine.index + row)).toNat
  let drawn := machine.display.draw x.toNat y.toNat rows
  processor.withMachine ({ machine with display := drawn.1 }.setFlag drawn.2)

def drawRandom (processor : Processor) (register : Register) (mask : UInt8) : Processor :=
  let (number, random) := processor.random.draw
  { processor with
    machine := processor.machine.setRegister register (UInt8.ofNat (number % 256).toNat &&& mask)
    random := random }

def addToIndex (processor : Processor) (byte : UInt8) : Processor :=
  let sum := processor.machine.index + byte.toNat
  let machine := { processor.machine with index := sum % 4096 }
  processor.withMachine
    (if processor.flagsIndexOverflow then machine.setFlag (decide (4095 < sum)) else machine)

/-- The hundreds go to the index itself, which has to be an address; the other digits wrap. -/
def storeDecimal (processor : Processor) (byte : UInt8) : Except Stop Processor :=
  let machine := processor.machine
  match machine.ram.write machine.index (byte / 100) with
  | .error fault => .error (.fault fault)
  | .ok ram =>
    let machine := { machine with ram := ram }
    let machine := machine.setByteAt (machine.index + 1) (byte / 10 % 10)
    .ok (processor.withMachine (machine.setByteAt (machine.index + 2) (byte % 10)))

def saveRegisters (processor : Processor) (last : Register) : Processor :=
  let machine := processor.machine
  processor.withMachine ((registersUpTo last).foldl
    (fun (machine : Machine) (register : Register) =>
      machine.setByteAt (machine.index + register.val) (machine.register register))
    machine)

def loadRegisters (processor : Processor) (last : Register) : Processor :=
  let machine := processor.machine
  processor.withMachine ((registersUpTo last).foldl
    (fun (machine : Machine) (register : Register) =>
      machine.setRegister register (machine.byteAt (machine.index + register.val)))
    machine)

/-- Leaves the program counter on the instruction that waits. -/
def beginAwait (processor : Processor) (register : Register) : Processor :=
  let machine := processor.machine.retreat
  { processor with
    machine := { machine with keypad := machine.keypad.beginWait }
    status := .awaitingKey register }

/-- Looks at the key that a register names. -/
def keyIsDown (processor : Processor) (byte : UInt8) : Except Stop Bool :=
  (processor.machine.keypad.isDown byte.toNat).mapError .fault

def execute (instruction : Instruction) (processor : Processor) : Except Stop Processor :=
  let machine := processor.machine
  let v := machine.register
  match instruction with
  | .clear => .ok (processor.withMachine { machine with display := machine.display.clear })
  | .ret => processor.returnFromCall
  | .jump target => .ok (processor.withMachine { machine with pc := target.val })
  | .call target => processor.callTo target
  | .skipIfByte x byte => .ok (processor.skipIf (v x == byte))
  | .skipUnlessByte x byte => .ok (processor.skipIf (v x != byte))
  | .skipIfSame x y => .ok (processor.skipIf (v x == v y))
  | .setByte x byte => .ok (processor.withMachine (machine.setRegister x byte))
  | .addByte x byte => .ok (processor.withMachine (machine.setRegister x (v x + byte)))
  | .copy x y => .ok (processor.withMachine (machine.setRegister x (v y)))
  | .or x y => .ok (processor.withMachine (machine.setRegister x (v x ||| v y)))
  | .and x y => .ok (processor.withMachine (machine.setRegister x (v x &&& v y)))
  | .xor x y => .ok (processor.withMachine (machine.setRegister x (v x ^^^ v y)))
  | .add x y => .ok (processor.setWithFlag x (v x + v y) (decide (255 < (v x).toNat + (v y).toNat)))
  | .sub x y => .ok (processor.setWithFlag x (v x - v y) (decide (v y ≤ v x)))
  | .shiftRight x => .ok (processor.setWithFlag x (v x / 2) (v x % 2 == 1))
  | .subFrom x y => .ok (processor.setWithFlag x (v y - v x) (decide (v x ≤ v y)))
  | .shiftLeft x => .ok (processor.setWithFlag x (v x + v x) (decide (128 ≤ v x)))
  | .skipUnlessSame x y => .ok (processor.skipIf (v x != v y))
  | .setIndex address => .ok (processor.withMachine { machine with index := address.val })
  | .jumpOffset address =>
    .ok (processor.withMachine {
      machine with pc := ((v Register.first).toNat + address.val) % 4096 })
  | .random x mask => .ok (processor.drawRandom x mask)
  | .draw x y height => .ok (processor.drawSprite (v x) (v y) height.val)
  | .skipIfKey x => do return processor.skipIf (← processor.keyIsDown (v x))
  | .skipUnlessKey x => do return processor.skipIf !(← processor.keyIsDown (v x))
  | .readDelay x =>
    match Bank.byteOf machine.timers.delay with
    | .error fault => .error (.fault fault)
    | .ok byte => .ok (processor.withMachine (machine.setRegister x byte))
  | .awaitKey x => .ok (processor.beginAwait x)
  | .writeDelay x =>
    .ok (processor.withMachine { machine with timers := machine.timers.setDelay (v x).toNat })
  | .writeSound x =>
    .ok (processor.withMachine { machine with timers := machine.timers.setSound (v x).toNat })
  | .addIndex x => .ok (processor.addToIndex (v x))
  | .glyph x =>
    .ok (processor.withMachine {
      machine with index := Font.location + Font.glyphSize * ((v x).toNat % 16) })
  | .decimal x => processor.storeDecimal (v x)
  | .saveRegisters x => .ok (processor.saveRegisters x)
  | .loadRegisters x => .ok (processor.loadRegisters x)
  | .unknown _ => .error (.halt .notAnInstruction)

end Processor

end Chip8
