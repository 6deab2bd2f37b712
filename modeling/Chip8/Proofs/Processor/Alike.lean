import Chip8.Proofs.Processor.Transition

/-!
Contract: instructions treat processors alike that differ where the instructions do not look.

Owns:
- `Likeness`, a choice of the differences that are left open in the timers, the screen, the
  keypad and the random numbers;
- `Machine.Alike` and `Processor.Alike`, sameness in everything else that runs depend on;
- that every instruction a likeness admits leads from alike processors to alike results.

Does not own: steps, and any particular likeness.
-/

namespace Chip8

namespace Instruction

/-- Reads or writes a timer. -/
def usesTimers : Instruction → Bool
  | .readDelay _ | .writeDelay _ | .writeSound _ => true
  | _ => false

/-- Reads the keys or waits for one. -/
def usesKeypad : Instruction → Bool
  | .skipIfKey _ | .skipUnlessKey _ | .awaitKey _ => true
  | _ => false

end Instruction

/-- Differences that are left open. A screen just drawn on is marked on both sides, and random
numbers agree now and later. -/
structure Likeness where
  timers : Timers → Timers → Prop
  dirty : Bool → Bool → Prop
  keypad : Keypad → Keypad → Prop
  random : RandomSource → RandomSource → Prop
  dirty_drawn : dirty true true
  random_draw : ∀ {left right}, random left right →
    left.draw.1 = right.draw.1 ∧ random left.draw.2 right.draw.2

/-- An instruction that looks at a part finds the differences there harmless. -/
structure Likeness.Admits (likeness : Likeness) (instruction : Instruction) : Prop where
  timers : instruction.usesTimers = true → likeness.timers = Eq
  keys : instruction.usesKeypad = true → ∀ {left right}, likeness.keypad left right →
    left.down = right.down ∧ likeness.keypad left.beginWait right.beginWait

/-! ### Alike machines -/

namespace Machine

structure Alike (likeness : Likeness) (left right : Machine) : Prop where
  ram : left.ram = right.ram
  registers : left.registers = right.registers
  index : left.index = right.index
  pc : left.pc = right.pc
  stack : left.stack = right.stack
  timers : likeness.timers left.timers right.timers
  pixels : left.display.pixels = right.display.pixels
  dirty : likeness.dirty left.display.dirty right.display.dirty
  keypad : likeness.keypad left.keypad right.keypad

namespace Alike

variable {likeness : Likeness} {left right : Machine} (alike : left.Alike likeness right)

include alike

theorem register (number : Register) : left.register number = right.register number :=
  congrArg (fun (registers : Vector UInt8 16) => registers.get number) alike.registers

theorem byteAt {here there : Int} (same : here = there) :
    left.byteAt here = right.byteAt there := by
  unfold Machine.byteAt
  rw [alike.ram, same]

theorem nextWord : left.nextWord = right.nextWord := by
  unfold Machine.nextWord
  rw [alike.byteAt alike.pc, alike.byteAt (congrArg (· + 1) alike.pc)]

theorem setRegister (number : Register) (byte : UInt8) :
    (left.setRegister number byte).Alike likeness (right.setRegister number byte) :=
  { alike with
    registers := congrArg (fun (registers : Vector UInt8 16) => registers.set number byte)
      alike.registers }

theorem setFlag (flag : Bool) : (left.setFlag flag).Alike likeness (right.setFlag flag) :=
  alike.setRegister Register.flag _

theorem setRam (ram : Bank 4096) :
    { left with ram := ram }.Alike likeness { right with ram := ram } :=
  { alike with ram := rfl }

theorem setByteAt {here there : Int} (same : here = there) (byte : UInt8) :
    (left.setByteAt here byte).Alike likeness (right.setByteAt there byte) :=
  { alike with
    ram := by
      simp only [Machine.setByteAt]
      rw [alike.ram, same] }

theorem setIndex {here there : Int} (same : here = there) :
    { left with index := here }.Alike likeness { right with index := there } :=
  { alike with index := same }

theorem setPc {here there : Int} (same : here = there) :
    { left with pc := here }.Alike likeness { right with pc := there } :=
  { alike with pc := same }

theorem advance : left.advance.Alike likeness right.advance :=
  alike.setPc (congrArg (fun (pc : Int) => (pc + 2) % 4096) alike.pc)

theorem retreat : left.retreat.Alike likeness right.retreat :=
  alike.setPc (congrArg (fun (pc : Int) => (pc - 2) % 4096) alike.pc)

theorem setKeypad {here there : Keypad} (related : likeness.keypad here there) :
    { left with keypad := here }.Alike likeness { right with keypad := there } :=
  { alike with keypad := related }

theorem setTimers {here there : Timers} (related : likeness.timers here there) :
    { left with timers := here }.Alike likeness { right with timers := there } :=
  { alike with timers := related }

theorem setDisplay {here there : Display Resolution.standard} (pixels : here.pixels = there.pixels)
    (dirty : likeness.dirty here.dirty there.dirty) :
    { left with display := here }.Alike likeness { right with display := there } :=
  { alike with pixels := pixels, dirty := dirty }

end Alike

end Machine

/-- Drawing depends on the pixels only, and marks every screen on which it switches a pixel. -/
theorem Display.draw_alike {resolution : Resolution} {related : Bool → Bool → Prop}
    (drawn : related true true) {left right : Display resolution}
    (pixels : left.pixels = right.pixels) (dirty : related left.dirty right.dirty) (x y : Int)
    (rows : List Int) :
    (left.draw x y rows).1.pixels = (right.draw x y rows).1.pixels ∧
      related (left.draw x y rows).1.dirty (right.draw x y rows).1.dirty ∧
      (left.draw x y rows).2 = (right.draw x y rows).2 := by
  unfold Display.draw
  refine List.foldl_rel
    (r := fun (here there : Display resolution × Bool) => here.1.pixels = there.1.pixels ∧
      related here.1.dirty there.1.dirty ∧ here.2 = there.2) ⟨pixels, dirty, rfl⟩ ?_
  rintro point - here there ⟨samePixels, -, sameFlag⟩
  refine ⟨?_, drawn, ?_⟩
  · simp only [Display.flip, samePixels]
  · simp only [Display.flip, samePixels, sameFlag]

namespace Processor

/-! ### Alike processors -/

/-- The word decoded last, where it was fetched, and tracing may differ in any case. -/
structure Alike (likeness : Likeness) (left right : Processor) : Prop where
  machine : left.machine.Alike likeness right.machine
  status : left.status = right.status
  flags : left.flagsIndexOverflow = right.flagsIndexOverflow
  random : likeness.random left.random right.random

/-- Both carried out, with related results, or both stopped for the same reason. -/
inductive Matches (related : Processor → Processor → Prop) :
    Except Stop Processor → Except Stop Processor → Prop where
  | done {left right : Processor} (results : related left right) :
    Matches related (.ok left) (.ok right)
  | stop (stop : Stop) : Matches related (.error stop) (.error stop)

theorem keyIsDown_congr {left right : Processor}
    (sameKeys : left.machine.keypad.down = right.machine.keypad.down) (byte : UInt8) :
    left.keyIsDown byte = right.keyIsDown byte := by
  unfold keyIsDown Keypad.isDown
  rw [sameKeys]

namespace Alike

variable {likeness : Likeness} {left right : Processor} (alike : left.Alike likeness right)

include alike

theorem withMachine {here there : Machine} (machines : here.Alike likeness there) :
    (left.withMachine here).Alike likeness (right.withMachine there) :=
  { alike with machine := machines }

theorem skipIf (condition : Bool) :
    (left.skipIf condition).Alike likeness (right.skipIf condition) := by
  unfold Processor.skipIf
  cases condition with
  | false => exact alike
  | true => exact alike.withMachine alike.machine.advance

theorem setWithFlag (register : Register) (byte : UInt8) (flag : Bool) :
    (left.setWithFlag register byte flag).Alike likeness (right.setWithFlag register byte flag) :=
  alike.withMachine ((alike.machine.setRegister register byte).setFlag flag)

theorem returnFromCall :
    Matches (Alike likeness) left.returnFromCall right.returnFromCall := by
  unfold Processor.returnFromCall
  rw [alike.machine.stack]
  cases right.machine.stack.pop with
  | error => exact .stop _
  | ok popped => exact .done (alike.withMachine { alike.machine with pc := rfl, stack := rfl })

theorem callTo (target : Address) :
    Matches (Alike likeness) (left.callTo target) (right.callTo target) := by
  unfold Processor.callTo
  rw [alike.machine.stack, alike.machine.pc]
  cases right.machine.stack.push right.machine.pc with
  | error => exact .stop _
  | ok stack => exact .done (alike.withMachine { alike.machine with pc := rfl, stack := rfl })

theorem drawSprite (x y : UInt8) (height : Nat) :
    (left.drawSprite x y height).Alike likeness (right.drawSprite x y height) := by
  have sameRows : ∀ row : Nat, left.machine.byteAt (left.machine.index + row) =
      right.machine.byteAt (right.machine.index + row) := by
    intro row
    exact alike.machine.byteAt (congrArg (· + (row : Int)) alike.machine.index)
  unfold Processor.drawSprite
  simp only [sameRows]
  obtain ⟨pixels, dirty, flag⟩ := Display.draw_alike likeness.dirty_drawn alike.machine.pixels
    alike.machine.dirty x.toNat y.toNat ((List.range height).map fun (row : Nat) =>
      Int.ofNat (right.machine.byteAt (right.machine.index + row)).toNat)
  rw [flag]
  exact alike.withMachine ((alike.machine.setDisplay pixels dirty).setFlag _)

theorem drawRandom (register : Register) (mask : UInt8) :
    (left.drawRandom register mask).Alike likeness (right.drawRandom register mask) := by
  obtain ⟨sameNumber, later⟩ := likeness.random_draw alike.random
  unfold Processor.drawRandom
  dsimp only
  rw [sameNumber]
  exact { alike with machine := alike.machine.setRegister _ _, random := later }

theorem addToIndex (byte : UInt8) :
    (left.addToIndex byte).Alike likeness (right.addToIndex byte) := by
  have moved := alike.machine.setIndex
    (congrArg (fun (index : Int) => (index + byte.toNat) % 4096) alike.machine.index)
  unfold Processor.addToIndex
  dsimp only
  rw [alike.flags]
  cases right.flagsIndexOverflow with
  | false => exact alike.withMachine moved
  | true =>
    simp only [if_true]
    rw [alike.machine.index]
    exact alike.withMachine (Machine.Alike.setFlag (alike.machine.setIndex rfl) _)

theorem storeDecimal (byte : UInt8) :
    Matches (Alike likeness) (left.storeDecimal byte) (right.storeDecimal byte) := by
  have sameWrite : left.machine.ram.write left.machine.index (byte / 100) =
      right.machine.ram.write right.machine.index (byte / 100) := by
    rw [alike.machine.ram, alike.machine.index]
  unfold Processor.storeDecimal
  dsimp only
  rw [sameWrite]
  cases right.machine.ram.write right.machine.index (byte / 100) with
  | error => exact .stop _
  | ok ram =>
    have hundreds := alike.machine.setRam ram
    have tens := hundreds.setByteAt (congrArg (· + 1) alike.machine.index) (byte / 10 % 10)
    exact .done (alike.withMachine
      (tens.setByteAt (congrArg (· + 2) alike.machine.index) (byte % 10)))

theorem saveRegisters (last : Register) :
    (left.saveRegisters last).Alike likeness (right.saveRegisters last) := by
  refine alike.withMachine (List.foldl_rel alike.machine ?_)
  intro register _ here there soFar
  rw [soFar.register register]
  exact soFar.setByteAt (congrArg (· + (register.val : Int)) soFar.index) _

theorem loadRegisters (last : Register) :
    (left.loadRegisters last).Alike likeness (right.loadRegisters last) := by
  refine alike.withMachine (List.foldl_rel alike.machine ?_)
  intro register _ here there soFar
  rw [soFar.byteAt (congrArg (· + (register.val : Int)) soFar.index)]
  exact soFar.setRegister register _

end Alike

/-- Alike processors carry out an instruction alike if it does not look at what differs. -/
theorem Alike.execute {likeness : Likeness} {instruction : Instruction}
    (admits : likeness.Admits instruction) {left right : Processor}
    (alike : left.Alike likeness right) :
    Matches (Alike likeness) (Processor.execute instruction left)
      (Processor.execute instruction right) := by
  have sameRegisters : left.machine.register = right.machine.register :=
    funext alike.machine.register
  cases instruction with
  | clear =>
    exact .done (alike.withMachine (alike.machine.setDisplay rfl likeness.dirty_drawn))
  | ret => exact alike.returnFromCall
  | jump => exact .done (alike.withMachine (alike.machine.setPc rfl))
  | call target => exact alike.callTo target
  | skipIfByte | skipUnlessByte | skipIfSame | skipUnlessSame =>
    simp only [Processor.execute, sameRegisters]
    exact .done (alike.skipIf _)
  | setByte | addByte | copy | or | and | xor =>
    simp only [Processor.execute, sameRegisters]
    exact .done (alike.withMachine (alike.machine.setRegister _ _))
  | add | sub | shiftRight | subFrom | shiftLeft =>
    simp only [Processor.execute, sameRegisters]
    exact .done (alike.setWithFlag _ _ _)
  | setIndex => exact .done (alike.withMachine (alike.machine.setIndex rfl))
  | jumpOffset =>
    simp only [Processor.execute, sameRegisters]
    exact .done (alike.withMachine (alike.machine.setPc rfl))
  | glyph =>
    simp only [Processor.execute, sameRegisters]
    exact .done (alike.withMachine (alike.machine.setIndex rfl))
  | random register mask => exact .done (alike.drawRandom register mask)
  | draw =>
    simp only [Processor.execute, sameRegisters]
    exact .done (alike.drawSprite _ _ _)
  | skipIfKey x | skipUnlessKey x =>
    obtain ⟨sameKeys, -⟩ := admits.keys rfl alike.machine.keypad
    simp only [Processor.execute, sameRegisters, keyIsDown_congr sameKeys]
    cases right.keyIsDown (right.machine.register x) with
    | error => exact .stop _
    | ok down => exact .done (alike.skipIf _)
  | readDelay =>
    have sameTimers : left.machine.timers = right.machine.timers := by
      rw [← admits.timers rfl]
      exact alike.machine.timers
    simp only [Processor.execute, sameTimers]
    cases Bank.byteOf right.machine.timers.delay with
    | error => exact .stop _
    | ok byte => exact .done (alike.withMachine (alike.machine.setRegister _ byte))
  | awaitKey register =>
    obtain ⟨-, waits⟩ := admits.keys rfl alike.machine.keypad
    exact .done { alike with
      machine := alike.machine.retreat.setKeypad waits
      status := rfl }
  | writeDelay | writeSound =>
    have sameTimers : left.machine.timers = right.machine.timers := by
      rw [← admits.timers rfl]
      exact alike.machine.timers
    simp only [Processor.execute, sameRegisters, sameTimers]
    refine .done (alike.withMachine (alike.machine.setTimers ?_))
    rw [admits.timers rfl]
  | addIndex =>
    simp only [Processor.execute, sameRegisters]
    exact .done (alike.addToIndex _)
  | decimal =>
    simp only [Processor.execute, sameRegisters]
    exact alike.storeDecimal _
  | saveRegisters last => exact .done (alike.saveRegisters last)
  | loadRegisters last => exact .done (alike.loadRegisters last)
  | unknown => exact .stop _

end Processor

end Chip8
