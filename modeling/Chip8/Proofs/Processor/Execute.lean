import Chip8.Processor.Execute
import Chip8.Proofs.Machine.WellFormed

/-!
Contract: what every instruction has in common on a well-formed machine.

Owns:
- `Regular`, an instruction that is either carried out or halts the processor;
- that every instruction is regular on a well-formed machine and leaves one behind;
- `Carried`, which says what an instruction can replace besides the machine: the wait for a key
  changes the status, a random number moves its source on, and nothing else is ever replaced.

Does not own: what the single instructions do.
-/

namespace Chip8.Processor

/-- Carried out with a result of which `holds` is true, or halted by the program's own fault. -/
inductive Regular (holds : Processor → Prop) : Except Stop Processor → Prop where
  | done {next : Processor} (result : holds next) : Regular holds (.ok next)
  | halt (cause : HaltCause) : Regular holds (.error (.halt cause))

@[simp] theorem machine_withMachine (processor : Processor) (machine : Machine) :
    (processor.withMachine machine).machine = machine :=
  rfl

/-! ### Effects on a well-formed machine -/

section Effects

variable {processor : Processor} (wellFormed : processor.machine.WellFormed)

include wellFormed

theorem wellFormed_skipIf (condition : Bool) : (processor.skipIf condition).machine.WellFormed := by
  unfold skipIf
  split
  · exact wellFormed.advance
  · exact wellFormed

theorem wellFormed_setWithFlag (register : Register) (byte : UInt8) (flag : Bool) :
    (processor.setWithFlag register byte flag).machine.WellFormed :=
  (wellFormed.setRegister register byte).setFlag flag

theorem regular_returnFromCall :
    Regular (fun next => next.machine.WellFormed) processor.returnFromCall := by
  unfold returnFromCall
  split
  · exact .halt _
  · rename_i address stack popped
    obtain ⟨inside, rest⟩ := wellFormed.stack.pop popped
    exact .done { wellFormed with pc := inside, stack := rest }

theorem regular_callTo (target : Address) :
    Regular (fun next => next.machine.WellFormed) (processor.callTo target) := by
  unfold callTo
  split
  · exact .halt _
  · rename_i stack pushed
    have grown := wellFormed.stack.push wellFormed.pc pushed
    exact .done { wellFormed with pc := isAddress_val target, stack := grown }

theorem wellFormed_drawSprite (x y : UInt8) (height : Nat) :
    (processor.drawSprite x y height).machine.WellFormed :=
  (wellFormed.setDisplay (wellFormed.display.draw _ _ _)).setFlag _

theorem wellFormed_addToIndex (byte : UInt8) :
    (processor.addToIndex byte).machine.WellFormed := by
  have moved := wellFormed.setIndex (isAddress_emod (processor.machine.index + byte.toNat))
  unfold addToIndex
  dsimp only [machine_withMachine]
  split
  · exact moved.setFlag _
  · exact moved

theorem regular_storeDecimal (byte : UInt8) :
    Regular (fun next => next.machine.WellFormed) (processor.storeDecimal byte) := by
  unfold storeDecimal
  dsimp only
  rw [Bank.write_of_holds processor.machine.ram wellFormed.index]
  refine .done ?_
  apply Machine.WellFormed.setByteAt
  apply Machine.WellFormed.setByteAt
  exact wellFormed.setRam _

theorem wellFormed_saveRegisters (last : Register) :
    (processor.saveRegisters last).machine.WellFormed :=
  List.foldlRecOn (motive := Machine.WellFormed) (registersUpTo last) _ wellFormed
    fun _ soFar _ _ => soFar.setByteAt _ _

theorem wellFormed_loadRegisters (last : Register) :
    (processor.loadRegisters last).machine.WellFormed :=
  List.foldlRecOn (motive := Machine.WellFormed) (registersUpTo last) _ wellFormed
    fun _ soFar _ _ => soFar.setRegister _ _

theorem wellFormed_beginAwait (register : Register) :
    (processor.beginAwait register).machine.WellFormed :=
  wellFormed.retreat.setKeypad wellFormed.keypad

theorem exists_keyIsDown (byte : UInt8) : ∃ down, processor.keyIsDown byte = .ok down := by
  obtain ⟨down, looked⟩ := wellFormed.keypad.isDown byte.toNat
  refine ⟨down, ?_⟩
  unfold keyIsDown
  rw [looked]
  rfl

end Effects

/-- No instruction is refused on a well-formed machine, and each leaves one behind. -/
theorem regular_execute {processor : Processor} (wellFormed : processor.machine.WellFormed)
    (instruction : Instruction) :
    Regular (fun next => next.machine.WellFormed) (execute instruction processor) := by
  cases instruction with
  | clear => exact .done (wellFormed.setDisplay Display.twoValued_blank)
  | ret => exact regular_returnFromCall wellFormed
  | jump target => exact .done (wellFormed.setPc (isAddress_val target))
  | call target => exact regular_callTo wellFormed target
  | skipIfByte | skipUnlessByte | skipIfSame | skipUnlessSame =>
    exact .done (wellFormed_skipIf wellFormed _)
  | setByte | addByte | copy | or | and | xor | random =>
    exact .done (wellFormed.setRegister _ _)
  | add | sub | shiftRight | subFrom | shiftLeft =>
    exact .done (wellFormed_setWithFlag wellFormed _ _ _)
  | setIndex address => exact .done (wellFormed.setIndex (isAddress_val address))
  | jumpOffset => exact .done (wellFormed.setPc (isAddress_emod _))
  | draw => exact .done (wellFormed_drawSprite wellFormed _ _ _)
  | skipIfKey x | skipUnlessKey x =>
    obtain ⟨down, looked⟩ := exists_keyIsDown wellFormed (processor.machine.register x)
    simp only [execute, looked]
    exact .done (wellFormed_skipIf wellFormed _)
  | readDelay =>
    simp only [execute, Bank.byteOf_of_isByte wellFormed.timers.delay]
    exact .done (wellFormed.setRegister _ _)
  | awaitKey register => exact .done (wellFormed_beginAwait wellFormed register)
  | writeDelay => exact .done { wellFormed with timers := wellFormed.timers.setDelay _ }
  | writeSound => exact .done { wellFormed with timers := wellFormed.timers.setSound _ }
  | addIndex => exact .done (wellFormed_addToIndex wellFormed _)
  | glyph => exact .done (wellFormed.setIndex (isAddress_glyph _))
  | decimal => exact regular_storeDecimal wellFormed _
  | saveRegisters last => exact .done (wellFormed_saveRegisters wellFormed last)
  | loadRegisters last => exact .done (wellFormed_loadRegisters wellFormed last)
  | unknown => exact .halt _

/-! ### What is replaced besides the machine -/

/-- The three ways in which an instruction is carried out. -/
inductive Carried (processor : Processor) : Instruction → Processor → Prop where
  | waited (register : Register) :
    Carried processor (.awaitKey register) (processor.beginAwait register)
  | drew (register : Register) (mask : UInt8) :
    Carried processor (.random register mask) (processor.drawRandom register mask)
  | moved {instruction : Instruction} (machine : Machine)
    (noWait : ∀ register, instruction ≠ .awaitKey register)
    (noDraw : ∀ register mask, instruction ≠ .random register mask) :
    Carried processor instruction (processor.withMachine machine)

theorem exists_skipIf (processor : Processor) (condition : Bool) :
    ∃ machine, processor.skipIf condition = processor.withMachine machine := by
  cases condition with
  | false => exact ⟨processor.machine, rfl⟩
  | true => exact ⟨processor.machine.advance, rfl⟩

theorem exists_returnFromCall {processor next : Processor}
    (done : processor.returnFromCall = .ok next) :
    ∃ machine, next = processor.withMachine machine := by
  unfold returnFromCall at done
  split at done
  · contradiction
  · cases done
    exact ⟨_, rfl⟩

theorem exists_callTo {processor next : Processor} {target : Address}
    (done : processor.callTo target = .ok next) :
    ∃ machine, next = processor.withMachine machine := by
  unfold callTo at done
  split at done
  · contradiction
  · cases done
    exact ⟨_, rfl⟩

theorem exists_storeDecimal {processor next : Processor} {byte : UInt8}
    (done : processor.storeDecimal byte = .ok next) :
    ∃ machine, next = processor.withMachine machine := by
  unfold storeDecimal at done
  dsimp only at done
  split at done
  · contradiction
  · cases done
    exact ⟨_, rfl⟩

theorem carried_of_execute {processor next : Processor} {instruction : Instruction}
    (done : execute instruction processor = .ok next) : Carried processor instruction next := by
  have byMachine : (∃ machine, next = processor.withMachine machine) →
      (∀ register, instruction ≠ .awaitKey register) →
      (∀ register mask, instruction ≠ .random register mask) →
      Carried processor instruction next := by
    rintro ⟨machine, rfl⟩ noWait noDraw
    exact .moved machine noWait noDraw
  cases instruction with
  | awaitKey register =>
    cases done
    exact .waited register
  | random register mask =>
    cases done
    exact .drew register mask
  | clear | jump | setByte | addByte | copy | or | and | xor | add | sub | shiftRight | subFrom
    | shiftLeft | setIndex | jumpOffset | draw | writeDelay | writeSound | addIndex | glyph
    | saveRegisters | loadRegisters =>
    cases done
    exact byMachine ⟨_, rfl⟩ nofun nofun
  | skipIfByte | skipUnlessByte | skipIfSame | skipUnlessSame =>
    cases done
    exact byMachine (exists_skipIf _ _) nofun nofun
  | skipIfKey x | skipUnlessKey x =>
    cases looked : processor.keyIsDown (processor.machine.register x) with
    | error stop =>
      simp only [execute, looked] at done
      contradiction
    | ok down =>
      simp only [execute, looked] at done
      cases done
      exact byMachine (exists_skipIf _ _) nofun nofun
  | readDelay =>
    simp only [execute] at done
    split at done
    · contradiction
    · cases done
      exact byMachine ⟨_, rfl⟩ nofun nofun
  | ret => exact byMachine (exists_returnFromCall done) nofun nofun
  | call => exact byMachine (exists_callTo done) nofun nofun
  | decimal => exact byMachine (exists_storeDecimal done) nofun nofun
  | unknown => contradiction

/-- Only the wait for a key leaves the status it found. -/
theorem status_of_execute {processor next : Processor} {instruction : Instruction}
    (done : execute instruction processor = .ok next) :
    next.status = processor.status ∨
      ∃ register, instruction = .awaitKey register ∧ next = processor.beginAwait register := by
  cases carried_of_execute done with
  | waited register => exact Or.inr ⟨register, rfl, rfl⟩
  | drew | moved => exact Or.inl rfl

/-- Random numbers are drawn, but the ones still to come are never replaced. -/
theorem answer_of_execute {processor next : Processor} {instruction : Instruction}
    (done : execute instruction processor = .ok next) :
    next.random.answer = processor.random.answer := by
  cases carried_of_execute done with
  | waited | drew | moved => rfl

/-- A wait that an instruction began is a new one. -/
theorem keypad_of_awaitingKey {processor next : Processor} {instruction : Instruction}
    (done : execute instruction processor = .ok next)
    (before : processor.status.isAwaitingKey = false)
    (awaiting : next.status.isAwaitingKey = true) :
    next.machine.keypad = processor.machine.keypad.beginWait := by
  rcases status_of_execute done with same | ⟨register, -, rfl⟩
  · rw [same, before] at awaiting
    contradiction
  · rfl

end Chip8.Processor
