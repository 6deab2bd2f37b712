import Chip8.Input.KeyMap
import Chip8.Processor.Step

/-!
Contract: why a step or a key event can be refused, on machines of any kind.

Owns: `Fault.OfMachine`, the causes that a machine by itself can give, and that a step or a key
event which is refused has one of them.

Does not own: that no step is refused on a well-formed machine.
-/

namespace Chip8

/-- A cause that lies in a machine whose parts are out of bounds. -/
inductive Fault.OfMachine : Fault → Prop where
  | addressOutside (location : Int) : OfMachine (.addressOutside location)
  | indexOutside : OfMachine .indexOutside
  | notAByte : OfMachine .notAByte

namespace Bank

variable {size : Nat} {location : Int} {fault : Fault}

theorem ofMachine_of_read {bank : Bank size} (refused : bank.read location = .error fault) :
    fault.OfMachine := by
  unfold read at refused
  split at refused
  · contradiction
  · cases refused
    exact .addressOutside location

theorem ofMachine_of_write {bank : Bank size} {byte : UInt8}
    (refused : bank.write location byte = .error fault) : fault.OfMachine := by
  unfold write at refused
  split at refused
  · contradiction
  · cases refused
    exact .addressOutside location

theorem ofMachine_of_byteOf {value : Int} (refused : byteOf value = .error fault) :
    fault.OfMachine := by
  unfold byteOf at refused
  split at refused
  · contradiction
  · cases refused
    exact .notAByte

end Bank

namespace Keypad

variable {keypad : Keypad} {fault : Fault}

theorem ofMachine_of_isDown {key : Int} (refused : keypad.isDown key = .error fault) :
    fault.OfMachine := by
  unfold isDown at refused
  split at refused
  · cases refused
    exact .indexOutside
  · contradiction

theorem ofMachine_of_setKey {key : Key} {pressed : Bool}
    (refused : keypad.setKey key pressed = .error fault) : fault.OfMachine := by
  unfold setKey at refused
  split at refused
  · cases refused
    exact .indexOutside
  · contradiction

end Keypad

theorem KeyMap.ofMachine_of_press {keyMap : KeyMap} {keypad : Keypad} {event : KeyEvent}
    {fault : Fault} (refused : keyMap.press keypad event = .error fault) : fault.OfMachine := by
  unfold press at refused
  cases mapped : keyMap.keyOf event.hostKey with
  | none =>
    rw [mapped] at refused
    cases refused
  | some key =>
    rw [mapped] at refused
    dsimp only at refused
    cases switched : keypad.setKey key event.pressed with
    | ok next => simp [switched, Except.map] at refused
    | error cause =>
      rw [switched] at refused
      cases refused
      exact Keypad.ofMachine_of_setKey switched

namespace Processor

variable {processor : Processor} {fault : Fault}

theorem ofMachine_of_keyIsDown {byte : UInt8}
    (refused : processor.keyIsDown byte = .error (.fault fault)) : fault.OfMachine := by
  unfold keyIsDown at refused
  cases looked : processor.machine.keypad.isDown byte.toNat with
  | ok down =>
    rw [looked] at refused
    contradiction
  | error cause =>
    rw [looked] at refused
    cases refused
    exact Keypad.ofMachine_of_isDown looked

theorem ofMachine_of_storeDecimal {byte : UInt8}
    (refused : processor.storeDecimal byte = .error (.fault fault)) : fault.OfMachine := by
  unfold storeDecimal at refused
  dsimp only at refused
  split at refused
  · rename_i cause written
    cases refused
    exact Bank.ofMachine_of_write written
  · contradiction

theorem ofMachine_of_execute {instruction : Instruction}
    (refused : execute instruction processor = .error (.fault fault)) : fault.OfMachine := by
  cases instruction with
  | skipIfKey x | skipUnlessKey x =>
    simp only [execute] at refused
    cases looked : processor.keyIsDown (processor.machine.register x) with
    | ok down =>
      rw [looked] at refused
      contradiction
    | error stop =>
      rw [looked] at refused
      cases refused
      exact ofMachine_of_keyIsDown looked
  | readDelay x =>
    simp only [execute] at refused
    split at refused
    · rename_i cause tooLarge
      cases refused
      exact Bank.ofMachine_of_byteOf tooLarge
    · contradiction
  | decimal x => exact ofMachine_of_storeDecimal refused
  | ret | call =>
    simp only [execute, returnFromCall, callTo] at refused
    split at refused <;> cases refused
  | _ => cases refused

theorem ofMachine_of_complete (refused : processor.complete.2 = some fault) :
    fault.OfMachine := by
  unfold complete at refused
  dsimp only at refused
  split at refused
  · contradiction
  · rename_i cause stopped
    cases refused
    exact ofMachine_of_execute stopped
  · contradiction

theorem ofMachine_of_step (refused : processor.step.fault = some fault) : fault.OfMachine := by
  unfold step at refused
  split at refused
  · contradiction
  · contradiction
  · unfold runInstruction at refused
    dsimp only at refused
    cases fetched : processor.machine.fetch with
    | error cause =>
      rw [fetched] at refused
      cases refused
      unfold Machine.fetch at fetched
      cases first : processor.machine.ram.read processor.machine.pc with
      | ok high =>
        rw [first] at fetched
        contradiction
      | error other =>
        rw [first] at fetched
        cases fetched
        exact Bank.ofMachine_of_read first
    | ok word =>
      rw [fetched] at refused
      exact ofMachine_of_complete refused

end Processor

end Chip8
