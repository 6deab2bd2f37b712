import Chip8.Proofs.Processor.CallReturn
import Chip8.Proofs.Processor.RegisterBlock

/-!
Contract: where a program goes on after each word.

Owns:
- `Machine.skips`, whether a word leaves out the one behind it;
- `Machine.following`, the address behind a word, read off the word and the machine before it;
- that every instruction but the wait for a key leads to that address.

Does not own: the words that halt, and the wait for a key, which both stay where they are.
-/

namespace Chip8

/-! ### The address behind a word -/

/-- The key that the low four bits of a byte pick. -/
def Keypad.keyOfByte (byte : UInt8) : Key :=
  ⟨byte.toNat % 16, Nat.mod_lt _ (by decide)⟩

theorem Keypad.Complete.isDown_eq {keypad : Keypad} (complete : keypad.Complete) (byte : UInt8) :
    keypad.isDown byte.toNat = .ok (keypad.holds (keyOfByte byte)) := by
  have samePlace : ((byte.toNat : Int) % 16).toNat = (keyOfByte byte).val := by
    simp only [keyOfByte]
    omega
  have hasFlag : (keyOfByte byte).val < keypad.down.length := by omega
  unfold Keypad.isDown holds
  rw [samePlace, List.getD_eq_getElem?_getD, List.getElem?_eq_getElem hasFlag]
  rfl

namespace Machine

/-- Whether the word behind a word is left out. -/
def skips (machine : Machine) (word : Word) : Bool :=
  let vx := machine.register word.x
  let vy := machine.register word.y
  match word.family with
  | 0x3 => vx == word.nn
  | 0x4 => vx != word.nn
  | 0x5 => word.n.val == 0x0 && vx == vy
  | 0x9 => word.n.val == 0x0 && vx != vy
  | 0xE =>
    (word.nn == 0x9E && machine.keypad.holds (Keypad.keyOfByte vx)) ||
      (word.nn == 0xA1 && !machine.keypad.holds (Keypad.keyOfByte vx))
  | _ => false

/-- Where a program goes on once a word has been carried out. A return takes the newest entry of
the stack; where there is none, it stays. -/
def following (machine : Machine) (word : Word) : Int :=
  match word.family with
  | 0x1 | 0x2 => word.nnn.val
  | 0xB => ((machine.register Register.first).toNat + word.nnn.val) % 0x1000
  | _ =>
    if word = 0x00EE then machine.stack.entries.headD machine.pc
    else if machine.skips word then (machine.pc + 4) % 0x1000
    else (machine.pc + 2) % 0x1000

variable {machine : Machine} {word : Word}

theorem following_of_plain (plain : word.family ∈ [0x6, 0x7, 0x8, 0xA, 0xC, 0xD, 0xF]) :
    machine.following word = (machine.pc + 2) % 0x1000 := by
  have noReturn : word ≠ 0x00EE := by
    rintro rfl
    revert plain
    decide
  simp only [List.mem_cons, List.not_mem_nil, or_false] at plain
  rcases plain with family | family | family | family | family | family | family <;>
    simp [following, skips, family, noReturn]

theorem following_of_test (test : word.family ∈ [0x3, 0x4, 0x5, 0x9, 0xE]) :
    machine.following word =
      if machine.skips word then (machine.pc + 4) % 0x1000 else (machine.pc + 2) % 0x1000 := by
  have noReturn : word ≠ 0x00EE := by
    rintro rfl
    revert test
    decide
  simp only [List.mem_cons, List.not_mem_nil, or_false] at test
  rcases test with family | family | family | family | family <;>
    simp only [following, family, noReturn, if_false]

theorem skips_of_keyDown (family : word.family = 0xE) (kind : word.nn = 0x9E) :
    machine.skips word = machine.keypad.holds (Keypad.keyOfByte (machine.register word.x)) := by
  simp [skips, family, kind]

theorem skips_of_keyUp (family : word.family = 0xE) (kind : word.nn = 0xA1) :
    machine.skips word = !machine.keypad.holds (Keypad.keyOfByte (machine.register word.x)) := by
  simp [skips, family, kind]

end Machine

/-! ### Instructions -/

namespace Processor

theorem keyIsDown_eq {processor : Processor} (complete : processor.machine.keypad.Complete)
    (byte : UInt8) :
    processor.keyIsDown byte = .ok (processor.machine.keypad.holds (Keypad.keyOfByte byte)) := by
  unfold keyIsDown
  rw [complete.isDown_eq]
  rfl

theorem pc_skipIf (processor : Processor) (condition : Bool) :
    (processor.pastFetch.skipIf condition).machine.pc =
      if condition then (processor.machine.pc + 4) % 0x1000
      else (processor.machine.pc + 2) % 0x1000 := by
  cases condition with
  | false => rfl
  | true =>
    change ((processor.machine.pc + 2) % 4096 + 2) % 4096 = (processor.machine.pc + 4) % 0x1000
    omega

theorem pc_of_callTo {processor next : Processor} {target : Address}
    (done : processor.callTo target = .ok next) : next.machine.pc = target.val := by
  unfold callTo at done
  split at done
  · contradiction
  · cases done
    rfl

theorem pc_of_storeDecimal {processor next : Processor} {byte : UInt8}
    (done : processor.storeDecimal byte = .ok next) : next.machine.pc = processor.machine.pc := by
  unfold storeDecimal at done
  dsimp only at done
  split at done
  · contradiction
  · cases done
    rfl

theorem pc_addToIndex (processor : Processor) (byte : UInt8) :
    (processor.addToIndex byte).machine.pc = processor.machine.pc := by
  unfold addToIndex
  dsimp only
  split <;> rfl

/-- A test leads past the next word if it holds, and to it if not. -/
theorem pc_of_test {processor : Processor} {word : Word} {condition : Bool}
    (test : word.family ∈ [0x3, 0x4, 0x5, 0x9, 0xE])
    (same : processor.machine.skips word = condition) :
    (processor.pastFetch.skipIf condition).machine.pc = processor.machine.following word := by
  rw [pc_skipIf, Machine.following_of_test test, same]

theorem pc_of_execute {processor next : Processor} {word : Word} {instruction : Instruction}
    (complete : processor.machine.keypad.Complete)
    (encoded : Instruction.Encoded word instruction) (noWait : ¬word.IsDevice 0x0A)
    (done : execute instruction processor.pastFetch = .ok next) :
    next.machine.pc = processor.machine.following word := by
  cases instruction with
  | clear =>
    cases encoded
    cases done
    rfl
  | ret =>
    cases encoded
    have returned : processor.pastFetch.returnFromCall = .ok next := done
    have popped := entries_of_returnFromCall returned
    have goesOn : processor.machine.following 0x00EE =
        processor.pastFetch.machine.stack.entries.headD processor.machine.pc :=
      rfl
    rw [goesOn, popped, List.headD_cons]
  | jump | jumpOffset =>
    obtain ⟨family, rfl⟩ := encoded
    cases done
    simp only [Machine.following, family]
    rfl
  | call target =>
    obtain ⟨family, rfl⟩ := encoded
    rw [pc_of_callTo done]
    simp only [Machine.following, family]
  | skipIfByte | skipUnlessByte =>
    obtain ⟨family, rfl, rfl⟩ := encoded
    cases done
    apply pc_of_test
    · rw [family]
      decide
    · simp only [Machine.skips, family]
      rfl
  | skipIfSame | skipUnlessSame =>
    obtain ⟨family, rfl, rfl, n⟩ := encoded
    cases done
    apply pc_of_test
    · rw [family]
      decide
    · simp only [Machine.skips, family, n]
      rfl
  | skipIfKey =>
    obtain ⟨family, rfl, kind⟩ := encoded
    have past : processor.pastFetch.machine.keypad.Complete := complete
    simp only [execute, keyIsDown_eq past] at done
    cases done
    apply pc_of_test
    · rw [family]
      decide
    · exact Machine.skips_of_keyDown family kind
  | skipUnlessKey =>
    obtain ⟨family, rfl, kind⟩ := encoded
    have past : processor.pastFetch.machine.keypad.Complete := complete
    simp only [execute, keyIsDown_eq past] at done
    cases done
    apply pc_of_test
    · rw [family]
      decide
    · exact Machine.skips_of_keyUp family kind
  | awaitKey => exact absurd ⟨encoded.1, encoded.2.2⟩ noWait
  | setByte | addByte | copy | or | and | xor | add | sub | subFrom | setIndex | random | draw
    | writeDelay | writeSound | glyph =>
    rw [Machine.following_of_plain (by rw [encoded.1]; decide)]
    cases done
    rfl
  | shiftRight | shiftLeft =>
    obtain ⟨y, family, -⟩ := encoded
    rw [Machine.following_of_plain (by rw [family]; decide)]
    cases done
    rfl
  | readDelay =>
    rw [Machine.following_of_plain (by rw [encoded.1]; decide)]
    simp only [execute] at done
    split at done
    · contradiction
    · cases done
      rfl
  | addIndex =>
    rw [Machine.following_of_plain (by rw [encoded.1]; decide)]
    cases done
    exact pc_addToIndex _ _
  | decimal =>
    rw [Machine.following_of_plain (by rw [encoded.1]; decide)]
    exact pc_of_storeDecimal done
  | saveRegisters =>
    rw [Machine.following_of_plain (by rw [encoded.1]; decide)]
    cases done
    rw [saveRegisters_eq]
    rfl
  | loadRegisters =>
    rw [Machine.following_of_plain (by rw [encoded.1]; decide)]
    cases done
    rw [loadRegisters_eq]
    rfl
  | unknown => contradiction

/-! ### Steps -/

/-- A step that neither halts nor begins a wait goes on where its word leads. The word is made of
the byte at the program counter and the one behind it, around the end of memory; a call leaves the
address behind itself on the stack, and a return goes to the address that it takes from there. -/
theorem pc_step_eq_following {processor : Processor} (reachable : Reachable processor)
    (running : processor.status = .running)
    (notHalted : processor.step.processor.status.isHalted = false)
    (noWait : ¬processor.machine.nextWord.IsDevice 0x0A) :
    let before := processor.machine
    let after := processor.step.processor.machine
    let word := before.nextWord
    processor.step.fault = none ∧
      word.toNat = (before.ram.get (Address.wrap before.pc)).toNat * 0x100 +
        (before.ram.get (Address.wrap (before.pc + 1))).toNat ∧
      after.pc = before.following word ∧
      (word.family = 0x2 →
        after.stack.entries = (before.pc + 2) % 0x1000 :: before.stack.entries) ∧
      (word = 0x00EE → before.stack.entries = after.pc :: after.stack.entries) := by
  intro before after word
  have wellFormed := reachable.sound.machine
  obtain ⟨transition, noFault⟩ := step_transition wellFormed
  refine ⟨noFault, Word.toNat_ofBytes _ _, ?_⟩
  dsimp only [after]
  generalize processor.step.processor = next at transition notHalted
  rcases transition.of_running running with done | ⟨cause, rfl, -⟩
  · have goesOn := pc_of_execute wellFormed.keypad (Instruction.encoded_decode word) noWait done
    refine ⟨goesOn, ?_, ?_⟩
    · intro isCall
      have pushed := entries_of_execute_call isCall done
      exact pushed
    · intro isReturn
      have popped := entries_of_execute_return isReturn done
      exact popped
  · contradiction

/-- The word of a test stands around the end of memory, its second byte in the font, and the test
holds. -/
theorem pc_step_eq_following_around_end :
    let processor := (start false false ⟨fun _ => 0, 0⟩).performAll
      [.load [0x60, 0x30, 0xAF, 0xFF, 0xF0, 0x55, 0x60, 0xF0, 0x1F, 0xFF], .step, .step, .step,
        .step, .step]
    Reachable processor ∧ processor.machine.pc = 0xFFF ∧ processor.machine.nextWord = 0x30F0 ∧
      processor.machine.register 0 = 0xF0 ∧
      processor.step.processor.status.isHalted = false ∧
      processor.step.processor.machine.pc = 0x003 := by
  intro processor
  have reachable : Reachable processor := (Reachable.start false false ⟨fun _ => 0, 0⟩).performAll _
  have here : processor.status = .running ∧ processor.machine.pc = 0xFFF ∧
      processor.machine.nextWord = 0x30F0 ∧ processor.machine.register 0 = 0xF0 ∧
      processor.step.processor.status.isHalted = false ∧
      processor.machine.following 0x30F0 = 0x003 := by
    decide +kernel
  obtain ⟨running, pc, word, register, notHalted, goesOn⟩ := here
  have noWait : ¬processor.machine.nextWord.IsDevice 0x0A := by
    rw [word]
    decide
  obtain ⟨-, -, follows, -⟩ := pc_step_eq_following reachable running notHalted noWait
  refine ⟨reachable, pc, word, register, notHalted, ?_⟩
  rw [follows, word, goesOn]

end Processor

end Chip8
