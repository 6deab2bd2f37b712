import Chip8.Proofs.Processor.Frame

/-!
Contract: sums, differences and shifts of registers, and the flag that goes with them.

Owns:
- `Arithmetic`, the five operations on registers that set the flag, with their results and flags as
  numbers;
- that the result and the flag are stored as they should, also where the flag register is itself an
  operand;
- the sum of the index and a register, and when it sets the flag.

Does not own: the operations on registers that leave the flag alone.
-/

namespace Chip8

/-- The operations on registers that set the flag. A shift looks at the first register only. -/
inductive Arithmetic where
  | add
  | sub
  | shiftRight
  | subFrom
  | shiftLeft
deriving DecidableEq, Repr

namespace Arithmetic

/-- What goes to the first of two registers that hold `a` and `b`. -/
def result (a b : Int) : Arithmetic → Int
  | .add => (a + b) % 256
  | .sub => (a - b) % 256
  | .shiftRight => a / 2
  | .subFrom => (b - a) % 256
  | .shiftLeft => 2 * a % 256

/-- A carry, a difference without a borrow, or a bit that is shifted out. -/
def flag (a b : Int) : Arithmetic → Bool
  | .add => decide (255 < a + b)
  | .sub => decide (b ≤ a)
  | .shiftRight => decide (a % 2 = 1)
  | .subFrom => decide (a ≤ b)
  | .shiftLeft => decide (128 ≤ a)

def instruction (x y : Register) : Arithmetic → Instruction
  | .add => .add x y
  | .sub => .sub x y
  | .shiftRight => .shiftRight x
  | .subFrom => .subFrom x y
  | .shiftLeft => .shiftLeft x

theorem isUnknown_instruction (operation : Arithmetic) (x y : Register) :
    (operation.instruction x y).isUnknown = false := by
  cases operation <;> rfl

end Arithmetic

/-! ### Bytes as numbers -/

section Bytes

variable (a b : UInt8)

theorem toNat_byte_add : ((a + b).toNat : Int) = ((a.toNat : Int) + b.toNat) % 256 := by
  rw [UInt8.toNat_add]
  omega

theorem toNat_byte_sub : ((a - b).toNat : Int) = ((a.toNat : Int) - b.toNat) % 256 := by
  have below := b.toNat_lt
  rw [UInt8.toNat_sub]
  omega

theorem toNat_byte_double : ((a + a).toNat : Int) = 2 * (a.toNat : Int) % 256 := by
  rw [toNat_byte_add]
  omega

theorem byte_le_iff : a ≤ b ↔ (a.toNat : Int) ≤ b.toNat := by
  rw [UInt8.le_iff_toNat_le]
  omega

theorem byte_odd_iff : a % 2 = 1 ↔ (a.toNat : Int) % 2 = 1 := by
  rw [← UInt8.toNat_inj, UInt8.toNat_mod]
  change a.toNat % 2 = 1 ↔ _
  omega

end Bytes

/-! ### Operations on registers -/

namespace Processor

open Machine (register_setRegister_self register_setRegister_of_ne)

theorem register_setWithFlag_flag (processor : Processor) (x : Register) (byte : UInt8)
    (flag : Bool) :
    (processor.setWithFlag x byte flag).machine.register Register.flag = if flag then 1 else 0 :=
  register_setRegister_self _ _ _

/-- The flag is stored last, so that only the flag register does not show the result. -/
theorem register_setWithFlag_self (processor : Processor) {x : Register} (byte : UInt8)
    (flag : Bool) (notFlag : x ≠ Register.flag) :
    (processor.setWithFlag x byte flag).machine.register x = byte := by
  calc (processor.setWithFlag x byte flag).machine.register x
    _ = (processor.machine.setRegister x byte).register x :=
      register_setRegister_of_ne _ notFlag _
    _ = byte := register_setRegister_self _ _ _

theorem register_setWithFlag_of_ne (processor : Processor) {x other : Register} (byte : UInt8)
    (flag : Bool) (apart : other ≠ x) (notFlag : other ≠ Register.flag) :
    (processor.setWithFlag x byte flag).machine.register other =
      processor.machine.register other := by
  calc (processor.setWithFlag x byte flag).machine.register other
    _ = (processor.machine.setRegister x byte).register other :=
      register_setRegister_of_ne _ notFlag _
    _ = processor.machine.register other := register_setRegister_of_ne _ apart _

/-- An operation stores the result and the flag that belong to its operands as numbers. -/
theorem execute_arithmetic (operation : Arithmetic) (processor : Processor) (x y : Register) :
    let a := processor.machine.register x
    let b := processor.machine.register y
    ∃ byte flag, execute (operation.instruction x y) processor =
        .ok (processor.setWithFlag x byte flag) ∧
      (byte.toNat : Int) = operation.result a.toNat b.toNat ∧
      flag = operation.flag a.toNat b.toNat := by
  intro a b
  cases operation with
  | add =>
    refine ⟨a + b, _, rfl, toNat_byte_add a b, decide_eq_decide.mpr ?_⟩
    change 255 < a.toNat + b.toNat ↔ _
    omega
  | sub => exact ⟨a - b, _, rfl, toNat_byte_sub a b, decide_eq_decide.mpr (byte_le_iff b a)⟩
  | shiftRight =>
    refine ⟨a / 2, _, rfl, by rw [UInt8.toNat_div]; rfl, ?_⟩
    change decide (a % 2 = 1) = _
    exact decide_eq_decide.mpr (byte_odd_iff a)
  | subFrom => exact ⟨b - a, _, rfl, toNat_byte_sub b a, decide_eq_decide.mpr (byte_le_iff a b)⟩
  | shiftLeft =>
    exact ⟨a + a, _, rfl, toNat_byte_double a, decide_eq_decide.mpr (byte_le_iff 128 a)⟩

/-! ### The sum of the index and a register -/

section Index

variable (processor : Processor) (byte : UInt8)

theorem index_addToIndex :
    (processor.addToIndex byte).machine.index =
      (processor.machine.index + byte.toNat) % 4096 := by
  unfold addToIndex
  dsimp only
  split <;> rfl

/-- Only if the flag is asked for does it tell that the sum is no address. -/
theorem register_flag_addToIndex :
    (processor.addToIndex byte).machine.register Register.flag =
      if processor.flagsIndexOverflow then
        if 4095 < processor.machine.index + byte.toNat then 1 else 0
      else
        processor.machine.register Register.flag := by
  unfold addToIndex
  dsimp only
  split
  · refine (register_setRegister_self _ _ _).trans ?_
    simp only [decide_eq_true_eq]
  · rfl

theorem register_addToIndex_of_ne {other : Register} (notFlag : other ≠ Register.flag) :
    (processor.addToIndex byte).machine.register other = processor.machine.register other := by
  unfold addToIndex
  dsimp only
  split
  · exact register_setRegister_of_ne _ notFlag _
  · rfl

end Index

/-! ### Steps -/

/-- Sums, differences and shifts are those of the numbers that the registers held before the step,
whichever registers they are: the flag register shows the flag, every other first register the
result, and the rest stays. The sum of the index and a register stays within the addresses and sets
the flag only on a processor that flags this. -/
theorem arithmetic_right_under_aliasing {processor : Processor} (reachable : Reachable processor)
    (running : processor.status = .running) :
    let before := processor.machine
    let after := processor.step.processor.machine
    (∀ (operation : Arithmetic) (x y : Register),
      Instruction.Encoded before.nextWord (operation.instruction x y) →
        let a : Int := (before.register x).toNat
        let b : Int := (before.register y).toNat
        processor.step.fault = none ∧
          after.register Register.flag = (if operation.flag a b then 1 else 0) ∧
          (x ≠ Register.flag → ((after.register x).toNat : Int) = operation.result a b) ∧
          ∀ other, other ≠ x → other ≠ Register.flag →
            after.register other = before.register other) ∧
      ∀ x, before.nextWord.WithByte 0xF x 0x1E →
        let sum := before.index + (before.register x).toNat
        processor.step.fault = none ∧ after.index = sum % 4096 ∧
          after.register Register.flag =
            (if processor.flagsIndexOverflow then if 4095 < sum then 1 else 0
              else before.register Register.flag) ∧
          ∀ other, other ≠ Register.flag → after.register other = before.register other := by
  intro before after
  have inside := reachable.sound.machine.pc
  constructor
  · intro operation x y form a b
    obtain ⟨byte, flag, done, isResult, rfl⟩ :=
      execute_arithmetic operation processor.pastFetch x y
    have stepped := step_of_encoded (operation.instruction x y) running inside
      (operation.isUnknown_instruction x y) form done
    dsimp only [after]
    rw [stepped]
    refine ⟨rfl, register_setWithFlag_flag _ _ _ _, ?_, ?_⟩
    · intro notFlag
      rw [register_setWithFlag_self _ byte _ notFlag]
      exact isResult
    · intro other apart notFlag
      exact register_setWithFlag_of_ne _ byte _ apart notFlag
  · intro x form sum
    have stepped : processor.step =
        ⟨processor.pastFetch.addToIndex (before.register x), processor.traceLine, none⟩ :=
      step_of_encoded (.addIndex x) running inside rfl form rfl
    dsimp only [after]
    rw [stepped]
    exact ⟨rfl, index_addToIndex _ _, register_flag_addToIndex _ _,
      fun _ notFlag => register_addToIndex_of_ne _ _ notFlag⟩

/-- The flag register is an operand: it loses its sum to the carry, and is then added to the index,
which it takes past the last address. -/
theorem arithmetic_right_under_aliasing_of_flag :
    let adding := (start true false ⟨fun _ => 0, 0⟩).performAll
      [.load [0x6F, 0xC8, 0x61, 0x64, 0xAF, 0xFF, 0x8F, 0x14, 0xFF, 0x1E], .step, .step, .step]
    let added := adding.step.processor
    let moved := added.step.processor
    Reachable adding ∧ adding.machine.nextWord = 0x8F14 ∧
      adding.machine.register Register.flag = 0xC8 ∧ adding.machine.register 1 = 0x64 ∧
      added.machine.register Register.flag = 1 ∧ added.machine.register 1 = 0x64 ∧
      added.machine.nextWord = 0xFF1E ∧ added.machine.index = 0xFFF ∧
      moved.machine.index = 0 ∧ moved.machine.register Register.flag = 1 := by
  intro adding added moved
  have reachable : Reachable adding := (Reachable.start true false ⟨fun _ => 0, 0⟩).performAll _
  have here : adding.status = .running ∧ adding.machine.nextWord = 0x8F14 ∧
      adding.machine.register Register.flag = 0xC8 ∧ adding.machine.register 1 = 0x64 := by
    decide +kernel
  have there : added.status = .running ∧ added.machine.nextWord = 0xFF1E ∧
      added.machine.index = 0xFFF ∧ added.flagsIndexOverflow = true := by
    decide +kernel
  obtain ⟨running, word, flagBefore, oneBefore⟩ := here
  obtain ⟨addedRuns, addedWord, index, flags⟩ := there
  clear_value adding
  have addedReachable : Reachable added := reachable.perform .step
  have isAdd : Instruction.Encoded adding.machine.nextWord
      (Arithmetic.add.instruction Register.flag 1) := by
    rw [word]
    exact ⟨rfl, rfl, rfl, rfl⟩
  have isAddIndex : added.machine.nextWord.WithByte 0xF Register.flag 0x1E := by
    rw [addedWord]
    exact ⟨rfl, rfl, rfl⟩
  obtain ⟨-, carry, -, kept⟩ := (arithmetic_right_under_aliasing reachable running).1 .add
    Register.flag 1 isAdd
  obtain ⟨-, movedIndex, movedFlag, -⟩ :=
    (arithmetic_right_under_aliasing addedReachable addedRuns).2 Register.flag isAddIndex
  have one : added.machine.register Register.flag = 1 := by
    rw [carry, flagBefore, oneBefore]
    rfl
  have sum : added.machine.index + (added.machine.register Register.flag).toNat = 0x1000 := by
    rw [index, one]
    rfl
  rw [sum] at movedIndex movedFlag
  refine ⟨reachable, word, flagBefore, oneBefore, one, ?_, addedWord, index, movedIndex, ?_⟩
  · exact (kept 1 (by decide) (by decide)).trans oneBefore
  · rw [movedFlag, flags]
    rfl

end Processor

end Chip8
