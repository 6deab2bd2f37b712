import Chip8.Proofs.Instruction.Assembly
import Chip8.Proofs.Instruction.Encoding
import Chip8.Processor.Step

/-!
Contract: the text of a word tells everything that the processor does with it.

Owns:
- that words with the same text are the same, up to the register that a shift does not look at;
- that carrying out either of two such words comes to the same.

Does not own: the listing of a whole program.
-/

namespace Chip8

namespace Word

theorem toNat_ofInt (value : Int) : ((ofInt value).toNat : Int) = value % 65536 := by
  have notBelow := Int.emod_nonneg value (by decide : (65536 : Int) ≠ 0)
  have below := Int.emod_lt_of_pos value (by decide : (0 : Int) < 65536)
  rw [ofInt, UInt16.toNat_ofNat']
  omega

end Word

namespace Instruction

/-- What a text leaves open of the word it was made from. -/
theorem eq_or_shift_of_mnemonic_eq {left right : Word}
    (sameText : (decode left).mnemonic = (decode right).mnemonic) :
    left = right ∨
      (∃ x, (decode left = .shiftRight x ∧ decode right = .shiftRight x) ∨
        (decode left = .shiftLeft x ∧ decode right = .shiftLeft x)) ∧
        left.toNat / 256 = right.toNat / 256 ∧ left.toNat % 16 = right.toNat % 16 := by
  have sameInstruction := mnemonic_inj.mp sameText
  have leftEncoded := encoded_decode left
  rw [sameInstruction] at leftEncoded
  rcases eq_or_shift_of_encoded leftEncoded (encoded_decode right) with same | ⟨shift, otherBits⟩
  · exact Or.inl same
  · right
    obtain ⟨x, isRight | isLeft⟩ := shift
    · exact ⟨⟨x, Or.inl ⟨sameInstruction.trans isRight, isRight⟩⟩, otherBits⟩
    · exact ⟨⟨x, Or.inr ⟨sameInstruction.trans isLeft, isLeft⟩⟩, otherBits⟩

end Instruction

namespace Processor

/-- With a word decoded that was not fetched, but is carried out as if it had been. -/
def given (processor : Processor) (word : Word) : Processor :=
  { processor with word := word, fetchedAt := processor.machine.pc }

/-- A step of a running processor is the completion of the word that it fetches. -/
theorem step_eq_complete_given {processor : Processor} {word : Word}
    (running : processor.status = .running) (fetched : processor.machine.fetch = .ok word) :
    processor.step.processor = (processor.given word).complete.1 ∧
      processor.step.fault = (processor.given word).complete.2 := by
  unfold step
  rw [running]
  dsimp only
  unfold runInstruction
  rw [fetched]
  exact ⟨rfl, rfl⟩

/-- The same machine and status, the same random numbers drawn, and the same refusal. -/
structure SameOutcome (left right : Processor × Option Fault) : Prop where
  machine : left.1.machine = right.1.machine
  status : left.1.status = right.1.status
  random : left.1.random = right.1.random
  fault : left.2 = right.2

/-- A shift is carried out without a look at the word it was decoded from. -/
theorem sameOutcome_of_shift {processor : Processor} {left right : Word} {x : Register}
    (shift : (Instruction.decode left = .shiftRight x ∧ Instruction.decode right = .shiftRight x) ∨
      (Instruction.decode left = .shiftLeft x ∧ Instruction.decode right = .shiftLeft x)) :
    SameOutcome (processor.given left).complete (processor.given right).complete := by
  rcases shift with ⟨leftDecoded, rightDecoded⟩ | ⟨leftDecoded, rightDecoded⟩
  all_goals
    unfold complete
    simp only [given, leftDecoded, rightDecoded, execute]
    exact ⟨rfl, rfl, rfl, rfl⟩

theorem sameOutcome_of_mnemonic_eq {left right : Word}
    (sameText : (Instruction.decode left).mnemonic = (Instruction.decode right).mnemonic)
    (processor : Processor) :
    SameOutcome (processor.given left).complete (processor.given right).complete := by
  rcases Instruction.eq_or_shift_of_mnemonic_eq sameText with rfl | ⟨⟨x, shift⟩, -⟩
  · exact ⟨rfl, rfl, rfl, rfl⟩
  · exact sameOutcome_of_shift shift

/-- Numbers whose disassembly is the same are the same sixteen bits, except that the text of a
shift does not show its second register, and the processor does the same with both. -/
theorem mnemonic_determines_behaviour {first second : Int}
    (sameText : (Instruction.decode (Word.ofInt first)).mnemonic =
      (Instruction.decode (Word.ofInt second)).mnemonic) :
    (first % 0x10000 = second % 0x10000 ∨
      (∃ x, (Instruction.decode (Word.ofInt first) = .shiftRight x ∧
          Instruction.decode (Word.ofInt second) = .shiftRight x) ∨
        (Instruction.decode (Word.ofInt first) = .shiftLeft x ∧
          Instruction.decode (Word.ofInt second) = .shiftLeft x)) ∧
        first % 0x10000 / 0x100 = second % 0x10000 / 0x100 ∧
        first % 0x10 = second % 0x10) ∧
      ∀ processor : Processor, SameOutcome (processor.given (Word.ofInt first)).complete
        (processor.given (Word.ofInt second)).complete := by
  have firstBits := Word.toNat_ofInt first
  have secondBits := Word.toNat_ofInt second
  refine ⟨?_, sameOutcome_of_mnemonic_eq sameText⟩
  rcases Instruction.eq_or_shift_of_mnemonic_eq sameText with same | ⟨shift, upper, lower⟩
  · left
    rw [← firstBits, ← secondBits, same]
  · right
    refine ⟨shift, ?_, ?_⟩ <;> omega

/-- A shift with two different registers that it does not look at, once with bits beyond the
sixteen of a word. -/
theorem mnemonic_determines_shift :
    (Instruction.decode (Word.ofInt 0x8F06)).mnemonic = "SHR Vf" ∧
      (Instruction.decode (Word.ofInt (0x8FA6 - 0x30000))).mnemonic = "SHR Vf" ∧
      ∀ processor : Processor, SameOutcome (processor.given (Word.ofInt 0x8F06)).complete
        (processor.given (Word.ofInt (0x8FA6 - 0x30000))).complete := by
  have first : (Instruction.decode (Word.ofInt 0x8F06)).mnemonic = "SHR Vf" := by
    decide +kernel
  have second : (Instruction.decode (Word.ofInt (0x8FA6 - 0x30000))).mnemonic = "SHR Vf" := by
    decide +kernel
  exact ⟨first, second, (mnemonic_determines_behaviour (first.trans second.symm)).2⟩

end Processor

end Chip8
