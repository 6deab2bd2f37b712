import Chip8.Proofs.Processor.RegisterBlock

/-!
Contract: a register is stored in memory as its decimal digits.

Owns:
- `decimalDigit`, the three digits of a byte, and that they are digits and add up to it;
- the storing of the digits written as one row of bytes at the index;
- that a step on the word for it leaves the digits in memory, with addresses counted around the end,
  and the rest of the machine as it was.

Does not own: what the stored digits mean when they are shown or carried out as instructions.
-/

namespace Chip8

/-- The decimal digits of a byte, the hundreds first. -/
def decimalDigit (byte : UInt8) : Fin 3 → UInt8
  | 0 => byte / 100
  | 1 => byte / 10 % 10
  | 2 => byte % 10

theorem decimalDigit_spec (byte : UInt8) :
    (decimalDigit byte 0).toNat ≤ 2 ∧ (decimalDigit byte 1).toNat ≤ 9 ∧
      (decimalDigit byte 2).toNat ≤ 9 ∧
      100 * (decimalDigit byte 0).toNat + 10 * (decimalDigit byte 1).toNat +
        (decimalDigit byte 2).toNat = byte.toNat := by
  have hundreds : (decimalDigit byte 0).toNat = byte.toNat / 100 := UInt8.toNat_div byte 100
  have ones : (decimalDigit byte 2).toNat = byte.toNat % 10 := UInt8.toNat_mod byte 10
  have tens : (decimalDigit byte 1).toNat = byte.toNat / 10 % 10 := by
    calc (byte / 10 % 10).toNat
      _ = (byte / 10).toNat % 10 := UInt8.toNat_mod (byte / 10) 10
      _ = byte.toNat / 10 % 10 := congrArg (· % 10) (UInt8.toNat_div byte 10)
  have below := byte.toNat_lt
  rw [hundreds, tens, ones]
  omega

namespace Processor

/-- The digits are stored one after the other, the first of them at the index as it is. -/
theorem storeDecimal_eq (processor : Processor) (inside : IsAddress processor.machine.index)
    (byte : UInt8) :
    processor.storeDecimal byte = .ok (processor.withMachine { processor.machine with
      ram := processor.machine.ram.storeRow processor.machine.index (decimalDigit byte)
        (List.finRange 3) }) := by
  have first : (⟨processor.machine.index.toNat, by omega⟩ : Address) =
      Address.wrap (processor.machine.index + (0 : Nat)) := by
    apply Fin.ext
    simp only [Address.wrap]
    omega
  unfold storeDecimal
  dsimp only
  rw [Bank.write_of_holds processor.machine.ram inside, first]
  rfl

/-- A step on the word for it stores the decimal digits of a register, the hundreds at the index and
the others behind it, around the end of memory and over whatever stands there, the word itself
included. Nothing else in memory changes, and of the rest of the machine only the program counter
moves. -/
theorem step_stores_decimal {processor : Processor} (reachable : Reachable processor)
    (running : processor.status = .running) {x : Register}
    (form : processor.machine.nextWord.WithByte 0xF x 0x33) :
    let before := processor.machine
    let after := processor.step.processor.machine
    let digit (place : Fin 3) := (after.byteAt (before.index + place.val)).toNat
    IsAddress before.index ∧ processor.step.fault = none ∧
      (digit 0 ≤ 2 ∧ digit 1 ≤ 9 ∧ digit 2 ≤ 9 ∧
        100 * digit 0 + 10 * digit 1 + digit 2 = (before.register x).toNat) ∧
      (∀ address, ¬Word.Reaches before.index 2 address →
        after.ram.get address = before.ram.get address) ∧
      after = { before with ram := after.ram, pc := (before.pc + 2) % 0x1000 } := by
  intro before after digit
  have wellFormed := reachable.sound.machine
  let stored := processor.pastFetch.withMachine { processor.pastFetch.machine with
    ram := before.ram.storeRow before.index (decimalDigit (before.register x)) (List.finRange 3) }
  have done : execute (.decimal x) processor.pastFetch = .ok stored :=
    storeDecimal_eq processor.pastFetch wellFormed.index (before.register x)
  have stepped : processor.step = ⟨stored, processor.traceLine, none⟩ :=
    step_of_encoded (.decimal x) running wellFormed.pc rfl form done
  have noFault : processor.step.fault = none := by rw [stepped]
  have afterwards : after = stored.machine :=
    congrArg (fun report => report.processor.machine) stepped
  have digits : ∀ place, digit place = (decimalDigit (before.register x) place).toNat := by
    intro place
    apply congrArg UInt8.toNat
    rw [afterwards]
    exact Bank.get_storeRow_of_mem (by decide) (List.mem_finRange place)
  refine ⟨wellFormed.index, noFault, ?_, ?_, ?_⟩
  · rw [digits 0, digits 1, digits 2]
    exact decimalDigit_spec (before.register x)
  · intro address notReached
    rw [afterwards]
    exact Bank.get_storeRow_of_not_reaches (fun place _ => by omega) notReached
  · rw [afterwards]
    rfl

/-- The word for it stands at the end of memory, and the hundreds go over its second byte, the
other digits over the font. -/
theorem step_stores_decimal_over_itself :
    let processor := (start false false ⟨fun _ => 0, 0⟩).performAll
      [.load [0x60, 0xF2, 0x61, 0x33, 0xAF, 0xFE, 0xF1, 0x55, 0x62, 0xFD, 0xAF, 0xFF, 0x1F, 0xFE],
        .step, .step, .step, .step, .step, .step, .step]
    let after := processor.step.processor.machine
    Reachable processor ∧ processor.machine.nextWord = 0xF233 ∧
      processor.machine.pc = 0xFFE ∧ processor.machine.index = 0xFFF ∧
      processor.machine.register 2 = 253 ∧ processor.step.fault = none ∧
      after.ram.get 0xFFE = 0xF2 ∧ (after.ram.get 0xFFF).toNat = 2 ∧
      (after.ram.get 0x000).toNat = 5 ∧ (after.ram.get 0x001).toNat = 3 ∧
      after.ram.get 0x002 = processor.machine.ram.get 0x002 ∧ after.pc = 0x000 := by
  intro processor after
  have reachable : Reachable processor := (Reachable.start false false ⟨fun _ => 0, 0⟩).performAll _
  have here : processor.status = .running ∧ processor.machine.nextWord = 0xF233 ∧
      processor.machine.pc = 0xFFE ∧ processor.machine.index = 0xFFF ∧
      processor.machine.register 2 = 253 ∧ processor.machine.ram.get 0xFFE = 0xF2 := by
    decide +kernel
  obtain ⟨running, word, pc, index, value, upper⟩ := here
  clear_value processor
  have form : processor.machine.nextWord.WithByte 0xF 2 0x33 := by
    rw [word]
    exact ⟨rfl, rfl, rfl⟩
  obtain ⟨-, noFault, digits, elsewhere, rest⟩ := step_stores_decimal reachable running form
  have places : Address.wrap (0xFFF + (0 : Fin 3).val) = 0xFFF ∧
      Address.wrap (0xFFF + (1 : Fin 3).val) = 0x000 ∧
      Address.wrap (0xFFF + (2 : Fin 3).val) = 0x001 := by
    decide
  simp only [Machine.byteAt, index, value, places] at digits
  obtain ⟨-, tensBelow, onesBelow, sum⟩ := digits
  have apart : ∀ address : Address, 2 ≤ address.val → address.val < 0xFFF →
      ¬Word.Reaches processor.machine.index 2 address := by
    rw [index]
    rintro address above below ⟨offset, notBeyond, there⟩
    omega
  have goesOn : after.pc = (processor.machine.pc + 2) % 0x1000 := congrArg Machine.pc rest
  rw [pc] at goesOn
  have inDigits : (after.ram.get 0xFFF).toNat = 2 ∧ (after.ram.get 0x000).toNat = 5 ∧
      (after.ram.get 0x001).toNat = 3 := by
    subst after
    have number : (253 : UInt8).toNat = 253 := rfl
    omega
  obtain ⟨hundreds, tens, ones⟩ := inDigits
  refine ⟨reachable, word, pc, index, value, noFault, ?_, hundreds, tens, ones, ?_, goesOn⟩
  · exact (elsewhere 0xFFE (apart 0xFFE (by decide) (by decide))).trans upper
  · exact elsewhere 0x002 (apart 0x002 (by decide) (by decide))

end Processor

end Chip8
