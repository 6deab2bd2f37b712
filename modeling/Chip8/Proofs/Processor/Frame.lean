import Chip8.Proofs.Instruction.Encoding
import Chip8.Proofs.Machine.Footprint
import Chip8.Proofs.Processor.Reachable

/-!
Contract: what a step leaves as it was.

Owns:
- that every instruction stays within the footprint of the word it was decoded from;
- `Processor.footprint`, what the next step may change in every status;
- the law of a whole step, random numbers included.

Does not own: which values the changed parts take.
-/

namespace Chip8

namespace Processor

open Machine (Within)

/-! ### Instructions stay within the footprint -/

theorem le_of_mem_registersUpTo {register last : Register}
    (member : register ∈ registersUpTo last) : register ≤ last := by
  simpa [registersUpTo] using member

section Effects

variable {footprint : Footprint} {before : Machine} {processor next : Processor}
  (within : Within footprint before processor.machine)

include within

theorem within_skipIf (condition : Bool) :
    Within footprint before (processor.skipIf condition).machine := by
  unfold skipIf
  split
  · exact within.setPc _
  · exact within

theorem within_setWithFlag {register : Register} (allowed : footprint.registers register)
    (flagAllowed : footprint.registers Register.flag) (byte : UInt8) (flag : Bool) :
    Within footprint before (processor.setWithFlag register byte flag).machine :=
  (within.setRegister allowed byte).setFlag flagAllowed flag

theorem within_returnFromCall (allowed : footprint.stack)
    (done : processor.returnFromCall = .ok next) : Within footprint before next.machine := by
  unfold returnFromCall at done
  split at done
  · contradiction
  · cases done
    exact { within with stack := Or.inl allowed }

theorem within_callTo (allowed : footprint.stack) {target : Address}
    (done : processor.callTo target = .ok next) : Within footprint before next.machine := by
  unfold callTo at done
  split at done
  · contradiction
  · cases done
    exact { within with stack := Or.inl allowed }

theorem within_drawSprite (allowed : footprint.display)
    (flagAllowed : footprint.registers Register.flag) (x y : UInt8) (height : Nat) :
    Within footprint before (processor.drawSprite x y height).machine :=
  (within.setDisplay allowed _).setFlag flagAllowed _

theorem within_addToIndex (allowed : footprint.index)
    (flagAllowed : processor.flagsIndexOverflow = true → footprint.registers Register.flag)
    (byte : UInt8) : Within footprint before (processor.addToIndex byte).machine := by
  have moved := within.setIndex allowed ((processor.machine.index + byte.toNat) % 4096)
  unfold addToIndex
  dsimp only [machine_withMachine]
  split
  · rename_i flags
    exact moved.setFlag (flagAllowed flags) _
  · exact moved

theorem within_storeDecimal {byte : UInt8}
    (allowed : ∀ address, Word.Reaches processor.machine.index 2 address → footprint.memory address)
    (done : processor.storeDecimal byte = .ok next) : Within footprint before next.machine := by
  have atOffset : ∀ offset : Nat, offset ≤ 2 →
      footprint.memory (Address.wrap (processor.machine.index + offset)) :=
    fun offset notBeyond => allowed _ (Word.reaches_wrap notBeyond)
  unfold storeDecimal at done
  dsimp only at done
  split at done
  · contradiction
  · rename_i ram written
    cases done
    obtain ⟨inside, notNegative, rfl⟩ := Bank.eq_set_of_write written
    have first : (⟨processor.machine.index.toNat, inside⟩ : Address) =
        Address.wrap (processor.machine.index + (0 : Nat)) := by
      apply Fin.ext
      rw [Int.natCast_zero, Int.add_zero]
      exact (Address.wrap_of_lt notNegative (by omega)).symm
    rw [first]
    have hundreds := within.setByte (atOffset 0 (by decide)) (byte / 100)
    have tens := hundreds.setByte (atOffset 1 (by decide)) (byte / 10 % 10)
    exact tens.setByte (atOffset 2 (by decide)) (byte % 10)

theorem within_saveRegisters {last : Register}
    (allowed : ∀ address, Word.Reaches processor.machine.index last.val address →
      footprint.memory address) :
    Within footprint before (processor.saveRegisters last).machine := by
  -- the addresses are counted from the index, which no byte stored on the way changes
  have stored := List.foldlRecOn
    (motive := fun (machine : Machine) =>
      Within footprint before machine ∧ machine.index = processor.machine.index)
    (registersUpTo last)
    (fun (machine : Machine) (register : Register) =>
      machine.setByteAt (machine.index + register.val) (machine.register register))
    ⟨within, rfl⟩ ?_
  · exact stored.1
  · rintro machine ⟨soFar, sameIndex⟩ register member
    have notBeyond : register.val ≤ last.val := le_of_mem_registersUpTo member
    refine ⟨soFar.setByte ?_ _, sameIndex⟩
    rw [sameIndex]
    exact allowed _ (Word.reaches_wrap notBeyond)

theorem within_loadRegisters {last : Register}
    (allowed : ∀ register ≤ last, footprint.registers register) :
    Within footprint before (processor.loadRegisters last).machine := by
  refine List.foldlRecOn (motive := Within footprint before) (registersUpTo last) _ within ?_
  intro machine soFar register member
  exact soFar.setRegister (allowed register (le_of_mem_registersUpTo member)) _

end Effects

section Arithmetic

variable {word : Word} {n : Fin 16} (family : word.family = 0x8) (kind : word.n = n)

include family kind

theorem storesResult_of_arithmetic (stored : n.val ≤ 0x7 ∨ n.val = 0xE) : word.StoresResult := by
  right; right; left
  rw [kind]
  exact ⟨family, stored⟩

theorem storesFlag_of_arithmetic (flagged : (0x4 ≤ n.val ∧ n.val ≤ 0x7) ∨ n.val = 0xE)
    (flagsIndexOverflow : Bool) : word.StoresFlag flagsIndexOverflow := by
  left
  rw [kind]
  exact ⟨family, flagged⟩

end Arithmetic

/-- An instruction changes nothing outside the footprint of the word that it was decoded from. -/
theorem within_execute {word : Word} {instruction : Instruction}
    (encoded : Instruction.Encoded word instruction) {processor next : Processor} {before : Machine}
    (within : Within (word.footprint processor.flagsIndexOverflow processor.machine.index) before
      processor.machine)
    (done : execute instruction processor = .ok next) :
    Within (word.footprint processor.flagsIndexOverflow processor.machine.index) before
      next.machine := by
  have result : ∀ {x : Register}, word.x = x → word.StoresResult →
      (word.footprint processor.flagsIndexOverflow processor.machine.index).registers x :=
    fun isX stores => Or.inl ⟨isX.symm, stores⟩
  have flag : word.StoresFlag processor.flagsIndexOverflow →
      (word.footprint processor.flagsIndexOverflow processor.machine.index).registers
        Register.flag :=
    fun stores => Or.inr (Or.inl ⟨rfl, stores⟩)
  cases instruction with
  | clear =>
    cases done
    exact within.setDisplay (Or.inl encoded) _
  | ret => exact within_returnFromCall within (Or.inr encoded) done
  | call => exact within_callTo within (Or.inl encoded.1) done
  | jump | jumpOffset =>
    cases done
    exact within.setPc _
  | skipIfByte | skipUnlessByte | skipIfSame | skipUnlessSame =>
    cases done
    exact within_skipIf within _
  | skipIfKey x | skipUnlessKey x =>
    simp only [execute] at done
    cases looked : processor.keyIsDown (processor.machine.register x) with
    | error stop =>
      rw [looked] at done
      contradiction
    | ok down =>
      rw [looked] at done
      cases done
      exact within_skipIf within _
  | setByte =>
    cases done
    exact within.setRegister (result encoded.2.1 (Or.inl encoded.1)) _
  | addByte =>
    cases done
    exact within.setRegister (result encoded.2.1 (Or.inr (Or.inl encoded.1))) _
  | random =>
    cases done
    have stores : word.StoresResult := Or.inr (Or.inr (Or.inr (Or.inl encoded.1)))
    exact within.setRegister (result encoded.2.1 stores) _
  | readDelay =>
    have stores : word.StoresResult :=
      Or.inr (Or.inr (Or.inr (Or.inr ⟨encoded.1, encoded.2.2⟩)))
    simp only [execute] at done
    split at done
    · contradiction
    · cases done
      exact within.setRegister (result encoded.2.1 stores) _
  | copy | or | and | xor =>
    cases done
    obtain ⟨family, isX, -, kind⟩ := encoded
    have stores := storesResult_of_arithmetic family kind (by decide)
    exact within.setRegister (result isX stores) _
  | add | sub | subFrom =>
    cases done
    obtain ⟨family, isX, -, kind⟩ := encoded
    have stores := storesResult_of_arithmetic family kind (by decide)
    have storesFlag := storesFlag_of_arithmetic family kind (by decide) processor.flagsIndexOverflow
    exact within_setWithFlag within (result isX stores) (flag storesFlag) _ _
  | shiftRight | shiftLeft =>
    cases done
    obtain ⟨y, family, isX, -, kind⟩ := encoded
    have stores := storesResult_of_arithmetic family kind (by decide)
    have storesFlag := storesFlag_of_arithmetic family kind (by decide) processor.flagsIndexOverflow
    exact within_setWithFlag within (result isX stores) (flag storesFlag) _ _
  | draw =>
    cases done
    exact within_drawSprite within (Or.inr encoded.1) (flag (Or.inr (Or.inl encoded.1))) _ _ _
  | setIndex =>
    cases done
    exact within.setIndex (Or.inl encoded.1) _
  | addIndex =>
    cases done
    have isAddIndex : word.IsDevice 0x1E := ⟨encoded.1, encoded.2.2⟩
    refine within_addToIndex within (Or.inr (Or.inl isAddIndex)) ?_ _
    intro flags
    exact flag (Or.inr (Or.inr ⟨flags, isAddIndex⟩))
  | glyph =>
    cases done
    exact within.setIndex (Or.inr (Or.inr ⟨encoded.1, encoded.2.2⟩)) _
  | awaitKey =>
    cases done
    have parked := within.setPc ((processor.machine.pc - 2) % 4096)
    exact parked.setKeypad ⟨encoded.1, encoded.2.2⟩ rfl
  | writeDelay =>
    cases done
    exact within.setDelay ⟨encoded.1, encoded.2.2⟩ _
  | writeSound =>
    cases done
    exact within.setSound ⟨encoded.1, encoded.2.2⟩ _
  | decimal =>
    refine within_storeDecimal within ?_ done
    intro address reached
    exact Or.inl ⟨⟨encoded.1, encoded.2.2⟩, reached⟩
  | saveRegisters =>
    cases done
    refine within_saveRegisters within ?_
    intro address reached
    rw [← encoded.2.1] at reached
    exact Or.inr ⟨⟨encoded.1, encoded.2.2⟩, reached⟩
  | loadRegisters =>
    cases done
    refine within_loadRegisters within ?_
    intro register notBeyond
    rw [← encoded.2.1] at notBeyond
    exact Or.inr (Or.inr ⟨notBeyond, encoded.1, encoded.2.2⟩)
  | unknown => contradiction

/-- A random number is drawn for the words of one family, and for no other. -/
theorem random_of_execute {word : Word} {processor next : Processor}
    (done : execute (Instruction.decode word) processor = .ok next) :
    next.random = if word.family = 0xC then processor.random.draw.2 else processor.random := by
  have encoded := Instruction.encoded_decode word
  have carried := carried_of_execute done
  generalize decoded : Instruction.decode word = instruction at encoded carried
  cases carried with
  | waited register =>
    have family : word.family = 0xF := encoded.1
    rw [if_neg (by omega)]
    rfl
  | drew register mask =>
    rw [if_pos encoded.1]
    rfl
  | moved machine noWait noDraw =>
    have family : word.family ≠ 0xC := by
      intro family
      have drawn : Instruction.decode word = .random word.x word.nn :=
        Instruction.decode_of_encoded rfl ⟨family, rfl, rfl⟩
      exact noDraw word.x word.nn (decoded.symm.trans drawn)
    rw [if_neg family]
    rfl

/-! ### Whole steps -/

/-- A key has been caught and is about to be stored in `register`. -/
def Collects (processor : Processor) (register : Register) : Prop :=
  processor.status = .awaitingKey register ∧ processor.machine.keypad.latch ≠ none

/-- What the next step may change: the footprint of the word that it carries out, or the register
that a key goes to. -/
def footprint (processor : Processor) : Footprint :=
  match processor.status with
  | .running =>
    processor.machine.nextWord.footprint processor.flagsIndexOverflow processor.machine.index
  | .awaitingKey _ =>
    { Footprint.nothing with
      registers := processor.Collects
      latch := ∃ register, processor.Collects register }
  | .halted .. => Footprint.nothing

theorem footprint_of_running {processor : Processor} (status : processor.status = .running) :
    processor.footprint = processor.machine.nextWord.footprint processor.flagsIndexOverflow
      processor.machine.index := by
  unfold footprint
  rw [status]

theorem footprint_of_awaitingKey {processor : Processor} {register : Register}
    (status : processor.status = .awaitingKey register) :
    processor.footprint = { Footprint.nothing with
      registers := processor.Collects
      latch := ∃ register, processor.Collects register } := by
  unfold footprint
  rw [status]

theorem Transition.within {processor next : Processor} (transition : Transition processor next) :
    Within processor.footprint processor.machine next.machine := by
  have unchanged := Within.refl processor.footprint processor.machine
  cases transition with
  | rested | waited | stopped => exact unchanged
  | @collected register key status latched =>
    have collects : processor.Collects register := by
      refine ⟨status, ?_⟩
      rw [latched]
      exact Option.some_ne_none key
    rw [footprint_of_awaitingKey status] at unchanged ⊢
    have stored := unchanged.setRegister collects (UInt8.ofNat key.val)
    have moved := stored.setPc ((processor.machine.pc + 2) % 4096)
    have sameKeys : { processor.machine.keypad with armed := false, latch := none }.down =
        processor.machine.keypad.down :=
      rfl
    exact moved.setKeypad ⟨register, collects⟩ sameKeys
  | executed status done =>
    rw [footprint_of_running status] at unchanged ⊢
    -- a fetch moves neither the index nor the setting that the footprint depends on
    have fetched : Within (processor.machine.nextWord.footprint
        processor.pastFetch.flagsIndexOverflow processor.pastFetch.machine.index)
        processor.machine processor.pastFetch.machine :=
      unchanged.setPc _
    have carriedOut := within_execute (Instruction.encoded_decode processor.machine.nextWord)
      fetched done
    exact carriedOut

/-- Where random numbers are drawn, an instruction cannot halt the processor. -/
theorem family_of_stop {word : Word} {processor : Processor} {cause : HaltCause}
    (stop : execute (Instruction.decode word) processor = .error (.halt cause)) :
    word.family ≠ 0xC := by
  intro family
  have drawn : Instruction.decode word = .random word.x word.nn :=
    Instruction.decode_of_encoded rfl ⟨family, rfl, rfl⟩
  rw [drawn] at stop
  contradiction

theorem Transition.random {processor next : Processor} (transition : Transition processor next) :
    next.random =
      if processor.status = .running ∧ processor.machine.nextWord.family = 0xC then
        processor.random.draw.2
      else
        processor.random := by
  cases transition with
  | rested halted =>
    have notRunning : processor.status ≠ .running := by
      intro running
      rw [running] at halted
      contradiction
    rw [if_neg (fun both => notRunning both.1)]
  | waited status =>
    rw [if_neg (fun both => Status.noConfusion (status.symm.trans both.1))]
  | collected status =>
    rw [if_neg (fun both => Status.noConfusion (status.symm.trans both.1))]
    rfl
  | stopped status stop =>
    rw [if_neg (fun both => family_of_stop stop both.2)]
    rfl
  | executed status done =>
    rw [random_of_execute done]
    simp only [status, true_and]
    rfl

/-- A step changes only what the word that it carries out may change, or what a key press that was
waited for does, and draws one random number for a word of family `0xC` and none otherwise. -/
theorem step_within_footprint {processor : Processor} (reachable : Reachable processor) :
    let next := processor.step.processor
    Within processor.footprint processor.machine next.machine ∧
      next.random =
        if processor.status = .running ∧ processor.machine.nextWord.family = 0xC then
          processor.random.draw.2
        else
          processor.random := by
  have transition := (step_transition reachable.sound.machine).1
  exact ⟨transition.within, transition.random⟩

/-- Four registers go to memory around its end, and the byte behind the last of them stays. -/
theorem step_within_footprint_around_end :
    let processor := (start true false ⟨fun count => count, 0⟩).performAll
      [.load [0xC1, 0xFF, 0xAF, 0xFE, 0xF3, 0x55], .step, .step]
    let next := processor.step.processor
    Reachable processor ∧ processor.machine.nextWord = 0xF355 ∧ processor.machine.index = 0xFFE ∧
      Within processor.footprint processor.machine next.machine ∧
      next.machine.ram.get 2 = processor.machine.ram.get 2 ∧ next.random = processor.random := by
  intro processor next
  have reachable : Reachable processor :=
    (Reachable.start true false ⟨fun count => count, 0⟩).performAll _
  have here : processor.status = .running ∧ processor.machine.nextWord = 0xF355 ∧
      processor.machine.index = 0xFFE := by
    decide +kernel
  obtain ⟨running, word, index⟩ := here
  clear_value processor
  obtain ⟨within, random⟩ := step_within_footprint reachable
  refine ⟨reachable, word, index, within, ?_, ?_⟩
  · apply (within.memory 2).resolve_left
    rw [footprint_of_running running, word, index]
    simp only [Word.footprint, Word.IsDevice, Word.Reaches]
    decide +kernel
  · have noDraw : Word.family 0xF355 ≠ 0xC := by decide
    rw [random, word, if_neg (fun both => noDraw both.2)]

end Processor

end Chip8
