import Chip8.Proofs.Instruction.Encoding
import Chip8.Proofs.Processor.Reachable

/-!
Contract: when a program halts the processor, and what comes of it.

Owns:
- `Processor.Impossible`, the acts that halt a processor, read off the instruction and the depth of
  the stack, and the words that ask for them;
- that a step halts on exactly these, and then changes nothing but the status;
- that a halt outlasts every operation but a reset.

Does not own: how a halt is shown.
-/

namespace Chip8

theorem CallStack.pop_eq_error_iff {limit : Int} {stack : CallStack limit} {fault : Fault} :
    stack.pop = .error fault ↔ stack.depth = 0 ∧ fault = .stackUnderflow := by
  obtain ⟨entries⟩ := stack
  cases entries with
  | nil => simp [pop, depth, eq_comm]
  | cons newest rest => simp [pop, depth]

namespace Processor

/-- An act that halts the processor, and the cause that is given for it. -/
inductive Impossible (stack : CallStack 16) : Instruction → HaltCause → Prop where
  | notAnInstruction (word : Word) : Impossible stack (.unknown word) .notAnInstruction
  | stackOverflow (target : Address) (full : callDepth ≤ stack.depth) :
    Impossible stack (.call target) .stackOverflow
  | stackUnderflow (empty : stack.depth = 0) : Impossible stack .ret .stackUnderflow

/-! ### Instructions that halt -/

theorem returnFromCall_eq_halt_iff {processor : Processor} {cause : HaltCause} :
    processor.returnFromCall = .error (.halt cause) ↔
      processor.machine.stack.depth = 0 ∧ cause = .stackUnderflow := by
  unfold returnFromCall
  cases popped : processor.machine.stack.pop with
  | error fault =>
    have empty := (CallStack.pop_eq_error_iff.mp popped).1
    simp [empty, eq_comm]
  | ok top =>
    have notEmpty : processor.machine.stack.depth ≠ 0 := by
      intro empty
      rw [CallStack.pop_eq_error_iff.mpr ⟨empty, rfl⟩] at popped
      contradiction
    simp [notEmpty]

theorem callTo_eq_halt_iff {processor : Processor} {target : Address} {cause : HaltCause} :
    processor.callTo target = .error (.halt cause) ↔
      callDepth ≤ processor.machine.stack.depth ∧ cause = .stackOverflow := by
  have asInt : callDepth ≤ processor.machine.stack.depth ↔
      (16 : Int) ≤ processor.machine.stack.depth := by
    simp only [callDepth]
    omega
  unfold callTo
  cases pushed : processor.machine.stack.push processor.machine.pc with
  | error fault =>
    have full := (CallStack.push_eq_error_iff.mp pushed).1
    simp [asInt, full, eq_comm]
  | ok stack =>
    have notFull : ¬(16 : Int) ≤ processor.machine.stack.depth := by
      intro full
      rw [CallStack.push_eq_error_iff.mpr ⟨full, rfl⟩] at pushed
      contradiction
    simp [asInt, notFull]

theorem storeDecimal_ne_halt (processor : Processor) (byte : UInt8) (cause : HaltCause) :
    processor.storeDecimal byte ≠ .error (.halt cause) := by
  unfold storeDecimal
  dsimp only
  split <;> nofun

theorem keyIsDown_ne_halt (processor : Processor) (byte : UInt8) (cause : HaltCause) :
    processor.keyIsDown byte ≠ .error (.halt cause) := by
  unfold keyIsDown
  cases processor.machine.keypad.isDown byte.toNat <;> nofun

/-- No instruction halts the processor but by an impossible act, and each such act does. -/
theorem execute_eq_halt_iff {processor : Processor} {instruction : Instruction}
    {cause : HaltCause} :
    execute instruction processor = .error (.halt cause) ↔
      Impossible processor.machine.stack instruction cause := by
  constructor
  · intro stop
    cases instruction with
    | unknown word =>
      cases stop
      exact .notAnInstruction word
    | call target =>
      obtain ⟨full, rfl⟩ := callTo_eq_halt_iff.mp stop
      exact .stackOverflow target full
    | ret =>
      obtain ⟨empty, rfl⟩ := returnFromCall_eq_halt_iff.mp stop
      exact .stackUnderflow empty
    | decimal x => exact absurd stop (storeDecimal_ne_halt processor _ cause)
    | skipIfKey x | skipUnlessKey x =>
      have looked := keyIsDown_ne_halt processor (processor.machine.register x) cause
      simp only [execute] at stop
      generalize processor.keyIsDown (processor.machine.register x) = answer at stop looked
      cases answer with
      | error other =>
        cases stop
        contradiction
      | ok down => cases stop
    | readDelay x =>
      simp only [execute] at stop
      split at stop <;> cases stop
    | _ => cases stop
  · intro impossible
    cases impossible with
    | notAnInstruction word => rfl
    | stackOverflow target full => exact callTo_eq_halt_iff.mpr ⟨full, rfl⟩
    | stackUnderflow empty => exact returnFromCall_eq_halt_iff.mpr ⟨empty, rfl⟩

/-! ### Words that halt -/

/-- Whether a word asks for something impossible. -/
theorem exists_impossible_iff {stack : CallStack 16} {word : Word} :
    (∃ cause, Impossible stack (Instruction.decode word) cause) ↔
      (Instruction.decode word).isUnknown = true ∨
        (word.family = 0x2 ∧ callDepth ≤ stack.depth) ∨ (word = 0x00EE ∧ stack.depth = 0) := by
  constructor
  · rintro ⟨cause, impossible⟩
    have encoded := Instruction.encoded_decode word
    generalize Instruction.decode word = instruction at impossible encoded
    cases impossible with
    | notAnInstruction other => exact Or.inl rfl
    | stackOverflow target full => exact Or.inr (Or.inl ⟨encoded.1, full⟩)
    | stackUnderflow empty => exact Or.inr (Or.inr ⟨encoded, empty⟩)
  · rintro (isUnknown | ⟨family, full⟩ | ⟨rfl, empty⟩)
    · generalize Instruction.decode word = instruction at isUnknown
      cases instruction with
      | unknown other => exact ⟨_, .notAnInstruction other⟩
      | _ => contradiction
    · have isCall : Instruction.decode word = .call word.nnn :=
        Instruction.decode_of_encoded rfl ⟨family, rfl⟩
      rw [isCall]
      exact ⟨_, .stackOverflow word.nnn full⟩
    · exact ⟨_, .stackUnderflow empty⟩

/-! ### Steps that halt -/

theorem step_of_impossible {processor : Processor} {cause : HaltCause}
    (wellFormed : processor.machine.WellFormed) (running : processor.status = .running)
    (impossible : Impossible processor.machine.stack
      (Instruction.decode processor.machine.nextWord) cause) :
    processor.step = ⟨processor.haltedBy cause, processor.traceLine, none⟩ :=
  step_of_stop running wellFormed.pc (execute_eq_halt_iff.mpr impossible)

theorem impossible_of_isHalted_step {processor : Processor}
    (wellFormed : processor.machine.WellFormed) (running : processor.status = .running)
    (halted : processor.step.processor.status.isHalted = true) :
    ∃ cause, Impossible processor.machine.stack
      (Instruction.decode processor.machine.nextWord) cause := by
  have transition := (step_transition wellFormed).1
  generalize processor.step.processor = next at transition halted
  rcases transition.of_running running with done | ⟨cause, -, stop⟩
  · rcases status_of_execute done with same | ⟨register, -, rfl⟩
    · have stillRunning : next.status = .running := same.trans running
      rw [stillRunning] at halted
      contradiction
    · contradiction
  · have impossible := execute_eq_halt_iff.mp stop
    exact ⟨cause, impossible⟩

/-! ### After a halt -/

/-- Only a reset changes the status of a halted processor. -/
theorem status_perform_of_halted {processor : Processor} (halted : processor.status.isHalted = true)
    {operation : Operation} (noReset : operation ≠ .reset) :
    (processor.perform operation).1.status = processor.status := by
  cases operation with
  | load program =>
    rw [perform_load_eq]
    split <;> rfl
  | reset => contradiction
  | step =>
    change processor.step.processor.status = _
    rw [step_of_halted halted]
  | tick => rfl
  | setKey key pressed =>
    change (processor.attempt (processor.setKeyAt key pressed)).1.status = _
    rw [setKeyAt_eq]
    cases processor.machine.keypad.setKeyAt key pressed <;> rfl

theorem status_performAll_of_halted {processor : Processor}
    (halted : processor.status.isHalted = true) {operations : List Operation}
    (noReset : Operation.reset ∉ operations) :
    (processor.performAll operations).status = processor.status := by
  induction operations generalizing processor with
  | nil => rfl
  | cons operation later inductionHypothesis =>
    rw [List.mem_cons, not_or] at noReset
    have same := status_perform_of_halted halted (Ne.symm noReset.1)
    have stillHalted : (processor.perform operation).1.status.isHalted = true := by
      rw [same, halted]
    exact (inductionHypothesis stillHalted noReset.2).trans same

/-- A step halts on a word that is no instruction, on a call with a full stack and on a return with
an empty one, and on nothing else. It changes nothing but the status then, and the halt lasts until
a reset or a return to an earlier state. -/
theorem step_halts_iff {processor : Processor} (reachable : Reachable processor)
    (running : processor.status = .running) :
    let word := processor.machine.nextWord
    let address := processor.machine.pc
    let depth := processor.machine.stack.depth
    let next := processor.step.processor
    (next.status.isHalted = true ↔
      (Instruction.decode word).isUnknown = true ∨ (word.family = 0x2 ∧ depth = 16) ∨
        (word = 0x00EE ∧ depth = 0)) ∧
      (next.status.isHalted = true →
        processor.step.fault = none ∧
        (∃ cause, Impossible processor.machine.stack (Instruction.decode word) cause ∧
          next = { processor with
            status := .halted cause word address
            word := word
            fetchedAt := address }) ∧
        ∀ operations, Operation.reset ∉ operations →
          let later := next.performAll operations
          later.status = next.status ∧ later.step = ⟨later, none, none⟩ ∧
            later.reset.status = .running ∧
            ∀ source, Reachable source → (later.restore source.save).1.status = source.status) := by
  have wellFormed := reachable.sound.machine
  have depth_le : processor.machine.stack.depth ≤ 16 := by
    exact_mod_cast wellFormed.stack.depth_le
  have full : callDepth ≤ processor.machine.stack.depth ↔ processor.machine.stack.depth = 16 := by
    simp only [callDepth]
    omega
  refine ⟨?_, ?_⟩
  · rw [← full, ← exists_impossible_iff]
    constructor
    · exact impossible_of_isHalted_step wellFormed running
    · rintro ⟨cause, impossible⟩
      rw [step_of_impossible wellFormed running impossible]
      rfl
  · intro halted
    obtain ⟨cause, impossible⟩ := impossible_of_isHalted_step wellFormed running halted
    have stepped := step_of_impossible wellFormed running impossible
    refine ⟨by rw [stepped], ⟨cause, impossible, by rw [stepped]; rfl⟩, ?_⟩
    intro operations noReset
    have same := status_performAll_of_halted halted noReset
    refine ⟨same, step_of_halted ?_, rfl, ?_⟩
    · rw [same, halted]
    · intro source sourceReachable
      rw [restore_save _ sourceReachable.sound.machine]
      rfl

/-- A program that calls itself halts at the seventeenth call, and stays halted while keys are
pressed and another program is loaded. -/
theorem step_halts_on_full_stack :
    let processor := (start false false ⟨fun _ => 0, 0⟩).performAll
      (.load [0x22, 0x00] :: List.replicate 16 .step)
    let halted := processor.step.processor
    let later := halted.performAll
      [.tick, .setKey 3 true, .step, .load [0x00, 0xE0], .setKey 16 true, .step]
    Reachable processor ∧ processor.status = .running ∧ processor.machine.nextWord = 0x2200 ∧
      processor.machine.stack.depth = 16 ∧ halted.status.isHalted = true ∧
      later.status = halted.status ∧ later.step = ⟨later, none, none⟩ := by
  intro processor halted later
  have reachable : Reachable processor := (Reachable.start false false ⟨fun _ => 0, 0⟩).performAll _
  have here : processor.status = .running ∧ processor.machine.nextWord = 0x2200 ∧
      processor.machine.stack.depth = 16 := by
    decide +kernel
  obtain ⟨running, word, depth⟩ := here
  clear_value processor
  have law := step_halts_iff reachable running
  rw [word, depth] at law
  have halts : halted.status.isHalted = true := law.1.mpr (Or.inr (Or.inl ⟨by decide, rfl⟩))
  obtain ⟨-, -, lasting⟩ := law.2 halts
  obtain ⟨same, idle, -⟩ := lasting
    [.tick, .setKey 3 true, .step, .load [0x00, 0xE0], .setKey 16 true, .step] (by decide)
  exact ⟨reachable, running, word, depth, halts, same, idle⟩

end Processor

end Chip8
