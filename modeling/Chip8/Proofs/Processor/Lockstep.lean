import Chip8.Proofs.Processor.Alike

/-!
Contract: two processors that differ where their steps do not look go on in lockstep.

Owns:
- `Processor.Lockstep`, alike processors that also decoded the same word last, at one place;
- `Processor.StepsAlike`, the two ways in which alike processors carry out an instruction;
- `Processor.StepAdmits`, that the next step does not look at what a likeness leaves open;
- that a step in any status keeps two processors in lockstep then.

Does not own: any particular likeness.
-/

namespace Chip8

theorem RandomSource.draw_congr {left right : RandomSource} (same : left = right) :
    left.draw.1 = right.draw.1 ∧ left.draw.2 = right.draw.2 := by
  subst same
  exact ⟨rfl, rfl⟩

namespace Processor

/-- Alike, and the same in the word decoded last, in where it was fetched and in tracing. -/
structure Lockstep (likeness : Likeness) (left right : Processor) : Prop where
  alike : left.Alike likeness right
  word : left.word = right.word
  fetchedAt : left.fetchedAt = right.fetchedAt
  tracing : left.tracing = right.tracing

/-- The next step does not look at what the likeness leaves open. A step that waits for a key
looks at the latch. -/
structure StepAdmits (likeness : Likeness) (processor : Processor) : Prop where
  instruction : processor.status = .running →
    likeness.Admits (Instruction.decode processor.machine.nextWord)
  wait : processor.status.isAwaitingKey = true → likeness.keypad = Eq

/-- What the steps of two alike processors report when they carry out an instruction. -/
inductive StepsAlike (likeness : Likeness) (left right : Processor) :
    StepReport → StepReport → Prop where
  | executed {leftNext rightNext : Processor}
    (leftDone : execute (Instruction.decode left.machine.nextWord) left.pastFetch = .ok leftNext)
    (rightDone : execute (Instruction.decode left.machine.nextWord) right.pastFetch =
      .ok rightNext)
    (results : leftNext.Alike likeness rightNext) :
    StepsAlike likeness left right ⟨leftNext, left.traceLine, none⟩
      ⟨rightNext, right.traceLine, none⟩
  | stopped (cause : HaltCause) :
    StepsAlike likeness left right ⟨left.haltedBy cause, left.traceLine, none⟩
      ⟨right.haltedBy cause, right.traceLine, none⟩

theorem Alike.pastFetch {likeness : Likeness} {left right : Processor}
    (alike : left.Alike likeness right) : left.pastFetch.Alike likeness right.pastFetch :=
  { alike with machine := alike.machine.advance }

theorem Alike.stepsAlike {likeness : Likeness} {left right : Processor}
    (alike : left.Alike likeness right) (wellFormed : left.machine.WellFormed)
    (running : left.status = .running)
    (admits : likeness.Admits (Instruction.decode left.machine.nextWord)) :
    StepsAlike likeness left right left.step right.step := by
  have rightRunning : right.status = .running := by rw [← alike.status, running]
  have rightInside : IsAddress right.machine.pc := by
    rw [← alike.machine.pc]
    exact wellFormed.pc
  have regular := regular_execute (wellFormed_pastFetch wellFormed)
    (Instruction.decode left.machine.nextWord)
  have matched := alike.pastFetch.execute admits
  generalize leftResult : Processor.execute (Instruction.decode left.machine.nextWord)
    left.pastFetch = leftOutcome at regular matched
  generalize rightResult : Processor.execute (Instruction.decode left.machine.nextWord)
    right.pastFetch = rightOutcome at matched
  have rightFetched := rightResult
  rw [alike.machine.nextWord] at rightFetched
  cases matched with
  | done results =>
    rw [step_of_done running wellFormed.pc leftResult,
      step_of_done rightRunning rightInside rightFetched]
    exact .executed leftResult rightResult results
  | stop =>
    cases regular with
    | halt cause =>
      rw [step_of_stop running wellFormed.pc leftResult,
        step_of_stop rightRunning rightInside rightFetched]
      exact .stopped cause

/-- No instruction touches the record of what was fetched. -/
theorem record_of_execute {processor next : Processor} {instruction : Instruction}
    (done : execute instruction processor = .ok next) :
    next.word = processor.word ∧ next.fetchedAt = processor.fetchedAt ∧
      next.tracing = processor.tracing := by
  cases carried_of_execute done with
  | waited | drew | moved => exact ⟨rfl, rfl, rfl⟩

namespace Lockstep

variable {likeness : Likeness} {left right : Processor} (lockstep : Lockstep likeness left right)

include lockstep

/-- But for their machines the two are the same. -/
theorem withMachine_eq (sameRandom : likeness.random = Eq) :
    left.withMachine right.machine = right := by
  have random : left.random = right.random := by
    rw [← sameRandom]
    exact lockstep.alike.random
  obtain ⟨machine, status, word, fetchedAt, flags, tracing, source⟩ := right
  unfold Processor.withMachine
  rw [Processor.mk.injEq]
  exact ⟨rfl, lockstep.alike.status, lockstep.word, lockstep.fetchedAt, lockstep.alike.flags,
    lockstep.tracing, random⟩

theorem pastFetch : Lockstep likeness left.pastFetch right.pastFetch where
  alike := lockstep.alike.pastFetch
  word := lockstep.alike.machine.nextWord
  fetchedAt := lockstep.alike.machine.pc
  tracing := lockstep.tracing

theorem haltedBy (cause : HaltCause) :
    Lockstep likeness (left.haltedBy cause) (right.haltedBy cause) where
  alike := { lockstep.alike with
    status := by
      simp only [Processor.haltedBy, lockstep.alike.machine.nextWord, lockstep.alike.machine.pc] }
  word := lockstep.alike.machine.nextWord
  fetchedAt := lockstep.alike.machine.pc
  tracing := lockstep.tracing

theorem withKey (sameKeypad : likeness.keypad = Eq) (register : Register) (key : Key) :
    Lockstep likeness (left.withKey register key) (right.withKey register key) := by
  have keypads : left.machine.keypad = right.machine.keypad := by
    rw [← sameKeypad]
    exact lockstep.alike.machine.keypad
  have disarmed : likeness.keypad ⟨left.machine.keypad.down, false, none⟩
      ⟨right.machine.keypad.down, false, none⟩ := by
    rw [sameKeypad, keypads]
  have stored := (lockstep.alike.machine.setRegister register (UInt8.ofNat key.val)).advance
  exact ⟨{ lockstep.alike with machine := stored.setKeypad disarmed, status := rfl },
    lockstep.word, lockstep.fetchedAt, lockstep.tracing⟩

theorem of_execute {instruction : Instruction} {leftNext rightNext : Processor}
    (leftDone : execute instruction left = .ok leftNext)
    (rightDone : execute instruction right = .ok rightNext)
    (results : leftNext.Alike likeness rightNext) : Lockstep likeness leftNext rightNext := by
  obtain ⟨leftWord, leftFetchedAt, leftTracing⟩ := record_of_execute leftDone
  obtain ⟨rightWord, rightFetchedAt, rightTracing⟩ := record_of_execute rightDone
  refine ⟨results, ?_, ?_, ?_⟩
  · rw [leftWord, rightWord, lockstep.word]
  · rw [leftFetchedAt, rightFetchedAt, lockstep.fetchedAt]
  · rw [leftTracing, rightTracing, lockstep.tracing]

theorem step_of_running (wellFormed : left.machine.WellFormed) (running : left.status = .running)
    (admits : likeness.Admits (Instruction.decode left.machine.nextWord)) :
    Lockstep likeness left.step.processor right.step.processor ∧
      left.step.fault = right.step.fault := by
  have steps := lockstep.alike.stepsAlike wellFormed running admits
  generalize left.step = leftReport at steps
  generalize right.step = rightReport at steps
  cases steps with
  | executed leftDone rightDone results =>
    exact ⟨lockstep.pastFetch.of_execute leftDone rightDone results, rfl⟩
  | stopped cause => exact ⟨lockstep.haltedBy cause, rfl⟩

theorem step (wellFormed : left.machine.WellFormed) (admits : StepAdmits likeness left) :
    Lockstep likeness left.step.processor right.step.processor ∧
      left.step.fault = right.step.fault := by
  have sameStatus := lockstep.alike.status
  cases status : left.status with
  | running => exact lockstep.step_of_running wellFormed status (admits.instruction status)
  | halted cause word address =>
    have leftHalted : left.status.isHalted = true := congrArg Status.isHalted status
    have rightHalted : right.status.isHalted = true := by rw [← sameStatus, leftHalted]
    rw [step_of_halted leftHalted, step_of_halted rightHalted]
    exact ⟨lockstep, rfl⟩
  | awaitingKey register =>
    have sameRelation := admits.wait (congrArg Status.isAwaitingKey status)
    have sameKeypad : left.machine.keypad = right.machine.keypad := by
      rw [← sameRelation]
      exact lockstep.alike.machine.keypad
    have rightStatus : right.status = .awaitingKey register := by rw [← sameStatus, status]
    cases latch : left.machine.keypad.latch with
    | none =>
      rw [step_of_latch_none status latch,
        step_of_latch_none rightStatus (by rw [← sameKeypad, latch])]
      exact ⟨lockstep, rfl⟩
    | some key =>
      rw [step_of_latch_some status latch,
        step_of_latch_some rightStatus (by rw [← sameKeypad, latch])]
      exact ⟨lockstep.withKey sameRelation register key, rfl⟩

end Lockstep

end Processor

end Chip8
