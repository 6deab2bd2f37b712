import Chip8.Processor.Step
import Chip8.Proofs.Instruction.Encoding
import Chip8.Proofs.Processor.Execute

/-!
Contract: all that a step of a processor can do.

Owns:
- `Transition`, the five ways in which a step ends on a well-formed machine;
- that every step there is one of them and is not refused;
- that a step leaves a well-formed machine behind.

Does not own: sequences of steps.
-/

namespace Chip8.Processor

/-- With the word at the program counter decoded, but not yet carried out. -/
def fetched (processor : Processor) : Processor :=
  { processor with word := processor.machine.nextWord, fetchedAt := processor.machine.pc }

/-- Past the word fetched, as an instruction finds the processor. -/
def pastFetch (processor : Processor) : Processor :=
  processor.fetched.withMachine processor.machine.advance

/-- Halted by the instruction at the program counter. The machine stays as it was. -/
def haltedBy (processor : Processor) (cause : HaltCause) : Processor :=
  { processor.fetched with
    status := .halted cause processor.machine.nextWord processor.machine.pc }

/-- The line reported of an instruction that is about to be carried out. -/
def traceLine (processor : Processor) : Option String :=
  if processor.tracing then some processor.fetched.dump else none

/-- Past the wait for a key, which is stored in a register. -/
def withKey (processor : Processor) (register : Register) (key : Key) : Processor :=
  { processor with
    machine := { processor.machine.setRegister register (UInt8.ofNat key.val) with
      pc := (processor.machine.pc + 2) % 4096
      keypad := { processor.machine.keypad with armed := false, latch := none } }
    status := .running }

inductive Transition (processor : Processor) : Processor → Prop where
  | rested (halted : processor.status.isHalted = true) : Transition processor processor
  | waited {register : Register} (status : processor.status = .awaitingKey register)
    (empty : processor.machine.keypad.latch = none) : Transition processor processor
  | collected {register : Register} {key : Key} (status : processor.status = .awaitingKey register)
    (latched : processor.machine.keypad.latch = some key) :
    Transition processor (processor.withKey register key)
  | executed {next : Processor} (status : processor.status = .running)
    (done : execute (Instruction.decode processor.machine.nextWord) processor.pastFetch =
      .ok next) : Transition processor next
  | stopped {cause : HaltCause} (status : processor.status = .running)
    (stop : execute (Instruction.decode processor.machine.nextWord) processor.pastFetch =
      .error (.halt cause)) : Transition processor (processor.haltedBy cause)

/-! ### The step in each status -/

theorem step_of_halted {processor : Processor} (halted : processor.status.isHalted = true) :
    processor.step = ⟨processor, none, none⟩ := by
  unfold step
  cases status : processor.status with
  | running =>
    rw [status] at halted
    contradiction
  | awaitingKey register =>
    rw [status] at halted
    contradiction
  | halted cause word address => rfl

theorem step_of_latch_none {processor : Processor} {register : Register}
    (status : processor.status = .awaitingKey register)
    (empty : processor.machine.keypad.latch = none) :
    processor.step = ⟨processor, none, none⟩ := by
  have nothingTaken : processor.machine.keypad.take = none := by
    unfold Keypad.take
    rw [empty]
    rfl
  unfold step
  rw [status]
  dsimp only
  unfold collectKey
  rw [nothingTaken]

theorem step_of_latch_some {processor : Processor} {register : Register} {key : Key}
    (status : processor.status = .awaitingKey register)
    (latched : processor.machine.keypad.latch = some key) :
    processor.step = ⟨processor.withKey register key, none, none⟩ := by
  have taken : processor.machine.keypad.take =
      some (key, { processor.machine.keypad with armed := false, latch := none }) := by
    unfold Keypad.take
    rw [latched]
    rfl
  unfold step
  rw [status]
  dsimp only
  unfold collectKey
  rw [taken]
  rfl

theorem complete_fetched (processor : Processor) :
    processor.fetched.complete =
      match execute (Instruction.decode processor.machine.nextWord) processor.pastFetch with
      | .ok next => (next, none)
      | .error (.fault fault) => (processor.pastFetch, some fault)
      | .error (.halt cause) => (processor.haltedBy cause, none) :=
  rfl

theorem step_of_running {processor : Processor} (status : processor.status = .running)
    (inside : IsAddress processor.machine.pc) :
    processor.step =
      ⟨processor.fetched.complete.1, processor.traceLine, processor.fetched.complete.2⟩ := by
  unfold step
  rw [status]
  dsimp only
  unfold runInstruction
  rw [Machine.fetch_of_isAddress inside]
  rfl

theorem step_of_done {processor next : Processor} (status : processor.status = .running)
    (inside : IsAddress processor.machine.pc)
    (done : execute (Instruction.decode processor.machine.nextWord) processor.pastFetch =
      .ok next) : processor.step = ⟨next, processor.traceLine, none⟩ := by
  rw [step_of_running status inside, complete_fetched, done]

theorem step_of_stop {processor : Processor} {cause : HaltCause}
    (status : processor.status = .running) (inside : IsAddress processor.machine.pc)
    (stop : execute (Instruction.decode processor.machine.nextWord) processor.pastFetch =
      .error (.halt cause)) :
    processor.step = ⟨processor.haltedBy cause, processor.traceLine, none⟩ := by
  rw [step_of_running status inside, complete_fetched, stop]

/-- A step on a word that the table of words gives to an instruction. -/
theorem step_of_encoded {processor next : Processor} (instruction : Instruction)
    (status : processor.status = .running) (inside : IsAddress processor.machine.pc)
    (known : instruction.isUnknown = false)
    (encoded : Instruction.Encoded processor.machine.nextWord instruction)
    (done : execute instruction processor.pastFetch = .ok next) :
    processor.step = ⟨next, processor.traceLine, none⟩ := by
  rw [← Instruction.decode_of_encoded known encoded] at done
  exact step_of_done status inside done

/-! ### Every step -/

theorem wellFormed_pastFetch {processor : Processor} (wellFormed : processor.machine.WellFormed) :
    processor.pastFetch.machine.WellFormed :=
  wellFormed.advance

theorem step_transition {processor : Processor} (wellFormed : processor.machine.WellFormed) :
    Transition processor processor.step.processor ∧ processor.step.fault = none := by
  cases status : processor.status with
  | halted cause word address =>
    have halted : processor.status.isHalted = true := by rw [status]; rfl
    rw [step_of_halted halted]
    exact ⟨.rested halted, rfl⟩
  | awaitingKey register =>
    cases latch : processor.machine.keypad.latch with
    | none =>
      rw [step_of_latch_none status latch]
      exact ⟨.waited status latch, rfl⟩
    | some key =>
      rw [step_of_latch_some status latch]
      exact ⟨.collected status latch, rfl⟩
  | running =>
    have regular := regular_execute (wellFormed_pastFetch wellFormed)
      (Instruction.decode processor.machine.nextWord)
    generalize result : execute (Instruction.decode processor.machine.nextWord)
      processor.pastFetch = outcome at regular
    cases regular with
    | done next =>
      rw [step_of_done status wellFormed.pc result]
      exact ⟨.executed status result, rfl⟩
    | halt cause =>
      rw [step_of_stop status wellFormed.pc result]
      exact ⟨.stopped status result, rfl⟩

/-- A running processor carries out the word at the program counter, or is halted by it. -/
theorem Transition.of_running {processor next : Processor} (transition : Transition processor next)
    (running : processor.status = .running) :
    execute (Instruction.decode processor.machine.nextWord) processor.pastFetch = .ok next ∨
      ∃ cause, next = processor.haltedBy cause ∧
        execute (Instruction.decode processor.machine.nextWord) processor.pastFetch =
          .error (.halt cause) := by
  cases transition with
  | rested halted =>
    rw [running] at halted
    contradiction
  | waited status | collected status =>
    rw [running] at status
    contradiction
  | executed _ done => exact Or.inl done
  | stopped _ stop => exact Or.inr ⟨_, rfl, stop⟩

theorem Transition.wellFormed {processor next : Processor} (transition : Transition processor next)
    (wellFormed : processor.machine.WellFormed) : next.machine.WellFormed := by
  cases transition with
  | rested | waited | stopped => exact wellFormed
  | collected => exact { wellFormed with pc := isAddress_emod _, keypad := wellFormed.keypad }
  | executed status done =>
    have regular := regular_execute (wellFormed_pastFetch wellFormed)
      (Instruction.decode processor.machine.nextWord)
    rw [done] at regular
    cases regular with
    | done result => exact result

theorem Transition.answer {processor next : Processor} (transition : Transition processor next) :
    next.random.answer = processor.random.answer := by
  cases transition with
  | rested | waited | collected | stopped => rfl
  | executed status done =>
    rw [answer_of_execute done]
    rfl

end Chip8.Processor
