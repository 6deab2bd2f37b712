import Mathlib.Algebra.Order.Group.Int
import Chip8.Proofs.Processor.Frame

/-!
Contract: a timer shows what it was given last less the ticks since then.

Owns:
- `Timer`, which of the two timers is meant, with the words that write it;
- `Processor.LastGiven`, what a course of operations gave a timer last and the ticks after that;
- what each operation does to a timer, and from this what a whole course does.

Does not own: resets and saved states, which replace both timers.
-/

namespace Chip8

/-- One of the two timers. -/
inductive Timer where
  | delay
  | sound
deriving DecidableEq, Repr

namespace Timer

def value : Timer → Timers → Int
  | .delay, timers => timers.delay
  | .sound, timers => timers.sound

/-- The lower byte of the words that write a timer. -/
def writer : Timer → UInt8
  | .delay => 0x15
  | .sound => 0x18

theorem value_tick (timer : Timer) (timers : Timers) :
    timer.value timers.tick = Timers.countDown (timer.value timers) := by
  cases timer <;> rfl

theorem isByte_value (timer : Timer) {timers : Timers} (wellFormed : timers.WellFormed) :
    IsByte (timer.value timers) := by
  cases timer with
  | delay => exact wellFormed.delay
  | sound => exact wellFormed.sound

/-- The instruction that puts a register into a timer. -/
def write : Timer → Register → Instruction
  | .delay, x => .writeDelay x
  | .sound, x => .writeSound x

theorem decode_of_isDevice (timer : Timer) {word : Word} (isWriter : word.IsDevice timer.writer) :
    Instruction.decode word = timer.write word.x := by
  cases timer with
  | delay => exact Instruction.decode_of_encoded rfl ⟨isWriter.1, rfl, isWriter.2⟩
  | sound => exact Instruction.decode_of_encoded rfl ⟨isWriter.1, rfl, isWriter.2⟩

end Timer

namespace Processor

variable {processor : Processor} {timer : Timer}

/-- The next step puts a register into the timer. -/
def Writes (processor : Processor) (timer : Timer) : Prop :=
  processor.status = .running ∧ processor.machine.nextWord.IsDevice timer.writer

instance (processor : Processor) (timer : Timer) : Decidable (processor.Writes timer) :=
  inferInstanceAs (Decidable
    (processor.status = .running ∧ processor.machine.nextWord.IsDevice timer.writer))

/-- The byte in the register that the next word names. -/
def operand (processor : Processor) : UInt8 :=
  processor.machine.register processor.machine.nextWord.x

/-! ### One operation -/

theorem exists_execute_write (processor : Processor) (timer : Timer) (x : Register) :
    ∃ next, execute (timer.write x) processor = .ok next ∧
      timer.value next.machine.timers = (processor.machine.register x).toNat := by
  have small := (processor.machine.register x).toNat_lt
  cases timer with
  | delay =>
    refine ⟨_, rfl, ?_⟩
    simp only [Timer.value, machine_withMachine, Timers.setDelay]
    omega
  | sound =>
    refine ⟨_, rfl, ?_⟩
    simp only [Timer.value, machine_withMachine, Timers.setSound]
    omega

theorem value_step_of_writes (wellFormed : processor.machine.WellFormed)
    (writes : processor.Writes timer) :
    timer.value processor.step.processor.machine.timers = processor.operand.toNat := by
  obtain ⟨running, isWriter⟩ := writes
  obtain ⟨next, done, written⟩ :=
    exists_execute_write processor.pastFetch timer processor.machine.nextWord.x
  rw [← timer.decode_of_isDevice isWriter] at done
  rw [step_of_done running wellFormed.pc done, written]
  rfl

/-- Key waits and halts included, a step that does not write a timer leaves it as it is. -/
theorem value_step_of_not_writes (wellFormed : processor.machine.WellFormed)
    (unwritten : ¬processor.Writes timer) :
    timer.value processor.step.processor.machine.timers =
      timer.value processor.machine.timers := by
  have within := (step_transition wellFormed).1.within
  have notWriter : processor.status = .running →
      ¬processor.machine.nextWord.IsDevice timer.writer :=
    fun running isWriter => unwritten ⟨running, isWriter⟩
  cases status : processor.status with
  | running =>
    rw [footprint_of_running status] at within
    cases timer with
    | delay => exact within.delay.resolve_left (notWriter status)
    | sound => exact within.sound.resolve_left (notWriter status)
  | awaitingKey register =>
    rw [footprint_of_awaitingKey status] at within
    cases timer with
    | delay => exact within.delay.resolve_left id
    | sound => exact within.sound.resolve_left id
  | halted cause word address =>
    rw [step_of_halted (by rw [status]; rfl)]

theorem timers_perform_setKey (processor : Processor) (key : Int) (pressed : Bool) :
    (processor.perform (.setKey key pressed)).1.machine.timers = processor.machine.timers := by
  change (processor.attempt (processor.setKeyAt key pressed)).1.machine.timers = _
  rw [setKeyAt_eq]
  cases processor.machine.keypad.setKeyAt key pressed <;> rfl

theorem timers_perform_load (processor : Processor) (program : List UInt8) :
    (processor.perform (.load program)).1.machine.timers = processor.machine.timers := by
  rw [perform_load_eq]
  split <;> rfl

/-! ### Courses of operations -/

/-- No step in the course of the operations writes the timer. -/
def Unwritten (processor : Processor) (timer : Timer) : List Operation → Prop
  | [] => True
  | operation :: later =>
    ¬(operation = .step ∧ processor.Writes timer) ∧
      (processor.perform operation).1.Unwritten timer later

instance decidableUnwritten (processor : Processor) (timer : Timer) :
    (operations : List Operation) → Decidable (processor.Unwritten timer operations)
  | [] => inferInstanceAs (Decidable True)
  | operation :: later =>
    have := (processor.perform operation).1.decidableUnwritten timer later
    inferInstanceAs (Decidable (¬(operation = .step ∧ processor.Writes timer) ∧
      (processor.perform operation).1.Unwritten timer later))

/-- The value that a timer was given last in the course of operations, and the ticks after that.
A timer that is not written has its value from before them. -/
inductive LastGiven (processor : Processor) (timer : Timer) (operations : List Operation) :
    Int → Nat → Prop where
  | before (unwritten : processor.Unwritten timer operations) :
    LastGiven processor timer operations (timer.value processor.machine.timers)
      (operations.count .tick)
  | written {earlier later : List Operation} (split : operations = earlier ++ .step :: later)
    (writes : (processor.performAll earlier).Writes timer)
    (unwritten : (processor.performAll earlier).step.processor.Unwritten timer later) :
    LastGiven processor timer operations (processor.performAll earlier).operand.toNat
      (later.count .tick)

/-- Every course of operations gave each timer its value at some point. -/
theorem exists_lastGiven (processor : Processor) (timer : Timer) (operations : List Operation) :
    ∃ value ticks, processor.LastGiven timer operations value ticks := by
  induction operations generalizing processor with
  | nil => exact ⟨_, _, .before trivial⟩
  | cons operation later inductionHypothesis =>
    obtain ⟨_, _, laterGiven⟩ := inductionHypothesis (processor.perform operation).1
    cases laterGiven with
    | @written earlier rest split writes unwritten =>
      have wholeSplit : operation :: later = (operation :: earlier) ++ .step :: rest :=
        congrArg (operation :: ·) split
      exact ⟨_, _, .written wholeSplit writes unwritten⟩
    | before unwritten =>
      by_cases writesNow : operation = .step ∧ processor.Writes timer
      · obtain ⟨rfl, writes⟩ := writesNow
        exact ⟨_, _, .written (List.nil_append _).symm writes unwritten⟩
      · exact ⟨_, _, .before ⟨writesNow, unwritten⟩⟩

/-- Without a write only the ticks count, whatever else is done. -/
theorem value_of_unwritten (sound : processor.Sound) {operations : List Operation}
    (noReset : Operation.reset ∉ operations) (unwritten : processor.Unwritten timer operations) :
    timer.value (processor.performAll operations).machine.timers =
      max 0 (timer.value processor.machine.timers - operations.count .tick) := by
  induction operations generalizing processor with
  | nil =>
    have notNegative := (timer.isByte_value sound.machine.timers).1
    change timer.value processor.machine.timers = _
    rw [List.count_nil]
    omega
  | cons operation later inductionHypothesis =>
    rw [List.mem_cons, not_or] at noReset
    have after := inductionHypothesis (sound.perform operation) noReset.2 unwritten.2
    change timer.value ((processor.perform operation).1.performAll later).machine.timers = _
    rw [after]
    cases operation with
    | reset => exact absurd rfl noReset.1
    | step =>
      have kept := value_step_of_not_writes sound.machine fun writes => unwritten.1 ⟨rfl, writes⟩
      rw [List.count_cons_of_ne (by decide)]
      exact congrArg (fun value => max 0 (value - (later.count .tick : Int))) kept
    | load program =>
      rw [timers_perform_load, List.count_cons_of_ne (by simp)]
    | setKey key pressed =>
      rw [timers_perform_setKey, List.count_cons_of_ne (by simp)]
    | tick =>
      have ticked : timer.value (processor.perform .tick).1.machine.timers =
          Timers.countDown (timer.value processor.machine.timers) :=
        timer.value_tick processor.machine.timers
      rw [ticked, List.count_cons_self, Timers.countDown]
      split <;> omega

theorem value_of_lastGiven (reachable : Reachable processor) {operations : List Operation}
    (noReset : Operation.reset ∉ operations) {value : Int} {ticks : Nat}
    (given : processor.LastGiven timer operations value ticks) :
    timer.value (processor.performAll operations).machine.timers = max 0 (value - ticks) := by
  cases given with
  | before unwritten => exact value_of_unwritten reachable.sound noReset unwritten
  | @written earlier later split writes unwritten =>
    subst split
    have reached := reachable.performAll earlier
    have noLaterReset : Operation.reset ∉ later :=
      fun member => noReset (List.mem_append_right _ (List.mem_cons_of_mem _ member))
    have counted := value_of_unwritten (reached.perform .step).sound noLaterReset unwritten
    have written : timer.value ((processor.performAll earlier).perform .step).1.machine.timers =
        (processor.performAll earlier).operand.toNat :=
      value_step_of_writes reached.sound.machine writes
    rw [written] at counted
    rw [performAll_append]
    exact counted

/-- After any steps, ticks, key events and loads, refused ones included, a timer shows the byte that
was written to it last, or what it held before them, less the ticks since then, and never less than
zero. The buzzer sounds exactly if this is positive for the sound timer. -/
theorem timers_count_from_last_write (reachable : Reachable processor)
    {operations : List Operation} (noReset : Operation.reset ∉ operations) :
    let after := processor.performAll operations
    (∀ timer : Timer, ∃ value ticks, processor.LastGiven timer operations value ticks) ∧
      (∀ value ticks, processor.LastGiven .delay operations value ticks →
        after.machine.timers.delay = max 0 (value - ticks)) ∧
      ∀ value ticks, processor.LastGiven .sound operations value ticks →
        after.machine.timers.sound = max 0 (value - ticks) ∧
          (after.soundActive = true ↔ 0 < max 0 (value - (ticks : Int))) := by
  intro after
  refine ⟨fun timer => exists_lastGiven processor timer operations, ?_, ?_⟩
  · intro value ticks given
    exact value_of_lastGiven reachable noReset given
  · intro value ticks given
    have shown : after.machine.timers.sound = max 0 (value - ticks) :=
      value_of_lastGiven reachable noReset given
    refine ⟨shown, ?_⟩
    rw [← shown]
    exact decide_eq_true_iff

/-- The delay timer is written before the sound timer; then a key is waited for and stored, a key
event is refused, a program is loaded and the processor halts. -/
theorem timers_count_across_wait_and_halt :
    let processor := (start false false ⟨fun _ => 0, 0⟩).performAll
      [.load [0x60, 0x05, 0xF0, 0x15, 0xF0, 0x18, 0xF1, 0x0A], .step]
    let waiting : List Operation := [.step, .tick, .setKey 3 true, .setKey 16 true, .step, .tick]
    let halting : List Operation := [.load [0xFF], .step, .tick, .step]
    let operations : List Operation := .step :: .tick :: .step :: (waiting ++ halting)
    let after := processor.performAll operations
    Reachable processor ∧ .reset ∉ operations ∧ after.status.isHalted = true ∧
      processor.LastGiven .delay operations 5 4 ∧ processor.LastGiven .sound operations 5 3 ∧
      after.machine.timers = ⟨1, 2⟩ ∧ after.soundActive = true := by
  intro processor waiting halting operations after
  have reachable : Reachable processor := (Reachable.start false false ⟨fun _ => 0, 0⟩).performAll _
  have noReset : Operation.reset ∉ operations := by decide
  have here : after.status.isHalted = true ∧ processor.Writes .delay ∧ processor.operand = 5 ∧
      processor.step.processor.Unwritten .delay (.tick :: .step :: (waiting ++ halting)) ∧
      (processor.performAll [.step, .tick]).Writes .sound ∧
      (processor.performAll [.step, .tick]).operand = 5 ∧
      (processor.performAll [.step, .tick]).step.processor.Unwritten .sound
        (waiting ++ halting) := by
    decide +kernel
  obtain ⟨halted, writesDelay, delayByte, delayKept, writesSound, soundByte, soundKept⟩ := here
  clear_value processor
  have delayGiven : processor.LastGiven .delay operations processor.operand.toNat 4 :=
    .written (List.nil_append operations).symm writesDelay delayKept
  have soundGiven : processor.LastGiven .sound operations
      (processor.performAll [.step, .tick]).operand.toNat 3 :=
    .written rfl writesSound soundKept
  rw [delayByte] at delayGiven
  rw [soundByte] at soundGiven
  obtain ⟨-, delay, sound⟩ := timers_count_from_last_write reachable noReset
  obtain ⟨soundShown, sounding⟩ := sound 5 3 soundGiven
  have shown : after.machine.timers = ⟨1, 2⟩ :=
    congrArg₂ Timers.mk (delay 5 4 delayGiven) soundShown
  exact ⟨reachable, noReset, halted, delayGiven, soundGiven, shown, sounding.mpr (by decide)⟩

end Processor

end Chip8
