import Chip8.Proofs.Machine.Restore
import Chip8.Proofs.Processor.Transition

/-!
Contract: the processors that can be reached from a fresh one, and what is true of all of them.

Owns:
- `Operation`, what is done to a processor from outside, and `Processor.perform`;
- `Processor.Reachable`, closed under all operations and under going back to a saved state;
- `Processor.Sound`, the invariant, and with it the bounds of every reachable processor;
- that no step of a reachable processor is refused.

Does not own: how the runs of two processors compare.
-/

namespace Chip8

/-- What is done to a processor from outside. Saving is not among it because it changes nothing. -/
inductive Operation where
  | load (program : List UInt8)
  | reset
  | step
  | tick
  | setKey (key : Int) (pressed : Bool)
deriving DecidableEq, Repr

namespace Processor

/-- The result of an attempt that changes nothing if it is refused. -/
def attempt (processor : Processor) : Except Fault Processor → Attempt Processor
  | .ok next => (next, none)
  | .error fault => (processor, some fault)

/-- The processor after an operation, and why the operation was refused, if it was. -/
def perform (processor : Processor) : Operation → Attempt Processor
  | .load program => processor.load program
  | .reset => (processor.reset, none)
  | .step => (processor.step.processor, processor.step.fault)
  | .tick => (processor.tick, none)
  | .setKey key pressed => processor.attempt (processor.setKeyAt key pressed)

/-- The processor after operations in order, whether or not some of them are refused. -/
def performAll (processor : Processor) (operations : List Operation) : Processor :=
  operations.foldl (fun now operation => (now.perform operation).1) processor

theorem performAll_append (processor : Processor) (before later : List Operation) :
    processor.performAll (before ++ later) = (processor.performAll before).performAll later :=
  List.foldl_append

/-- A fresh processor after any operations, refused ones included. Going back is possible to
whatever was saved of any reachable processor, so in particular to its own past. -/
inductive Reachable : Processor → Prop where
  | start (flagsIndexOverflow tracing : Bool) (random : RandomSource) :
    Reachable (start flagsIndexOverflow tracing random)
  | perform {processor : Processor} (reachable : Reachable processor) (operation : Operation) :
    Reachable (processor.perform operation).1
  | restore {processor source : Processor} (reachable : Reachable processor)
    (sourceReachable : Reachable source) : Reachable (processor.restore source.save).1

/-- A wait for a key always finds the keypad armed. -/
structure Sound (processor : Processor) : Prop where
  machine : processor.machine.WellFormed
  armed : processor.status.isAwaitingKey = true → processor.machine.keypad.armed = true

/-! ### Operations on a sound processor -/

/-- Replaces the keypad. -/
def withKeypad (processor : Processor) (keypad : Keypad) : Processor :=
  processor.withMachine { processor.machine with keypad := keypad }

theorem perform_load_eq (processor : Processor) (program : List UInt8) :
    processor.perform (.load program) =
      if programLimit < program.length then (processor, some (.programTooLarge program.length))
      else (processor.withMachine { processor.machine with
        ram := processor.machine.ram.overlay programStart program }, none) := by
  change processor.load program = _
  unfold load
  rw [Machine.load_eq]
  split <;> rfl

theorem setKeyAt_eq (processor : Processor) (key : Int) (pressed : Bool) :
    processor.setKeyAt key pressed =
      (processor.machine.keypad.setKeyAt key pressed).map processor.withKeypad := by
  unfold setKeyAt Machine.setKeyAt
  cases processor.machine.keypad.setKeyAt key pressed <;> rfl

theorem perform_setKey_of_key {processor : Processor}
    (complete : processor.machine.keypad.Complete) (key : Key) (pressed : Bool) :
    processor.perform (.setKey key.val pressed) =
      (processor.withKeypad (processor.machine.keypad.switch key pressed), none) := by
  change processor.attempt (processor.setKeyAt key.val pressed) = _
  rw [setKeyAt_eq, complete.setKeyAt]
  rfl

theorem perform_setKey_of_outside (processor : Processor) {key : Int}
    (outside : ¬(0 ≤ key ∧ key < 16)) (pressed : Bool) :
    processor.perform (.setKey key pressed) = (processor, some (.keyOutside key)) := by
  change processor.attempt (processor.setKeyAt key pressed) = _
  rw [setKeyAt_eq, Keypad.setKeyAt_of_outside _ outside]
  rfl

/-- `source` as it goes on in `processor`, which keeps its settings and its random numbers. A
wait for a key begins anew. -/
def resumed (processor source : Processor) : Processor :=
  { processor with
    machine :=
      if source.status.isAwaitingKey then
        { source.machine with
          display := { source.machine.display with dirty := true }
          keypad := source.machine.keypad.beginWait }
      else
        processor.machine.putBack source.machine
    status := source.status
    fetchedAt := source.machine.pc }

theorem restore_save (processor : Processor) {source : Processor}
    (wellFormed : source.machine.WellFormed) :
    processor.restore source.save = (processor.resumed source, none) := by
  unfold restore save resumed
  rw [Machine.restore_snapshot processor.machine wellFormed]
  cases awaiting : source.status.isAwaitingKey with
  | false => rfl
  | true => rfl

namespace Sound

variable {processor : Processor} (sound : processor.Sound)

include sound

theorem ofTransition {next : Processor} (transition : Transition processor next) : next.Sound where
  machine := transition.wellFormed sound.machine
  armed := by
    intro awaiting
    cases transition with
    | rested | waited => exact sound.armed awaiting
    | collected | stopped => contradiction
    | executed status done =>
      have before : processor.pastFetch.status.isAwaitingKey = false :=
        congrArg Status.isAwaitingKey status
      rw [keypad_of_awaitingKey done before awaiting]
      rfl

theorem perform (operation : Operation) : (processor.perform operation).1.Sound := by
  cases operation with
  | load program =>
    rw [perform_load_eq]
    split
    · exact sound
    · exact ⟨sound.machine.setRam _, sound.armed⟩
  | reset => exact ⟨Machine.wellFormed_reset _, nofun⟩
  | step => exact sound.ofTransition (step_transition sound.machine).1
  | tick => exact ⟨sound.machine.tick, sound.armed⟩
  | setKey key pressed =>
    by_cases inside : 0 ≤ key ∧ key < 16
    · obtain ⟨valid, rfl⟩ := Keypad.exists_key inside
      rw [perform_setKey_of_key sound.machine.keypad]
      exact ⟨sound.machine.setKeypad (sound.machine.keypad.switch valid pressed), sound.armed⟩
    · rw [perform_setKey_of_outside processor inside]
      exact sound

theorem answer_perform (operation : Operation) :
    (processor.perform operation).1.random.answer = processor.random.answer := by
  cases operation with
  | load program =>
    rw [perform_load_eq]
    split <;> rfl
  | reset | tick => rfl
  | step => exact (step_transition sound.machine).1.answer
  | setKey key pressed =>
    change (processor.attempt (processor.setKeyAt key pressed)).1.random.answer = _
    rw [setKeyAt_eq]
    cases processor.machine.keypad.setKeyAt key pressed <;> rfl

omit sound in
theorem answer_performAll (sound : processor.Sound) (operations : List Operation) :
    (processor.performAll operations).random.answer = processor.random.answer := by
  induction operations generalizing processor with
  | nil => rfl
  | cons operation later inductionHypothesis =>
    exact (inductionHypothesis (sound.perform operation)).trans (sound.answer_perform operation)

theorem resumed (target : Processor) : (target.resumed processor).Sound := by
  unfold Processor.resumed
  cases awaiting : processor.status.isAwaitingKey with
  | false =>
    refine ⟨sound.machine.putBack target.machine, ?_⟩
    intro contrary
    rw [awaiting] at contrary
    contradiction
  | true =>
    have shown : { processor.machine with
        display := { processor.machine.display with dirty := true } }.WellFormed :=
      sound.machine.setDisplay sound.machine.display
    exact ⟨shown.setKeypad sound.machine.keypad, fun _ => rfl⟩

end Sound

theorem Reachable.sound {processor : Processor} (reachable : Reachable processor) :
    processor.Sound := by
  induction reachable with
  | start flagsIndexOverflow tracing random => exact ⟨Machine.wellFormed_fresh, nofun⟩
  | perform _ operation sound => exact sound.perform operation
  | restore _ _ _ sourceSound =>
    rw [restore_save _ sourceSound.machine]
    exact sourceSound.resumed _

theorem Reachable.performAll {processor : Processor} (reachable : Reachable processor)
    (operations : List Operation) : Reachable (processor.performAll operations) := by
  induction operations generalizing processor with
  | nil => exact reachable
  | cons operation later inductionHypothesis =>
    exact inductionHypothesis (reachable.perform operation)

/-! ### Bounds -/

/-- The bounds of everything that a processor holds, the bounds kept by types included. -/
structure InBounds (processor : Processor) : Prop where
  memory : processor.machine.ram.toList.length = memorySize
  registers : ∀ register, (processor.machine.register register).toNat ≤ 0xFF
  index : 0 ≤ processor.machine.index ∧ processor.machine.index ≤ 0xFFF
  pc : 0 ≤ processor.machine.pc ∧ processor.machine.pc ≤ 0xFFF
  depth : processor.machine.stack.depth ≤ callDepth
  returns : ∀ entry ∈ processor.machine.stack.entries, 0 ≤ entry ∧ entry ≤ 0xFFF
  delay : 0 ≤ processor.machine.timers.delay ∧ processor.machine.timers.delay ≤ 0xFF
  sound : 0 ≤ processor.machine.timers.sound ∧ processor.machine.timers.sound ≤ 0xFF
  pixels : ∀ cell, processor.machine.display.pixels.get cell = 0xFF ∨
    processor.machine.display.pixels.get cell = 0x00
  keys : processor.machine.keypad.down.length = keyCount
  latch : ∀ key, processor.machine.keypad.latch = some key → key.val ≤ 0xF

theorem Sound.inBounds {processor : Processor} (sound : processor.Sound) :
    processor.InBounds := by
  obtain ⟨⟨index, pc, stack, timers, display, keypad⟩, -⟩ := sound
  have atMost : ∀ {location : Int}, IsAddress location → 0 ≤ location ∧ location ≤ 0xFFF := by
    rintro location ⟨notBelow, below⟩
    omega
  have atMostByte : ∀ {value : Int}, IsByte value → 0 ≤ value ∧ value ≤ 0xFF := by
    rintro value ⟨notBelow, below⟩
    omega
  exact {
    memory := Bank.length_toList _
    registers := fun register => Nat.le_of_lt_succ (UInt8.toNat_lt _)
    index := atMost index
    pc := atMost pc
    depth := by exact_mod_cast stack.depth_le
    returns := fun entry member => atMost (stack.addresses entry member)
    delay := atMostByte timers.delay
    sound := atMostByte timers.sound
    pixels := display
    keys := keypad
    latch := fun key _ => Nat.le_of_lt_succ key.isLt }

/-- Whatever is done to a processor keeps it within its bounds, and its next step is never
refused. -/
theorem inBounds_and_step_not_refused {processor : Processor} (reachable : Reachable processor) :
    processor.InBounds ∧ processor.step.fault = none :=
  ⟨reachable.sound.inBounds, (step_transition reachable.sound.machine).2⟩

/-- Operations that are refused, a halt and a return to an earlier state are all allowed for. -/
theorem inBounds_after_refusals :
    let fresh := start true false ⟨fun count => 1000 * count - 7, 0⟩
    let halted := fresh.performAll
      [.load [0xC0, 0xFF, 0xF1, 0x0A], .load (List.replicate 0xE01 0), .setKey 16 true, .step,
        .step, .setKey 3 true, .tick, .step, .step]
    let restored := (halted.restore fresh.save).1
    Reachable restored ∧ restored.InBounds ∧ restored.step.fault = none := by
  have fresh := Reachable.start true false ⟨fun count => 1000 * count - 7, 0⟩
  have restored := (fresh.performAll
    [.load [0xC0, 0xFF, 0xF1, 0x0A], .load (List.replicate 0xE01 0), .setKey 16 true, .step,
      .step, .setKey 3 true, .tick, .step, .step]).restore fresh
  exact ⟨restored, inBounds_and_step_not_refused restored⟩

end Processor

end Chip8
