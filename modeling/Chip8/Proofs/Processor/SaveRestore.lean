import Chip8.Proofs.Processor.KeyWait
import Chip8.Proofs.Processor.Lockstep

/-!
Contract: how a restored processor compares with the one that was saved.

Owns:
- `Processor.Twins`, which forgets what a saved state does not hold: the latch and whether the
  keypad is armed while no key is awaited, the word decoded last, and the mark of the screen;
- that twins stay twins under all operations and show the same to every observer;
- that restoring gives a twin of what was saved, unless a key was already caught;
- that a key already caught is not restored: the wait begins anew.
-/

namespace Chip8

/-- The same numbers from now on, however many were drawn before. -/
def RandomSource.SameFuture (left right : RandomSource) : Prop :=
  ∀ count, left.answer (left.drawn + count) = right.answer (right.drawn + count)

theorem RandomSource.SameFuture.draw {left right : RandomSource} (same : left.SameFuture right) :
    left.draw.1 = right.draw.1 ∧ left.draw.2.SameFuture right.draw.2 := by
  refine ⟨same 0, ?_⟩
  intro count
  have later := same (1 + count)
  rw [← Nat.add_assoc, ← Nat.add_assoc] at later
  exact later

/-- Two runs of one program: the keys are the same, and what the keypad knows besides may differ. -/
def Likeness.replay : Likeness where
  timers := Eq
  dirty _ _ := True
  keypad left right := left.down = right.down
  random := RandomSource.SameFuture
  dirty_drawn := trivial
  random_draw := RandomSource.SameFuture.draw

theorem Likeness.replay_admits (instruction : Instruction) : replay.Admits instruction where
  timers _ := rfl
  keys _ _ _ same := ⟨same, same⟩

namespace Processor

/-- Alike in all that a saved state holds, and with one keypad while a key is awaited. -/
structure Twins (left right : Processor) : Prop where
  alike : left.Alike Likeness.replay right
  wait : left.status.isAwaitingKey = true → left.machine.keypad = right.machine.keypad

namespace Twins

variable {left right : Processor} (twins : Twins left right)

include twins

theorem snapshot : left.machine.snapshot = right.machine.snapshot := by
  obtain ⟨⟨ram, registers, index, pc, stack, timers, pixels, -, keypad⟩, -⟩ := twins.alike
  have sameTimers : left.machine.timers = right.machine.timers := timers
  have sameKeys : left.machine.keypad.down = right.machine.keypad.down := keypad
  have sameGrid : left.machine.display.grid = right.machine.display.grid :=
    Display.grid_congr pixels
  simp only [Machine.snapshot, ram, registers, index, pc, stack, sameTimers, sameGrid, sameKeys]

theorem withKey (register : Register) (key : Key) :
    Twins (left.withKey register key) (right.withKey register key) := by
  have moved := (twins.alike.machine.setRegister register (UInt8.ofNat key.val)).advance
  refine ⟨{ twins.alike with machine := moved.setKeypad ?_, status := rfl }, nofun⟩
  exact twins.alike.machine.keypad

theorem haltedBy (cause : HaltCause) : Twins (left.haltedBy cause) (right.haltedBy cause) := by
  refine ⟨{ twins.alike with status := ?_ }, nofun⟩
  simp only [Processor.haltedBy, twins.alike.machine.nextWord, twins.alike.machine.pc]

/-- A wait that an instruction has begun finds the same keypad on both sides. -/
theorem of_execute {instruction : Instruction} {leftNext rightNext : Processor}
    (running : left.status = .running)
    (leftDone : execute instruction left.pastFetch = .ok leftNext)
    (rightDone : execute instruction right.pastFetch = .ok rightNext)
    (results : leftNext.Alike Likeness.replay rightNext) : Twins leftNext rightNext := by
  have leftBefore : left.pastFetch.status.isAwaitingKey = false :=
    congrArg Status.isAwaitingKey running
  have rightBefore : right.pastFetch.status.isAwaitingKey = false := by
    rw [← twins.alike.pastFetch.status, leftBefore]
  refine ⟨results, ?_⟩
  intro awaiting
  have rightAwaiting : rightNext.status.isAwaitingKey = true := by
    rw [← results.status, awaiting]
  rw [keypad_of_awaitingKey leftDone leftBefore awaiting,
    keypad_of_awaitingKey rightDone rightBefore rightAwaiting]
  have sameKeys : left.machine.keypad.down = right.machine.keypad.down :=
    twins.alike.machine.keypad
  change Keypad.mk left.machine.keypad.down true none = ⟨right.machine.keypad.down, true, none⟩
  rw [sameKeys]

theorem step_of_running (wellFormed : left.machine.WellFormed) (running : left.status = .running) :
    Twins left.step.processor right.step.processor ∧ left.step.fault = right.step.fault := by
  have steps := twins.alike.stepsAlike wellFormed running (Likeness.replay_admits _)
  generalize left.step = leftReport at steps
  generalize right.step = rightReport at steps
  cases steps with
  | executed leftDone rightDone results =>
    exact ⟨twins.of_execute running leftDone rightDone results, rfl⟩
  | stopped cause => exact ⟨twins.haltedBy cause, rfl⟩

theorem step (wellFormed : left.machine.WellFormed) :
    Twins left.step.processor right.step.processor ∧ left.step.fault = right.step.fault := by
  have sameStatus := twins.alike.status
  cases status : left.status with
  | running => exact twins.step_of_running wellFormed status
  | halted cause word address =>
    have leftHalted : left.status.isHalted = true := congrArg Status.isHalted status
    have rightHalted : right.status.isHalted = true := by rw [← sameStatus, leftHalted]
    rw [step_of_halted leftHalted, step_of_halted rightHalted]
    exact ⟨twins, rfl⟩
  | awaitingKey register =>
    have sameKeypad : left.machine.keypad = right.machine.keypad :=
      twins.wait (congrArg Status.isAwaitingKey status)
    have rightStatus : right.status = .awaitingKey register := by rw [← sameStatus, status]
    cases latch : left.machine.keypad.latch with
    | none =>
      rw [step_of_latch_none status latch,
        step_of_latch_none rightStatus (by rw [← sameKeypad, latch])]
      exact ⟨twins, rfl⟩
    | some key =>
      rw [step_of_latch_some status latch,
        step_of_latch_some rightStatus (by rw [← sameKeypad, latch])]
      exact ⟨twins.withKey register key, rfl⟩

theorem withKeypad {leftKeypad rightKeypad : Keypad}
    (sameKeys : leftKeypad.down = rightKeypad.down)
    (wait : left.status.isAwaitingKey = true → leftKeypad = rightKeypad) :
    Twins (left.withKeypad leftKeypad) (right.withKeypad rightKeypad) :=
  ⟨{ twins.alike with machine := twins.alike.machine.setKeypad sameKeys }, wait⟩

theorem setKey (complete : left.machine.keypad.Complete) (key : Int) (pressed : Bool) :
    Twins (left.perform (.setKey key pressed)).1 (right.perform (.setKey key pressed)).1 ∧
      (left.perform (.setKey key pressed)).2 = (right.perform (.setKey key pressed)).2 := by
  have sameKeys : left.machine.keypad.down = right.machine.keypad.down :=
    twins.alike.machine.keypad
  have rightComplete : right.machine.keypad.Complete := by
    unfold Keypad.Complete
    rw [← sameKeys, complete]
  by_cases inside : 0 ≤ key ∧ key < 16
  · obtain ⟨valid, rfl⟩ := Keypad.exists_key inside
    rw [perform_setKey_of_key complete, perform_setKey_of_key rightComplete]
    refine ⟨twins.withKeypad ?_ ?_, rfl⟩
    · exact congrArg (fun (down : List Bool) => down.set valid.val pressed) sameKeys
    · intro awaiting
      rw [twins.wait awaiting]
  · rw [perform_setKey_of_outside left inside, perform_setKey_of_outside right inside]
    exact ⟨twins, rfl⟩

theorem reset : Twins left.reset right.reset := by
  have cleared : left.machine.reset = right.machine.reset := by
    unfold Machine.reset
    rw [twins.alike.machine.ram]
  unfold Processor.reset
  rw [cleared]
  exact ⟨⟨⟨rfl, rfl, rfl, rfl, rfl, rfl, rfl, trivial, rfl⟩, rfl, twins.alike.flags,
    twins.alike.random⟩, nofun⟩

theorem perform (sound : left.Sound) (operation : Operation) :
    Twins (left.perform operation).1 (right.perform operation).1 ∧
      (left.perform operation).2 = (right.perform operation).2 := by
  cases operation with
  | load program =>
    have loaded := twins.alike.machine.setRam (left.machine.ram.overlay programStart program)
    rw [perform_load_eq, perform_load_eq, ← twins.alike.machine.ram]
    split
    · exact ⟨twins, rfl⟩
    · exact ⟨⟨{ twins.alike with machine := loaded }, twins.wait⟩, rfl⟩
  | reset => exact ⟨twins.reset, rfl⟩
  | step => exact twins.step sound.machine
  | tick =>
    have ticked := twins.alike.machine.setTimers (congrArg Timers.tick twins.alike.machine.timers)
    exact ⟨⟨{ twins.alike with machine := ticked }, twins.wait⟩, rfl⟩
  | setKey key pressed => exact twins.setKey sound.machine.keypad key pressed

end Twins

/-! ### What can be observed -/

/-- What a caller gets to see of an operation. -/
structure Observation where
  fault : Option Fault
  status : Status
  snapshot : Snapshot

def observations (processor : Processor) : List Operation → List Observation
  | [] => []
  | operation :: later =>
    let (next, fault) := processor.perform operation
    ⟨fault, next.status, next.machine.snapshot⟩ :: next.observations later

theorem Twins.observations_eq {left right : Processor} (twins : Twins left right)
    (sound : left.Sound) (operations : List Operation) :
    left.observations operations = right.observations operations := by
  induction operations generalizing left right with
  | nil => rfl
  | cons operation later inductionHypothesis =>
    obtain ⟨next, sameFault⟩ := twins.perform sound operation
    have sameRest := inductionHypothesis next (sound.perform operation)
    simp only [observations, sameFault, next.alike.status, next.snapshot, sameRest]

/-! ### Back to a saved state -/

theorem twins_resumed {source : Processor} (sound : source.Sound) (target : Processor)
    (sameFlags : source.flagsIndexOverflow = target.flagsIndexOverflow)
    (sameRandom : source.random.SameFuture target.random)
    (notCaught : source.status.isAwaitingKey = true → source.machine.keypad.latch = none) :
    Twins source (target.resumed source) := by
  have alike : source.Alike Likeness.replay (target.resumed source) := by
    unfold resumed
    split
    all_goals exact ⟨⟨rfl, rfl, rfl, rfl, rfl, rfl, rfl, trivial, rfl⟩, rfl, sameFlags, sameRandom⟩
  refine ⟨alike, ?_⟩
  intro awaiting
  have rearmed : source.machine.keypad = source.machine.keypad.beginWait := by
    unfold Keypad.beginWait
    rw [← sound.armed awaiting, ← notCaught awaiting]
  unfold resumed
  rw [awaiting]
  exact rearmed

/-- A saved state is restored as it was, whatever the target held before. Then nothing tells the
two apart, unless the one that was saved had already caught a key. -/
theorem restore_save_faithful {source : Processor} (reachable : Reachable source)
    (target : Processor) :
    let restored := (target.restore source.save).1
    (target.restore source.save).2 = none ∧
      restored.machine.snapshot = source.machine.snapshot ∧
      restored.status = source.status ∧
      (source.flagsIndexOverflow = target.flagsIndexOverflow →
        source.random.SameFuture target.random →
        ¬(source.status.isAwaitingKey = true ∧ source.machine.keypad.latch ≠ none) →
        ∀ operations, restored.observations operations = source.observations operations) := by
  have sound := reachable.sound
  rw [restore_save target sound.machine]
  have restoredSnapshot : (target.resumed source).machine.snapshot = source.machine.snapshot := by
    unfold resumed
    split
    · rfl
    · exact Machine.snapshot_putBack target.machine source.machine
  refine ⟨rfl, restoredSnapshot, rfl, ?_⟩
  intro sameFlags sameRandom notCaught operations
  have empty : source.status.isAwaitingKey = true → source.machine.keypad.latch = none := by
    intro awaiting
    by_contra caught
    exact notCaught ⟨awaiting, caught⟩
  have twins := twins_resumed sound target sameFlags sameRandom empty
  exact (twins.observations_eq sound operations).symm

/-- The target traces, and has armed its keypad and caught a key of its own. Its random numbers
are those of the source from the second one on. -/
theorem restore_save_faithful_over_stale_keypad :
    let numbers : Nat → Int := fun count => 37 * count
    let source := (start false false ⟨numbers, 0⟩).performAll
      [.load [0xC1, 0xFF, 0xC2, 0xFF, 0xF3, 0x0A], .setKey 4 true, .step]
    let target := (start false true ⟨fun count => numbers (count + 1), 0⟩).performAll
      [.load [0xF5, 0x0A], .step, .setKey 7 true]
    let restored := (target.restore source.save).1
    source.status = .running ∧ target.machine.keypad.latch = some 7 ∧
      restored.machine.keypad.latch = some 7 ∧
      restored.machine.snapshot = source.machine.snapshot ∧
      ∀ operations, restored.observations operations = source.observations operations := by
  intro numbers source target restored
  have reachable : Reachable source := (Reachable.start false false ⟨numbers, 0⟩).performAll _
  have here : source.status = .running ∧ target.machine.keypad.latch = some 7 ∧
      restored.machine.keypad.latch = some 7 := by
    decide +kernel
  have settings : source.flagsIndexOverflow = target.flagsIndexOverflow ∧
      source.random.drawn = 1 ∧ target.random.drawn = 0 := by
    decide +kernel
  obtain ⟨sameFlags, sourceDrawn, targetDrawn⟩ := settings
  have sourceAnswer : source.random.answer = numbers :=
    (Reachable.start false false ⟨numbers, 0⟩).sound.answer_performAll _
  have targetAnswer : target.random.answer = fun count => numbers (count + 1) :=
    (Reachable.start false true ⟨fun count => numbers (count + 1), 0⟩).sound.answer_performAll _
  have sameRandom : source.random.SameFuture target.random := by
    intro count
    rw [sourceAnswer, targetAnswer, sourceDrawn, targetDrawn, Nat.zero_add, Nat.add_comm]
  obtain ⟨-, sameSnapshot, -, sameRuns⟩ := restore_save_faithful reachable target
  have notCaught :
      ¬(source.status.isAwaitingKey = true ∧ source.machine.keypad.latch ≠ none) := by
    rw [here.1]
    exact fun caught => nomatch caught.1
  exact ⟨here.1, here.2.1, here.2.2, sameSnapshot, sameRuns sameFlags sameRandom notCaught⟩

/-! ### A key already caught -/

/-- A key that was caught but not yet collected when the state was saved is not stored after it
has been restored, although it is still held. -/
theorem caught_key_not_stored_after_restore :
    ¬∀ (source : Processor) (register : Register) (key : Key) (operations : List Operation),
      Reachable source → source.status = .awaitingKey register →
      source.machine.keypad.latch = some key →
      let next := ((source.performAll operations).restore source.save).1.step.processor
      next.machine.register register = UInt8.ofNat key.val ∧
        next.machine.pc = (source.machine.pc + 2) % 4096 ∧ next.status = .running := by
  intro alwaysStored
  let source := (start false false ⟨fun _ => 0, 0⟩).performAll
    [.load [0xF2, 0x0A], .step, .setKey 1 true]
  have reachable : Reachable source := (Reachable.start false false ⟨fun _ => 0, 0⟩).performAll _
  have caught : source.status = .awaitingKey 2 ∧ source.machine.keypad.latch = some 1 := by
    decide +kernel
  have stillWaits : ((source.performAll [.reset]).restore source.save).1.step.processor.status =
      .awaitingKey 2 := by
    decide +kernel
  have stored := alwaysStored source 2 1 [.reset] reachable caught.1 caught.2
  have running := stored.2.2
  rw [stillWaits] at running
  exact nomatch running

/-- A wait that is restored begins anew. A key that had been caught would have been stored by the
next step of what was saved. After the restore it has to be pressed again, like every other. -/
theorem restore_save_waitsFor {source : Processor} {register : Register}
    (reachable : Reachable source) (awaiting : source.status = .awaitingKey register)
    (target : Processor) :
    let restored := (target.restore source.save).1
    (∀ key, source.machine.keypad.latch = some key →
        source.step = ⟨source.withKey register key, none, none⟩) ∧
      (target.restore source.save).2 = none ∧
      restored.status = .awaitingKey register ∧
      restored.machine = { source.machine with
        display := { source.machine.display with dirty := true }
        keypad := ⟨source.machine.keypad.down, true, none⟩ } ∧
      WaitsFor register restored := by
  have wellFormed := reachable.sound.machine
  have isAwaiting : source.status.isAwaitingKey = true := congrArg Status.isAwaitingKey awaiting
  have machine : (target.resumed source).machine = { source.machine with
      display := { source.machine.display with dirty := true }
      keypad := ⟨source.machine.keypad.down, true, none⟩ } := by
    unfold resumed
    rw [isAwaiting]
    rfl
  have complete : (target.resumed source).machine.keypad.Complete := by
    rw [machine]
    exact wellFormed.keypad
  rw [restore_save target wellFormed]
  refine ⟨fun key => step_of_latch_some awaiting, rfl, awaiting, machine, ?_⟩
  exact waitsFor_of_armed awaiting complete (by rw [machine]) (by rw [machine])

/-- The key that had been caught is stored after it was let go and pressed again, and another key
that goes down later makes no difference. -/
theorem restore_save_waitsFor_caught_key :
    let source := (start false false ⟨fun _ => 0, 0⟩).performAll
      [.load [0xF2, 0x0A], .step, .setKey 1 true]
    let restored := ((source.performAll [.step, .reset]).restore source.save).1
    let pressed := restored.after
      ([.step, .setKey 1 true, .setKey 1 false] ++ .setKey 1 true :: [.setKey 5 true])
    source.status = .awaitingKey 2 ∧ source.machine.keypad.latch = some 1 ∧
      source.step.processor.status = .running ∧
      restored.step = ⟨restored, none, none⟩ ∧
      pressed.step.processor.machine.registers = source.step.processor.machine.registers ∧
      WaitsFor 2 restored := by
  intro source restored pressed
  have reachable : Reachable source := (Reachable.start false false ⟨fun _ => 0, 0⟩).performAll _
  have caught : source.status = .awaitingKey 2 ∧ source.machine.keypad.latch = some 1 := by
    decide +kernel
  obtain ⟨stores, -, -, -, waits⟩ :=
    restore_save_waitsFor reachable caught.1 (source.performAll [.step, .reset])
  have collected : source.step.processor.status = .running := by
    rw [stores 1 caught.2]
    rfl
  have sameRegisters :
      pressed.step.processor.machine.registers = source.step.processor.machine.registers := by
    decide +kernel
  exact ⟨caught.1, caught.2, collected, (waits.quiet [] rfl).2, sameRegisters, waits⟩

end Processor

end Chip8
