import Chip8.Proofs.Processor.Frame

/-!
Contract: whether the keypad is armed at a time when nothing waits for a key.

Owns:
- `Processor.ArmedForWait`, the law that the keypad is armed during a wait and at no other time;
- `Processor.Reached`, which tells of the ways to a reachable processor whether a wait was left
  behind on them, and the invariant of the keypad along such a way;
- that the law is broken exactly where a wait was left behind.

Does not own: the course of a wait.
-/

namespace Chip8

/-- A press is caught by an armed keypad only. -/
theorem Keypad.armed_of_caught {keypad : Keypad}
    (caught : keypad.latch ≠ none → keypad.armed = true) (key : Key) (pressed : Bool) :
    (keypad.switch key pressed).latch ≠ none → keypad.armed = true := by
  unfold switch
  dsimp only
  split
  · rename_i catches
    simp only [Bool.and_eq_true] at catches
    exact fun _ => catches.1.2
  · exact caught

namespace Processor

/-- The keypad is armed during a wait for a key and at no other time, and at no other time has it
caught a key. -/
structure ArmedForWait (processor : Processor) : Prop where
  armed : processor.machine.keypad.armed = true ↔ processor.status.isAwaitingKey = true
  caught : processor.machine.keypad.latch ≠ none → processor.status.isAwaitingKey = true

/-- A way to a reachable processor, with whether it has `abandoned` a wait for a key. Going back
to a state that is not a wait abandons the wait that the processor is in. The keypad is put right
by a reset and by the next wait. -/
inductive Reached : Bool → Processor → Prop where
  | start (flagsIndexOverflow tracing : Bool) (random : RandomSource) :
    Reached false (start flagsIndexOverflow tracing random)
  | perform {abandoned : Bool} {processor : Processor} (reached : Reached abandoned processor)
    (operation : Operation) :
    Reached (abandoned && operation != .reset &&
      !(processor.perform operation).1.status.isAwaitingKey) (processor.perform operation).1
  | restore {abandoned sourceAbandoned : Bool} {processor source : Processor}
    (reached : Reached abandoned processor) (sourceReached : Reached sourceAbandoned source) :
    Reached ((abandoned || processor.status.isAwaitingKey) && !source.status.isAwaitingKey)
      (processor.restore source.save).1

theorem Reached.reachable {abandoned : Bool} {processor : Processor}
    (reached : Reached abandoned processor) : Reachable processor := by
  induction reached with
  | start flagsIndexOverflow tracing random => exact .start flagsIndexOverflow tracing random
  | perform _ operation reachable => exact reachable.perform operation
  | restore _ _ reachable sourceReachable => exact reachable.restore sourceReachable

theorem Reachable.exists_reached {processor : Processor} (reachable : Reachable processor) :
    ∃ abandoned, Reached abandoned processor := by
  induction reachable with
  | start flagsIndexOverflow tracing random =>
    exact ⟨false, .start flagsIndexOverflow tracing random⟩
  | perform _ operation inductionHypothesis =>
    obtain ⟨_, reached⟩ := inductionHypothesis
    exact ⟨_, reached.perform operation⟩
  | restore _ _ inductionHypothesis sourceHypothesis =>
    obtain ⟨_, reached⟩ := inductionHypothesis
    obtain ⟨_, sourceReached⟩ := sourceHypothesis
    exact ⟨_, reached.restore sourceReached⟩

/-! ### The keypad along the way -/

/-- Only the word of a wait lets an instruction touch the arming, and it begins a wait. -/
theorem sameArming_of_execute {processor next : Processor} (running : processor.status = .running)
    (done : execute (Instruction.decode processor.machine.nextWord) processor.pastFetch = .ok next)
    (notAwaiting : next.status.isAwaitingKey = false) :
    next.machine.keypad.armed = processor.machine.keypad.armed ∧
      next.machine.keypad.latch = processor.machine.keypad.latch := by
  have within := (Transition.executed running done).within.latch
  rw [footprint_of_running running] at within
  rcases within with ⟨family, kind⟩ | same
  · have isWait : Instruction.decode processor.machine.nextWord =
        .awaitKey processor.machine.nextWord.x :=
      Instruction.decode_of_encoded rfl ⟨family, rfl, kind⟩
    rw [isWait] at done
    cases done
    contradiction
  · exact same

/-- The keypad is armed by a wait that goes on or by one that was abandoned, never by both, and
has caught a key only if it is armed. -/
structure Arming (abandoned : Bool) (processor : Processor) : Prop where
  armed : processor.machine.keypad.armed = (processor.status.isAwaitingKey || abandoned)
  caught : processor.machine.keypad.latch ≠ none → processor.machine.keypad.armed = true
  apart : abandoned = true → processor.status.isAwaitingKey = false

namespace Arming

variable {abandoned : Bool} {processor : Processor}

theorem of_disarmed (status : processor.status.isAwaitingKey = false)
    (disarmed : processor.machine.keypad.armed = false)
    (empty : processor.machine.keypad.latch = none) : Arming false processor where
  armed := by rw [status, disarmed]; rfl
  caught := fun caught => absurd empty caught
  apart := nofun

/-- A wait puts the keypad right, whatever was abandoned before. -/
theorem of_awaiting (status : processor.status.isAwaitingKey = true)
    (armed : processor.machine.keypad.armed = true) : Arming false processor where
  armed := by rw [status, armed]; rfl
  caught := fun _ => armed
  apart := nofun

variable (arming : Arming abandoned processor)

include arming

theorem not_abandoned (awaiting : processor.status.isAwaitingKey = true) : abandoned = false := by
  cases abandoned with
  | false => rfl
  | true =>
    have notAwaiting := arming.apart rfl
    rw [awaiting] at notAwaiting
    contradiction

/-- What leaves the wait and the arming alone leaves an abandoned wait behind as it found it. -/
theorem of_same {next : Processor}
    (sameWait : next.status.isAwaitingKey = processor.status.isAwaitingKey)
    (sameArmed : next.machine.keypad.armed = processor.machine.keypad.armed)
    (caught : next.machine.keypad.latch ≠ none → next.machine.keypad.armed = true) :
    Arming (abandoned && !next.status.isAwaitingKey) next := by
  cases awaiting : next.status.isAwaitingKey with
  | true =>
    rw [Bool.not_true, Bool.and_false]
    apply of_awaiting awaiting
    rw [sameArmed, arming.armed, ← sameWait, awaiting, Bool.true_or]
  | false =>
    rw [Bool.not_false, Bool.and_true]
    refine ⟨?_, caught, fun _ => awaiting⟩
    rw [sameArmed, arming.armed, sameWait]

theorem ofTransition {next : Processor} (transition : Transition processor next) :
    Arming (abandoned && !next.status.isAwaitingKey) next := by
  cases transition with
  | rested | waited => exact arming.of_same rfl rfl arming.caught
  | collected status =>
    have awaiting : processor.status.isAwaitingKey = true := congrArg Status.isAwaitingKey status
    rw [arming.not_abandoned awaiting]
    exact of_disarmed rfl rfl rfl
  | stopped status =>
    have sameWait := congrArg Status.isAwaitingKey status
    exact arming.of_same sameWait.symm rfl arming.caught
  | executed status done =>
    have running : processor.status.isAwaitingKey = false := congrArg Status.isAwaitingKey status
    cases awaiting : next.status.isAwaitingKey with
    | true =>
      have begun := keypad_of_awaitingKey done running awaiting
      rw [Bool.not_true, Bool.and_false]
      apply of_awaiting awaiting
      rw [begun]
      rfl
    | false =>
      obtain ⟨sameArmed, sameLatch⟩ := sameArming_of_execute status done awaiting
      rw [← awaiting]
      apply arming.of_same (awaiting.trans running.symm) sameArmed
      rw [sameLatch, sameArmed]
      exact arming.caught

theorem setKey (key : Key) (pressed : Bool) :
    Arming (abandoned && !processor.status.isAwaitingKey)
      (processor.withKeypad (processor.machine.keypad.switch key pressed)) := by
  let next := processor.withKeypad (processor.machine.keypad.switch key pressed)
  have sameWait : next.status.isAwaitingKey = processor.status.isAwaitingKey := rfl
  exact arming.of_same sameWait rfl (Keypad.armed_of_caught arming.caught key pressed)

theorem perform (wellFormed : processor.machine.WellFormed) (operation : Operation) :
    Arming (abandoned && operation != .reset &&
      !(processor.perform operation).1.status.isAwaitingKey) (processor.perform operation).1 := by
  by_cases isReset : operation = .reset
  · subst isReset
    rw [bne_self_eq_false, Bool.and_false, Bool.false_and]
    exact of_disarmed rfl rfl rfl
  · rw [bne_iff_ne.mpr isReset, Bool.and_true]
    cases operation with
    | load program =>
      rw [perform_load_eq]
      split <;> exact arming.of_same rfl rfl arming.caught
    | reset => contradiction
    | step => exact arming.ofTransition (step_transition wellFormed).1
    | tick => exact arming.of_same rfl rfl arming.caught
    | setKey key pressed =>
      by_cases inside : 0 ≤ key ∧ key < 16
      · obtain ⟨valid, rfl⟩ := Keypad.exists_key inside
        rw [perform_setKey_of_key wellFormed.keypad]
        exact arming.setKey valid pressed
      · rw [perform_setKey_of_outside processor inside]
        exact arming.of_same rfl rfl arming.caught

/-- Going back to a wait puts the keypad right. Going back to another state leaves the arming as
it is, so that the wait the processor was in is abandoned. -/
theorem resumed (source : Processor) :
    Arming ((abandoned || processor.status.isAwaitingKey) && !source.status.isAwaitingKey)
      (processor.resumed source) := by
  have sameStatus : (processor.resumed source).status = source.status := rfl
  cases awaiting : source.status.isAwaitingKey with
  | true =>
    rw [Bool.not_true, Bool.and_false]
    apply of_awaiting (sameStatus ▸ awaiting)
    simp [Processor.resumed, awaiting, Keypad.beginWait]
  | false =>
    have keypad : (processor.resumed source).machine.keypad =
        { processor.machine.keypad with down := source.machine.keypad.down } := by
      simp [Processor.resumed, awaiting, Machine.putBack]
    rw [Bool.not_false, Bool.and_true]
    refine ⟨?_, ?_, fun _ => awaiting⟩
    · rw [sameStatus, awaiting, keypad, Bool.false_or, Bool.or_comm]
      exact arming.armed
    · rw [keypad]
      exact arming.caught

/-- The law holds unless a wait was abandoned, which leaves the keypad armed. -/
theorem armedForWait_iff : processor.ArmedForWait ↔ abandoned = false := by
  cases abandoned with
  | false =>
    have armed : processor.machine.keypad.armed = true ↔ processor.status.isAwaitingKey = true := by
      rw [arming.armed, Bool.or_false]
    exact iff_of_true ⟨armed, armed.mp ∘ arming.caught⟩ rfl
  | true =>
    have armed : processor.machine.keypad.armed = true := by
      rw [arming.armed, Bool.or_true]
    refine iff_of_false ?_ Bool.true_eq_false.mp
    intro law
    have awaiting := law.armed.mp armed
    rw [arming.apart rfl] at awaiting
    contradiction

end Arming

theorem Reached.arming {abandoned : Bool} {processor : Processor}
    (reached : Reached abandoned processor) : Arming abandoned processor := by
  induction reached with
  | start flagsIndexOverflow tracing random => exact .of_disarmed rfl rfl rfl
  | perform reached operation arming =>
    exact arming.perform reached.reachable.sound.machine operation
  | restore _ sourceReached arming =>
    rw [restore_save _ sourceReached.reachable.sound.machine]
    exact arming.resumed _

/-- Without going back to an earlier state no wait is abandoned. -/
theorem Reached.performAll {processor : Processor} (reached : Reached false processor)
    (operations : List Operation) : Reached false (processor.performAll operations) := by
  induction operations generalizing processor with
  | nil => exact reached
  | cons operation later inductionHypothesis =>
    apply inductionHypothesis
    exact reached.perform operation

/-- The keypad is armed for nothing exactly where a wait was abandoned and neither a reset nor
another wait came after it, on every way there. -/
theorem armedForWait_iff_not_abandoned {processor : Processor} (reachable : Reachable processor) :
    (∃ abandoned, Reached abandoned processor) ∧
      ∀ abandoned, Reached abandoned processor →
        (processor.ArmedForWait ↔ abandoned = false) :=
  ⟨reachable.exists_reached, fun _ reached => reached.arming.armedForWait_iff⟩

/-- Going back from a wait to the time before it leaves the keypad armed until the reset. -/
theorem armedForWait_only_after_reset :
    let before := (start false false ⟨fun _ => 0, 0⟩).performAll [.load [0xF2, 0x0A]]
    let back := ((before.perform .step).1.restore before.save).1
    Reachable back ∧ back.status = .running ∧ ¬back.ArmedForWait ∧
      (back.perform .reset).1.ArmedForWait := by
  intro before back
  have reached : Reached false before :=
    (Reached.start false false ⟨fun _ => 0, 0⟩).performAll _
  have awaiting : (before.perform .step).1.status = .awaitingKey 2 := by decide +kernel
  have running : before.status = .running := by decide +kernel
  have backRunning : back.status = .running := by decide +kernel
  clear_value before
  have backReached := (reached.perform .step).restore reached
  rw [awaiting, running] at backReached
  have reachable := backReached.reachable
  have resetReached := backReached.perform .reset
  have broken := (armedForWait_iff_not_abandoned reachable).2 true backReached
  have kept := (armedForWait_iff_not_abandoned (reachable.perform .reset)).2 false resetReached
  exact ⟨reachable, backRunning, fun law => Bool.noConfusion (broken.mp law), kept.mpr rfl⟩

/-- A key that goes down while the program runs is caught although nothing waits for it. -/
theorem key_caught_while_running :
    ¬∀ processor : Processor, Reachable processor → processor.ArmedForWait := by
  intro law
  let before := (start false false ⟨fun _ => 0, 0⟩).performAll [.load [0xF2, 0x0A]]
  let back := ((before.perform .step).1.restore before.save).1
  have reachable : Reachable before := (Reachable.start false false ⟨fun _ => 0, 0⟩).performAll _
  have backReachable : Reachable back := (reachable.perform .step).restore reachable
  have caught : (back.perform (.setKey 1 true)).1.machine.keypad.latch = some 1 ∧
      (back.perform (.setKey 1 true)).1.status.isAwaitingKey = false := by
    decide +kernel
  obtain ⟨latched, notAwaiting⟩ := caught
  have kept := law _ (backReachable.perform (.setKey 1 true))
  have awaiting := kept.caught (latched ▸ Option.some_ne_none 1)
  exact Bool.noConfusion (notAwaiting.symm.trans awaiting)

end Processor

end Chip8
