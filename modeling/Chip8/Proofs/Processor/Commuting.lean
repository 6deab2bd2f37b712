import Chip8.Proofs.Instruction.Encoding
import Chip8.Proofs.Machine.Footprint
import Chip8.Proofs.Processor.Lockstep
import Chip8.Proofs.Processor.Reachable

/-!
Contract: ticks and key events commute with the steps that do not look at them.

Owns:
- the words that look at the timers and those that look at the keys;
- `Processor.adjust`, the timers and the keypad changed from outside, and that this commutes with
  every step that does not look at what it changes;
- that a tick and a key event are such changes.

Does not own: the order of ticks and key events among themselves.
-/

namespace Chip8

namespace Word

/-- Reads the delay timer or writes one of the timers. -/
def LooksAtTimers (word : Word) : Prop :=
  word.IsDevice 0x07 ∨ word.IsDevice 0x15 ∨ word.IsDevice 0x18

/-- Skips on a key or waits for one. -/
def LooksAtKeys (word : Word) : Prop :=
  (word.family = 0xE ∧ (word.nn = 0x9E ∨ word.nn = 0xA1)) ∨ word.IsDevice 0x0A

instance (word : Word) : Decidable word.LooksAtTimers :=
  inferInstanceAs (Decidable (word.IsDevice 0x07 ∨ word.IsDevice 0x15 ∨ word.IsDevice 0x18))

instance (word : Word) : Decidable word.LooksAtKeys :=
  inferInstanceAs (Decidable
    ((word.family = 0xE ∧ (word.nn = 0x9E ∨ word.nn = 0xA1)) ∨ word.IsDevice 0x0A))

end Word

namespace Instruction

theorem looksAtTimers_of_usesTimers {word : Word} {instruction : Instruction}
    (encoded : Encoded word instruction) (uses : instruction.usesTimers = true) :
    word.LooksAtTimers := by
  cases instruction with
  | readDelay x => exact Or.inl ⟨encoded.1, encoded.2.2⟩
  | writeDelay x => exact Or.inr (Or.inl ⟨encoded.1, encoded.2.2⟩)
  | writeSound x => exact Or.inr (Or.inr ⟨encoded.1, encoded.2.2⟩)
  | _ => contradiction

theorem looksAtKeys_of_usesKeypad {word : Word} {instruction : Instruction}
    (encoded : Encoded word instruction) (uses : instruction.usesKeypad = true) :
    word.LooksAtKeys := by
  cases instruction with
  | skipIfKey x => exact Or.inl ⟨encoded.1, Or.inl encoded.2.2⟩
  | skipUnlessKey x => exact Or.inl ⟨encoded.1, Or.inr encoded.2.2⟩
  | awaitKey x => exact Or.inr ⟨encoded.1, encoded.2.2⟩
  | _ => contradiction

end Instruction

/-- On the right the timers and the keypad are those on the left after a change from outside. -/
def Likeness.adjusted (timers : Timers → Timers) (keypad : Keypad → Keypad) : Likeness where
  timers left right := timers left = right
  dirty := Eq
  keypad left right := keypad left = right
  random := Eq
  dirty_drawn := rfl
  random_draw := RandomSource.draw_congr

variable {timers : Timers → Timers} {keypad : Keypad → Keypad}

theorem Machine.Alike.eq_adjusted {left right : Machine}
    (alike : left.Alike (Likeness.adjusted timers keypad) right) :
    { left with timers := timers left.timers, keypad := keypad left.keypad } = right := by
  obtain ⟨ram, registers, index, pc, stack, rightTimers, ⟨pixels, dirty⟩, rightKeypad⟩ := right
  have sameDisplay : left.display = ⟨pixels, dirty⟩ := by
    have samePixels : left.display.pixels = pixels := alike.pixels
    have sameDirty : left.display.dirty = dirty := alike.dirty
    rw [← samePixels, ← sameDirty]
  rw [Machine.mk.injEq]
  exact ⟨alike.ram, alike.registers, alike.index, alike.pc, alike.stack, alike.timers, sameDisplay,
    alike.keypad⟩

namespace Processor

/-- With the timers and the keypad changed from outside. -/
def adjust (processor : Processor) (timers : Timers → Timers) (keypad : Keypad → Keypad) :
    Processor :=
  processor.withMachine { processor.machine with
    timers := timers processor.machine.timers
    keypad := keypad processor.machine.keypad }

theorem lockstep_adjust (processor : Processor) :
    Lockstep (Likeness.adjusted timers keypad) processor (processor.adjust timers keypad) :=
  ⟨⟨⟨rfl, rfl, rfl, rfl, rfl, rfl, rfl, rfl, rfl⟩, rfl, rfl, rfl⟩, rfl, rfl, rfl⟩

theorem Lockstep.adjust_eq {left right : Processor}
    (lockstep : Lockstep (Likeness.adjusted timers keypad) left right) :
    left.adjust timers keypad = right := by
  unfold adjust
  rw [lockstep.alike.machine.eq_adjusted]
  exact lockstep.withMachine_eq rfl

/-! ### Steps that do not look -/

/-- A change from outside that the next step does not see: the timers are left alone unless the
step does not look at them, and the keypad likewise. -/
structure Unseen (timers : Timers → Timers) (keypad : Keypad → Keypad) (processor : Processor) :
    Prop where
  timers : processor.status = .running → processor.machine.nextWord.LooksAtTimers → timers = id
  keys : processor.status = .running → processor.machine.nextWord.LooksAtKeys → keypad = id
  wait : processor.status.isAwaitingKey = true → keypad = id

theorem Unseen.admits {processor : Processor} (unseen : Unseen timers keypad processor) :
    StepAdmits (Likeness.adjusted timers keypad) processor where
  instruction := by
    intro running
    have encoded := Instruction.encoded_decode processor.machine.nextWord
    refine ⟨fun uses => ?_, fun uses => ?_⟩
    · have unchanged := unseen.timers running (Instruction.looksAtTimers_of_usesTimers encoded uses)
      subst unchanged
      rfl
    · have unchanged := unseen.keys running (Instruction.looksAtKeys_of_usesKeypad encoded uses)
      subst unchanged
      rintro left right same
      cases (same : left = right)
      exact ⟨rfl, rfl⟩
  wait := by
    intro awaiting
    have unchanged := unseen.wait awaiting
    subst unchanged
    rfl

/-- A change from outside that a step does not see can be made before the step or after it. -/
theorem step_adjust {processor : Processor} (wellFormed : processor.machine.WellFormed)
    (unseen : Unseen timers keypad processor) :
    (processor.adjust timers keypad).step.processor =
        processor.step.processor.adjust timers keypad ∧
      (processor.adjust timers keypad).step.fault = processor.step.fault := by
  obtain ⟨after, sameFault⟩ := processor.lockstep_adjust.step wellFormed unseen.admits
  exact ⟨after.adjust_eq.symm, sameFault.symm⟩

theorem performAll_cons (processor : Processor) (operation : Operation) (later : List Operation) :
    processor.performAll (operation :: later) =
      (processor.perform operation).1.performAll later :=
  rfl

/-! ### Ticks and key events -/

theorem perform_setKey_eq_adjust {processor : Processor}
    (complete : processor.machine.keypad.Complete) (key : Key) (pressed : Bool) :
    processor.perform (.setKey key.val pressed) =
      (processor.adjust id (fun keypad => keypad.switch key pressed), none) :=
  perform_setKey_of_key complete key pressed

/-- The two operations are carried out in either order, and what they lead to is the same in every
part. -/
structure Commutes (one other : Operation) (processor : Processor) : Prop where
  accepted : (processor.perform one).2 = none ∧ (processor.perform other).2 = none
  acceptedNext : ((processor.perform one).1.perform other).2 = none ∧
    ((processor.perform other).1.perform one).2 = none
  same : processor.performAll [one, other] = processor.performAll [other, one]

/-- A tick can be put before or after every step that does not look at the timers, and a key event
before or after every step that does not look at the keys. -/
theorem step_commutes_with_tick_and_setKey {processor : Processor}
    (reachable : Reachable processor) :
    (¬(processor.status = .running ∧ processor.machine.nextWord.LooksAtTimers) →
        Commutes .step .tick processor) ∧
      ∀ (key : Key) (pressed : Bool), processor.status.isAwaitingKey = false →
        ¬(processor.status = .running ∧ processor.machine.nextWord.LooksAtKeys) →
        Commutes .step (.setKey key.val pressed) processor := by
  have sound := reachable.sound
  have noFault : processor.step.fault = none := (step_transition sound.machine).2
  have nextComplete := (sound.perform .step).machine.keypad
  refine ⟨?_, ?_⟩
  · intro looksAway
    have unseen : Unseen Timers.tick id processor :=
      ⟨fun running looks => absurd ⟨running, looks⟩ looksAway, fun _ _ => rfl, fun _ => rfl⟩
    obtain ⟨sameNext, sameFault⟩ := step_adjust sound.machine unseen
    exact ⟨⟨noFault, rfl⟩, ⟨rfl, sameFault.trans noFault⟩, sameNext.symm⟩
  · intro key pressed notAwaiting looksAway
    have unseen : Unseen id (fun keypad => keypad.switch key pressed) processor := by
      refine ⟨fun _ _ => rfl, fun running looks => absurd ⟨running, looks⟩ looksAway, ?_⟩
      intro awaiting
      rw [notAwaiting] at awaiting
      contradiction
    have first := perform_setKey_eq_adjust sound.machine.keypad key pressed
    have second := perform_setKey_eq_adjust nextComplete key pressed
    obtain ⟨sameNext, sameFault⟩ := step_adjust sound.machine unseen
    refine ⟨⟨noFault, ?_⟩, ⟨?_, ?_⟩, ?_⟩
    · rw [first]
    · rw [second]
    · rw [first]
      exact sameFault.trans noFault
    · rw [performAll_cons, performAll_cons, performAll_cons, performAll_cons, first, second]
      exact sameNext.symm

/-- The step halts, the keypad is still armed for a wait that was abandoned, and both timers run. -/
theorem step_commutes_at_halt_with_armed_keypad :
    let timed := (start true false ⟨fun count => 3 * count, 0⟩).performAll
      [.load [0x60, 0x05, 0xF0, 0x15, 0xF0, 0x18], .step, .step, .step]
    let waiting := (start true false ⟨fun count => 3 * count, 0⟩).performAll
      [.load [0xF1, 0x0A], .step]
    let halting := (waiting.restore timed.save).1
    ((halting.performAll [.setKey 3 true, .step]).machine.keypad.latch = some 3 ∧
        (halting.performAll [.setKey 3 true, .step]).status.isHalted = true) ∧
      ((halting.performAll [.tick, .step]).machine.timers = ⟨4, 4⟩ ∧
        (halting.performAll [.tick, .step]).status.isHalted = true) ∧
      Commutes .step .tick halting ∧ Commutes .step (.setKey 3 true) halting := by
  intro timed waiting halting
  have fresh := Reachable.start true false ⟨fun count => 3 * count, 0⟩
  have timedReachable : Reachable timed := fresh.performAll _
  have reachable : Reachable halting := (fresh.performAll _).restore timedReachable
  have restored : halting = waiting.resumed timed := by
    unfold halting
    rw [restore_save waiting timedReachable.sound.machine]
  have here : (waiting.resumed timed).status = .running ∧
      (waiting.resumed timed).machine.nextWord = 0x0000 := by
    decide +kernel
  have caughtThere :
      ((waiting.resumed timed).performAll [.setKey 3 true, .step]).machine.keypad.latch = some 3 ∧
        ((waiting.resumed timed).performAll [.setKey 3 true, .step]).status.isHalted = true := by
    decide +kernel
  have tickedThere :
      ((waiting.resumed timed).performAll [.tick, .step]).machine.timers = ⟨4, 4⟩ ∧
        ((waiting.resumed timed).performAll [.tick, .step]).status.isHalted = true := by
    decide +kernel
  rw [← restored] at here caughtThere tickedThere
  have looksAway : ¬Word.LooksAtTimers 0x0000 ∧ ¬Word.LooksAtKeys 0x0000 := by decide
  obtain ⟨ticks, keys⟩ := step_commutes_with_tick_and_setKey reachable
  have commutesWithTick : Commutes .step .tick halting := by
    apply ticks
    rw [here.2]
    exact fun looks => looksAway.1 looks.2
  have commutesWithKey : Commutes .step (.setKey 3 true) halting := by
    apply keys 3 true
    · rw [here.1]
      rfl
    · rw [here.2]
      exact fun looks => looksAway.2 looks.2
  exact ⟨caughtThere, tickedThere, commutesWithTick, commutesWithKey⟩

end Processor

end Chip8
