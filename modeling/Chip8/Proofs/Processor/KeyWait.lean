import Mathlib.Logic.Function.Basic
import Chip8.Proofs.Processor.Reachable

/-!
Contract: a program that waits for a key gets the first one that goes down.

Owns:
- `Event`, what happens to a processor while it runs, and `firstPress`, read off the events alone;
- `Processor.WaitsFor`, the course of a wait under every order of events;
- that the wait instruction changes nothing but the keypad and then takes that course.

Does not own: what becomes of a wait that is saved and restored.
-/

namespace Chip8

/-- What happens to a processor while its program runs. -/
inductive Event where
  | step
  | tick
  | setKey (key : Key) (pressed : Bool)
deriving DecidableEq, Repr

namespace Event

def operation : Event → Operation
  | .step => .step
  | .tick => .tick
  | .setKey key pressed => .setKey key.val pressed

/-- The keys that are down after events. -/
def heldAfter (held : Key → Bool) : List Event → Key → Bool
  | [] => held
  | .setKey key pressed :: later => heldAfter (Function.update held key pressed) later
  | .step :: later | .tick :: later => heldAfter held later

/-- The key of the first change from up to down. -/
def firstPress (held : Key → Bool) : List Event → Option Key
  | [] => none
  | .setKey key pressed :: later =>
    if pressed = true ∧ held key = false then some key
    else firstPress (Function.update held key pressed) later
  | .step :: later | .tick :: later => firstPress held later

/-- A key that was down and no longer is has been let go in between. -/
theorem release_mem_of_held {held : Key → Bool} {key : Key} {events : List Event}
    (down : held key = true) (up : heldAfter held events key = false) :
    Event.setKey key false ∈ events := by
  induction events generalizing held with
  | nil =>
    rw [heldAfter, down] at up
    contradiction
  | cons event later inductionHypothesis =>
    cases event with
    | step | tick => exact List.mem_cons_of_mem _ (inductionHypothesis down up)
    | setKey other pressed =>
      by_cases same : other = key
      · subst same
        cases pressed with
        | false => exact List.mem_cons_self
        | true =>
          apply List.mem_cons_of_mem
          exact inductionHypothesis (Function.update_self other true held) up
      · have stillDown : Function.update held other pressed key = true := by
          rw [Function.update_of_ne (Ne.symm same), down]
        exact List.mem_cons_of_mem _ (inductionHypothesis stillDown up)

end Event

theorem Keypad.holds_switch {keypad : Keypad} (complete : keypad.Complete) (key : Key)
    (pressed : Bool) :
    (keypad.switch key pressed).holds = Function.update keypad.holds key pressed := by
  funext other
  have hasFlag : key.val < keypad.down.length := by omega
  by_cases same : other = key
  · subst same
    simp [holds, switch, hasFlag]
  · have placesApart : key.val ≠ other.val := fun equal => same (Fin.ext equal.symm)
    rw [Function.update_of_ne same]
    simp [holds, switch, List.getElem?_set_ne placesApart]

namespace Processor

open Event (firstPress heldAfter)

def after (processor : Processor) (events : List Event) : Processor :=
  processor.performAll (events.map Event.operation)

theorem after_cons (processor : Processor) (event : Event) (later : List Event) :
    processor.after (event :: later) = (processor.perform event.operation).1.after later :=
  rfl

theorem after_append (processor : Processor) (before later : List Event) :
    processor.after (before ++ later) = (processor.after before).after later := by
  unfold after
  rw [List.map_append, performAll_append]

/-! ### While the wait lasts -/

/-- A wait for a key that goes on since `start`: besides the timers and the keypad, which is
armed and has caught `latch`, everything is as it was. -/
structure Waiting (start : Processor) (latch : Option Key) (now : Processor) : Prop where
  frame : now = start.withMachine { start.machine with
    timers := now.machine.timers
    keypad := now.machine.keypad }
  armed : now.machine.keypad.armed = true
  latched : now.machine.keypad.latch = latch
  complete : now.machine.keypad.Complete

namespace Waiting

variable {register : Register} {start now : Processor} {latch : Option Key}

theorem status_eq (waiting : Waiting start latch now) : now.status = start.status := by
  rw [waiting.frame]
  rfl

theorem tick (waiting : Waiting start latch now) :
    Waiting start latch (now.perform .tick).1 where
  frame := by
    rw [waiting.frame]
    rfl
  armed := waiting.armed
  latched := waiting.latched
  complete := waiting.complete

theorem setKey (waiting : Waiting start latch now) (key : Key) (pressed : Bool) :
    Waiting start
      (if pressed && !now.machine.keypad.holds key && latch.isNone then some key else latch)
      (now.perform (.setKey key.val pressed)).1 := by
  rw [perform_setKey_of_key waiting.complete]
  refine ⟨?_, waiting.armed, ?_, waiting.complete.switch key pressed⟩
  · rw [waiting.frame]
    rfl
  · simp only [withKeypad, machine_withMachine, Keypad.switch, waiting.armed, waiting.latched,
      Bool.and_true]

theorem setKey_of_press (waiting : Waiting start none now) {key : Key}
    (up : now.machine.keypad.holds key = false) :
    Waiting start (some key) (now.perform (.setKey key.val true)).1 := by
  simpa [up] using waiting.setKey key true

theorem setKey_of_not_press (waiting : Waiting start none now) {key : Key} {pressed : Bool}
    (noPress : ¬(pressed = true ∧ now.machine.keypad.holds key = false)) :
    Waiting start none (now.perform (.setKey key.val pressed)).1 := by
  have nothingCaught : (pressed && !now.machine.keypad.holds key) = false := by
    simpa using noPress
  simpa [nothingCaught] using waiting.setKey key pressed

theorem setKey_of_latched {caught : Key} (waiting : Waiting start (some caught) now) (key : Key)
    (pressed : Bool) : Waiting start (some caught) (now.perform (.setKey key.val pressed)).1 := by
  simpa using waiting.setKey key pressed

theorem step_none (waiting : Waiting start none now)
    (status : start.status = .awaitingKey register) : now.step = ⟨now, none, none⟩ :=
  step_of_latch_none (waiting.status_eq.trans status) waiting.latched

theorem step_some {key : Key} (waiting : Waiting start (some key) now)
    (status : start.status = .awaitingKey register) :
    now.step = ⟨now.withKey register key, none, none⟩ :=
  step_of_latch_some (waiting.status_eq.trans status) waiting.latched

/-- As long as no key has gone down, steps come to nothing and the wait goes on. -/
theorem after_quiet (waiting : Waiting start none now)
    (status : start.status = .awaitingKey register) {events : List Event}
    (quiet : firstPress now.machine.keypad.holds events = none) :
    Waiting start none (now.after events) ∧
      (now.after events).machine.keypad.holds = heldAfter now.machine.keypad.holds events := by
  induction events generalizing now with
  | nil => exact ⟨waiting, rfl⟩
  | cons event later inductionHypothesis =>
    rw [after_cons]
    cases event with
    | step =>
      have unmoved : (now.perform .step).1 = now := by
        change now.step.processor = now
        rw [waiting.step_none status]
      rw [Event.operation, unmoved]
      exact inductionHypothesis waiting quiet
    | tick => exact inductionHypothesis waiting.tick quiet
    | setKey key pressed =>
      rw [firstPress] at quiet
      split at quiet
      · contradiction
      · rename_i noPress
        have moved := waiting.setKey_of_not_press noPress
        have holds := Keypad.holds_switch waiting.complete key pressed
        rw [Event.operation, heldAfter]
        rw [perform_setKey_of_key waiting.complete] at moved ⊢
        rw [← holds] at quiet ⊢
        exact inductionHypothesis moved quiet

/-- Once a key has been caught, it stays so until a step collects it. -/
theorem after_latched {key : Key} (waiting : Waiting start (some key) now) {events : List Event}
    (noStep : Event.step ∉ events) : Waiting start (some key) (now.after events) := by
  induction events generalizing now with
  | nil => exact waiting
  | cons event later inductionHypothesis =>
    rw [List.mem_cons, not_or] at noStep
    rw [after_cons]
    cases event with
    | step => exact absurd rfl noStep.1
    | tick => exact inductionHypothesis waiting.tick noStep.2
    | setKey other pressed =>
      exact inductionHypothesis (waiting.setKey_of_latched other pressed) noStep.2

theorem withKey_eq (waiting : Waiting start latch now) (key : Key) :
    now.withKey register key = { start with
      machine := { start.machine.setRegister register (UInt8.ofNat key.val) with
        pc := (start.machine.pc + 2) % 4096
        timers := now.machine.timers
        keypad := ⟨now.machine.keypad.down, false, none⟩ }
      status := .running } :=
  congrArg (fun (processor : Processor) => processor.withKey register key) waiting.frame

end Waiting

/-! ### The course of a wait -/

/-- How the wait of `start` for a key to be stored in `register` goes on. -/
structure WaitsFor (register : Register) (start : Processor) : Prop where
  /-- As long as no key has gone down, every step changes nothing at all. -/
  quiet : ∀ events, firstPress start.machine.keypad.holds events = none →
    (start.after events).status = .awaitingKey register ∧
      (start.after events).step = ⟨start.after events, none, none⟩
  /-- The first step after a key went down stores the first such key and moves on. Later changes
  of keys, also of that key, make no difference. -/
  resolved : ∀ before key later, firstPress start.machine.keypad.holds before = none →
    heldAfter start.machine.keypad.holds before key = false → Event.step ∉ later →
      let now := start.after (before ++ .setKey key true :: later)
      now.step = ⟨{ start with
        machine := { start.machine.setRegister register (UInt8.ofNat key.val) with
          pc := (start.machine.pc + 2) % 4096
          timers := now.machine.timers
          keypad := ⟨now.machine.keypad.down, false, none⟩ }
        status := .running }, none, none⟩
  /-- A key that was held when the wait began has to be let go before it can go down. -/
  released : ∀ before key, start.machine.keypad.holds key = true →
    heldAfter start.machine.keypad.holds before key = false → Event.setKey key false ∈ before

theorem waitsFor_of_armed {start : Processor} {register : Register}
    (status : start.status = .awaitingKey register) (complete : start.machine.keypad.Complete)
    (armed : start.machine.keypad.armed = true) (empty : start.machine.keypad.latch = none) :
    WaitsFor register start := by
  have begun : Waiting start none start := ⟨rfl, armed, empty, complete⟩
  refine ⟨?_, ?_, fun _ _ => Event.release_mem_of_held⟩
  · intro events quiet
    obtain ⟨waiting, -⟩ := begun.after_quiet status quiet
    exact ⟨waiting.status_eq.trans status, waiting.step_none status⟩
  · intro before key later quiet up noStep
    obtain ⟨waiting, holds⟩ := begun.after_quiet status quiet
    rw [← holds] at up
    have latched :
        Waiting start (some key) (start.after (before ++ .setKey key true :: later)) := by
      rw [after_append, after_cons]
      exact (waiting.setKey_of_press up).after_latched noStep
    dsimp only
    rw [latched.step_some status, latched.withKey_eq]

/-! ### The instruction that waits -/

theorem decode_awaitKey {word : Word} {register : Register}
    (isWait : word.toNat = 0xF00A + 0x100 * register.val) :
    Instruction.decode word = .awaitKey register := by
  have decoded : ∀ number : Register,
      Instruction.decode (UInt16.ofNat (0xF00A + 0x100 * number.val)) = .awaitKey number := by
    decide
  rw [← decoded register, ← isWait, UInt16.ofNat_toNat]

theorem step_of_awaitKey {processor : Processor} {word : Word} {register : Register}
    (wellFormed : processor.machine.WellFormed) (running : processor.status = .running)
    (fetched : processor.machine.fetch = .ok word)
    (isWait : word.toNat = 0xF00A + 0x100 * register.val) :
    processor.step = ⟨{ processor with
      machine := { processor.machine with
        keypad := ⟨processor.machine.keypad.down, true, none⟩ }
      status := .awaitingKey register
      word := word
      fetchedAt := processor.machine.pc }, processor.traceLine, none⟩ := by
  rw [Machine.fetch_of_isAddress wellFormed.pc] at fetched
  cases fetched
  have done : execute (Instruction.decode processor.machine.nextWord) processor.pastFetch =
      .ok (processor.pastFetch.beginAwait register) := by
    rw [decode_awaitKey isWait]
    rfl
  have parked : processor.pastFetch.machine.retreat = processor.machine :=
    Machine.retreat_advance wellFormed.pc
  rw [step_of_done running wellFormed.pc done]
  unfold beginAwait
  rw [parked]
  rfl

/-- The wait instruction changes nothing but the keypad, and then the first key to go down is the
one that is stored. -/
theorem awaitKey_waitsFor_of_reachable {processor : Processor} {word : Word} {register : Register}
    (reachable : Reachable processor) (running : processor.status = .running)
    (fetched : processor.machine.fetch = .ok word)
    (isWait : word.toNat = 0xF00A + 0x100 * register.val) :
    processor.step.fault = none ∧
      processor.step.processor = { processor with
        machine := { processor.machine with
          keypad := ⟨processor.machine.keypad.down, true, none⟩ }
        status := .awaitingKey register
        word := word
        fetchedAt := processor.machine.pc } ∧
      WaitsFor register processor.step.processor := by
  have wellFormed := reachable.sound.machine
  rw [step_of_awaitKey wellFormed running fetched isWait]
  exact ⟨rfl, rfl, waitsFor_of_armed rfl wellFormed.keypad rfl rfl⟩

/-- The program counter is parked on a wait whose second byte lies at the start of memory, while
the key that was held all along stays down. -/
theorem awaitKey_waitsFor_across_wrap :
    let parked := (start false false ⟨fun _ => 0, 0⟩).performAll
      [.load [0x60, 0xF2, 0x61, 0x0A, 0xAF, 0xFF, 0xF1, 0x55, 0x1F, 0xFF], .setKey 3 true,
        .step, .step, .step, .step, .step]
    Reachable parked ∧ parked.status = .running ∧ parked.machine.fetch = .ok 0xF20A ∧
      parked.machine.pc = 0xFFF ∧ parked.step.fault = none ∧
      WaitsFor 2 parked.step.processor := by
  intro parked
  have reachable : Reachable parked := (Reachable.start false false ⟨fun _ => 0, 0⟩).performAll _
  have here : parked.status = .running ∧ parked.machine.nextWord = 0xF20A ∧
      parked.machine.pc = 0xFFF := by
    decide +kernel
  obtain ⟨running, word, atEnd⟩ := here
  have fetched : parked.machine.fetch = .ok 0xF20A := by
    rw [Machine.fetch_of_isAddress reachable.sound.machine.pc, word]
  have isWait : (0xF20A : Word).toNat = 0xF00A + 0x100 * (2 : Register).val := rfl
  obtain ⟨noFault, -, waits⟩ := awaitKey_waitsFor_of_reachable reachable running fetched isWait
  exact ⟨reachable, running, fetched, atEnd, noFault, waits⟩

end Processor

end Chip8
