import Mathlib.Data.List.Infix
import Chip8.Proofs.Processor.Frame
import Chip8.Proofs.Processor.SaveRestore

/-!
Contract: a processor that was reset is a new one around the memory it had.

Owns:
- `Processor.AsNew`, what a new processor holds in every part but the memory above the font;
- what a reset leaves in memory;
- that nothing but this memory tells afterwards what came before the reset: over the memory of a
  program just loaded it goes on as a new processor does;
- that a reset restarts a program that stores nothing.

Does not own: random numbers, of which a reset takes back none.
-/

namespace Chip8

namespace Bank

theorem getElem?_font_of_below {address : Address} (below : address.val < 80) (ram : Bank 4096) :
    Font.bytes[address.val]? = some ((ram.overlay Font.location Font.bytes).get address) := by
  have inside : address.val < Font.bytes.length := below
  have found := List.getElem?_eq_getElem inside
  rw [ram.get_overlay_of_getElem? found (Nat.zero_add _).symm, found]

theorem get_overlay_font_of_above (ram : Bank 4096) {address : Address}
    (above : 80 ≤ address.val) :
    (ram.overlay Font.location Font.bytes).get address = ram.get address :=
  ram.get_overlay_of_outside (Or.inr above)

end Bank

namespace Processor

/-- What a new processor holds, the memory above the font and the settings left open. -/
structure AsNew (processor : Processor) : Prop where
  status : processor.status = .running
  word : processor.word = 0x0000
  fetchedAt : processor.fetchedAt = 0x200
  pc : processor.machine.pc = 0x200
  index : processor.machine.index = 0
  registers : ∀ register, processor.machine.register register = 0
  stack : processor.machine.stack.entries = []
  timers : processor.machine.timers = ⟨0, 0⟩
  pixels : ∀ cell, processor.machine.display.pixels.get cell = 0
  dirty : processor.machine.display.dirty = true
  keys : processor.machine.keypad.down = List.replicate 16 false
  disarmed : processor.machine.keypad.armed = false
  latch : processor.machine.keypad.latch = none
  font : ∀ address : Address, address.val < 80 →
    Font.bytes[address.val]? = some (processor.machine.ram.get address)

/-! ### New processors -/

theorem asNew_reset (processor : Processor) : processor.reset.AsNew where
  status := rfl
  word := rfl
  fetchedAt := rfl
  pc := rfl
  index := rfl
  registers := fun register => Vector.getElem_replicate register.isLt
  stack := rfl
  timers := rfl
  pixels := fun cell => Vector.getElem_replicate cell.isLt
  dirty := rfl
  keys := rfl
  disarmed := rfl
  latch := rfl
  font := fun _ below => Bank.getElem?_font_of_below below _

/-- A new processor differs from one that was reset in memory and settings only. -/
theorem reset_eq_start (processor : Processor) (flagsIndexOverflow tracing : Bool)
    (random : RandomSource) :
    processor.reset = { start flagsIndexOverflow tracing random with
      machine := { (start flagsIndexOverflow tracing random).machine with
        ram := processor.reset.machine.ram }
      flagsIndexOverflow := processor.flagsIndexOverflow
      tracing := processor.tracing
      random := processor.random } :=
  rfl

theorem asNew_start (flagsIndexOverflow tracing : Bool) (random : RandomSource) :
    (start flagsIndexOverflow tracing random).AsNew :=
  asNew_reset { start flagsIndexOverflow tracing random with
    machine := { Machine.fresh with ram := Bank.blank 4096 } }

theorem get_reset_of_above (processor : Processor) {address : Address} (above : 80 ≤ address.val) :
    processor.reset.machine.ram.get address = processor.machine.ram.get address :=
  processor.machine.ram.get_overlay_font_of_above above

theorem settings_load (processor : Processor) (program : List UInt8) :
    (processor.perform (.load program)).1.flagsIndexOverflow = processor.flagsIndexOverflow ∧
      (processor.perform (.load program)).1.random = processor.random := by
  rw [perform_load_eq]
  split
  · exact ⟨rfl, rfl⟩
  · exact ⟨rfl, rfl⟩

theorem settings_load_start (flagsIndexOverflow tracing : Bool) (random : RandomSource)
    (program : List UInt8) :
    let loaded := ((start flagsIndexOverflow tracing random).perform (.load program)).1
    loaded.flagsIndexOverflow = flagsIndexOverflow ∧ loaded.random = random :=
  settings_load (start flagsIndexOverflow tracing random) program

theorem machine_start (flagsIndexOverflow tracing : Bool) (random later : RandomSource) :
    (start flagsIndexOverflow tracing random).machine =
      (start flagsIndexOverflow tracing later).machine :=
  rfl

theorem machine_load_congr {left right : Processor} (same : left.machine = right.machine)
    (program : List UInt8) :
    (left.perform (.load program)).1.machine = (right.perform (.load program)).1.machine := by
  rw [perform_load_eq, perform_load_eq, same]
  split
  · exact same
  · rfl

namespace AsNew

variable {left right processor : Processor}

/-- Programs are loaded above the font. -/
theorem load (asNew : processor.AsNew) (program : List UInt8) :
    (processor.perform (.load program)).1.AsNew := by
  rw [perform_load_eq]
  split
  · exact asNew
  · refine { asNew with font := ?_ }
    intro address below
    have beforeProgram : address.val < programStart := Nat.lt_trans below (by decide)
    change _ = some ((processor.machine.ram.overlay programStart program).get address)
    rw [Bank.get_overlay_of_outside _ (Or.inl beforeProgram)]
    exact asNew.font address below

theorem sameRam (leftNew : left.AsNew) (rightNew : right.AsNew)
    (above : ∀ address : Address, 80 ≤ address.val →
      left.machine.ram.get address = right.machine.ram.get address) :
    left.machine.ram = right.machine.ram := by
  apply Bank.ext_get
  intro address
  by_cases below : address.val < 80
  · have sameFont := (leftNew.font address below).symm.trans (rightNew.font address below)
    exact Option.some.inj sameFont
  · exact above address (Nat.le_of_not_lt below)

theorem sameRegisters (leftNew : left.AsNew) (rightNew : right.AsNew) :
    left.machine.registers = right.machine.registers := by
  apply Vector.ext
  intro number inside
  exact (leftNew.registers ⟨number, inside⟩).trans (rightNew.registers ⟨number, inside⟩).symm

theorem sameStack (leftNew : left.AsNew) (rightNew : right.AsNew) :
    left.machine.stack = right.machine.stack :=
  congrArg CallStack.mk (leftNew.stack.trans rightNew.stack.symm)

theorem samePixels (leftNew : left.AsNew) (rightNew : right.AsNew) :
    left.machine.display.pixels = right.machine.display.pixels := by
  apply Bank.ext_get
  intro cell
  rw [leftNew.pixels, rightNew.pixels]

theorem keypad_eq (asNew : processor.AsNew) : processor.machine.keypad = Keypad.released := by
  have keys := asNew.keys
  have disarmed := asNew.disarmed
  have latch := asNew.latch
  cases keypad : processor.machine.keypad with
  | mk down armed caught =>
    rw [keypad] at keys disarmed latch
    cases keys
    cases disarmed
    cases latch
    rfl

/-- New processors with the same settings and the same memory above the font go on alike. -/
theorem twins (leftNew : left.AsNew) (rightNew : right.AsNew)
    (sameFlags : left.flagsIndexOverflow = right.flagsIndexOverflow)
    (sameRandom : left.random.SameFuture right.random)
    (above : ∀ address : Address, 80 ≤ address.val →
      left.machine.ram.get address = right.machine.ram.get address) : Twins left right := by
  have sameKeypad : left.machine.keypad = right.machine.keypad := by
    rw [leftNew.keypad_eq, rightNew.keypad_eq]
  have machines : left.machine.Alike Likeness.replay right.machine := {
    ram := leftNew.sameRam rightNew above
    registers := leftNew.sameRegisters rightNew
    index := leftNew.index.trans rightNew.index.symm
    pc := leftNew.pc.trans rightNew.pc.symm
    stack := leftNew.sameStack rightNew
    timers := leftNew.timers.trans rightNew.timers.symm
    pixels := leftNew.samePixels rightNew
    dirty := trivial
    keypad := congrArg Keypad.down sameKeypad }
  have sameStatus := leftNew.status.trans rightNew.status.symm
  exact ⟨⟨machines, sameStatus, sameFlags, sameRandom⟩, fun _ => sameKeypad⟩

end AsNew

theorem sound_reset (processor : Processor) : processor.reset.Sound :=
  ⟨Machine.wellFormed_reset _, nofun⟩

theorem twins_reset {processor other : Processor} (otherNew : other.AsNew)
    (sameFlags : processor.flagsIndexOverflow = other.flagsIndexOverflow)
    (sameRandom : processor.random.SameFuture other.random)
    (above : ∀ address : Address, 80 ≤ address.val →
      processor.reset.machine.ram.get address = other.machine.ram.get address) :
    Twins processor.reset other := by
  have settings : processor.reset.flagsIndexOverflow = processor.flagsIndexOverflow ∧
      processor.reset.random = processor.random := by
    unfold reset
    exact ⟨rfl, rfl⟩
  rw [← settings.1] at sameFlags
  rw [← settings.2] at sameRandom
  exact (asNew_reset processor).twins otherNew sameFlags sameRandom above

/-! ### Programs that store nothing -/

/-- The next step stores registers or decimal digits in memory. -/
def Stores (processor : Processor) : Prop :=
  processor.status = .running ∧
    (processor.machine.nextWord.IsDevice 0x33 ∨ processor.machine.nextWord.IsDevice 0x55)

instance (processor : Processor) : Decidable processor.Stores :=
  inferInstanceAs (Decidable (processor.status = .running ∧
    (processor.machine.nextWord.IsDevice 0x33 ∨ processor.machine.nextWord.IsDevice 0x55)))

theorem stores_of_footprint {processor : Processor} {address : Address}
    (reached : processor.footprint.memory address) : processor.Stores := by
  cases status : processor.status with
  | running =>
    rw [footprint_of_running status] at reached
    obtain ⟨isDecimal, -⟩ | ⟨isSave, -⟩ := reached
    · exact ⟨status, Or.inl isDecimal⟩
    · exact ⟨status, Or.inr isSave⟩
  | awaitingKey register =>
    rw [footprint_of_awaitingKey status] at reached
    contradiction
  | halted cause word place =>
    unfold footprint at reached
    rw [status] at reached
    contradiction

theorem ram_step {processor : Processor} (wellFormed : processor.machine.WellFormed)
    (keeps : ¬processor.Stores) :
    processor.step.processor.machine.ram = processor.machine.ram := by
  apply Bank.ext_get
  intro address
  obtain reached | same := (step_transition wellFormed).1.within.memory address
  · exact absurd (stores_of_footprint reached) keeps
  · exact same

theorem flags_of_execute {instruction : Instruction} {processor next : Processor}
    (done : execute instruction processor = .ok next) :
    next.flagsIndexOverflow = processor.flagsIndexOverflow := by
  cases carried_of_execute done with
  | waited | drew | moved => rfl

theorem Transition.flags {processor next : Processor} (transition : Transition processor next) :
    next.flagsIndexOverflow = processor.flagsIndexOverflow := by
  cases transition with
  | rested | waited | collected | stopped => rfl
  | executed status done =>
    rw [flags_of_execute done]
    rfl

theorem flags_after {processor : Processor} (sound : processor.Sound) (events : List Event) :
    (processor.after events).flagsIndexOverflow = processor.flagsIndexOverflow := by
  induction events generalizing processor with
  | nil => rfl
  | cons event later inductionHypothesis =>
    rw [after_cons, inductionHypothesis (sound.perform event.operation)]
    cases event with
    | step => exact (step_transition sound.machine).1.flags
    | tick => rfl
    | setKey key pressed =>
      rw [Event.operation, perform_setKey_of_key sound.machine.keypad]
      rfl

/-- As long as no step stores anything, memory stays as it was. -/
theorem ram_after {processor : Processor} (sound : processor.Sound) {events : List Event}
    (keeps : ∀ before, before <+: events → ¬(processor.after before).Stores) :
    (processor.after events).machine.ram = processor.machine.ram := by
  induction events generalizing processor with
  | nil => rfl
  | cons event later inductionHypothesis =>
    have keepsLater : ∀ before, before <+: later →
        ¬((processor.perform event.operation).1.after before).Stores := by
      intro before isBefore
      exact keeps (event :: before) (List.cons_prefix_cons.mpr ⟨rfl, isBefore⟩)
    rw [after_cons, inductionHypothesis (sound.perform event.operation) keepsLater]
    cases event with
    | step => exact ram_step sound.machine (keeps [] List.nil_prefix)
    | tick => rfl
    | setKey key pressed =>
      rw [Event.operation, perform_setKey_of_key sound.machine.keypad]
      rfl

/-- A reset restarts what has stored nothing since it was new. -/
theorem observations_reset_after {first again : Processor} (sound : first.Sound)
    (againNew : again.AsNew) (sameFlags : first.flagsIndexOverflow = again.flagsIndexOverflow)
    (sameRam : first.machine.ram = again.machine.ram) {events : List Event}
    (keeps : ∀ before, before <+: events → ¬(first.after before).Stores)
    (sameRandom : (first.after events).random.SameFuture again.random)
    (operations : List Operation) :
    (first.after events).reset.observations operations = again.observations operations := by
  have flags := (flags_after sound events).trans sameFlags
  have above : ∀ address : Address, 80 ≤ address.val →
      (first.after events).reset.machine.ram.get address = again.machine.ram.get address := by
    intro address above
    rw [get_reset_of_above _ above, ram_after sound keeps, sameRam]
  exact (twins_reset againNew flags sameRandom above).observations_eq (sound_reset _) operations

/-- So it is with a program: a reset is as good as loading it into a new processor. -/
theorem reset_restarts (flagsIndexOverflow tracing : Bool) (random : RandomSource)
    (program : List UInt8) (events : List Event) :
    let loaded := ((start flagsIndexOverflow tracing random).perform (.load program)).1
    (∀ before, before <+: events → ¬(loaded.after before).Stores) →
      ∀ later, (loaded.after events).random.SameFuture later → ∀ operations,
        (loaded.after events).reset.observations operations =
          ((start flagsIndexOverflow tracing later).perform (.load program)).1.observations
            operations := by
  intro loaded keeps later sameRandom operations
  have loadedSound : loaded.Sound :=
    (Reachable.start flagsIndexOverflow tracing random).sound.perform (.load program)
  obtain ⟨flags, -⟩ := settings_load_start flagsIndexOverflow tracing random program
  obtain ⟨laterFlags, laterRandom⟩ :=
    settings_load_start flagsIndexOverflow tracing later program
  have machines :=
    machine_load_congr (machine_start flagsIndexOverflow tracing random later) program
  rw [← laterRandom] at sameRandom
  exact observations_reset_after loadedSound ((asNew_start _ _ later).load program)
    (flags.trans laterFlags.symm) (congrArg Machine.ram machines) keeps sameRandom operations

/-! ### What a reset forgets -/

/-- Whatever came before, a reset leaves nothing of it but the memory above the font, the settings
and the random numbers drawn. Where this memory is that of a program just loaded, nobody can tell
the two apart. -/
theorem reset_forgets (processor : Processor) :
    processor.reset.AsNew ∧
      (∀ flagsIndexOverflow tracing random,
        processor.reset = { start flagsIndexOverflow tracing random with
          machine := { (start flagsIndexOverflow tracing random).machine with
            ram := processor.reset.machine.ram }
          flagsIndexOverflow := processor.flagsIndexOverflow
          tracing := processor.tracing
          random := processor.random }) ∧
      (∀ address : Address, 80 ≤ address.val →
        processor.reset.machine.ram.get address = processor.machine.ram.get address) ∧
      ∀ (program : List UInt8) (tracing : Bool) (random : RandomSource),
        processor.random.SameFuture random →
        let loaded :=
          ((start processor.flagsIndexOverflow tracing random).perform (.load program)).1
        (∀ address : Address, 80 ≤ address.val →
          processor.reset.machine.ram.get address = loaded.machine.ram.get address) →
        processor.reset.status = loaded.status ∧
          processor.reset.machine.snapshot = loaded.machine.snapshot ∧
          ∀ operations, processor.reset.observations operations =
            loaded.observations operations := by
  refine ⟨asNew_reset processor, reset_eq_start processor,
    fun _ above => get_reset_of_above processor above, ?_⟩
  intro program tracing random sameRandom loaded above
  have loadedNew : loaded.AsNew := (asNew_start _ tracing random).load program
  obtain ⟨flags, source⟩ :=
    settings_load_start processor.flagsIndexOverflow tracing random program
  rw [← source] at sameRandom
  have twins := twins_reset loadedNew flags.symm sameRandom above
  exact ⟨twins.alike.status, twins.snapshot, twins.observations_eq (sound_reset processor)⟩

/-- A reset out of a wait that has caught a key, after a number was drawn, a sprite drawn and a
timer set. The new processor gets the numbers that are still to come. -/
theorem reset_forgets_caught_key :
    let numbers : Nat → Int := fun count => 37 * count
    let loaded := ((start true false ⟨numbers, 0⟩).perform
      (.load [0xC1, 0xFF, 0xD0, 0x15, 0xF1, 0x15, 0xF2, 0x0A])).1
    let waiting := loaded.after
      [.step, .step, .step, .setKey 7 true, .step, .tick, .setKey 5 true]
    let again := ((start true true ⟨fun count => numbers (count + 1), 0⟩).perform
      (.load [0xC1, 0xFF, 0xD0, 0x15, 0xF1, 0x15, 0xF2, 0x0A])).1
    waiting.status = .awaitingKey 2 ∧ waiting.machine.keypad.latch = some 5 ∧
      waiting.random.drawn = 1 ∧ waiting.reset.AsNew ∧
      ∀ operations, waiting.reset.observations operations = again.observations operations := by
  intro numbers loaded waiting again
  have sound : loaded.Sound := (Reachable.start true false ⟨numbers, 0⟩).sound.perform _
  have here : waiting.status = .awaitingKey 2 ∧ waiting.machine.keypad.latch = some 5 ∧
      waiting.random.drawn = 1 := by
    decide +kernel
  obtain ⟨awaiting, caught, drawn⟩ := here
  have keeps : ∀ before ∈ List.inits [.step, .step, .step, .setKey 7 true, .step, .tick,
      .setKey 5 true], ¬(loaded.after before).Stores := by
    decide +kernel
  have sameRam : waiting.machine.ram = again.machine.ram := by
    have unchanged := ram_after sound fun before isBefore => keeps before (by
      rw [List.mem_inits]
      exact isBefore)
    rw [unchanged]
    rfl
  obtain ⟨flags, -⟩ := settings_load_start true false ⟨numbers, 0⟩
    [0xC1, 0xFF, 0xD0, 0x15, 0xF1, 0x15, 0xF2, 0x0A]
  have waitingFlags : waiting.flagsIndexOverflow = true := (flags_after sound _).trans flags
  have answer : waiting.random.answer = numbers :=
    (sound.answer_performAll _).trans
      ((Reachable.start true false ⟨numbers, 0⟩).sound.answer_perform _)
  have sameRandom : waiting.random.SameFuture ⟨fun count => numbers (count + 1), 0⟩ := by
    intro count
    rw [answer, drawn, Nat.zero_add, Nat.add_comm]
  obtain ⟨asNew, -, unchanged, goesOn⟩ := reset_forgets waiting
  rw [waitingFlags] at goesOn
  obtain ⟨-, -, sameRuns⟩ := goesOn _ true _ sameRandom fun address above => by
    rw [unchanged address above, sameRam]
  exact ⟨awaiting, caught, drawn, asNew, sameRuns⟩

end Processor

end Chip8
