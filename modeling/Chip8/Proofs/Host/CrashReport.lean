import Chip8.Proofs.Host.Endings
import Chip8.Proofs.Text.Hex

/-!
Contract: whether the text about a halted processor names the instruction that halted it.

Owns:
- `Processor.crashReport`, the text that names a word and where it stands, and that it tells words
  apart;
- `Processor.Arrived`, which tells of the ways to a reachable processor whether its halt is foreign
  to it: taken over from a saved state after another word was decoded last;
- that the text about a halted processor is right exactly where its halt is its own, and so is the
  dump that a run of a host ends with.

Does not own: why a processor halts.
-/

namespace Chip8

/-- The halt of a processor that had decoded another word than this one. -/
def Status.foreignTo (word : Word) : Status → Bool
  | .halted _ halting _ => halting != word
  | _ => false

namespace Processor

/-! ### The text -/

/-- The text about a halted machine, with `word` as the one decoded last, at `address`. -/
def haltText (machine : Machine) (word : Word) (address : Int) (reason : String) : String :=
  "V: 0x" ++ registersText machine ++
    " I: 0x" ++ Hex.padded 3 machine.index ++
    " DT: 0x" ++ Hex.padded 2 machine.timers.delay ++
    " ST: 0x" ++ Hex.padded 2 machine.timers.sound ++
    " PC: 0x" ++ Hex.padded 3 address ++
    " OP: 0x" ++ Hex.padded 4 word.toNat ++
    " IN: " ++ (Instruction.decode word).mnemonic ++
    "\nStack:" ++ stackText machine.stack ++
    ("\nReason: " ++ reason)

/-- The text that names what halted the machine. -/
def crashReport (machine : Machine) (cause : HaltCause) (word : Word) (address : Int) : String :=
  haltText machine word address (cause.message word address)

theorem fullDump_of_halted {processor : Processor} {cause : HaltCause} {word : Word} {address : Int}
    (status : processor.status = .halted cause word address) :
    processor.fullDump = haltText processor.machine processor.word processor.fetchedAt
      (cause.message word address) := by
  unfold fullDump
  rw [status]
  rfl

/-- Words have four digits each, so the text tells them apart. -/
theorem word_eq_of_haltText_eq {machine : Machine} {left right : Word} {address : Int}
    {reason : String}
    (same : haltText machine left address reason = haltText machine right address reason) :
    left = right := by
  have lists := congrArg String.toList same
  unfold haltText at lists
  simp only [String.toList_append, List.append_assoc, List.append_cancel_left_eq] at lists
  have sameNumber :=
    (Hex.padded_append_inj (by decide) (Hex.fits_word left) (Hex.fits_word right) lists).1
  exact UInt16.toNat_inj.mp (Int.ofNat.inj sameNumber)

/-- The text names what halted the processor exactly if it names the right word. -/
theorem fullDump_eq_crashReport_iff {processor : Processor} {cause : HaltCause} {word : Word}
    {address : Int} (status : processor.status = .halted cause word address)
    (sameAddress : processor.fetchedAt = address) :
    processor.fullDump = crashReport processor.machine cause word address ↔
      processor.word = word := by
  rw [fullDump_of_halted status, sameAddress]
  constructor
  · exact word_eq_of_haltText_eq
  · rintro rfl
    rfl

/-! ### The ways to a halt -/

/-- A way to a reachable processor, with whether its halt is `foreign` to it. Going back to a state
that was halted keeps the word decoded last, which may be another than the one that halted then. -/
inductive Arrived : Bool → Processor → Prop where
  | start (flagsIndexOverflow tracing : Bool) (random : RandomSource) :
    Arrived false (start flagsIndexOverflow tracing random)
  | perform {foreign : Bool} {processor : Processor} (arrived : Arrived foreign processor)
    (operation : Operation) :
    Arrived (foreign && operation != .reset) (processor.perform operation).1
  | restore {foreign sourceForeign : Bool} {processor source : Processor}
    (arrived : Arrived foreign processor) (sourceArrived : Arrived sourceForeign source) :
    Arrived (source.status.foreignTo processor.word) (processor.restore source.save).1

theorem Arrived.reachable {foreign : Bool} {processor : Processor}
    (arrived : Arrived foreign processor) : Reachable processor := by
  induction arrived with
  | start flagsIndexOverflow tracing random => exact .start flagsIndexOverflow tracing random
  | perform _ operation reachable => exact reachable.perform operation
  | restore _ _ reachable sourceReachable => exact reachable.restore sourceReachable

theorem Reachable.exists_arrived {processor : Processor} (reachable : Reachable processor) :
    ∃ foreign, Arrived foreign processor := by
  induction reachable with
  | start flagsIndexOverflow tracing random =>
    exact ⟨false, .start flagsIndexOverflow tracing random⟩
  | perform _ operation inductionHypothesis =>
    obtain ⟨_, arrived⟩ := inductionHypothesis
    exact ⟨_, arrived.perform operation⟩
  | restore _ _ inductionHypothesis sourceHypothesis =>
    obtain ⟨_, arrived⟩ := inductionHypothesis
    obtain ⟨_, sourceArrived⟩ := sourceHypothesis
    exact ⟨_, arrived.restore sourceArrived⟩

/-- A halted processor stands where it was halted, and knows the word that did it unless the halt
is foreign. -/
structure HaltsAs (foreign : Bool) (processor : Processor) : Prop where
  place : ∀ cause word address, processor.status = .halted cause word address →
    processor.fetchedAt = address ∧ processor.machine.pc = address
  word : ∀ cause word address, processor.status = .halted cause word address →
    (processor.word = word ↔ foreign = false)
  halted : foreign = true → processor.status.isHalted = true

namespace HaltsAs

variable {foreign : Bool} {processor next : Processor}

theorem of_not_halted (notHalted : processor.status.isHalted = false) :
    HaltsAs false processor where
  place := by
    intro cause word address status
    rw [status] at notHalted
    contradiction
  word := by
    intro cause word address status
    rw [status] at notHalted
    contradiction
  halted := nofun

variable (halts : HaltsAs foreign processor)

include halts

theorem not_foreign (notHalted : processor.status.isHalted = false) : foreign = false := by
  cases foreign with
  | false => rfl
  | true =>
    rw [halts.halted rfl] at notHalted
    contradiction

/-- What leaves the status, the place and the record of the last fetch alone changes nothing. -/
theorem of_same (sameStatus : next.status = processor.status)
    (samePc : next.machine.pc = processor.machine.pc) (sameWord : next.word = processor.word)
    (sameFetchedAt : next.fetchedAt = processor.fetchedAt) : HaltsAs foreign next where
  place := by
    rw [sameStatus, samePc, sameFetchedAt]
    exact halts.place
  word := by
    rw [sameStatus, sameWord]
    exact halts.word
  halted := by
    rw [sameStatus]
    exact halts.halted

theorem ofTransition (transition : Transition processor next) : HaltsAs foreign next := by
  cases transition with
  | rested | waited => exact halts
  | collected status =>
    rw [halts.not_foreign (congrArg Status.isHalted status)]
    exact of_not_halted rfl
  | stopped status =>
    rw [halts.not_foreign (congrArg Status.isHalted status)]
    refine ⟨?_, ?_, nofun⟩
    · rintro cause word address ⟨⟩
      exact ⟨rfl, rfl⟩
    · rintro cause word address ⟨⟩
      exact iff_of_true rfl rfl
  | executed status done =>
    rw [halts.not_foreign (congrArg Status.isHalted status)]
    rcases status_of_execute done with same | ⟨register, -, rfl⟩
    · exact of_not_halted (congrArg Status.isHalted (same.trans status))
    · exact of_not_halted rfl

theorem perform (wellFormed : processor.machine.WellFormed) (operation : Operation) :
    HaltsAs (foreign && operation != .reset) (processor.perform operation).1 := by
  by_cases isReset : operation = .reset
  · subst isReset
    rw [bne_self_eq_false, Bool.and_false]
    exact of_not_halted rfl
  · rw [bne_iff_ne.mpr isReset, Bool.and_true]
    cases operation with
    | load program =>
      rw [perform_load_eq]
      split <;> exact halts.of_same rfl rfl rfl rfl
    | reset => contradiction
    | step => exact halts.ofTransition (step_transition wellFormed).1
    | tick => exact halts.of_same rfl rfl rfl rfl
    | setKey key pressed =>
      by_cases inside : 0 ≤ key ∧ key < 16
      · obtain ⟨valid, rfl⟩ := Keypad.exists_key inside
        rw [perform_setKey_of_key wellFormed.keypad]
        exact halts.of_same rfl rfl rfl rfl
      · rw [perform_setKey_of_outside processor inside]
        exact halts

omit halts in
/-- The place of a halt is restored with it, the word is not. -/
theorem resumed {source : Processor} (sourceHalts : HaltsAs foreign source)
    (target : Processor) :
    HaltsAs (source.status.foreignTo target.word) (target.resumed source) := by
  have samePc : (target.resumed source).machine.pc = source.machine.pc := by
    unfold Processor.resumed
    split <;> rfl
  have sameStatus : (target.resumed source).status = source.status := rfl
  have sameWord : (target.resumed source).word = target.word := rfl
  have here : (target.resumed source).fetchedAt = source.machine.pc := rfl
  refine ⟨?_, ?_, ?_⟩
  · intro cause word address status
    rw [sameStatus] at status
    rw [here, samePc, (sourceHalts.place cause word address status).2]
    exact ⟨rfl, rfl⟩
  · intro cause word address status
    rw [sameStatus] at status
    rw [sameWord, status]
    change target.word = word ↔ (word != target.word) = false
    rw [bne_eq_false_iff_eq, eq_comm]
  · intro isForeign
    rw [sameStatus]
    cases status : source.status with
    | halted => rfl
    | running | awaitingKey =>
      rw [status] at isForeign
      contradiction

end HaltsAs

theorem Arrived.haltsAs {foreign : Bool} {processor : Processor}
    (arrived : Arrived foreign processor) : HaltsAs foreign processor := by
  induction arrived with
  | start flagsIndexOverflow tracing random => exact .of_not_halted rfl
  | perform arrived operation halts =>
    exact halts.perform arrived.reachable.sound.machine operation
  | restore _ sourceArrived _ sourceHalts =>
    rw [restore_save _ sourceArrived.reachable.sound.machine]
    exact sourceHalts.resumed _

/-- Without going back to an earlier state no halt is foreign. -/
theorem Arrived.performAll {processor : Processor} (arrived : Arrived false processor)
    (operations : List Operation) : Arrived false (processor.performAll operations) := by
  induction operations generalizing processor with
  | nil => exact arrived
  | cons operation later inductionHypothesis =>
    apply inductionHypothesis
    exact arrived.perform operation

theorem status_restore_save (processor : Processor) {source : Processor}
    (wellFormed : source.machine.WellFormed) :
    (processor.restore source.save).1.status = source.status := by
  rw [restore_save processor wellFormed]
  rfl

/-- A reset forgets the word, so going back to the halt after it leaves the halt foreign. -/
theorem Arrived.restore_after_reset {foreign : Bool} {processor : Processor}
    (arrived : Arrived foreign processor) {cause : HaltCause} {word : Word} {address : Int}
    (status : processor.status = .halted cause word address) (notZero : word ≠ 0) :
    Arrived true ((processor.perform .reset).1.restore processor.save).1 := by
  have isForeign : processor.status.foreignTo (processor.perform .reset).1.word = true := by
    rw [status]
    exact bne_iff_ne.mpr notZero
  have back := (arrived.perform .reset).restore arrived
  rw [isForeign] at back
  exact back

/-- Steps, ticks and key events make no halt foreign or its own. -/
theorem Arrived.after {foreign : Bool} {processor : Processor} (arrived : Arrived foreign processor)
    (events : List Event) : Arrived foreign (processor.after events) := by
  induction events generalizing processor with
  | nil => exact arrived
  | cons event later inductionHypothesis =>
    have noReset : (event.operation != .reset) = true := by cases event <;> rfl
    have next := arrived.perform event.operation
    rw [noReset, Bool.and_true] at next
    exact inductionHypothesis next

theorem HaltsAs.of_sameButMark {foreign : Bool} {reference processor : Processor}
    (halts : HaltsAs foreign reference) (same : SameButMark reference processor) :
    HaltsAs foreign processor :=
  halts.of_same same.alike.status.symm same.alike.machine.pc.symm same.word.symm
    same.fetchedAt.symm

theorem HaltsAs.fullDump_iff {foreign : Bool} {processor : Processor}
    (halts : HaltsAs foreign processor) {cause : HaltCause} {word : Word} {address : Int}
    (status : processor.status = .halted cause word address) :
    processor.fullDump = crashReport processor.machine cause word address ↔ foreign = false := by
  rw [fullDump_eq_crashReport_iff status (halts.place cause word address status).1]
  exact halts.word cause word address status

/-- The text about a halted processor always tells where it was halted. It names the instruction
that did it exactly if the halt is not foreign, on every way there, and so does the dump that a run
of a host ends with. -/
theorem crashReport_right_iff_not_foreign {processor : Processor}
    (reachable : Reachable processor) :
    (∃ foreign, Arrived foreign processor) ∧
      ∀ foreign, Arrived foreign processor →
        (∀ cause word address, processor.status = .halted cause word address →
          (processor.fetchedAt = address ∧ processor.machine.pc = address) ∧
            (processor.word = word ↔ foreign = false) ∧
            (processor.fullDump = crashReport processor.machine cause word address ↔
              foreign = false)) ∧
          ∀ (session ended : Session) (limit : Option Int) (dump : String),
            session.host.processor = processor →
            session.run limit = (ended, .ended (.fault (.emulationHalted dump))) →
            ∃ cause word address, ended.host.processor.status = .halted cause word address ∧
              (dump = crashReport ended.host.processor.machine cause word address ↔
                foreign = false) := by
  refine ⟨reachable.exists_arrived, ?_⟩
  intro foreign arrived
  have halts := arrived.haltsAs
  refine ⟨?_, ?_⟩
  · intro cause word address status
    exact ⟨halts.place cause word address status, halts.word cause word address status,
      halts.fullDump_iff status⟩
  · rintro session ended limit dump rfl run
    have follows : session.host.Follows session.host.processor :=
      ⟨SameButMark.refl _, reachable.sound⟩
    have ends : (session.run limit).2 ≠ .clockStopped := by
      rw [run]
      nofun
    have ran := Session.ran_of_run follows ends
    obtain ⟨halted, sameDump⟩ := ran.dump_eq (congrArg Prod.snd run)
    have halts := (arrived.after _).haltsAs.of_sameButMark ran.follows.same
    rw [run] at halted sameDump halts
    cases status : ended.host.processor.status with
    | halted cause word address =>
      refine ⟨cause, word, address, rfl, ?_⟩
      rw [sameDump]
      exact halts.fullDump_iff status
    | running | awaitingKey =>
      rw [status] at halted
      cases halted

/-- The halt is its own where it came about. Going back to it after a reset leaves it foreign, and
the run of a host ends with a dump that names the wrong instruction. -/
theorem crashReport_right_until_restored :
    let halted := (start false false ⟨fun _ => 0, 0⟩).performAll
      [.load [0x60, 0x01, 0xFF, 0xFF], .step, .step]
    let back := ((halted.perform .reset).1.restore halted.save).1
    let sessionOf : Processor → Session := fun processor =>
      ⟨⟨processor, ⟨Vector.ofFn fun key => Int.ofNat key.val⟩, none, false, none, 0.0, 9.0, 0, 0,
        []⟩, ⟨fun readings => Float.ofNat readings / 32.0, 0, 9⟩, 0, fun _ => .nothing⟩
    halted.status = .halted .notAnInstruction 0xFFFF 0x202 ∧
      halted.fullDump = crashReport halted.machine .notAnInstruction 0xFFFF 0x202 ∧
      back.status = halted.status ∧ back.fetchedAt = 0x202 ∧ back.word ≠ 0xFFFF ∧
      ∃ ended dump, (sessionOf back).run none = (ended, .ended (.fault (.emulationHalted dump))) ∧
        ∃ cause word address, ended.host.processor.status = .halted cause word address ∧
          dump ≠ crashReport ended.host.processor.machine cause word address := by
  intro halted back sessionOf
  have arrived : Arrived false halted :=
    (Arrived.start false false ⟨fun _ => 0, 0⟩).performAll _
  have status : halted.status = .halted .notAnInstruction 0xFFFF 0x202 := by decide +kernel
  have backArrived : Arrived true back := arrived.restore_after_reset status (by decide)
  have backStatus : back.status = halted.status :=
    status_restore_save _ arrived.reachable.sound.machine
  have ended : ((sessionOf back).run none).2 = .ended (.fault (.emulationHalted
      ((sessionOf back).run none).1.host.processor.fullDump)) := by
    decide +kernel
  obtain ⟨-, own⟩ := crashReport_right_iff_not_foreign arrived.reachable
  obtain ⟨-, foreign⟩ := crashReport_right_iff_not_foreign backArrived.reachable
  obtain ⟨-, -, right⟩ := (own false arrived).1 _ _ _ status
  obtain ⟨atBack, runs⟩ := foreign true backArrived
  obtain ⟨⟨place, -⟩, named, -⟩ := atBack _ _ _ (backStatus.trans status)
  refine ⟨status, right.mpr rfl, backStatus, place, fun same => Bool.noConfusion (named.mp same),
    ?_⟩
  have sameHost : ∀ processor, (sessionOf processor).host.processor = processor := fun _ => rfl
  cases run : (sessionOf back).run none with
  | mk last ending =>
    rw [run] at ended
    have isHalt :
        ending = .ended (.fault (.emulationHalted last.host.processor.fullDump)) := ended
    subst isHalt
    obtain ⟨cause, word, address, endStatus, wrong⟩ :=
      runs (sessionOf back) last none _ (sameHost back) run
    exact ⟨last, _, rfl, cause, word, address, endStatus,
      fun same => Bool.noConfusion (wrong.mp same)⟩

/-- The text about a halted processor can name another instruction than its own last line. -/
theorem crashReport_wrong_after_restore :
    ¬∀ (processor : Processor) (cause : HaltCause) (word : Word) (address : Int),
      Reachable processor → processor.status = .halted cause word address →
      processor.fullDump = crashReport processor.machine cause word address := by
  intro law
  let halted := (start false false ⟨fun _ => 0, 0⟩).performAll
    [.load [0x60, 0x01, 0xFF, 0xFF], .step, .step]
  let back := ((halted.perform .reset).1.restore halted.save).1
  have arrived : Arrived false halted :=
    (Arrived.start false false ⟨fun _ => 0, 0⟩).performAll _
  have status : halted.status = .halted .notAnInstruction 0xFFFF 0x202 := by decide +kernel
  have backArrived : Arrived true back := arrived.restore_after_reset status (by decide)
  have backStatus : back.status = .halted .notAnInstruction 0xFFFF 0x202 :=
    (status_restore_save _ arrived.reachable.sound.machine).trans status
  have right := law back _ _ _ backArrived.reachable backStatus
  exact Bool.noConfusion ((backArrived.haltsAs.fullDump_iff backStatus).mp right)

end Processor

end Chip8
