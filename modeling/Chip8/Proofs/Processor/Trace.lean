import Chip8.Proofs.Processor.Commuting
import Chip8.Proofs.Processor.Dump

/-!
Contract: whether the instructions of a processor are traced makes no difference to what it does.

Owns:
- `Processor.withTracing`, a processor with its tracing switched on or off, and that everything
  done to a processor commutes with the switch;
- `Command` and `Processor.obey`, an operation or a return to a saved state, with the line it
  prints;
- that a traced processor goes through the states of one that is not, and prints one line for each
  instruction fetched, as the machine is before it is carried out.

Does not own: what the text about a processor shows.
-/

namespace Chip8

/-! ### Nothing left open -/

/-- No differences but in the word decoded last, in where it was fetched, and in tracing. -/
abbrev Likeness.same : Likeness :=
  .adjusted id id

theorem Likeness.same_admits (instruction : Instruction) : same.Admits instruction where
  timers _ := rfl
  keys := by
    rintro - left right equal
    cases (equal : left = right)
    exact ⟨rfl, rfl⟩

namespace Processor

def withTracing (processor : Processor) (tracing : Bool) : Processor :=
  { processor with tracing := tracing }

theorem alike_withTracing (processor : Processor) (tracing : Bool) :
    (processor.withTracing tracing).Alike .same processor :=
  ⟨⟨rfl, rfl, rfl, rfl, rfl, rfl, rfl, rfl, rfl⟩, rfl, rfl, rfl⟩

theorem Alike.eq_withTracing {left right : Processor} (alike : left.Alike .same right)
    (word : left.word = right.word) (fetchedAt : left.fetchedAt = right.fetchedAt) :
    left = right.withTracing left.tracing := by
  have machine : left.machine = right.machine := alike.machine.eq_adjusted
  obtain ⟨rightMachine, status, rightWord, rightFetchedAt, flags, tracing, random⟩ := right
  unfold withTracing
  exact (Processor.mk.injEq ..).mpr
    ⟨machine, alike.status, word, fetchedAt, alike.flags, rfl, alike.random⟩

/-! ### One command -/

theorem execute_withTracing (instruction : Instruction) (processor : Processor) (tracing : Bool) :
    execute instruction (processor.withTracing tracing) =
      (execute instruction processor).map (·.withTracing tracing) := by
  have matched := (alike_withTracing processor tracing).execute (Likeness.same_admits instruction)
  generalize traced : execute instruction (processor.withTracing tracing) = tracedOutcome
    at matched ⊢
  generalize plain : execute instruction processor = outcome at matched ⊢
  cases matched with
  | stop => rfl
  | done results =>
    -- What likeness leaves open is what no instruction touches.
    obtain ⟨tracedWord, tracedFetchedAt, tracedTracing⟩ := record_of_execute traced
    obtain ⟨word, fetchedAt, -⟩ := record_of_execute plain
    have same := results.eq_withTracing (tracedWord.trans word.symm)
      (tracedFetchedAt.trans fetchedAt.symm)
    rw [tracedTracing] at same
    exact congrArg Except.ok same

theorem complete_withTracing (processor : Processor) (tracing : Bool) :
    (processor.withTracing tracing).complete =
      (processor.complete.1.withTracing tracing, processor.complete.2) := by
  have executed := execute_withTracing (Instruction.decode processor.word)
    (processor.withMachine processor.machine.advance) tracing
  unfold complete
  dsimp only [withTracing, withMachine] at executed ⊢
  rw [executed]
  cases execute (Instruction.decode processor.word)
      { processor with machine := processor.machine.advance } with
  | ok next => rfl
  | error stop => cases stop <;> rfl

/-- The word that the next step fetches, if it fetches one at all. -/
def fetches (processor : Processor) : Option Word :=
  if processor.status = .running then processor.machine.fetch.toOption else none

/-- The text about a word that was just fetched from the program counter. -/
def lineOf (processor : Processor) (word : Word) : String :=
  dump { processor with fetchedAt := processor.machine.pc, word := word }

/-- The line printed of the word fetched, if there is one and words are traced. -/
def lineFor (processor : Processor) (tracing : Bool) (fetched : Option Word) : Option String :=
  if tracing then fetched.map processor.lineOf else none

theorem lineFor_none (processor : Processor) (tracing : Bool) :
    processor.lineFor tracing none = none := by
  cases tracing <;> rfl

theorem runInstruction_withTracing (processor : Processor) (tracing : Bool) :
    (processor.withTracing tracing).runInstruction =
      ⟨processor.runInstruction.processor.withTracing tracing,
        processor.lineFor tracing processor.machine.fetch.toOption,
        processor.runInstruction.fault⟩ := by
  unfold runInstruction
  dsimp only [withTracing]
  cases processor.machine.fetch with
  | error fault => cases tracing <;> rfl
  | ok word =>
    have completed := complete_withTracing
      { processor with fetchedAt := processor.machine.pc, word := word } tracing
    dsimp only [withTracing] at completed ⊢
    rw [completed]
    rfl

theorem collectKey_withTracing (processor : Processor) (tracing : Bool) (register : Register) :
    (processor.withTracing tracing).collectKey register =
      (processor.collectKey register).withTracing tracing := by
  unfold collectKey
  dsimp only [withTracing]
  cases processor.machine.keypad.take with
  | none => rfl
  | some taken => rfl

theorem step_withTracing (processor : Processor) (tracing : Bool) :
    (processor.withTracing tracing).step =
      ⟨processor.step.processor.withTracing tracing,
        processor.lineFor tracing processor.fetches,
        processor.step.fault⟩ := by
  have sameStatus : (processor.withTracing tracing).status = processor.status := rfl
  unfold step fetches
  rw [sameStatus]
  cases processor.status with
  | running =>
    dsimp only
    rw [runInstruction_withTracing, if_pos rfl]
  | awaitingKey register =>
    have notRunning : Status.awaitingKey register ≠ .running := nofun
    dsimp only
    rw [collectKey_withTracing, if_neg notRunning, lineFor_none]
  | halted cause word address =>
    have notRunning : Status.halted cause word address ≠ .running := nofun
    dsimp only
    rw [if_neg notRunning, lineFor_none]

/-! ### Operations and restores -/

theorem perform_withTracing (processor : Processor) (operation : Operation) (tracing : Bool) :
    (processor.withTracing tracing).perform operation =
      ((processor.perform operation).1.withTracing tracing, (processor.perform operation).2) := by
  cases operation with
  | load program =>
    rw [perform_load_eq, perform_load_eq]
    split <;> rfl
  | reset | tick => rfl
  | step =>
    unfold perform
    rw [step_withTracing]
  | setKey key pressed =>
    unfold perform
    dsimp only
    rw [setKeyAt_eq, setKeyAt_eq]
    dsimp only [withTracing]
    cases processor.machine.keypad.setKeyAt key pressed <;> rfl

theorem restore_withTracing (processor : Processor) (saved : Saved) (tracing : Bool) :
    (processor.withTracing tracing).restore saved =
      ((processor.restore saved).1.withTracing tracing, (processor.restore saved).2) := by
  unfold restore
  dsimp only [withTracing]
  cases processor.machine.restore saved.snapshot with
  | mk machine refused => cases refused <;> rfl

end Processor

/-- An operation or a return to a saved state. Saving is left out because it changes nothing. -/
inductive Command where
  | operation (operation : Operation)
  | restore (saved : Processor.Saved)
deriving DecidableEq, Repr

namespace Processor

/-- What a command leads to, with the line printed on the way. -/
def obey (processor : Processor) : Command → StepReport
  | .operation .step => processor.step
  | .operation operation =>
    ⟨(processor.perform operation).1, none, (processor.perform operation).2⟩
  | .restore saved => ⟨(processor.restore saved).1, none, (processor.restore saved).2⟩

def obeyAll (processor : Processor) (commands : List Command) : Processor :=
  commands.foldl (fun now command => (now.obey command).processor) processor

/-- The word that a command fetches, if it fetches one at all. Only steps do. -/
def fetchedBy (processor : Processor) : Command → Option Word
  | .operation .step => processor.fetches
  | _ => none

/-- A command does the same with and without tracing, which only prints the line. -/
theorem obey_withTracing (processor : Processor) (command : Command) (tracing : Bool) :
    (processor.withTracing tracing).obey command =
      ⟨(processor.obey command).processor.withTracing tracing,
        processor.lineFor tracing (processor.fetchedBy command),
        (processor.obey command).fault⟩ := by
  cases command with
  | operation operation =>
    cases operation with
    | step => exact step_withTracing processor tracing
    | load | reset | tick | setKey =>
      unfold obey fetchedBy
      dsimp only
      rw [perform_withTracing, lineFor_none]
  | restore saved =>
    unfold obey fetchedBy
    dsimp only
    rw [restore_withTracing, lineFor_none]

theorem obeyAll_withTracing (processor : Processor) (commands : List Command) (tracing : Bool) :
    (processor.withTracing tracing).obeyAll commands =
      (processor.obeyAll commands).withTracing tracing := by
  induction commands generalizing processor with
  | nil => rfl
  | cons command later inductionHypothesis =>
    have next := congrArg StepReport.processor (obey_withTracing processor command tracing)
    unfold obeyAll at inductionHypothesis ⊢
    rw [List.foldl_cons, List.foldl_cons, next]
    exact inductionHypothesis (processor.obey command).processor

/-- The text about a reachable processor tells the registers, the index, the timers, the word
decoded last with its place, the calls in progress and the reason of a halt, and nothing else.
Tracing changes no state that any commands lead through and no refusal; each command prints the
line of the word it fetches from the state before it, if it fetches one, and nothing otherwise. -/
theorem dump_lossless_and_trace_harmless {left right : Processor} (leftReachable : Reachable left)
    (rightReachable : Reachable right) :
    (left.fullDump = right.fullDump ↔ left.ShowsSame right) ∧
      ∀ (processor : Processor) (commands : List Command) (next : Command),
        let traced := (processor.withTracing true).obeyAll commands
        let quiet := (processor.withTracing false).obeyAll commands
        traced = quiet.withTracing true ∧
          traced.obey next = ⟨(quiet.obey next).processor.withTracing true,
            (quiet.fetchedBy next).map quiet.lineOf, (quiet.obey next).fault⟩ ∧
          (quiet.obey next).trace = none ∧
          ∀ line, (traced.obey next).trace = some line → '\n' ∉ line.toList := by
  refine ⟨⟨showsSame_of_fullDump_eq leftReachable rightReachable, ShowsSame.fullDump_eq⟩, ?_⟩
  intro processor commands next traced quiet
  have tracedEq : traced = quiet.withTracing true := by
    unfold traced quiet
    rw [obeyAll_withTracing, obeyAll_withTracing]
    rfl
  have tracedReport := obey_withTracing quiet next true
  have quietReport := obey_withTracing (processor.obeyAll commands) next false
  rw [← tracedEq] at tracedReport
  rw [← obeyAll_withTracing] at quietReport
  refine ⟨tracedEq, tracedReport, congrArg StepReport.trace quietReport, ?_⟩
  intro line printed
  rw [tracedReport] at printed
  obtain ⟨word, -, rfl⟩ := Option.map_eq_some_iff.mp printed
  exact newline_notMem_dump _

/-- Two processors with different settings and random numbers come to the same halt in different
ways; a third one is traced as it begins to wait for a key and while it waits. -/
theorem dump_lossless_and_trace_harmless_at_halt :
    let fresh := start true false ⟨fun count => count, 0⟩
    let left := fresh.performAll [.load [0x22, 0x04], .step, .step]
    let right := (start false true ⟨fun _ => 7, 0⟩).performAll
      [.load [0x22, 0x04, 0xFF], .setKey 3 true, .step, .tick, .step, .step]
    let traced := (fresh.withTracing true).obeyAll [.operation (.load [0xF5, 0x0A])]
    left.ShowsSame right ∧
      (traced.obey (.operation .step)).trace =
        some ("V: 0x00000000000000000000000000000000 I: 0x000 DT: 0x00 ST: 0x00 PC: 0x200 " ++
          "OP: 0xf50a IN: LD V5, K") ∧
      (traced.step.processor.obey (.operation .step)).trace = none := by
  intro fresh left right traced
  have leftReachable : Reachable left := (Reachable.start true false _).performAll _
  have rightReachable : Reachable right := (Reachable.start false true _).performAll _
  obtain ⟨lossless, harmless⟩ := dump_lossless_and_trace_harmless leftReachable rightReachable
  obtain ⟨-, atFirst, -⟩ := harmless fresh [.operation (.load [0xF5, 0x0A])] (.operation .step)
  obtain ⟨-, waiting, -⟩ := harmless fresh
    [.operation (.load [0xF5, 0x0A]), .operation .step] (.operation .step)
  exact ⟨lossless.mp (by decide +kernel),
    (congrArg StepReport.trace atFirst).trans (by decide +kernel),
    (congrArg StepReport.trace waiting).trans (by decide +kernel)⟩

end Processor

end Chip8
