import Chip8.Proofs.Host.Refinement

/-!
Contract: how the run of a host ends, and what it has done to the processor by then.

Owns:
- `Session.turnEvents` and `Session.runEvents`, what turns and runs do to the processor;
- `Processor.HaltsAlong`, that one of the steps among events leaves the processor halted;
- `Session.Loops`, the turns of a loop up to its end, and what they come to;
- the three ways in which a run ends, told by the events and by what the user asked for.

Does not own: runs that the clock breaks off.
-/

namespace Chip8

namespace Processor

/-- One of the steps among these events leaves the processor halted. -/
def HaltsAlong (processor : Processor) : List Event → Prop
  | [] => False
  | event :: later =>
    (event = .step ∧ processor.step.processor.status.isHalted = true) ∨
      (processor.perform event.operation).1.HaltsAlong later

theorem haltsAlong_append (processor : Processor) (before later : List Event) :
    processor.HaltsAlong (before ++ later) ↔
      processor.HaltsAlong before ∨ (processor.after before).HaltsAlong later := by
  induction before generalizing processor with
  | nil => simp [HaltsAlong, after, performAll]
  | cons event before inductionHypothesis =>
    rw [List.cons_append, HaltsAlong, HaltsAlong, inductionHypothesis, or_assoc, after_cons]

theorem not_haltsAlong_of_step_notMem (processor : Processor) {events : List Event}
    (noStep : Event.step ∉ events) : ¬processor.HaltsAlong events := by
  induction events generalizing processor with
  | nil => exact not_false
  | cons event later inductionHypothesis =>
    rw [List.mem_cons, not_or] at noStep
    rintro (⟨isStep, -⟩ | halts)
    · exact noStep.1 isStep.symm
    · exact inductionHypothesis _ noStep.2 halts

theorem haltsAlong_concat_step (processor : Processor) {events : List Event}
    (noStep : Event.step ∉ events) :
    processor.HaltsAlong (events ++ [.step]) ↔
      (processor.after (events ++ [.step])).status.isHalted = true := by
  have quiet := not_haltsAlong_of_step_notMem processor noStep
  rw [haltsAlong_append, after_append]
  simp only [quiet, HaltsAlong, true_and, or_false, false_or]
  rfl

end Processor

namespace Session

open Host (Act Ending)

/-! ### Turns -/

/-- What the next turn does to the processor, in order. -/
def turnEvents (session : Session) : List Event :=
  session.turnActs.filterMap (Act.event? session.host.keyMap)

/-- What a run does to the processor, in order. -/
def runEvents (session : Session) (limit : Option Int) : List Event :=
  (session.turns limit).flatMap turnEvents

/-- The ticks that are due when the next turn begins. -/
def ticksDue (session : Session) : Nat :=
  match session.clock.read with
  | none => 0
  | some (now, _) => session.host.schedule.ticks now

/-- The key events that the next turn learns of. -/
def keysDue (session : Session) : List KeyEvent :=
  match session.clock.read with
  | none => []
  | some (now, _) => session.host.keysDue now (session.inputs (session.polls + 1))

/-- The next turn learns that the user quits. -/
def asksToQuit (session : Session) : Bool :=
  match session.clock.read with
  | none => false
  | some (now, _) => session.host.quitDue now (session.inputs (session.polls + 1))

/-- The acts at the beginning of the next turn, which are not done to the keys. -/
def openingActs (session : Session) : List Act :=
  match session.clock.read with
  | none => []
  | some (now, _) => session.host.schedule.openingActs now

/-- Ticks come before key events and these before the step, which is left out if the user quits. -/
def InOrder (session : Session) : Prop :=
  session.turnEvents =
    List.replicate session.ticksDue .tick ++
      session.keysDue.filterMap session.host.keyMap.event? ++
        if session.asksToQuit then [] else [.step]

/-- What a turn that the clock does not break off comes to. -/
structure Turned (session : Session) (reference : Processor) (next : Session)
    (ending : Option RunEnd) : Prop where
  inOrder : session.InOrder
  follows : next.host.Follows (reference.after session.turnEvents)
  ending : ending =
    if session.asksToQuit then some (.ended .quit)
    else if next.host.processor.status.isHalted then
      some (.ended (.fault (.emulationHalted next.host.processor.fullDump)))
    else none
  onlyKeys : session.asksToQuit = true →
    session.turnActs = session.openingActs ++ session.keysDue.map .key

/-- A turn that the clock does not break off is a turn of the host at some time. -/
theorem turn_eq_of_read {session next : Session} {ending : Option RunEnd} {now : Float}
    {later : Clock} (read : session.clock.read = some (now, later))
    (turned : session.turn = (next, ending)) (notStopped : ending ≠ some .clockStopped) :
    next.host.processor =
        (session.host.turn now (session.inputs (session.polls + 1))).host.processor ∧
      ending = (session.host.turn now (session.inputs (session.polls + 1))).ending.map .ended := by
  have result := turnResult_turn session
  rw [turned] at result
  cases result with
  | noReading | stoppedWaiting => contradiction
  | ended isRead taken | waited isRead taken =>
    rw [read] at isRead
    cases isRead
    rw [taken]
    exact ⟨rfl, rfl⟩

theorem events_countActs (session : Session) (keyMap : KeyMap) :
    session.countActs.filterMap (Act.event? keyMap) = [] := by
  rcases session.countActs_cases with none | ⟨schedule, one⟩
  · rw [none]
    rfl
  · rw [one]
    rfl

theorem turned_of_turn {session next : Session} {ending : Option RunEnd} {reference : Processor}
    (follows : session.host.Follows reference) (turned : session.turn = (next, ending))
    (notStopped : ending ≠ some .clockStopped) : session.Turned reference next ending := by
  cases read : session.clock.read with
  | none =>
    unfold turn at turned
    rw [read] at turned
    cases turned
    contradiction
  | some reading =>
    obtain ⟨now, later⟩ := reading
    obtain ⟨sameProcessor, sameEnding⟩ := turn_eq_of_read read turned notStopped
    obtain ⟨events, after, hostEnding, onlyKeys⟩ :=
      follows.turned now (session.inputs (session.polls + 1))
    have sameEvents : session.turnEvents =
        session.host.turnEvents now (session.inputs (session.polls + 1)) := by
      simp only [turnEvents, turnActs, read, Host.turnEvents, List.filterMap_append,
        events_countActs, List.append_nil]
    have endsThere : ending =
        if session.asksToQuit then some (.ended .quit)
        else if next.host.processor.status.isHalted then
          some (.ended (.fault (.emulationHalted next.host.processor.fullDump)))
        else none := by
      rw [sameEnding, hostEnding, sameProcessor]
      simp only [asksToQuit, read]
      split
      · rfl
      · split <;> rfl
    refine ⟨?_, ?_, endsThere, ?_⟩
    · simp only [InOrder, sameEvents, ticksDue, keysDue, asksToQuit, read]
      exact events
    · rw [sameEvents]
      refine ⟨?_, after.sound⟩
      rw [sameProcessor]
      exact after.same
    · intro quits
      have notCounted : session.countActs = [] := by
        rw [endsThere, if_pos quits] at turned
        unfold countActs
        rw [turned]
      simp only [asksToQuit, read] at quits
      simp only [keysDue, openingActs, turnActs, read, notCounted, List.append_nil]
      exact onlyKeys quits

theorem step_notMem_keys (keyMap : KeyMap) (keys : List KeyEvent) :
    Event.step ∉ keys.filterMap keyMap.event? := by
  intro member
  obtain ⟨event, -, isStep⟩ := List.mem_filterMap.mp member
  obtain ⟨key, -, same⟩ := Option.map_eq_some_iff.mp isStep
  contradiction

namespace InOrder

variable {session : Session} (inOrder : session.InOrder)

include inOrder

/-- No step comes before the last event. -/
theorem exists_quiet : ∃ quiet, Event.step ∉ quiet ∧
    session.turnEvents = quiet ++ if session.asksToQuit then [] else [.step] := by
  refine ⟨_, ?_, inOrder⟩
  rw [List.mem_append, not_or]
  refine ⟨?_, step_notMem_keys _ _⟩
  intro member
  exact nomatch List.eq_of_mem_replicate member

theorem count_step : session.turnEvents.count .step = if session.asksToQuit then 0 else 1 := by
  obtain ⟨quiet, noStep, events⟩ := inOrder.exists_quiet
  rw [events, List.count_append, List.count_eq_zero_of_not_mem noStep, Nat.zero_add]
  split <;> rfl

theorem haltsAlong_iff (reference : Processor) :
    reference.HaltsAlong session.turnEvents ↔ session.asksToQuit = false ∧
      (reference.after session.turnEvents).status.isHalted = true := by
  obtain ⟨quiet, noStep, events⟩ := inOrder.exists_quiet
  rw [events]
  cases session.asksToQuit with
  | true =>
    have quietHalts := Processor.not_haltsAlong_of_step_notMem reference noStep
    simp [quietHalts]
  | false => simpa using Processor.haltsAlong_concat_step reference noStep

end InOrder

/-! ### Loops -/

/-- The turns of a loop, the first of which begins after so many steps, up to its end. -/
inductive Loops (limit : Option Int) : Nat → Session → List Session → Session × RunEnd → Prop where
  | limit {made : Nat} {session : Session} (reached : limitReached limit made = true) :
    Loops limit made session [] (session, .stepsMade)
  | ended {made : Nat} {session ended : Session} {ending : RunEnd}
    (allowed : limitReached limit made = false) (turned : session.turn = (ended, some ending))
    (notStopped : ending ≠ .clockStopped) : Loops limit made session [session] (ended, ending)
  | turn {made : Nat} {session next : Session} {turns : List Session} {result : Session × RunEnd}
    (allowed : limitReached limit made = false) (turned : session.turn = (next, none))
    (later : Loops limit (made + 1) next turns result) :
    Loops limit made session (session :: turns) result

theorem loops_of_loop {limit : Option Int} {left made : Nat} {session : Session}
    (notStopped : (loop limit left made session).2 ≠ .clockStopped) :
    Loops limit made session (turnsWithin limit left made session)
      (loop limit left made session) := by
  induction left generalizing made session with
  | zero =>
    unfold loop at notStopped ⊢
    cases reached : limitReached limit made with
    | true => exact .limit reached
    | false => simp [reached] at notStopped
  | succ left inductionHypothesis =>
    unfold loop at notStopped ⊢
    unfold turnsWithin
    cases reached : limitReached limit made with
    | true => exact .limit reached
    | false =>
      simp only [reached, Bool.false_eq_true, if_false] at notStopped ⊢
      cases turned : session.turn with
      | mk next ending =>
        rw [turned] at notStopped
        cases ending with
        | some ending => exact .ended reached turned notStopped
        | none => exact .turn reached turned (inductionHypothesis notStopped)

/-- How a loop ended, told by its events and by what the user asked for. -/
inductive Outcome (limit : Option Int) (reference : Processor) (made : Nat)
    (turns : List Session) : Session × RunEnd → Prop where
  | stepsMade (session : Session)
    (reached : limitReached limit (made + (turns.flatMap turnEvents).count .step) = true)
    (goesOn : ∀ turn ∈ turns, turn.asksToQuit = false)
    (noHalt : ¬reference.HaltsAlong (turns.flatMap turnEvents)) :
    Outcome limit reference made turns (session, .stepsMade)
  | quit (session : Session) {before : List Session} {last : Session}
    (split : turns = before ++ [last]) (goesOn : ∀ turn ∈ before, turn.asksToQuit = false)
    (quits : last.asksToQuit = true)
    (onlyKeys : last.turnActs = last.openingActs ++ last.keysDue.map .key)
    (noHalt : ¬reference.HaltsAlong (turns.flatMap turnEvents)) :
    Outcome limit reference made turns (session, .ended .quit)
  | halted (session : Session) (stopped : session.host.processor.status.isHalted = true)
    (goesOn : ∀ turn ∈ turns, turn.asksToQuit = false)
    (halts : reference.HaltsAlong (turns.flatMap turnEvents)) :
    Outcome limit reference made turns
      (session, .ended (.fault (.emulationHalted session.host.processor.fullDump)))

/-- What the turns of a loop come to. -/
structure Ran (limit : Option Int) (reference : Processor) (made : Nat) (turns : List Session)
    (result : Session × RunEnd) : Prop where
  follows : result.1.host.Follows (reference.after (turns.flatMap turnEvents))
  inOrder : ∀ turn ∈ turns, turn.InOrder
  within : ∀ most, limit = some most → (turns.flatMap turnEvents).count .step = 0 ∨
    ((made + (turns.flatMap turnEvents).count .step : Nat) : Int) ≤ most
  outcome : Outcome limit reference made turns result

theorem limitReached_iff {limit : Option Int} {made : Nat} :
    limitReached limit made = true ↔ ∃ most, limit = some most ∧ most ≤ made := by
  cases limit with
  | none => simp [limitReached]
  | some most => simp [limitReached]

theorem lt_of_allowed {limit : Option Int} {made : Nat} {most : Int} (isLimit : limit = some most)
    (allowed : limitReached limit made = false) : (made : Int) < most := by
  by_contra noMore
  have reached := limitReached_iff.mpr ⟨most, isLimit, Int.not_lt.mp noMore⟩
  rw [allowed] at reached
  contradiction

theorem ran_of_limit {limit : Option Int} {made : Nat} {session : Session} {reference : Processor}
    (follows : session.host.Follows reference) (reached : limitReached limit made = true) :
    Ran limit reference made [] (session, .stepsMade) := by
  refine ⟨follows, List.forall_mem_nil _, ?_, ?_⟩
  · intro most _
    exact Or.inl rfl
  · exact .stepsMade session reached (List.forall_mem_nil _) not_false

theorem Turned.ran_of_ended {limit : Option Int} {made : Nat} {session ended : Session}
    {reference : Processor} {ending : RunEnd}
    (turned : session.Turned reference ended (some ending))
    (allowed : limitReached limit made = false) :
    Ran limit reference made [session] (ended, ending) := by
  obtain ⟨inOrder, follows, answer, onlyKeys⟩ := turned
  have steps := inOrder.count_step
  have halts := inOrder.haltsAlong_iff reference
  have sameStatus := follows.same.alike.status
  refine ⟨?_, ?_, ?_, ?_⟩
  · rw [List.flatMap_singleton]
    exact follows
  · exact List.forall_mem_singleton.mpr inOrder
  · intro most isLimit
    rw [List.flatMap_singleton, steps]
    cases session.asksToQuit with
    | true => exact Or.inl rfl
    | false =>
      right
      have more := lt_of_allowed isLimit allowed
      simp only [Bool.false_eq_true, if_false]
      omega
  · rw [← List.flatMap_singleton turnEvents session] at halts
    cases quits : session.asksToQuit with
    | true =>
      rw [quits, if_pos rfl] at answer
      cases answer
      refine .quit ended (List.nil_append [session]).symm (List.forall_mem_nil _) quits
        (onlyKeys quits) ?_
      rw [halts, quits]
      simp
    | false =>
      rw [quits, if_neg Bool.false_ne_true] at answer
      by_cases halted : ended.host.processor.status.isHalted = true
      · rw [if_pos halted] at answer
        cases answer
        have referenceHalted := sameStatus ▸ halted
        rw [← List.flatMap_singleton turnEvents session] at referenceHalted
        exact .halted ended halted (List.forall_mem_singleton.mpr quits)
          (halts.mpr ⟨quits, referenceHalted⟩)
      · rw [if_neg halted] at answer
        contradiction

/-- A turn after which a loop goes on has made a step, and that left nothing halted. -/
theorem Turned.goesOn {session next : Session} {reference : Processor}
    (turned : session.Turned reference next none) :
    session.asksToQuit = false ∧ ¬reference.HaltsAlong session.turnEvents := by
  obtain ⟨inOrder, follows, answer, -⟩ := turned
  have sameStatus := follows.same.alike.status
  rw [inOrder.haltsAlong_iff reference, sameStatus]
  cases quits : session.asksToQuit with
  | true =>
    rw [quits, if_pos rfl] at answer
    contradiction
  | false =>
    refine ⟨rfl, ?_⟩
    rintro ⟨-, halted⟩
    rw [quits, if_neg Bool.false_ne_true, if_pos halted] at answer
    contradiction

theorem Turned.ran_of_goesOn {limit : Option Int} {made : Nat} {session next : Session}
    {reference : Processor} {turns : List Session} {result : Session × RunEnd}
    (turned : session.Turned reference next none) (allowed : limitReached limit made = false)
    (later : Ran limit (reference.after session.turnEvents) (made + 1) turns result) :
    Ran limit reference made (session :: turns) result := by
  obtain ⟨stays, noHaltNow⟩ := turned.goesOn
  obtain ⟨follows, inOrder, within, outcome⟩ := later
  have steps := turned.inOrder.count_step
  rw [stays, if_neg Bool.false_ne_true] at steps
  have count : ((session :: turns).flatMap turnEvents).count .step =
      1 + (turns.flatMap turnEvents).count .step := by
    rw [List.flatMap_cons, List.count_append, steps]
  have halts : reference.HaltsAlong ((session :: turns).flatMap turnEvents) ↔
      (reference.after session.turnEvents).HaltsAlong (turns.flatMap turnEvents) := by
    rw [List.flatMap_cons, Processor.haltsAlong_append]
    simp only [noHaltNow, false_or]
  refine ⟨?_, List.forall_mem_cons.mpr ⟨turned.inOrder, inOrder⟩, ?_, ?_⟩
  · rw [List.flatMap_cons, Processor.after_append]
    exact follows
  · intro most isLimit
    have more := lt_of_allowed isLimit allowed
    have laterWithin := within most isLimit
    rw [count]
    omega
  · cases outcome with
    | stepsMade last reached goesOn noHalt =>
      refine .stepsMade last ?_ (List.forall_mem_cons.mpr ⟨stays, goesOn⟩) (halts.not.mpr noHalt)
      rw [count, ← Nat.add_assoc]
      exact reached
    | @quit last before final split goesOn quits onlyKeys noHalt =>
      have splitHere : session :: turns = (session :: before) ++ [final] :=
        congrArg (session :: ·) split
      exact .quit last splitHere (List.forall_mem_cons.mpr ⟨stays, goesOn⟩) quits onlyKeys
        (halts.not.mpr noHalt)
    | halted last stopped goesOn haltsLater =>
      exact .halted last stopped (List.forall_mem_cons.mpr ⟨stays, goesOn⟩) (halts.mpr haltsLater)

theorem Loops.ran {limit : Option Int} {made : Nat} {session : Session} {turns : List Session}
    {result : Session × RunEnd} (loops : Loops limit made session turns result)
    {reference : Processor} (follows : session.host.Follows reference) :
    Ran limit reference made turns result := by
  induction loops generalizing reference with
  | limit reached => exact ran_of_limit follows reached
  | ended allowed turned notStopped =>
    have notBroken := fun stopped => notStopped (Option.some.inj stopped)
    exact (turned_of_turn follows turned notBroken).ran_of_ended allowed
  | turn allowed turned later inductionHypothesis =>
    have gone := turned_of_turn follows turned nofun
    exact gone.ran_of_goesOn allowed (inductionHypothesis gone.follows)

/-! ### Runs -/

/-- Switching the buzzer off at the end does nothing to the processor. -/
theorem Ran.silence {limit : Option Int} {reference : Processor} {made : Nat}
    {turns : List Session} {ended : Session} {ending : RunEnd}
    (ran : Ran limit reference made turns (ended, ending)) :
    Ran limit reference made turns
      ({ ended with host := ended.host.switchBuzzer false }, ending) := by
  obtain ⟨follows, inOrder, within, outcome⟩ := ran
  have sameProcessor : (ended.host.switchBuzzer false).processor = ended.host.processor :=
    Host.processor_switchBuzzer ended.host false
  refine ⟨⟨?_, follows.sound⟩, inOrder, within, ?_⟩
  · rw [sameProcessor]
    exact follows.same
  · cases outcome with
    | stepsMade _ reached goesOn noHalt => exact .stepsMade _ reached goesOn noHalt
    | quit _ split goesOn quits onlyKeys noHalt =>
      exact .quit _ split goesOn quits onlyKeys noHalt
    | halted _ stopped goesOn halts =>
      rw [← sameProcessor] at stopped ⊢
      exact .halted { ended with host := ended.host.switchBuzzer false } stopped goesOn halts

theorem ran_of_run {session : Session} {limit : Option Int} {reference : Processor}
    (follows : session.host.Follows reference) (ends : (session.run limit).2 ≠ .clockStopped) :
    Ran limit reference 0 (session.turns limit) (session.run limit) := by
  rw [run_eq] at ends ⊢
  unfold turns
  cases start : session.begun with
  | none =>
    rw [start] at ends
    contradiction
  | some begun =>
    rw [start] at ends
    dsimp only at ends ⊢
    have begunFollows : begun.host.Follows reference := by
      rw [host_of_begun start]
      exact follows.act trivial
    exact ((loops_of_loop ends).ran begunFollows).silence

namespace Ran

variable {limit : Option Int} {reference : Processor} {turns : List Session}
  {result : Session × RunEnd} (ran : Ran limit reference 0 turns result)

include ran

theorem steps_le {most : Int} (isLimit : limit = some most) :
    (turns.flatMap turnEvents).count .step ≤ most.toNat := by
  have within := ran.within most isLimit
  omega

theorem ending_cases : result.2 = .ended .quit ∨ result.2 = .stepsMade ∨
    ∃ dump, result.2 = .ended (.fault (.emulationHalted dump)) := by
  cases ran.outcome with
  | stepsMade => exact Or.inr (Or.inl rfl)
  | quit => exact Or.inl rfl
  | halted => exact Or.inr (Or.inr ⟨_, rfl⟩)

theorem halted_iff : (∃ dump, result.2 = .ended (.fault (.emulationHalted dump))) ↔
    reference.HaltsAlong (turns.flatMap turnEvents) := by
  cases ran.outcome with
  | stepsMade _ reached goesOn noHalt => simp [noHalt]
  | quit _ split goesOn quits onlyKeys noHalt => simp [noHalt]
  | halted _ stopped goesOn halts => simp [halts]

/-- The fault tells of the processor as the run leaves it. -/
theorem dump_eq {dump : String} (ended : result.2 = .ended (.fault (.emulationHalted dump))) :
    result.1.host.processor.status.isHalted = true ∧
      dump = result.1.host.processor.fullDump := by
  cases ran.outcome with
  | stepsMade | quit => cases ended
  | halted _ stopped =>
    simp only [RunEnd.ended.injEq, Ending.fault.injEq, Fault.emulationHalted.injEq] at ended
    exact ⟨stopped, ended.symm⟩

theorem normal_iff : (result.2 = .ended .quit ∨ result.2 = .stepsMade) ↔
    (∃ turn ∈ turns, turn.asksToQuit = true) ∨
      (∃ most, limit = some most ∧ (turns.flatMap turnEvents).count .step = most.toNat) ∧
        ¬reference.HaltsAlong (turns.flatMap turnEvents) := by
  have within := ran.within
  cases ran.outcome with
  | stepsMade _ reached goesOn noHalt =>
    have allMade : ∃ most, limit = some most ∧
        (turns.flatMap turnEvents).count .step = most.toNat := by
      obtain ⟨most, isLimit, noMore⟩ := limitReached_iff.mp reached
      have notBeyond := within most isLimit
      exact ⟨most, isLimit, by omega⟩
    simp [noHalt, allMade]
  | @quit _ before last split goesOn quits onlyKeys noHalt =>
    have asked : ∃ turn ∈ turns, turn.asksToQuit = true :=
      ⟨last, split ▸ List.mem_append_right before (List.mem_singleton_self last), quits⟩
    simp [asked]
  | halted _ stopped goesOn halts =>
    have neverAsked : ¬∃ turn ∈ turns, turn.asksToQuit = true := by
      rintro ⟨turn, member, quits⟩
      rw [goesOn turn member] at quits
      contradiction
    simp [neverAsked, halts]

/-- Only the last turn of all can learn that the user quits, and then it only tells the keys. -/
theorem last_of_quits {turn : Session} (member : turn ∈ turns) (quits : turn.asksToQuit = true) :
    ∃ before, turns = before ++ [turn] ∧
      turn.turnActs = turn.openingActs ++ turn.keysDue.map .key := by
  cases ran.outcome with
  | stepsMade _ reached goesOn noHalt =>
    rw [goesOn turn member] at quits
    contradiction
  | @quit _ before last split goesOn _ onlyKeys noHalt =>
    rw [split, List.mem_append, List.mem_singleton] at member
    rcases member with earlier | rfl
    · rw [goesOn turn earlier] at quits
      contradiction
    · exact ⟨before, split, onlyKeys⟩
  | halted _ stopped goesOn halts =>
    rw [goesOn turn member] at quits
    contradiction

end Ran

/-- What the last turn does is followed by silence only. -/
theorem suffix_runActs {session last : Session} {limit : Option Int} {before : List Session}
    {acts : List Act} (split : session.turns limit = before ++ [last])
    (lastActs : last.turnActs = acts) : acts ++ [.silence] <:+ session.runActs limit := by
  unfold runActs
  cases start : session.begun with
  | none =>
    have noTurns : session.turns limit = [] := by
      unfold turns
      rw [start]
    rw [noTurns] at split
    simp at split
  | some begun =>
    refine ⟨.reschedule begun.host.schedule :: before.flatMap turnActs, ?_⟩
    rw [split, List.flatMap_append, List.flatMap_singleton, lastActs]
    simp only [List.cons_append, List.append_assoc]

/-- A run makes steps, ticks and key events of the processor and nothing else but showing what
was drawn. It is over when the user quits, when a step has halted the processor or when all steps
are made. -/
theorem run_refines_events {session : Session} {limit : Option Int}
    (reachable : session.host.processor.Reachable)
    (ends : (session.run limit).2 ≠ .clockStopped) :
    let start := session.host.processor
    let events := session.runEvents limit
    let result := session.run limit
    result.1.host = session.host.actAll (session.runActs limit) ∧
      result.1.host.processor =
        (start.after events).marked result.1.host.processor.machine.display.dirty ∧
      (∀ turn ∈ session.turns limit, turn.turnEvents =
        List.replicate turn.ticksDue .tick ++ turn.keysDue.filterMap turn.host.keyMap.event? ++
          if turn.asksToQuit then [] else [.step]) ∧
      ((result.2 = .ended .quit ∨ result.2 = .stepsMade) ↔
        (∃ turn ∈ session.turns limit, turn.asksToQuit = true) ∨
          (∃ most, limit = some most ∧ events.count .step = most.toNat) ∧
            ¬start.HaltsAlong events) ∧
      ((∃ dump, result.2 = .ended (.fault (.emulationHalted dump))) ↔ start.HaltsAlong events) ∧
      (result.2 = .ended .quit ∨ result.2 = .stepsMade ∨
        ∃ dump, result.2 = .ended (.fault (.emulationHalted dump))) ∧
      (∀ most, limit = some most → events.count .step ≤ most.toNat) ∧
      ∀ turn ∈ session.turns limit, turn.asksToQuit = true →
        turn.openingActs ++ turn.keysDue.map .key ++ [.silence] <:+ session.runActs limit := by
  intro start events result
  have follows : session.host.Follows session.host.processor :=
    ⟨Processor.SameButMark.refl _, reachable.sound⟩
  have ran := ran_of_run follows ends
  refine ⟨host_run session limit, ran.follows.same.marked_eq.symm, ran.inOrder, ran.normal_iff,
    ran.halted_iff, ran.ending_cases, fun _ => ran.steps_le, ?_⟩
  intro turn member quits
  obtain ⟨before, split, onlyKeys⟩ := ran.last_of_quits member quits
  exact suffix_runActs split onlyKeys

/-- The key that a program waits for goes down in the second turn. In the third the user lets go of
it and quits, so that no step is made any more. -/
theorem run_refines_events_until_quit :
    let processor := (Processor.start false false ⟨fun _ => 0, 0⟩).performAll
      [.load [0xF3, 0x0A, 0x12, 0x02]]
    let inputs : Nat → Poll := fun look =>
      if look = 2 then ⟨[⟨65, true⟩, ⟨5, true⟩], false⟩
      else if look = 3 then ⟨[⟨5, false⟩], true⟩
      else .nothing
    let session : Session :=
      ⟨⟨processor, ⟨Vector.ofFn fun key => Int.ofNat key.val⟩, none, false, none, 0.0, 9.0, 0, 0,
        []⟩, ⟨fun readings => Float.ofNat readings / 32.0, 0, 9⟩, 0, inputs⟩
    let after := (session.run (some 7)).1.host.processor
    session.runEvents (some 7) =
        [.tick, .step, .tick, .tick, .setKey 5 true, .step, .tick, .tick, .setKey 5 false] ∧
      (session.run (some 7)).2 = .ended .quit ∧ after.machine.register 3 = 5 ∧
      after = (processor.after (session.runEvents (some 7))).marked after.machine.display.dirty ∧
      ¬processor.HaltsAlong (session.runEvents (some 7)) ∧
      ∃ turn ∈ session.turns (some 7), turn.asksToQuit = true ∧
        turn.openingActs ++ turn.keysDue.map .key ++ [.silence] <:+ session.runActs (some 7) := by
  intro processor inputs session after
  have reachable : session.host.processor.Reachable :=
    (Processor.Reachable.start false false ⟨fun _ => 0, 0⟩).performAll _
  have here : session.runEvents (some 7) =
        [.tick, .step, .tick, .tick, .setKey 5 true, .step, .tick, .tick, .setKey 5 false] ∧
      (session.run (some 7)).2 = .ended .quit ∧ after.machine.register 3 = 5 ∧
      (session.turns (some 7)).any asksToQuit = true := by
    decide +kernel
  obtain ⟨events, quit, stored, asked⟩ := here
  have ends : (session.run (some 7)).2 ≠ .clockStopped := by
    rw [quit]
    nofun
  obtain ⟨-, sameProcessor, -, -, halted, -, -, lastActs⟩ := run_refines_events reachable ends
  have noHalt : ¬processor.HaltsAlong (session.runEvents (some 7)) := by
    intro halts
    obtain ⟨dump, isHalt⟩ := halted.mpr halts
    rw [quit] at isHalt
    cases isHalt
  obtain ⟨turn, member, quits⟩ := List.any_eq_true.mp asked
  exact ⟨events, quit, stored, sameProcessor, noHalt, turn, member, quits,
    lastActs turn member quits⟩

end Session

end Chip8
