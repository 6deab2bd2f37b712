import Chip8.Host.Session
import Chip8.Proofs.Processor.Reachable

/-!
Contract: a run of a host as a list of single acts.

Owns:
- `Host.Act`, the single things that happen to a host, those done to it from outside included;
- `Host.Schedule`, the part of a host that decides when its duties are due;
- the acts of a turn and of a whole run, and that performing them is taking the turn and running;
- what a turn that ends no run makes of the schedule;
- `Host.Request`, an act or a run asked for from outside, and the acts that a list of them leads to.

Does not own: what is true of hosts after such acts.
-/

namespace Chip8

namespace Host

/-! ### Schedule -/

/-- The pace of a host, when its duties are due, and what it has counted since the last report. -/
structure Schedule where
  instructionInterval : Option Float
  nextTick : Option Float
  nextRefresh : Float
  nextReport : Float
  frames : Nat
  instructions : Nat

def schedule (host : Host) : Schedule :=
  ⟨host.instructionInterval, host.nextTick, host.nextRefresh, host.nextReport, host.frames,
    host.instructions⟩

def withSchedule (host : Host) (schedule : Schedule) : Host :=
  { host with
    instructionInterval := schedule.instructionInterval
    nextTick := schedule.nextTick
    nextRefresh := schedule.nextRefresh
    nextReport := schedule.nextReport
    frames := schedule.frames
    instructions := schedule.instructions }

namespace Schedule

def afterReport (schedule : Schedule) (now : Float) : Schedule :=
  if schedule.nextReport ≤ now then
    { schedule with nextReport := wholePart now + 1.0, frames := 0, instructions := 0 }
  else
    schedule

/-- How many ticks are due, at most as many as the first argument says. -/
def ticksWithin (now : Float) : Nat → Float → Nat
  | 0, _ => 0
  | left + 1, due => if due ≤ now then ticksWithin now left (due + tickInterval) + 1 else 0

/-- When the first tick is due that is not among these. -/
def dueWithin (now : Float) : Nat → Float → Float
  | 0, due => due
  | left + 1, due => if due ≤ now then dueWithin now left (due + tickInterval) else due

/-- How many ticks a turn makes up for. -/
def ticks (schedule : Schedule) (now : Float) : Nat :=
  match schedule.nextTick with
  | none => 0
  | some due => ticksWithin now (ticksBetween due now) due

def afterTicks (schedule : Schedule) (now : Float) : Schedule :=
  { schedule with
    nextTick := schedule.nextTick.map fun due => dueWithin now (ticksBetween due now) due }

def afterRefresh (schedule : Schedule) (now : Float) : Schedule :=
  { schedule with nextRefresh := now + refreshInterval, frames := schedule.frames + 1 }

def afterWait (schedule : Schedule) : Schedule :=
  { schedule with instructions := schedule.instructions + 1 }

/-- When the report and the ticks that are due have been made. -/
def opened (schedule : Schedule) (now : Float) : Schedule :=
  (schedule.afterReport now).afterTicks now

/-- After a turn that ends no run, before the wait that follows it. -/
def afterTurn (schedule : Schedule) (now : Float) : Schedule :=
  let opened := schedule.opened now
  if opened.nextRefresh ≤ now then opened.afterRefresh now else opened

end Schedule

/-! ### Acts -/

/-- A single thing that happens to a host. -/
inductive Act where
  | report (frames instructions : Int)
  | tick
  | key (event : KeyEvent)
  | refresh
  | trace (line : String)
  | operate (operation : Operation)
  | restore (saved : Processor.Saved)
  | reschedule (schedule : Schedule)
  | silence

/-- Passes a key event on and says so; a refused one changes nothing. -/
def deliver (host : Host) (event : KeyEvent) : Host :=
  match host.keyEvent event with
  | .error _ => host
  | .ok (next, mapped) => next.send (.key event.hostKey mapped)

def act (host : Host) : Act → Host
  | .report frames instructions => host.report frames instructions
  | .tick => host.tick
  | .key event => host.deliver event
  | .refresh => host.refresh
  | .trace line => host.send (.trace line)
  | .operate operation => { host with processor := (host.processor.perform operation).1 }
  | .restore saved => { host with processor := (host.processor.restore saved).1 }
  | .reschedule schedule => host.withSchedule schedule
  | .silence => host.switchBuzzer false

def actAll (host : Host) (acts : List Act) : Host :=
  acts.foldl act host

@[simp] theorem actAll_nil (host : Host) : host.actAll [] = host :=
  rfl

@[simp] theorem actAll_cons (host : Host) (first : Act) (later : List Act) :
    host.actAll (first :: later) = (host.act first).actAll later :=
  rfl

@[simp] theorem actAll_append (host : Host) (before later : List Act) :
    host.actAll (before ++ later) = (host.actAll before).actAll later :=
  List.foldl_append

/-- A new host has said how large the screen is and that it has done nothing yet. -/
theorem state_of_start {processor : Processor} {keyMap : KeyMap} {speed : Option Int}
    {host : Host} (built : start processor keyMap speed = .ok host) :
    host.processor = processor ∧ host.buzzerOn = false ∧
      host.sent = [.performance 0 0,
        .resolution Resolution.standard.width Resolution.standard.height] := by
  unfold start at built
  cases interval : intervalOf speed with
  | error fault => simp [interval, bind, Except.bind] at built
  | ok seconds =>
    simp only [interval, bind, Except.bind] at built
    cases built
    exact ⟨rfl, rfl, rfl⟩

/-! ### A turn as acts -/

/-- The acts of the report that is due, if one is. -/
def Schedule.reportActs (schedule : Schedule) (now : Float) : List Act :=
  if schedule.nextReport ≤ now then
    [.report schedule.frames schedule.instructions, .reschedule (schedule.afterReport now)]
  else
    []

/-- The acts that make up for the ticks that are due. -/
def Schedule.tickActs (schedule : Schedule) (now : Float) : List Act :=
  List.replicate (schedule.ticks now) .tick ++ [.reschedule (schedule.afterTicks now)]

/-- The acts at the beginning of a turn. -/
def Schedule.openingActs (schedule : Schedule) (now : Float) : List Act :=
  schedule.reportActs now ++ (schedule.afterReport now).tickActs now

/-- The host once the report and the ticks that are due have been made. -/
def opened (host : Host) (now : Float) : Host :=
  (host.reportIfDue now).catchUp now

/-- The key events of a poll up to the first that is refused. -/
def keyActs : List KeyEvent → Host → List Act
  | [], _ => []
  | event :: later, host =>
    match host.keyEvent event with
    | .error _ => []
    | .ok _ => .key event :: keyActs later (host.deliver event)

/-- The acts of a look at the input devices and of the refresh after it. -/
def pollActs (host : Host) (now : Float) (poll : Poll) : List Act :=
  keyActs poll.events host ++
    match (keyEvents poll.events host).2 with
    | some _ => []
    | none =>
      if poll.quit then [] else [.refresh, .reschedule (host.schedule.afterRefresh now)]

/-- The acts of a step, with a last refresh if it halts the processor. -/
def stepActs (host : Host) : List Act :=
  let report := host.processor.step
  .operate .step :: report.trace.toList.map .trace ++
    match report.fault with
    | some _ => []
    | none =>
      if report.processor.status.isHalted then [.refresh] else []

/-- The acts of a turn after its beginning. -/
def closingActs (opened : Host) (now : Float) (poll : Poll) : List Act :=
  if opened.nextRefresh ≤ now then
    opened.pollActs now poll ++
      match opened.pollAndRefresh now poll with
      | (_, some _) => []
      | (refreshed, none) => refreshed.stepActs
  else
    opened.stepActs

/-- The acts of a turn, in order. -/
def turnActs (host : Host) (now : Float) (poll : Poll) : List Act :=
  host.schedule.openingActs now ++ (host.opened now).closingActs now poll

/-- The three ways in which a turn goes on after its beginning, with the acts of each. -/
inductive Closes (opened : Host) (now : Float) (poll : Poll) : Turn → List Act → Prop where
  | endedByPoll {after : Host} {ending : Ending} (due : opened.nextRefresh ≤ now)
    (polled : opened.pollAndRefresh now poll = (after, some ending)) :
    Closes opened now poll ⟨after, true, some ending⟩ (opened.pollActs now poll)
  | refreshed {after : Host} (due : opened.nextRefresh ≤ now)
    (polled : opened.pollAndRefresh now poll = (after, none)) :
    Closes opened now poll ⟨after.stepProcessor.1, true, after.stepProcessor.2⟩
      (opened.pollActs now poll ++ after.stepActs)
  | stepped (notDue : ¬opened.nextRefresh ≤ now) :
    Closes opened now poll ⟨opened.stepProcessor.1, false, opened.stepProcessor.2⟩
      opened.stepActs

/-! ### The schedule along acts -/

theorem schedule_switchBuzzer (host : Host) (sounding : Bool) :
    (host.switchBuzzer sounding).schedule = host.schedule := by
  unfold switchBuzzer
  split <;> rfl

theorem schedule_refresh (host : Host) : host.refresh.schedule = host.schedule := by
  unfold refresh
  dsimp only
  split <;> rfl

/-- Passing a key event on changes the keypad at most. -/
theorem deliver_cases (host : Host) (event : KeyEvent) :
    host.deliver event = host ∨
      ∃ keypad mapped, host.deliver event =
        (host.withMachine { host.processor.machine with keypad := keypad }).send
          (.key event.hostKey mapped) := by
  unfold deliver keyEvent
  dsimp only
  cases host.keyMap.press host.processor.machine.keypad event with
  | error fault => exact Or.inl rfl
  | ok pressed => exact Or.inr ⟨pressed.1, pressed.2, rfl⟩

theorem schedule_deliver (host : Host) (event : KeyEvent) :
    (host.deliver event).schedule = host.schedule := by
  rcases deliver_cases host event with same | ⟨keypad, mapped, same⟩
  · rw [same]
  · rw [same]
    rfl

/-- An act that sets no schedule leaves it alone. -/
theorem schedule_act (host : Host) {act : Act} (other : ∀ schedule, act ≠ .reschedule schedule) :
    (host.act act).schedule = host.schedule := by
  cases act with
  | tick | silence => exact schedule_switchBuzzer _ _
  | key event => exact schedule_deliver host event
  | refresh => exact schedule_refresh host
  | reschedule schedule => exact absurd rfl (other schedule)
  | report | trace | operate | restore => rfl

theorem schedule_actAll (host : Host) {acts : List Act}
    (others : ∀ act ∈ acts, ∀ schedule, act ≠ .reschedule schedule) :
    (host.actAll acts).schedule = host.schedule := by
  induction acts generalizing host with
  | nil => rfl
  | cons first later inductionHypothesis =>
    rw [List.forall_mem_cons] at others
    rw [actAll_cons, inductionHypothesis _ others.2, schedule_act host others.1]

/-! ### A turn is its acts -/

theorem reportIfDue_eq (host : Host) (now : Float) :
    host.reportIfDue now = host.actAll (host.schedule.reportActs now) := by
  unfold reportIfDue Schedule.reportActs Schedule.afterReport
  by_cases due : host.nextReport ≤ now
  · simp only [schedule, due, if_true]
    rfl
  · simp only [schedule, due, if_false, actAll_nil]

theorem schedule_reportIfDue (host : Host) (now : Float) :
    (host.reportIfDue now).schedule = host.schedule.afterReport now := by
  unfold reportIfDue Schedule.afterReport
  by_cases due : host.nextReport ≤ now
  · simp only [schedule, due, if_true]
    rfl
  · simp only [schedule, due, if_false]

theorem catchUpWithin_eq (now : Float) (left : Nat) (due : Float) (host : Host) :
    catchUpWithin now left due host =
      (host.actAll (List.replicate (Schedule.ticksWithin now left due) .tick)).withSchedule
        { host.schedule with nextTick := some (Schedule.dueWithin now left due) } := by
  induction left generalizing due host with
  | zero => rfl
  | succ left inductionHypothesis =>
    by_cases isDue : due ≤ now
    · have sameSchedule : host.tick.schedule = host.schedule := schedule_switchBuzzer _ _
      simp only [catchUpWithin, Schedule.ticksWithin, Schedule.dueWithin, isDue, if_true,
        List.replicate_succ, actAll_cons, inductionHypothesis, sameSchedule, act]
    · simp only [catchUpWithin, Schedule.ticksWithin, Schedule.dueWithin, isDue, if_false]
      rfl

theorem catchUp_eq (host : Host) (now : Float) :
    host.catchUp now = host.actAll (host.schedule.tickActs now) := by
  unfold catchUp Schedule.tickActs
  rw [actAll_append]
  cases next : host.nextTick with
  | none =>
    have noTicks : host.schedule.ticks now = 0 := by
      simp only [Schedule.ticks, schedule, next]
    have unchanged : host.schedule.afterTicks now = host.schedule := by
      simp only [Schedule.afterTicks, schedule, next, Option.map_none]
    rw [noTicks, unchanged]
    rfl
  | some due =>
    simp only [catchUpWithin_eq, Schedule.ticks, Schedule.afterTicks, schedule, next]
    rfl

theorem schedule_catchUp (host : Host) (now : Float) :
    (host.catchUp now).schedule = host.schedule.afterTicks now := by
  rw [catchUp_eq, Schedule.tickActs, actAll_append]
  rfl

theorem opened_eq (host : Host) (now : Float) :
    host.opened now = host.actAll (host.schedule.openingActs now) := by
  rw [opened, catchUp_eq, schedule_reportIfDue, reportIfDue_eq, Schedule.openingActs,
    actAll_append]

theorem schedule_opened (host : Host) (now : Float) :
    (host.opened now).schedule = host.schedule.opened now := by
  rw [opened, schedule_catchUp, schedule_reportIfDue, Schedule.opened]

theorem keyEvents_eq (events : List KeyEvent) (host : Host) :
    (keyEvents events host).1 = host.actAll (keyActs events host) := by
  induction events generalizing host with
  | nil => rfl
  | cons event later inductionHypothesis =>
    cases passed : host.keyEvent event with
    | error fault => simp [keyEvents, keyActs, passed]
    | ok result =>
      have delivered : host.deliver event = result.1.send (.key event.hostKey result.2) := by
        simp only [deliver, passed]
      simp [keyEvents, keyActs, passed, act, delivered, inductionHypothesis]

theorem exists_key_of_mem_keyActs {events : List KeyEvent} {host : Host} {act : Act}
    (member : act ∈ keyActs events host) : ∃ event, act = .key event := by
  induction events generalizing host with
  | nil => cases member
  | cons event later inductionHypothesis =>
    cases passed : host.keyEvent event with
    | error fault => simp [keyActs, passed] at member
    | ok result =>
      simp only [keyActs, passed, List.mem_cons] at member
      rcases member with rfl | member
      · exact ⟨event, rfl⟩
      · exact inductionHypothesis member

theorem schedule_keyEvents (events : List KeyEvent) (host : Host) :
    (keyEvents events host).1.schedule = host.schedule := by
  rw [keyEvents_eq]
  apply schedule_actAll
  intro act member schedule
  obtain ⟨event, rfl⟩ := exists_key_of_mem_keyActs member
  nofun

theorem refresh_withSchedule (host : Host) (schedule : Schedule) :
    (host.withSchedule schedule).refresh = host.refresh.withSchedule schedule := by
  unfold refresh
  dsimp only [withSchedule]
  split <;> rfl

theorem pollAndRefresh_eq (host : Host) (now : Float) (poll : Poll) :
    (host.pollAndRefresh now poll).1 = host.actAll (host.pollActs now poll) := by
  have pressed := keyEvents_eq poll.events host
  have sameSchedule := schedule_keyEvents poll.events host
  unfold pollAndRefresh pollActs
  rw [actAll_append, ← pressed]
  generalize keyEvents poll.events host = result at sameSchedule
  obtain ⟨after, fault⟩ := result
  cases fault with
  | some fault => rfl
  | none =>
    cases poll.quit with
    | true => rfl
    | false =>
      -- the time of the next refresh is set before the screen is refreshed, as an act after it
      have moved : { after with nextRefresh := now + refreshInterval }.refresh =
          after.refresh.withSchedule
            { after.schedule with nextRefresh := now + refreshInterval } :=
        refresh_withSchedule after
          { after.schedule with nextRefresh := now + refreshInterval }
      rw [← sameSchedule]
      simp only [Bool.false_eq_true, if_false, moved]
      rfl

theorem stepProcessor_eq (host : Host) :
    host.stepProcessor.1 = host.actAll host.stepActs := by
  unfold stepProcessor stepActs
  dsimp only
  cases trace : host.processor.step.trace with
  | none =>
    cases fault : host.processor.step.fault with
    | some fault => rfl
    | none =>
      simp only [Option.toList_none, List.map_nil, List.singleton_append, actAll_cons]
      split <;> rfl
  | some line =>
    cases fault : host.processor.step.fault with
    | some fault => rfl
    | none =>
      simp only [Option.toList_some, List.map_cons, List.map_nil, List.cons_append,
        List.nil_append, actAll_cons]
      split <;> rfl

theorem closes_turn (host : Host) (now : Float) (poll : Poll) :
    (host.opened now).Closes now poll (host.turn now poll)
      ((host.opened now).closingActs now poll) := by
  unfold turn closingActs
  change Closes _ _ _ (if (host.opened now).nextRefresh ≤ now then
    match (host.opened now).pollAndRefresh now poll with
    | (ended, some ending) => ⟨ended, true, some ending⟩
    | (refreshed, none) => ⟨refreshed.stepProcessor.1, true, refreshed.stepProcessor.2⟩
    else ⟨(host.opened now).stepProcessor.1, false, (host.opened now).stepProcessor.2⟩) _
  split
  · rename_i due
    cases polled : (host.opened now).pollAndRefresh now poll with
    | mk after ending =>
      cases ending with
      | some ending =>
        rw [List.append_nil]
        exact .endedByPoll due polled
      | none => exact .refreshed due polled
  · rename_i notDue
    exact .stepped notDue

theorem Closes.host_eq {opened : Host} {now : Float} {poll : Poll} {turn : Turn} {acts : List Act}
    (closes : opened.Closes now poll turn acts) : turn.host = opened.actAll acts := by
  cases closes with
  | endedByPoll due polled => rw [← pollAndRefresh_eq, polled]
  | refreshed due polled => rw [actAll_append, ← pollAndRefresh_eq, polled, ← stepProcessor_eq]
  | stepped notDue => exact stepProcessor_eq opened

theorem turn_eq (host : Host) (now : Float) (poll : Poll) :
    (host.turn now poll).host = host.actAll (host.turnActs now poll) := by
  rw [turnActs, actAll_append, ← opened_eq]
  exact (closes_turn host now poll).host_eq

/-! ### Turns that end no run -/

theorem pollActs_of_goesOn {host : Host} {now : Float} {poll : Poll}
    (goesOn : (host.pollAndRefresh now poll).2 = none) :
    host.pollActs now poll =
      keyActs poll.events host ++ [.refresh, .reschedule (host.schedule.afterRefresh now)] := by
  unfold pollAndRefresh at goesOn
  unfold pollActs
  generalize keyEvents poll.events host = result at goesOn
  obtain ⟨after, fault⟩ := result
  cases fault with
  | some fault => cases goesOn
  | none =>
    cases quit : poll.quit with
    | true => simp [quit] at goesOn
    | false => rfl

theorem stepActs_of_goesOn {host : Host} (goesOn : host.stepProcessor.2 = none) :
    host.stepActs =
      .operate .step :: host.processor.step.trace.toList.map .trace := by
  unfold stepProcessor at goesOn
  unfold stepActs
  dsimp only at goesOn ⊢
  cases fault : host.processor.step.fault with
  | some fault =>
    rw [fault] at goesOn
    cases goesOn
  | none =>
    rw [fault] at goesOn
    dsimp only at goesOn ⊢
    split at goesOn
    · cases goesOn
    · rename_i running
      rw [if_neg running, List.append_nil]

theorem schedule_pollAndRefresh {host : Host} {now : Float} {poll : Poll}
    (goesOn : (host.pollAndRefresh now poll).2 = none) :
    (host.pollAndRefresh now poll).1.schedule = host.schedule.afterRefresh now := by
  rw [pollAndRefresh_eq, pollActs_of_goesOn goesOn, actAll_append]
  rfl

theorem schedule_stepProcessor (host : Host) :
    host.stepProcessor.1.schedule = host.schedule := by
  rw [stepProcessor_eq]
  apply schedule_actAll
  intro act member schedule
  rcases List.mem_append.mp member with stepped | last
  · rcases List.mem_cons.mp stepped with rfl | traced
    · nofun
    · obtain ⟨line, -, rfl⟩ := List.mem_map.mp traced
      nofun
  · split at last
    · contradiction
    · split at last
      · rw [List.mem_singleton.mp last]
        nofun
      · contradiction

theorem schedule_countInstruction (host : Host) :
    host.countInstruction.schedule = host.schedule.afterWait :=
  rfl

theorem Closes.schedule_of_goesOn {opened : Host} {now : Float} {poll : Poll} {turn : Turn}
    {acts : List Act} (closes : opened.Closes now poll turn acts) (goesOn : turn.ending = none) :
    turn.host.schedule =
      if opened.nextRefresh ≤ now then opened.schedule.afterRefresh now else opened.schedule := by
  cases closes with
  | endedByPoll due polled => cases goesOn
  | @refreshed after due polled =>
    have sameSchedule := schedule_pollAndRefresh (congrArg Prod.snd polled)
    rw [polled] at sameSchedule
    rw [if_pos due, ← sameSchedule]
    exact schedule_stepProcessor after
  | stepped notDue =>
    rw [if_neg notDue]
    exact schedule_stepProcessor opened

theorem schedule_turn {host : Host} {now : Float} {poll : Poll}
    (goesOn : (host.turn now poll).ending = none) :
    (host.turn now poll).host.schedule = host.schedule.afterTurn now := by
  have closed := (closes_turn host now poll).schedule_of_goesOn goesOn
  rw [Schedule.afterTurn, ← schedule_opened]
  exact closed

end Host

/-! ### A run as acts -/

namespace Session

open Host (Act)

/-- The instruction is counted at the end of the wait after a turn, if it comes to that. -/
def countActs (session : Session) : List Act :=
  match session.turn with
  | (_, some _) => []
  | (next, none) => [.reschedule next.host.schedule]

/-- The acts of the next turn and of the wait after it. -/
def turnActs (session : Session) : List Act :=
  match session.clock.read with
  | none => []
  | some (now, _) =>
    session.host.turnActs now (session.inputs (session.polls + 1)) ++ session.countActs

/-- The sessions in which the turns of a loop begin. -/
def turnsWithin (limit : Option Int) : Nat → Nat → Session → List Session
  | 0, _, _ => []
  | left + 1, made, session =>
    if limitReached limit made then
      []
    else
      session :: match session.turn with
        | (_, some _) => []
        | (next, none) => turnsWithin limit left (made + 1) next

/-- Past the first reading of a run, from which the first tick is counted. -/
def begun (session : Session) : Option Session :=
  session.clock.read.map fun reading => { session with
    clock := reading.2
    host := { session.host with nextTick := some (reading.1 + Host.tickInterval) } }

/-- The sessions in which the turns of a run begin. -/
def turns (session : Session) (limit : Option Int) : List Session :=
  match session.begun with
  | none => []
  | some begun => turnsWithin limit begun.clock.left 0 begun

def runActs (session : Session) (limit : Option Int) : List Act :=
  match session.begun with
  | none => []
  | some begun =>
    .reschedule begun.host.schedule :: (session.turns limit).flatMap turnActs ++ [.silence]

/-- The four ways in which a turn and the wait after it go, with what they leave of a session. -/
inductive TurnResult (session : Session) : Session × Option RunEnd → Prop where
  | noReading (read : session.clock.read = none) :
    TurnResult session (session, some .clockStopped)
  | ended {now : Float} {later : Clock} {host : Host} {polled : Bool} {ending : Host.Ending}
    (read : session.clock.read = some (now, later))
    (taken : session.host.turn now (session.inputs (session.polls + 1)) =
      ⟨host, polled, some ending⟩) :
    TurnResult session
      (⟨host, later, if polled then session.polls + 1 else session.polls, session.inputs⟩,
        some (.ended ending))
  | stoppedWaiting {now : Float} {later : Clock} {host : Host} {polled : Bool}
    (read : session.clock.read = some (now, later))
    (taken : session.host.turn now (session.inputs (session.polls + 1)) = ⟨host, polled, none⟩)
    (stopped : waitFor later (host.nextTurn now) = none) :
    TurnResult session
      (⟨host, later, if polled then session.polls + 1 else session.polls, session.inputs⟩,
        some .clockStopped)
  | waited {now : Float} {later clock : Clock} {host : Host} {polled : Bool}
    (read : session.clock.read = some (now, later))
    (taken : session.host.turn now (session.inputs (session.polls + 1)) = ⟨host, polled, none⟩)
    (waited : waitFor later (host.nextTurn now) = some clock) :
    TurnResult session
      (⟨host.countInstruction, clock, if polled then session.polls + 1 else session.polls,
        session.inputs⟩, none)

theorem turnResult_turn (session : Session) : session.TurnResult session.turn := by
  unfold turn
  cases read : session.clock.read with
  | none => exact .noReading read
  | some reading =>
    dsimp only
    cases taken : session.host.turn reading.1 (session.inputs (session.polls + 1)) with
    | mk host polled ending =>
      cases ending with
      | some ending => exact .ended read taken
      | none =>
        dsimp only
        cases waited : waitFor reading.2 (host.nextTurn reading.1) with
        | none => exact .stoppedWaiting read taken waited
        | some clock => exact .waited read taken waited

/-- Counting an instruction is one act, and a turn that ends a run leaves it out. -/
theorem countActs_cases (session : Session) :
    session.countActs = [] ∨ ∃ schedule, session.countActs = [.reschedule schedule] := by
  unfold countActs
  split
  · exact Or.inl rfl
  · exact Or.inr ⟨_, rfl⟩

theorem host_turn (session : Session) :
    session.turn.1.host = session.host.actAll session.turnActs := by
  have result := turnResult_turn session
  unfold turnActs countActs
  generalize session.turn = turned at result ⊢
  cases result with
  | noReading read =>
    rw [read]
    rfl
  | ended read taken | stoppedWaiting read taken =>
    rw [read]
    dsimp only
    rw [List.append_nil, ← Host.turn_eq, taken]
  | waited read taken =>
    rw [read]
    dsimp only
    rw [Host.actAll_append, ← Host.turn_eq, taken]
    rfl

/-- What ends a run within a turn of a session ended that turn of the host. -/
theorem turn_of_ended {session ended : Session} {ending : Host.Ending}
    (turned : session.turn = (ended, some (.ended ending))) :
    ∃ now poll, (session.host.turn now poll).ending = some ending ∧
      ended.host = (session.host.turn now poll).host := by
  have result := turnResult_turn session
  rw [turned] at result
  cases result with
  | @ended now _ _ _ _ read taken =>
    refine ⟨now, session.inputs (session.polls + 1), ?_⟩
    rw [taken]
    exact ⟨rfl, rfl⟩

/-- A turn that ends no run is followed by a wait for the next one, at whose end its instruction is
counted. -/
theorem turn_of_goesOn {session : Session} (goesOn : session.turn.2 = none) :
    ∃ now later, session.clock.read = some (now, later) ∧
      (session.host.turn now (session.inputs (session.polls + 1))).ending = none ∧
      session.turn.1.host =
        (session.host.turn now (session.inputs (session.polls + 1))).host.countInstruction ∧
      waitFor later (session.turn.1.host.nextTurn now) = some session.turn.1.clock := by
  have result := turnResult_turn session
  generalize session.turn = turned at goesOn result ⊢
  cases result with
  | noReading | ended | stoppedWaiting => contradiction
  | @waited now later _ _ _ read taken waited =>
    refine ⟨now, later, read, ?_⟩
    rw [taken]
    exact ⟨rfl, rfl, waited⟩

theorem host_loop (limit : Option Int) (left made : Nat) (session : Session) :
    (loop limit left made session).1.host =
      session.host.actAll ((turnsWithin limit left made session).flatMap turnActs) := by
  induction left generalizing made session with
  | zero => rfl
  | succ left inductionHypothesis =>
    have taken := host_turn session
    unfold loop turnsWithin
    split
    · rfl
    · generalize session.turn = result at taken
      obtain ⟨next, ending⟩ := result
      cases ending with
      | some ending => simpa using taken
      | none =>
        have reached : next.host = session.host.actAll session.turnActs := taken
        rw [List.flatMap_cons, Host.actAll_append, ← reached]
        exact inductionHypothesis (made + 1) next

theorem host_of_begun {session begun : Session} (start : session.begun = some begun) :
    begun.host = session.host.act (.reschedule begun.host.schedule) := by
  unfold Session.begun at start
  obtain ⟨reading, -, rfl⟩ := Option.map_eq_some_iff.mp start
  rfl

/-- A run is a loop from the first reading on, and at its end the buzzer is switched off. -/
theorem run_eq (session : Session) (limit : Option Int) :
    session.run limit =
      match session.begun with
      | none => (session, .clockStopped)
      | some begun =>
        let (ended, ending) := loop limit begun.clock.left 0 begun
        ({ ended with host := ended.host.switchBuzzer false }, ending) := by
  unfold run begun
  cases session.clock.read with
  | none => rfl
  | some reading => rfl

theorem host_run (session : Session) (limit : Option Int) :
    (session.run limit).1.host = session.host.actAll (session.runActs limit) := by
  rw [run_eq]
  unfold runActs turns
  cases start : session.begun with
  | none => rfl
  | some begun =>
    have looped := host_loop limit begun.clock.left 0 begun
    simp only [Host.actAll_append, Host.actAll_cons, Host.actAll_nil, ← host_of_begun start,
      ← looped]
    rfl

end Session

namespace Host

/-! ### What is asked of a host -/

/-- What is asked of a host from outside: a single act, or a run. -/
inductive Request where
  | act (act : Act)
  | run (clock : Clock) (polls : Nat) (inputs : Nat → Poll) (limit : Option Int)

/-- A run of a host. -/
def session (host : Host) (clock : Clock) (polls : Nat) (inputs : Nat → Poll) : Session :=
  ⟨host, clock, polls, inputs⟩

def answer (host : Host) : Request → Host
  | .act act => host.act act
  | .run clock polls inputs limit => ((host.session clock polls inputs).run limit).1.host

def answerAll (host : Host) (requests : List Request) : Host :=
  requests.foldl answer host

def requestActs (host : Host) : Request → List Act
  | .act act => [act]
  | .run clock polls inputs limit => (host.session clock polls inputs).runActs limit

/-- All that happens to a host while it answers requests. -/
def course (host : Host) : List Request → List Act
  | [] => []
  | request :: later => host.requestActs request ++ (host.answer request).course later

theorem answer_eq (host : Host) (request : Request) :
    host.answer request = host.actAll (host.requestActs request) := by
  cases request with
  | act act => rfl
  | run clock polls inputs limit => exact Session.host_run _ limit

theorem answerAll_eq (host : Host) (requests : List Request) :
    host.answerAll requests = host.actAll (host.course requests) := by
  induction requests generalizing host with
  | nil => rfl
  | cons request later inductionHypothesis =>
    have first := answer_eq host request
    rw [course, actAll_append, ← first]
    exact inductionHypothesis (host.answer request)

end Host

end Chip8
