import Mathlib.Algebra.BigOperators.Group.List.Basic
import Chip8.Proofs.Host.Timing
import Chip8.Proofs.Text.Spelling

/-!
Contract: the performance reports count every step and every frame exactly once.

Owns:
- `performanceTitle_inj`, that a title tells its two numbers;
- `Host.titles`, the titles a host gave its screen;
- `Host.Tallies`, that what is reported between two moments, with what is counted and not reported
  yet, is what was counted before and what is new;
- `Session.steps` and `Session.looks`, what a turn has to count, and `Session.waitsStopped`, a step
  that is not counted because the clock stops in the wait after it;
- that turns, runs and whatever else is asked of a host tally with what is counted.

Does not own: when a report is due.
-/

namespace Chip8

/-! ### Titles -/

theorem space_notMem_toString (number : Int) : ' ' ∉ (toString number).toList := by
  rw [Text.toList_toString, List.mem_append, not_or]
  refine ⟨?_, Text.notMem_toDigits (by decide) number.natAbs⟩
  split <;> decide

theorem performanceTitle_inj {frames instructions otherFrames otherInstructions : Int}
    (same : performanceTitle frames instructions =
      performanceTitle otherFrames otherInstructions) :
    frames = otherFrames ∧ instructions = otherInstructions := by
  have lists := congrArg String.toList same
  simp only [performanceTitle, String.toList_append, List.append_assoc,
    List.append_cancel_left_eq] at lists
  have space : " FPS, ".toList = ' ' :: "FPS, ".toList := by decide +kernel
  -- the number of frames ends with the first space
  have split := congrArg (Text.pieces ' ') lists
  rw [space, List.cons_append, List.cons_append,
    Text.pieces_append_cons (space_notMem_toString frames),
    Text.pieces_append_cons (space_notMem_toString otherFrames)] at split
  have sameFrames := (List.cons.inj split).1
  rw [sameFrames, List.append_cancel_left_eq, List.append_cancel_left_eq,
    List.append_cancel_right_eq] at lists
  exact ⟨Text.toString_inj (String.toList_inj.mp sameFrames),
    Text.toString_inj (String.toList_inj.mp lists)⟩

def Signal.performance? : Signal → Option (Int × Int)
  | .performance frames instructions => some (frames, instructions)
  | _ => none

namespace Host

/-- The frames and the instructions told of in each report, the newest first. -/
def reports (host : Host) : List (Int × Int) :=
  host.sent.filterMap Signal.performance?

/-- The titles given to the screen, the newest first. -/
def titles (host : Host) : List String :=
  host.reports.map fun report => performanceTitle report.1 report.2

/-! ### Tallies -/

/-- What was reported in between, and what is not reported yet, is what was not reported at first
and so many frames and instructions more. -/
def Tallies (before after : Host) (frames instructions : Nat) : Prop :=
  ∃ reported, after.reports = reported ++ before.reports ∧
    (reported.map Prod.fst).sum + after.frames = before.frames + frames ∧
    (reported.map Prod.snd).sum + after.instructions = before.instructions + instructions

section Tallying

variable {before between after : Host} {frames laterFrames instructions laterInstructions : Nat}

theorem Tallies.trans (first : before.Tallies between frames instructions)
    (second : between.Tallies after laterFrames laterInstructions) :
    before.Tallies after (frames + laterFrames) (instructions + laterInstructions) := by
  obtain ⟨reported, reports, frames, instructions⟩ := first
  obtain ⟨later, laterReports, laterFrames, laterInstructions⟩ := second
  refine ⟨later ++ reported, ?_, ?_, ?_⟩
  · rw [laterReports, reports, List.append_assoc]
  · rw [List.map_append, List.sum_append]
    omega
  · rw [List.map_append, List.sum_append]
    omega

theorem tallies_of_counted (reports : after.reports = before.reports)
    (frames : after.frames = before.frames + laterFrames)
    (instructions : after.instructions = before.instructions + laterInstructions) :
    before.Tallies after laterFrames laterInstructions := by
  refine ⟨[], reports, ?_, ?_⟩
  · rw [frames]
    simp
  · rw [instructions]
    simp

/-- Nothing is counted or reported. -/
theorem tallies_of_same (reports : after.reports = before.reports)
    (schedule : after.schedule = before.schedule) : before.Tallies after 0 0 :=
  tallies_of_counted reports (congrArg Schedule.frames schedule)
    (congrArg Schedule.instructions schedule)

end Tallying

/-! ### Acts -/

theorem reports_switchBuzzer (host : Host) (sounding : Bool) :
    (host.switchBuzzer sounding).reports = host.reports := by
  unfold switchBuzzer
  split <;> rfl

theorem reports_act (host : Host) {act : Act} (noReport : act.report? = none) :
    (host.act act).reports = host.reports := by
  cases act with
  | report => contradiction
  | tick | silence => exact reports_switchBuzzer _ _
  | key event =>
    change (host.deliver event).reports = host.reports
    rcases deliver_cases host event with same | ⟨keypad, mapped, same⟩
    · rw [same]
    · rw [same]
      rfl
  | refresh =>
    unfold Host.act refresh
    dsimp only
    split <;> rfl
  | trace | operate | restore | reschedule => rfl

theorem reports_actAll (host : Host) {acts : List Act}
    (noReports : ∀ act ∈ acts, act.report? = none) : (host.actAll acts).reports = host.reports := by
  induction acts generalizing host with
  | nil => rfl
  | cons first later inductionHypothesis =>
    obtain ⟨firstNoReport, laterNoReports⟩ := List.forall_mem_cons.mp noReports
    rw [actAll_cons, inductionHypothesis _ laterNoReports, reports_act host firstNoReport]

/-! ### A turn -/

theorem tallies_reportIfDue (host : Host) (now : Float) :
    host.Tallies (host.reportIfDue now) 0 0 := by
  unfold reportIfDue
  by_cases due : host.nextReport ≤ now
  · rw [if_pos due]
    refine ⟨[(host.frames, host.instructions)], rfl, ?_, ?_⟩
    · simp
    · simp
  · rw [if_neg due]
    exact tallies_of_same rfl rfl

theorem tallies_catchUp (host : Host) (now : Float) : host.Tallies (host.catchUp now) 0 0 := by
  have sameSchedule := schedule_catchUp host now
  refine tallies_of_counted ?_ (congrArg Schedule.frames sameSchedule)
    (congrArg Schedule.instructions sameSchedule)
  rw [catchUp_eq]
  apply reports_actAll
  intro act member
  rcases List.mem_append.mp member with ticks | last
  · rw [(List.mem_replicate.mp ticks).2]
    rfl
  · rw [List.mem_singleton.mp last]
    rfl

theorem pollAndRefresh_goesOn_iff (host : Host) (now : Float) (poll : Poll) :
    (host.pollAndRefresh now poll).2 = none ↔
      (keyEvents poll.events host).2 = none ∧ poll.quit = false := by
  unfold pollAndRefresh
  generalize keyEvents poll.events host = result
  obtain ⟨pressed, fault⟩ := result
  cases fault with
  | some fault => simp
  | none => cases poll.quit <;> simp

theorem schedule_pollAndRefresh_of_ended {host : Host} {now : Float} {poll : Poll}
    (ended : (host.pollAndRefresh now poll).2 ≠ none) :
    (host.pollAndRefresh now poll).1.schedule = host.schedule := by
  have pressed := schedule_keyEvents poll.events host
  unfold pollAndRefresh at ended ⊢
  generalize keyEvents poll.events host = result at pressed ended
  obtain ⟨after, fault⟩ := result
  cases fault with
  | some fault => exact pressed
  | none =>
    cases quit : poll.quit with
    | true => exact pressed
    | false =>
      rw [quit] at ended
      exact absurd rfl ended

/-- A frame counts if the look before it was answered and did not say to quit. -/
theorem tallies_pollAndRefresh (host : Host) (now : Float) (poll : Poll) :
    host.Tallies (host.pollAndRefresh now poll).1
      (if (host.pollAndRefresh now poll).2 = none then 1 else 0) 0 := by
  have sameReports : (host.pollAndRefresh now poll).1.reports = host.reports := by
    rw [pollAndRefresh_eq]
    exact reports_actAll host fun act member => (untimed_of_mem_pollActs member).1
  by_cases goesOn : (host.pollAndRefresh now poll).2 = none
  · have counted := schedule_pollAndRefresh goesOn
    rw [if_pos goesOn]
    exact tallies_of_counted sameReports (congrArg Schedule.frames counted)
      (congrArg Schedule.instructions counted)
  · rw [if_neg goesOn]
    exact tallies_of_same sameReports (schedule_pollAndRefresh_of_ended goesOn)

theorem stepProcessor_goesOn_iff (host : Host) :
    host.stepProcessor.2 = none ↔
      host.processor.step.fault = none ∧
        host.processor.step.processor.status.isHalted = false := by
  unfold stepProcessor
  dsimp only
  cases host.processor.step.fault with
  | some fault => simp
  | none => cases host.processor.step.processor.status.isHalted <;> simp

/-- A step by itself counts nothing: that waits for the time of the next one. -/
theorem tallies_stepProcessor (host : Host) : host.Tallies host.stepProcessor.1 0 0 := by
  refine tallies_of_same ?_ (schedule_stepProcessor host)
  rw [stepProcessor_eq]
  exact reports_actAll host fun act member => (untimed_of_mem_stepActs member).1

/-! ### What there is to count -/

/-- One for a step that is made and leaves the processor unhalted. -/
def stepsBy (host : Host) : Act → Nat
  | .operate .step =>
    if host.processor.step.fault = none ∧ host.processor.step.processor.status.isHalted = false then
      1
    else
      0
  | _ => 0

def stepsAlong : Host → List Act → Nat
  | _, [] => 0
  | host, act :: later => host.stepsBy act + (host.act act).stepsAlong later

/-- One if a turn looks at the input devices, unless a key event is refused or they say to quit. -/
def looksAt (host : Host) (now : Float) (poll : Poll) : Nat :=
  if (host.turn now poll).polled = true ∧ (keyEvents poll.events (host.opened now)).2 = none ∧
      poll.quit = false then
    1
  else
    0

theorem stepsAlong_append (host : Host) (before later : List Act) :
    host.stepsAlong (before ++ later) =
      host.stepsAlong before + (host.actAll before).stepsAlong later := by
  induction before generalizing host with
  | nil => exact (Nat.zero_add _).symm
  | cons first others inductionHypothesis =>
    rw [List.cons_append, stepsAlong, stepsAlong, inductionHypothesis, Nat.add_assoc, actAll_cons]

theorem stepsAlong_eq_zero (host : Host) {acts : List Act}
    (noStep : ∀ act ∈ acts, act ≠ .operate .step) : host.stepsAlong acts = 0 := by
  induction acts generalizing host with
  | nil => rfl
  | cons first later inductionHypothesis =>
    obtain ⟨firstNoStep, laterNoStep⟩ := List.forall_mem_cons.mp noStep
    have notCounted : host.stepsBy first = 0 := by
      unfold stepsBy
      split
      · contradiction
      · rfl
    rw [stepsAlong, notCounted, inductionHypothesis _ laterNoStep]

theorem stepsAlong_openingActs (host : Host) (schedule : Schedule) (now : Float) :
    host.stepsAlong (schedule.openingActs now) = 0 := by
  apply stepsAlong_eq_zero
  intro act member
  rcases List.mem_append.mp member with reported | ticked
  · unfold Schedule.reportActs at reported
    split at reported
    · simp only [List.mem_cons, List.not_mem_nil, or_false] at reported
      rcases reported with rfl | rfl <;> nofun
    · contradiction
  · rcases List.mem_append.mp ticked with ticks | last
    · rw [(List.mem_replicate.mp ticks).2]
      nofun
    · rw [List.mem_singleton.mp last]
      nofun

theorem stepsAlong_pollActs (host : Host) (now : Float) (poll : Poll) :
    host.stepsAlong (host.pollActs now poll) = 0 := by
  apply stepsAlong_eq_zero
  intro act member
  rcases List.mem_append.mp member with pressed | refreshed
  · obtain ⟨event, rfl⟩ := exists_key_of_mem_keyActs pressed
    nofun
  · split at refreshed
    · contradiction
    · split at refreshed
      · contradiction
      · simp only [List.mem_cons, List.not_mem_nil, or_false] at refreshed
        rcases refreshed with rfl | rfl <;> nofun

theorem stepsAlong_stepActs (host : Host) :
    host.stepsAlong host.stepActs = if host.stepProcessor.2 = none then 1 else 0 := by
  have first : host.stepsBy (.operate .step) = if host.stepProcessor.2 = none then 1 else 0 := by
    simp only [stepsBy, stepProcessor_goesOn_iff]
  have others : ∀ act ∈ host.stepActs.tail, act ≠ .operate .step := by
    intro act member
    rcases List.mem_append.mp member with traced | last
    · obtain ⟨line, -, rfl⟩ := List.mem_map.mp traced
      nofun
    · split at last
      · contradiction
      · split at last
        · rw [List.mem_singleton.mp last]
          nofun
        · contradiction
  change host.stepsBy (.operate .step) +
    (host.act (.operate .step)).stepsAlong host.stepActs.tail = _
  rw [first, stepsAlong_eq_zero _ others, Nat.add_zero]

/-- A turn has a step to count exactly if it ends no run. -/
theorem Closes.stepsAlong_eq {opened : Host} {now : Float} {poll : Poll} {turn : Turn}
    {acts : List Act} (closes : opened.Closes now poll turn acts) :
    opened.stepsAlong acts = if turn.ending = none then 1 else 0 := by
  cases closes with
  | endedByPoll due polled => rw [stepsAlong_pollActs, if_neg nofun]
  | @refreshed after due polled =>
    have reached : opened.actAll (opened.pollActs now poll) = after := by
      rw [← pollAndRefresh_eq, polled]
    rw [stepsAlong_append, reached, stepsAlong_pollActs, stepsAlong_stepActs, Nat.zero_add]
  | stepped notDue => exact stepsAlong_stepActs opened

theorem stepsAlong_turnActs (host : Host) (now : Float) (poll : Poll) :
    host.stepsAlong (host.turnActs now poll) =
      if (host.turn now poll).ending = none then 1 else 0 := by
  rw [turnActs, stepsAlong_append, stepsAlong_openingActs, ← opened_eq, Nat.zero_add]
  exact (closes_turn host now poll).stepsAlong_eq

/-! ### Turns and runs tally -/

theorem Closes.tallies {opened : Host} {now : Float} {poll : Poll} {turn : Turn} {acts : List Act}
    (closes : opened.Closes now poll turn acts) :
    opened.Tallies turn.host
      (if turn.polled = true ∧ (opened.pollAndRefresh now poll).2 = none then 1 else 0) 0 := by
  have looked := tallies_pollAndRefresh opened now poll
  cases closes with
  | endedByPoll due polled =>
    rw [polled] at looked ⊢
    simpa using looked
  | @refreshed after due polled =>
    rw [polled] at looked ⊢
    simpa using looked.trans (tallies_stepProcessor after)
  | stepped notDue => simpa using tallies_stepProcessor opened

/-- A turn counts its look; its step is counted after the wait. -/
theorem tallies_turn (host : Host) (now : Float) (poll : Poll) :
    host.Tallies (host.turn now poll).host (host.looksAt now poll) 0 := by
  have opened := (tallies_reportIfDue host now).trans (tallies_catchUp _ now)
  have closed := (closes_turn host now poll).tallies
  simpa only [looksAt, pollAndRefresh_goesOn_iff, Nat.zero_add] using opened.trans closed

theorem tallies_countInstruction (host : Host) : host.Tallies host.countInstruction 0 1 :=
  tallies_of_counted rfl rfl rfl

end Host

namespace Session

/-- One if the next turn has a look to count. -/
def looks (session : Session) : Nat :=
  match session.clock.read with
  | none => 0
  | some (now, _) => session.host.looksAt now (session.inputs (session.polls + 1))

/-- One if the next turn has a step to count. -/
def steps (session : Session) : Nat :=
  session.host.stepsAlong session.turnActs

/-- One if the next turn ends no run and the clock stops in the wait after it. -/
def waitsStopped (session : Session) : Nat :=
  match session.clock.read with
  | none => 0
  | some (now, later) =>
    let turn := session.host.turn now (session.inputs (session.polls + 1))
    if turn.ending = none ∧ (waitFor later (turn.host.nextTurn now)).isNone then 1 else 0

/-- One if the next turn and the wait after it are done with and end no run. -/
def counted (session : Session) : Nat :=
  if session.turn.2 = none then 1 else 0

theorem stepsAlong_countActs (session : Session) (host : Host) :
    host.stepsAlong session.countActs = 0 := by
  rcases session.countActs_cases with none | ⟨schedule, one⟩
  · rw [none]
    rfl
  · rw [one]
    rfl

/-- A step is counted unless the clock stops in the wait after it. -/
theorem counted_add_waitsStopped (session : Session) :
    session.counted + session.waitsStopped = session.steps := by
  have result := turnResult_turn session
  unfold counted waitsStopped steps turnActs
  generalize session.turn = turned at result ⊢
  cases result with
  | noReading read => simp only [read, reduceCtorEq, if_false, Host.stepsAlong]
  | ended read taken =>
    simp only [read, taken, Host.stepsAlong_append, Host.stepsAlong_turnActs,
      stepsAlong_countActs, reduceCtorEq, false_and, if_false]
  | stoppedWaiting read taken stopped =>
    simp only [read, taken, stopped, Host.stepsAlong_append, Host.stepsAlong_turnActs,
      stepsAlong_countActs, reduceCtorEq, Option.isNone_none, and_self, if_true, if_false]
  | waited read taken waited =>
    simp only [read, taken, waited, Host.stepsAlong_append, Host.stepsAlong_turnActs,
      stepsAlong_countActs, Option.isNone_some, Bool.false_eq_true, and_false, if_true, if_false]

theorem clockStopped_of_waitsStopped {session : Session} (stopped : session.waitsStopped ≠ 0) :
    session.turn.2 = some .clockStopped := by
  have result := turnResult_turn session
  unfold waitsStopped at stopped
  generalize session.turn = turned at result ⊢
  cases result with
  | noReading | stoppedWaiting => rfl
  | ended read taken =>
    simp only [read, taken, reduceCtorEq, false_and, if_false, ne_eq, not_true_eq_false] at stopped
  | waited read taken waited =>
    simp only [read, taken, waited, Option.isNone_some, Bool.false_eq_true, and_false, if_false,
      ne_eq, not_true_eq_false] at stopped

theorem tallies_turn (session : Session) :
    session.host.Tallies session.turn.1.host session.looks session.counted := by
  have result := turnResult_turn session
  have taken (now : Float) :=
    Host.tallies_turn session.host now (session.inputs (session.polls + 1))
  unfold looks counted
  generalize session.turn = turned at result ⊢
  cases result with
  | noReading read =>
    rw [read]
    exact Host.tallies_of_same rfl rfl
  | @ended now _ _ _ _ read isTaken | @stoppedWaiting now _ _ _ read isTaken =>
    have tallies := taken now
    rw [isTaken] at tallies
    rw [read, if_neg (Option.some_ne_none _)]
    exact tallies
  | @waited now _ _ host _ read isTaken =>
    have tallies := taken now
    rw [isTaken] at tallies
    rw [read, if_pos rfl]
    exact tallies.trans (Host.tallies_countInstruction host)

theorem tallies_loop (limit : Option Int) (left made : Nat) (session : Session) :
    session.host.Tallies (loop limit left made session).1.host
      ((turnsWithin limit left made session).map looks).sum
      ((turnsWithin limit left made session).map counted).sum := by
  induction left generalizing made session with
  | zero => exact Host.tallies_of_same rfl rfl
  | succ left inductionHypothesis =>
    have taken := tallies_turn session
    unfold loop turnsWithin
    split
    · exact Host.tallies_of_same rfl rfl
    · generalize session.turn = result at taken
      obtain ⟨next, ending⟩ := result
      rw [List.map_cons, List.map_cons, List.sum_cons, List.sum_cons]
      cases ending with
      | some ending => exact taken
      | none => exact taken.trans (inductionHypothesis (made + 1) next)

/-- Only the last turn of a loop can be followed by a wait in which the clock stops. -/
theorem waitsStopped_loop {limit : Option Int} {left made : Nat} {session : Session}
    (goesOn : (loop limit left made session).2 ≠ .clockStopped) :
    ((turnsWithin limit left made session).map waitsStopped).sum = 0 := by
  induction left generalizing made session with
  | zero => rfl
  | succ left inductionHypothesis =>
    unfold loop at goesOn
    unfold turnsWithin
    split
    · rfl
    · rename_i notReached
      rw [if_neg notReached] at goesOn
      have notStopped : session.turn.2 ≠ some .clockStopped → session.waitsStopped = 0 :=
        fun otherwise => not_not.mp (mt clockStopped_of_waitsStopped otherwise)
      generalize session.turn = result at goesOn notStopped
      obtain ⟨next, ending⟩ := result
      rw [List.map_cons, List.sum_cons]
      cases ending with
      | some ending => exact notStopped fun same => goesOn (Option.some.inj same)
      | none => rw [notStopped (Option.some_ne_none _).symm, inductionHypothesis goesOn]

/-- The looks at the input devices in a run that did not end it. -/
def looksIn (session : Session) (limit : Option Int) : Nat :=
  ((session.turns limit).map looks).sum

/-- The steps of a run that did not halt the processor. -/
def stepsIn (session : Session) (limit : Option Int) : Nat :=
  ((session.turns limit).map steps).sum

/-- One for a run that is stopped in the wait after a step. -/
def waitsStoppedIn (session : Session) (limit : Option Int) : Nat :=
  ((session.turns limit).map waitsStopped).sum

def countedIn (session : Session) (limit : Option Int) : Nat :=
  ((session.turns limit).map counted).sum

theorem countedIn_add_waitsStoppedIn (session : Session) (limit : Option Int) :
    session.countedIn limit + session.waitsStoppedIn limit = session.stepsIn limit := by
  unfold countedIn waitsStoppedIn stepsIn
  rw [← List.sum_map_add]
  simp only [counted_add_waitsStopped]

theorem waitsStoppedIn_eq_zero {session : Session} {limit : Option Int}
    (goesOn : (session.run limit).2 ≠ .clockStopped) : session.waitsStoppedIn limit = 0 := by
  rw [run_eq] at goesOn
  unfold waitsStoppedIn turns
  cases start : session.begun with
  | none => rfl
  | some begun =>
    rw [start] at goesOn
    exact waitsStopped_loop goesOn

theorem tallies_run (session : Session) (limit : Option Int) :
    session.host.Tallies (session.run limit).1.host (session.looksIn limit)
      (session.countedIn limit) := by
  rw [run_eq]
  unfold looksIn countedIn turns
  cases start : session.begun with
  | none => exact Host.tallies_of_same rfl rfl
  | some begun =>
    have began : session.host.Tallies begun.host 0 0 := by
      rw [Session.begun, Option.map_eq_some_iff] at start
      obtain ⟨reading, -, rfl⟩ := start
      exact Host.tallies_of_counted rfl rfl rfl
    have looped := tallies_loop limit begun.clock.left 0 begun
    dsimp only
    generalize loop limit begun.clock.left 0 begun = result at looped ⊢
    have silenced : result.1.host.Tallies (result.1.host.switchBuzzer false) 0 0 :=
      Host.tallies_of_same (Host.reports_switchBuzzer _ false) (Host.schedule_switchBuzzer _ false)
    simpa only [Nat.zero_add, Nat.add_zero] using (began.trans looped).trans silenced

end Session

namespace Host

/-! ### Whatever is asked of a host -/

/-- Neither a report nor a change of what is counted. -/
def Request.LeavesCounts : Request → Prop
  | .act single => single.report? = none ∧ ∀ schedule, single ≠ .reschedule schedule
  | .run .. => True

/-- The looks at the input devices in the runs that are asked for. -/
def looksByRuns (host : Host) : List Request → Nat
  | [] => 0
  | .act act :: later => (host.act act).looksByRuns later
  | .run clock polls inputs limit :: later =>
    (host.session clock polls inputs).looksIn limit +
      (host.answer (.run clock polls inputs limit)).looksByRuns later

/-- The steps in the runs that are asked for. -/
def stepsByRuns (host : Host) : List Request → Nat
  | [] => 0
  | .act act :: later => (host.act act).stepsByRuns later
  | .run clock polls inputs limit :: later =>
    (host.session clock polls inputs).stepsIn limit +
      (host.answer (.run clock polls inputs limit)).stepsByRuns later

/-- The runs that are asked for and stopped in the wait after a step. -/
def waitsStoppedByRuns (host : Host) : List Request → Nat
  | [] => 0
  | .act act :: later => (host.act act).waitsStoppedByRuns later
  | .run clock polls inputs limit :: later =>
    (host.session clock polls inputs).waitsStoppedIn limit +
      (host.answer (.run clock polls inputs limit)).waitsStoppedByRuns later

/-- How the runs ended that are asked for. -/
def runEnds (host : Host) : List Request → List Session.RunEnd
  | [] => []
  | .act act :: later => (host.act act).runEnds later
  | .run clock polls inputs limit :: later =>
    ((host.session clock polls inputs).run limit).2 ::
      (host.answer (.run clock polls inputs limit)).runEnds later

theorem tallies_answerAll (host : Host) {requests : List Request}
    (leaveCounts : ∀ request ∈ requests, request.LeavesCounts) :
    ∃ counted, counted + host.waitsStoppedByRuns requests = host.stepsByRuns requests ∧
      host.Tallies (host.answerAll requests) (host.looksByRuns requests) counted := by
  induction requests generalizing host with
  | nil => exact ⟨0, rfl, tallies_of_same rfl rfl⟩
  | cons request later inductionHypothesis =>
    obtain ⟨first, others⟩ := List.forall_mem_cons.mp leaveCounts
    obtain ⟨counted, laterSteps, answered⟩ := inductionHypothesis (host.answer request) others
    cases request with
    | act act =>
      have acted : host.Tallies (host.act act) 0 0 :=
        tallies_of_same (reports_act host first.1) (schedule_act host first.2)
      have both := acted.trans answered
      rw [Nat.zero_add, Nat.zero_add] at both
      exact ⟨counted, laterSteps, both⟩
    | run clock polls inputs limit =>
      have ran := Session.tallies_run (host.session clock polls inputs) limit
      have runSteps := (host.session clock polls inputs).countedIn_add_waitsStoppedIn limit
      refine ⟨(host.session clock polls inputs).countedIn limit + counted, ?_, ran.trans answered⟩
      simp only [waitsStoppedByRuns, stepsByRuns]
      omega

theorem waitsStoppedByRuns_eq_zero (host : Host) {requests : List Request}
    (goOn : .clockStopped ∉ host.runEnds requests) : host.waitsStoppedByRuns requests = 0 := by
  induction requests generalizing host with
  | nil => rfl
  | cons request later inductionHypothesis =>
    cases request with
    | act act => exact inductionHypothesis (host.act act) goOn
    | run clock polls inputs limit =>
      rw [runEnds, List.mem_cons, not_or] at goOn
      rw [waitsStoppedByRuns, Session.waitsStoppedIn_eq_zero (Ne.symm goOn.1),
        inductionHypothesis _ goOn.2]

/-- The titles after the first one tell of these frames and instructions, the newest first. -/
def TitlesTell (host : Host) (told : List (Int × Int)) : Prop :=
  host.titles =
    told.map (fun report => performanceTitle report.1 report.2) ++ [performanceTitle 0 0]

theorem counted_of_start {processor : Processor} {keyMap : KeyMap} {speed : Option Int}
    {host : Host} (built : start processor keyMap speed = .ok host) :
    host.frames = 0 ∧ host.instructions = 0 ∧ host.reports = [(0, 0)] := by
  have reports : host.reports = [(0, 0)] := by
    rw [Host.reports, (state_of_start built).2.2]
    rfl
  unfold start at built
  cases interval : intervalOf speed with
  | error fault =>
    rw [interval] at built
    contradiction
  | ok seconds =>
    rw [interval] at built
    cases built
    exact ⟨rfl, rfl, reports⟩

/-- Whatever is asked of a new host, runs with any clock and any ending included: the numbers of
instructions in the titles and the number not told of yet add up to the steps that runs made
without a halt, and the numbers of frames in the same way to the looks at the input devices that
did not say to quit. A run is one step short if it is stopped in the wait after a step, before that
is counted; this takes a clock that gives no more readings. -/
theorem performance_counted_once {processor : Processor} {keyMap : KeyMap} {speed : Option Int}
    {host : Host} (built : start processor keyMap speed = .ok host) {requests : List Request}
    (leaveCounts : ∀ request ∈ requests, request.LeavesCounts) :
    let now := host.answerAll requests
    (∃ told, now.TitlesTell told) ∧
      ∀ told, now.TitlesTell told →
        ((told.map Prod.snd).sum + now.instructions + host.waitsStoppedByRuns requests =
              host.stepsByRuns requests ∧
            (told.map Prod.fst).sum + now.frames = host.looksByRuns requests) ∧
          (.clockStopped ∉ host.runEnds requests →
            (told.map Prod.snd).sum + now.instructions = host.stepsByRuns requests) := by
  intro now
  obtain ⟨counted, steps, reported, reports, frames, instructions⟩ :=
    tallies_answerAll host leaveCounts
  obtain ⟨noFrames, noInstructions, firstReport⟩ := counted_of_start built
  have titles : now.TitlesTell reported := by
    rw [TitlesTell, Host.titles, reports, firstReport, List.map_append]
    rfl
  refine ⟨⟨reported, titles⟩, ?_⟩
  intro told titlesTold
  have sameReports : told = reported := by
    rw [TitlesTell, titles, List.append_cancel_right_eq, List.map_inj_right] at titlesTold
    · exact titlesTold.symm
    · intro report other same
      obtain ⟨sameFrames, sameInstructions⟩ := performanceTitle_inj same
      exact Prod.ext sameFrames sameInstructions
  rw [noFrames] at frames
  rw [noInstructions] at instructions
  have exact : (told.map Prod.snd).sum + now.instructions + host.waitsStoppedByRuns requests =
      host.stepsByRuns requests := by
    rw [sameReports, instructions, ← steps]
    simp
  refine ⟨⟨exact, ?_⟩, ?_⟩
  · rw [sameReports]
    simpa using frames
  · intro goOn
    simpa only [waitsStoppedByRuns_eq_zero host goOn, Nat.cast_zero, add_zero] using exact

/-- One run makes the three steps allowed, one halts at its only step, and one makes the report
before its only look and step. With a run before them that is stopped in the wait after its step,
there is one step more and the reports are the same. -/
theorem performance_counted_once_until_stopped :
    let keyMap : KeyMap := ⟨Vector.ofFn fun key => Int.ofNat key.val⟩
    let processor := (Processor.start false false ⟨fun _ => 0, 0⟩).performAll [.load [0x12, 0x00]]
    let clock (begin : Float) (left : Nat) : Clock :=
      ⟨fun reading => begin + Float.ofNat reading / 64.0, 0, left⟩
    let nothing (_ : Nat) : Poll := .nothing
    let requests : List Request := [
      .run (clock (-1.0) 10) 0 nothing (some 3),
      .act (.operate (.load [0xFF, 0xFF])),
      .run (clock (-0.5) 10) 0 nothing none,
      .act (.operate .reset), .act (.operate (.load [0x12, 0x00])),
      .run (clock (-0.015625) 10) 0 nothing (some 1)]
    let stopped : List Request := .run (clock (-2.0) 3) 0 nothing none :: requests
    (∀ request ∈ stopped, request.LeavesCounts) ∧
      ∃ host, start processor keyMap (some 32) = .ok host ∧
        (.clockStopped ∉ host.runEnds requests ∧ (host.answerAll requests).TitlesTell [(0, 3)] ∧
          (host.answerAll requests).instructions = 1 ∧ host.stepsByRuns requests = 4) ∧
        ((host.answerAll stopped).TitlesTell [(0, 3)] ∧ (host.answerAll stopped).frames = 1 ∧
          (host.answerAll stopped).instructions = 1 ∧ host.waitsStoppedByRuns stopped = 1 ∧
          host.stepsByRuns stopped = 5 ∧ host.looksByRuns stopped = 1) := by
  intro keyMap processor clock nothing requests stopped
  have leaveCounts : ∀ request ∈ stopped, request.LeavesCounts := by
    simp only [stopped, requests, List.forall_mem_cons, Request.LeavesCounts, Act.report?, true_and]
    exact ⟨nofun, nofun, nofun, nofun⟩
  obtain ⟨host, built, ⟨goOn, titlesBefore, countBefore⟩, titles, frames, count, stops⟩ :
      ∃ host, start processor keyMap (some 32) = .ok host ∧
        (.clockStopped ∉ host.runEnds requests ∧ (host.answerAll requests).TitlesTell [(0, 3)] ∧
          (host.answerAll requests).instructions = 1) ∧
        (host.answerAll stopped).TitlesTell [(0, 3)] ∧ (host.answerAll stopped).frames = 1 ∧
        (host.answerAll stopped).instructions = 1 ∧ host.waitsStoppedByRuns stopped = 1 := by
    refine ⟨_, rfl, ?_⟩
    unfold TitlesTell
    decide +kernel
  obtain ⟨-, stepsBefore⟩ := (performance_counted_once built
    (List.forall_mem_cons.mp leaveCounts).2).2 _ titlesBefore
  obtain ⟨⟨steps, looks⟩, -⟩ := (performance_counted_once built leaveCounts).2 _ titles
  have exact := stepsBefore goOn
  rw [countBefore] at exact
  rw [count, stops] at steps
  rw [frames] at looks
  exact ⟨leaveCounts, host, built,
    ⟨goOn, titlesBefore, countBefore, Int.ofNat_inj.mp exact.symm⟩,
    titles, frames, count, stops, Int.ofNat_inj.mp steps.symm, Int.ofNat_inj.mp looks.symm⟩

end Host

end Chip8
