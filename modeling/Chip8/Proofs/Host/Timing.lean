import Chip8.Proofs.Host.Course

/-!
Contract: the timing of a host does not depend on what it emulates.

Owns:
- `Session.timing`, what a turn does by the clock up to its step, and that the schedule alone
  decides it;
- `Session.InStep`, two sessions at one point of one clock whose duties are due at the same times,
  kept by turns that end neither run;
- `Session.InTime`, two runs that keep time with each other until the first of them ends.

Does not own: what the processors do meanwhile.
-/

namespace Chip8

namespace Host

/-! ### Acts that go by the clock -/

namespace Act

def report? : Act → Option (Int × Int)
  | .report frames instructions => some (frames, instructions)
  | _ => none

def isTick : Act → Bool
  | .tick => true
  | _ => false

def isRefresh : Act → Bool
  | .refresh => true
  | _ => false

/-- An act that belongs to the look at the input devices or to the step. -/
def Untimed (act : Act) : Prop :=
  act.report? = none ∧ act.isTick = false

end Act

theorem untimed_of_mem_pollActs {host : Host} {now : Float} {poll : Poll} {act : Act}
    (member : act ∈ host.pollActs now poll) : act.Untimed := by
  unfold pollActs at member
  rcases List.mem_append.mp member with pressed | refreshed
  · obtain ⟨event, rfl⟩ := exists_key_of_mem_keyActs pressed
    exact ⟨rfl, rfl⟩
  · split at refreshed
    · cases refreshed
    · split at refreshed
      · cases refreshed
      · simp only [List.mem_cons, List.not_mem_nil, or_false] at refreshed
        rcases refreshed with rfl | rfl <;> exact ⟨rfl, rfl⟩

theorem untimed_of_mem_stepActs {host : Host} {act : Act} (member : act ∈ host.stepActs) :
    act.Untimed := by
  unfold stepActs at member
  dsimp only at member
  rcases List.mem_append.mp member with stepped | last
  · rcases List.mem_cons.mp stepped with rfl | traced
    · exact ⟨rfl, rfl⟩
    · obtain ⟨line, -, rfl⟩ := List.mem_map.mp traced
      exact ⟨rfl, rfl⟩
  · split at last
    · cases last
    · split at last
      · rw [List.mem_singleton.mp last]
        exact ⟨rfl, rfl⟩
      · cases last

theorem Closes.untimed {opened : Host} {now : Float} {poll : Poll} {turn : Turn} {acts : List Act}
    (closes : opened.Closes now poll turn acts) : ∀ act ∈ acts, act.Untimed := by
  intro act member
  cases closes with
  | endedByPoll due polled => exact untimed_of_mem_pollActs member
  | refreshed due polled =>
    rcases List.mem_append.mp member with polled | stepped
    · exact untimed_of_mem_pollActs polled
    · exact untimed_of_mem_stepActs stepped
  | stepped notDue => exact untimed_of_mem_stepActs member

theorem Closes.polled_eq {opened : Host} {now : Float} {poll : Poll} {turn : Turn}
    {acts : List Act} (closes : opened.Closes now poll turn acts) :
    turn.polled = decide (opened.nextRefresh ≤ now) := by
  cases closes with
  | endedByPoll due polled => exact (decide_eq_true due).symm
  | refreshed due polled => exact (decide_eq_true due).symm
  | stepped notDue => exact (decide_eq_false notDue).symm

/-- Only the beginning of a turn reports. -/
theorem reports_turnActs (host : Host) (now : Float) (poll : Poll) :
    (host.turnActs now poll).filterMap Act.report? =
      (host.schedule.openingActs now).filterMap Act.report? := by
  have untimed := (closes_turn host now poll).untimed
  have none : ((host.opened now).closingActs now poll).filterMap Act.report? = [] := by
    rw [List.filterMap_eq_nil_iff]
    intro act member
    exact (untimed act member).1
  rw [turnActs, List.filterMap_append, none, List.append_nil]

/-- Only the beginning of a turn makes the timers tick. -/
theorem ticks_turnActs (host : Host) (now : Float) (poll : Poll) :
    (host.turnActs now poll).countP Act.isTick =
      (host.schedule.openingActs now).countP Act.isTick := by
  have untimed := (closes_turn host now poll).untimed
  have none : ((host.opened now).closingActs now poll).countP Act.isTick = 0 := by
    rw [List.countP_eq_zero]
    intro act member
    simp only [(untimed act member).2, Bool.false_eq_true, not_false_eq_true]
  rw [turnActs, List.countP_append, none, Nat.add_zero]

theorem refreshes_openingActs (schedule : Schedule) (now : Float) :
    (schedule.openingActs now).countP Act.isRefresh = 0 := by
  unfold Schedule.openingActs Schedule.reportActs Schedule.tickActs
  split <;> simp [List.countP_replicate, Act.isRefresh]

theorem refreshes_pollActs {host : Host} {now : Float} {poll : Poll}
    (goesOn : (host.pollAndRefresh now poll).2 = none) :
    (host.pollActs now poll).countP Act.isRefresh = 1 := by
  have none : (keyActs poll.events host).countP Act.isRefresh = 0 := by
    rw [List.countP_eq_zero]
    intro act member
    obtain ⟨event, rfl⟩ := exists_key_of_mem_keyActs member
    nofun
  rw [pollActs_of_goesOn goesOn, List.countP_append, none]
  rfl

theorem refreshes_stepActs {host : Host} (goesOn : host.stepProcessor.2 = none) :
    host.stepActs.countP Act.isRefresh = 0 := by
  rw [stepActs_of_goesOn goesOn]
  cases host.processor.step.trace with
  | none => rfl
  | some line => rfl

theorem Closes.refreshes_of_goesOn {opened : Host} {now : Float} {poll : Poll} {turn : Turn}
    {acts : List Act} (closes : opened.Closes now poll turn acts) (goesOn : turn.ending = none) :
    acts.countP Act.isRefresh = if opened.nextRefresh ≤ now then 1 else 0 := by
  cases closes with
  | endedByPoll due polled => cases goesOn
  | refreshed due polled =>
    have polledGoesOn : (opened.pollAndRefresh now poll).2 = none := by rw [polled]
    rw [List.countP_append, refreshes_pollActs polledGoesOn, refreshes_stepActs goesOn, if_pos due]
  | stepped notDue => rw [refreshes_stepActs goesOn, if_neg notDue]

/-- A turn that ends no run refreshes the screen exactly if it looks at the input devices. -/
theorem refreshes_turnActs {host : Host} {now : Float} {poll : Poll}
    (goesOn : (host.turn now poll).ending = none) :
    (host.turnActs now poll).countP Act.isRefresh =
      if (host.schedule.opened now).nextRefresh ≤ now then 1 else 0 := by
  have closed := (closes_turn host now poll).refreshes_of_goesOn goesOn
  rw [turnActs, List.countP_append, refreshes_openingActs, Nat.zero_add, ← schedule_opened]
  exact closed

theorem polled_turn (host : Host) (now : Float) (poll : Poll) :
    (host.turn now poll).polled = decide ((host.schedule.opened now).nextRefresh ≤ now) := by
  rw [(closes_turn host now poll).polled_eq, ← schedule_opened]
  rfl

end Host

/-! ### What a turn does by the clock -/

/-- What a turn does by the clock, up to its step. -/
structure Timing where
  /-- The reading of the clock with which the turn begins. -/
  time : Option Float
  /-- The frames and the instructions told of in each report. -/
  reports : List (Int × Int)
  ticks : Nat
  /-- Looks at the input devices, each of them before a refresh. -/
  looks : Nat

/-- What the schedule and the clock say about a turn. -/
def Host.Schedule.timing (schedule : Schedule) (clock : Clock) : Timing :=
  match clock.read with
  | none => ⟨none, [], 0, 0⟩
  | some (now, _) => {
      time := some now
      reports := (schedule.openingActs now).filterMap Act.report?
      ticks := (schedule.openingActs now).countP Act.isTick
      looks := if (schedule.opened now).nextRefresh ≤ now then 1 else 0 }

namespace Session

open Host (Act)

def timing (session : Session) : Timing where
  time := session.clock.read.map Prod.fst
  reports := session.turnActs.filterMap Act.report?
  ticks := session.turnActs.countP Act.isTick
  looks := session.turn.1.polls - session.polls

def refreshes (session : Session) : Nat :=
  session.turnActs.countP Act.isRefresh

/-- What the clock answers in a turn and in the wait after it. -/
def readings (session : Session) : List Float :=
  (List.range' session.clock.used (session.turn.1.clock.used - session.clock.used)).map
    session.clock.reading

theorem polls_turn (session : Session) :
    session.turn.1.polls =
      session.polls + (session.host.schedule.timing session.clock).looks := by
  unfold turn Host.Schedule.timing
  cases session.clock.read with
  | none => rfl
  | some reading =>
    have polled := Host.polled_turn session.host reading.1 (session.inputs (session.polls + 1))
    dsimp only
    generalize session.host.turn reading.1 (session.inputs (session.polls + 1)) = turn at polled
    have counted : (if turn.polled then session.polls + 1 else session.polls) =
        session.polls + if (session.host.schedule.opened reading.1).nextRefresh ≤ reading.1
          then 1 else 0 := by
      rw [polled]
      by_cases due : (session.host.schedule.opened reading.1).nextRefresh ≤ reading.1
      · simp only [due, decide_true, if_true]
      · simp only [due, decide_false, Bool.false_eq_true, if_false, Nat.add_zero]
    split
    · exact counted
    · split <;> exact counted

/-- Counting an instruction is nothing that goes by the clock. -/
theorem untimed_countActs (session : Session) :
    session.countActs.filterMap Act.report? = [] ∧ session.countActs.countP Act.isTick = 0 ∧
      session.countActs.countP Act.isRefresh = 0 := by
  rcases session.countActs_cases with none | ⟨schedule, one⟩
  · rw [none]
    exact ⟨rfl, rfl, rfl⟩
  · rw [one]
    exact ⟨rfl, rfl, rfl⟩

theorem timing_eq (session : Session) :
    session.timing = session.host.schedule.timing session.clock := by
  have looks : session.turn.1.polls - session.polls =
      (session.host.schedule.timing session.clock).looks := by
    rw [polls_turn]
    omega
  obtain ⟨noReport, noTick, -⟩ := session.untimed_countActs
  unfold timing turnActs
  rw [looks]
  unfold Host.Schedule.timing
  cases session.clock.read with
  | none => rfl
  | some reading =>
    dsimp only [Option.map_some]
    rw [List.filterMap_append, List.countP_append, noReport, noTick, List.append_nil,
      Host.reports_turnActs, Host.ticks_turnActs]
    rfl

theorem refreshes_of_goesOn {session : Session} (goesOn : session.turn.2 = none) :
    session.refreshes = session.timing.looks := by
  obtain ⟨now, later, read, goesOnInTurn, -, -⟩ := turn_of_goesOn goesOn
  unfold refreshes turnActs
  rw [timing_eq, Host.Schedule.timing, read]
  dsimp only
  rw [List.countP_append, session.untimed_countActs.2.2, Nat.add_zero]
  exact Host.refreshes_turnActs goesOnInTurn

/-! ### Two sessions on one clock -/

/-- Two sessions at one point of one clock whose duties are due at the same times. -/
structure InStep (here there : Session) : Prop where
  clock : here.clock = there.clock
  schedule : here.host.schedule = there.host.schedule

namespace InStep

variable {here there : Session}

theorem timing (inStep : here.InStep there) : here.timing = there.timing := by
  rw [timing_eq, timing_eq, inStep.clock, inStep.schedule]

theorem turn (inStep : here.InStep there) (hereGoesOn : here.turn.2 = none)
    (thereGoesOn : there.turn.2 = none) : here.turn.1.InStep there.turn.1 := by
  obtain ⟨now, later, read, goesOn, host, waited⟩ := turn_of_goesOn hereGoesOn
  obtain ⟨thereNow, thereLater, thereRead, thereGoesOnInTurn, thereHost, thereWaited⟩ :=
    turn_of_goesOn thereGoesOn
  rw [← inStep.clock, read] at thereRead
  obtain ⟨rfl, rfl⟩ := Prod.mk.inj (Option.some.inj thereRead)
  have sameSchedule : here.turn.1.host.schedule = there.turn.1.host.schedule := by
    rw [host, thereHost, Host.schedule_countInstruction, Host.schedule_countInstruction,
      Host.schedule_turn goesOn, Host.schedule_turn thereGoesOnInTurn, inStep.schedule]
  have sameNext : here.turn.1.host.nextTurn now = there.turn.1.host.nextTurn now :=
    congrArg (fun (schedule : Host.Schedule) =>
      schedule.instructionInterval.map (now + ·)) sameSchedule
  rw [sameNext, thereWaited] at waited
  exact ⟨(Option.some.inj waited).symm, sameSchedule⟩

theorem readings (inStep : here.InStep there) (hereGoesOn : here.turn.2 = none)
    (thereGoesOn : there.turn.2 = none) : here.readings = there.readings := by
  have after := inStep.turn hereGoesOn thereGoesOn
  rw [Session.readings, Session.readings, after.clock, inStep.clock]

end InStep

/-- The turns of two runs that keep time with each other: each turn does the same by the clock up
to its step, and to its end as well if it ends neither run. -/
inductive InTime : List Session → List Session → Prop where
  | over : InTime [] []
  | last {here there : Session} {hereLater thereLater : List Session}
    (sameTiming : here.timing = there.timing)
    (ends : here.turn.2 ≠ none ∨ there.turn.2 ≠ none) :
    InTime (here :: hereLater) (there :: thereLater)
  | turn {here there : Session} {hereLater thereLater : List Session}
    (sameTiming : here.timing = there.timing)
    (hereGoesOn : here.turn.2 = none) (thereGoesOn : there.turn.2 = none)
    (sameRefreshes : here.refreshes = there.refreshes)
    (sameReadings : here.readings = there.readings)
    (later : InTime hereLater thereLater) :
    InTime (here :: hereLater) (there :: thereLater)

theorem inTime_turnsWithin {here there : Session} (inStep : here.InStep there)
    (limit : Option Int) (left made : Nat) :
    InTime (turnsWithin limit left made here) (turnsWithin limit left made there) := by
  -- on the readings left, with the schedules in step as what each turn keeps
  induction left generalizing made here there with
  | zero => exact .over
  | succ left inductionHypothesis =>
    unfold turnsWithin
    split
    · exact .over
    · have sameTiming := inStep.timing
      cases hereTurn : here.turn.2 with
      | some ending => exact .last sameTiming (Or.inl (by simp [hereTurn]))
      | none =>
        cases thereTurn : there.turn.2 with
        | some ending => exact .last sameTiming (Or.inr (by simp [thereTurn]))
        | none =>
          have sameRefreshes : here.refreshes = there.refreshes := by
            rw [refreshes_of_goesOn hereTurn, refreshes_of_goesOn thereTurn, sameTiming]
          have sameReadings := inStep.readings hereTurn thereTurn
          have hereNext : here.turn = (here.turn.1, none) := Prod.ext rfl hereTurn
          have thereNext : there.turn = (there.turn.1, none) := Prod.ext rfl thereTurn
          refine .turn sameTiming hereTurn thereTurn sameRefreshes sameReadings ?_
          rw [hereNext, thereNext]
          exact inductionHypothesis (inStep.turn hereTurn thereTurn) (made + 1)

/-- Two runs with one clock, one pace and the same counts keep time with each other, whatever
the processors are and whatever the input devices bring. -/
theorem timing_independent_of_processor {here there : Session}
    (sameClock : here.clock = there.clock)
    (sameInterval : here.host.instructionInterval = there.host.instructionInterval)
    (sameRefresh : here.host.nextRefresh = there.host.nextRefresh)
    (sameReport : here.host.nextReport = there.host.nextReport)
    (sameFrames : here.host.frames = there.host.frames)
    (sameInstructions : here.host.instructions = there.host.instructions)
    (limit : Option Int) :
    (here.run limit).1.host = here.host.actAll (here.runActs limit) ∧
      (there.run limit).1.host = there.host.actAll (there.runActs limit) ∧
      InTime (here.turns limit) (there.turns limit) := by
  refine ⟨host_run here limit, host_run there limit, ?_⟩
  unfold turns begun
  rw [sameClock]
  cases there.clock.read with
  | none => exact .over
  | some reading =>
    dsimp only [Option.map_some]
    apply inTime_turnsWithin
    refine ⟨rfl, ?_⟩
    simp only [Host.schedule, sameInterval, sameRefresh, sameReport, sameFrames, sameInstructions]

/-- A program that waits for a key, on which one is pressed, and a program that halts at its second
step, on a clock with thirty-two readings in a second. -/
theorem timing_independent_of_halt :
    let keyMap : KeyMap := ⟨Vector.ofFn fun key => Int.ofNat key.val⟩
    let fresh := Processor.start false false ⟨fun _ => 0, 0⟩
    let waiting := fresh.performAll [.load [0xF0, 0x0A, 0x12, 0x02]]
    let halting := fresh.performAll [.load [0x60, 0x01, 0xFF, 0xFF]]
    let clock : Clock := ⟨fun readings => Float.ofNat readings / 32.0, 0, 4⟩
    let pressing : Poll := ⟨[⟨5, true⟩], false⟩
    let here : Session :=
      ⟨⟨waiting, keyMap, none, false, none, 0.0, 9.0, 0, 0, []⟩, clock, 0, fun _ => pressing⟩
    let there : Session :=
      ⟨⟨halting, keyMap, none, false, none, 0.0, 9.0, 0, 0, []⟩, clock, 0, fun _ => .nothing⟩
    here.clock = there.clock ∧ here.host.schedule = there.host.schedule ∧
      (here.turns none).map (·.timing.ticks) = [1, 2, 2] ∧
      (there.turns none).map (·.timing.ticks) = [1, 2] ∧
      (here.turns none).map (·.timing.looks) = [1, 1, 1] ∧
      InTime (here.turns none) (there.turns none) := by
  intro keyMap fresh waiting halting clock pressing here there
  have evaluated : (here.turns none).map (·.timing.ticks) = [1, 2, 2] ∧
      (there.turns none).map (·.timing.ticks) = [1, 2] ∧
      (here.turns none).map (·.timing.looks) = [1, 1, 1] := by
    decide +kernel
  obtain ⟨hereTicks, thereTicks, hereLooks⟩ := evaluated
  have sameClock : here.clock = there.clock := rfl
  have sameSchedule : here.host.schedule = there.host.schedule := by
    unfold Host.schedule
    rfl
  obtain ⟨-, -, inTime⟩ := timing_independent_of_processor sameClock rfl rfl rfl rfl rfl none
  exact ⟨sameClock, sameSchedule, hereTicks, thereTicks, hereLooks, inTime⟩

end Session

end Chip8
