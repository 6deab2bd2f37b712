import Chip8.Proofs.Host.Buzzer
import Chip8.Proofs.Processor.KeyWait
import Chip8.Proofs.Processor.Lockstep

/-!
Contract: what a run of a host does to its processor are steps, ticks and key events.

Owns:
- `Processor.SameButMark`, sameness up to the mark of the screen, kept by every event;
- `Host.Act.event?`, what an act of a run does to the processor;
- `Host.Follows`, a host whose processor is a reference up to the mark, kept act by act;
- the events of a turn, ticks before key events before the step.

Does not own: how turns and runs end.
-/

namespace Chip8

/-- Screens with the same pixels, one of which may be marked as drawn on and the other not. -/
def Likeness.unmarked : Likeness where
  timers := Eq
  dirty _ _ := True
  keypad := Eq
  random := Eq
  dirty_drawn := trivial
  random_draw := RandomSource.draw_congr

theorem Likeness.unmarked_admits (instruction : Instruction) : unmarked.Admits instruction where
  timers _ := rfl
  keys := by
    rintro - left right same
    cases (same : left = right)
    exact ⟨rfl, rfl⟩

/-! ### Sameness up to the mark -/

namespace Processor

abbrev SameButMark (left right : Processor) : Prop :=
  Lockstep Likeness.unmarked left right

def marked (processor : Processor) (dirty : Bool) : Processor :=
  processor.withMachine { processor.machine with
    display := { processor.machine.display with dirty := dirty } }

namespace SameButMark

variable {left right : Processor}

theorem refl (processor : Processor) : SameButMark processor processor :=
  ⟨⟨⟨rfl, rfl, rfl, rfl, rfl, rfl, rfl, trivial, rfl⟩, rfl, rfl, rfl⟩, rfl, rfl, rfl⟩

theorem mark (same : SameButMark left right) (dirty : Bool) :
    SameButMark left (right.marked dirty) :=
  { same with
    alike := { same.alike with
      machine := { same.alike.machine with
        dirty := trivial } } }

theorem machine_eq (same : SameButMark left right) :
    { left.machine with
      display := ⟨left.machine.display.pixels, right.machine.display.dirty⟩ } = right.machine := by
  have machines := same.alike.machine
  generalize right.machine = machine at machines
  obtain ⟨ram, registers, index, pc, stack, timers, ⟨pixels, dirty⟩, keypad⟩ := machine
  have samePixels : left.machine.display.pixels = pixels := machines.pixels
  rw [Machine.mk.injEq, samePixels]
  exact ⟨machines.ram, machines.registers, machines.index, machines.pc, machines.stack,
    machines.timers, rfl, machines.keypad⟩

theorem marked_eq (same : SameButMark left right) :
    left.marked right.machine.display.dirty = right := by
  unfold marked
  rw [same.machine_eq]
  exact same.withMachine_eq rfl

theorem step (same : SameButMark left right) (wellFormed : left.machine.WellFormed) :
    SameButMark left.step.processor right.step.processor ∧
      left.step.fault = right.step.fault :=
  Lockstep.step same wellFormed ⟨fun _ => Likeness.unmarked_admits _, fun _ => rfl⟩

theorem tick (same : SameButMark left right) : SameButMark left.tick right.tick :=
  { same with
    alike := { same.alike with
      machine := same.alike.machine.setTimers
        (congrArg Timers.tick same.alike.machine.timers) } }

theorem withKeypad (same : SameButMark left right) (keypad : Keypad) :
    SameButMark (left.withKeypad keypad) (right.withKeypad keypad) :=
  { same with
    alike := { same.alike with
      machine := same.alike.machine.setKeypad rfl } }

end SameButMark

end Processor

/-! ### Acts as events -/

def KeyMap.event? (keyMap : KeyMap) (event : KeyEvent) : Option Event :=
  (keyMap.keyOf event.hostKey).map fun key => .setKey key event.pressed

namespace Host

open Processor (SameButMark perform_setKey_of_key step_transition)

/-- What an act does to the processor. Showing a frame takes a mark away and does nothing else. -/
def Act.event? (keyMap : KeyMap) : Act → Option Event
  | .tick => some .tick
  | .key event => keyMap.event? event
  | .operate .step => some .step
  | _ => none

/-- The acts that a run is made of. -/
def Act.OfRun : Act → Prop
  | .operate operation => operation = .step
  | .restore _ => False
  | _ => True

/-- The processor is the reference up to the mark of the screen. -/
structure Follows (host : Host) (reference : Processor) : Prop where
  same : SameButMark reference host.processor
  sound : reference.Sound

theorem keyMap_switchBuzzer (host : Host) (sounding : Bool) :
    (host.switchBuzzer sounding).keyMap = host.keyMap := by
  unfold switchBuzzer
  split <;> rfl

theorem keyMap_deliver (host : Host) (event : KeyEvent) :
    (host.deliver event).keyMap = host.keyMap := by
  rcases deliver_cases host event with same | ⟨keypad, mapped, same⟩
  · rw [same]
  · rw [same]
    rfl

theorem keyMap_refresh (host : Host) : host.refresh.keyMap = host.keyMap := by
  unfold refresh
  dsimp only
  split <;> rfl

theorem keyMap_act (host : Host) (act : Act) : (host.act act).keyMap = host.keyMap := by
  cases act with
  | tick | silence => exact keyMap_switchBuzzer _ _
  | key event => exact keyMap_deliver host event
  | refresh => exact keyMap_refresh host
  | report | trace | operate | restore | reschedule => rfl

theorem keyMap_actAll (host : Host) (acts : List Act) :
    (host.actAll acts).keyMap = host.keyMap := by
  induction acts generalizing host with
  | nil => rfl
  | cons first later inductionHypothesis =>
    rw [actAll_cons, inductionHypothesis, keyMap_act]

theorem status_refresh (host : Host) :
    host.refresh.processor.status = host.processor.status := by
  unfold refresh
  dsimp only
  split <;> rfl

namespace Follows

variable {host : Host} {reference : Processor}

theorem refresh (follows : host.Follows reference) : host.refresh.Follows reference := by
  refine ⟨?_, follows.sound⟩
  unfold Host.refresh
  dsimp only
  split
  · exact follows.same.mark false
  · exact follows.same

theorem tick (follows : host.Follows reference) : host.tick.Follows reference.tick := by
  refine ⟨?_, follows.sound.perform .tick⟩
  unfold Host.tick
  rw [processor_switchBuzzer]
  exact follows.same.tick

theorem complete (follows : host.Follows reference) :
    host.processor.machine.keypad.Complete := by
  have sameKeypad : reference.machine.keypad = host.processor.machine.keypad :=
    follows.same.alike.machine.keypad
  rw [← sameKeypad]
  exact follows.sound.machine.keypad

/-- No key event is refused. A key that is mapped to none of the keypad changes nothing. -/
theorem keyEvent (follows : host.Follows reference) (event : KeyEvent) :
    ∃ next mapped, host.keyEvent event = .ok (next, mapped) ∧
      next.Follows (reference.after (host.keyMap.event? event).toList) := by
  have complete := follows.complete
  unfold Host.keyEvent KeyMap.press KeyMap.event?
  dsimp only
  cases host.keyMap.keyOf event.hostKey with
  | none => exact ⟨host, false, rfl, follows⟩
  | some key =>
    have sameKeypad : reference.machine.keypad = host.processor.machine.keypad :=
      follows.same.alike.machine.keypad
    have accepted := perform_setKey_of_key follows.sound.machine.keypad key event.pressed
    refine ⟨host.withMachine { host.processor.machine with
      keypad := host.processor.machine.keypad.switch key event.pressed }, true, ?_, ?_⟩
    · dsimp only
      rw [Keypad.Complete.setKey complete]
      rfl
    · refine ⟨?_, follows.sound.perform (.setKey key.val event.pressed)⟩
      change SameButMark (reference.perform (.setKey key.val event.pressed)).1 _
      rw [accepted, sameKeypad]
      exact follows.same.withKeypad _

theorem deliver (follows : host.Follows reference) (event : KeyEvent) :
    (host.deliver event).Follows (reference.after (host.keyMap.event? event).toList) := by
  obtain ⟨next, mapped, passed, nextFollows⟩ := follows.keyEvent event
  unfold Host.deliver
  rw [passed]
  exact ⟨nextFollows.same, nextFollows.sound⟩

/-- Every act of a run does to the processor what its event does to the reference. -/
theorem act (follows : host.Follows reference) {act : Act} (ofRun : act.OfRun) :
    (host.act act).Follows (reference.after (act.event? host.keyMap).toList) := by
  cases act with
  | tick => exact follows.tick
  | key event => exact follows.deliver event
  | refresh => exact follows.refresh
  | silence =>
    refine ⟨?_, follows.sound⟩
    change SameButMark reference (host.switchBuzzer false).processor
    rw [processor_switchBuzzer]
    exact follows.same
  | operate operation =>
    cases (ofRun : operation = .step)
    exact ⟨(follows.same.step follows.sound.machine).1, follows.sound.perform .step⟩
  | restore => contradiction
  | report | trace | reschedule => exact ⟨follows.same, follows.sound⟩

theorem actAll (follows : host.Follows reference) {acts : List Act}
    (ofRun : ∀ act ∈ acts, act.OfRun) :
    (host.actAll acts).Follows (reference.after (acts.filterMap (Act.event? host.keyMap))) := by
  induction acts generalizing host reference with
  | nil => exact follows
  | cons first later inductionHypothesis =>
    rw [List.forall_mem_cons] at ofRun
    have next := inductionHypothesis (follows.act ofRun.1) ofRun.2
    rw [keyMap_act, ← Processor.after_append] at next
    rw [actAll_cons, List.filterMap_cons]
    cases event : first.event? host.keyMap with
    | none =>
      rw [event] at next
      exact next
    | some event =>
      rw [event] at next
      exact next

end Follows

/-! ### The parts of a turn -/

theorem events_openingActs (schedule : Schedule) (now : Float) (keyMap : KeyMap) :
    (schedule.openingActs now).filterMap (Act.event? keyMap) =
      List.replicate (schedule.ticks now) .tick := by
  have sameTicks : (schedule.afterReport now).ticks now = schedule.ticks now := by
    unfold Schedule.afterReport
    split <;> rfl
  have noReport : (schedule.reportActs now).filterMap (Act.event? keyMap) = [] := by
    unfold Schedule.reportActs
    split <;> rfl
  have ticks : (List.replicate (schedule.ticks now) Act.tick).filterMap (Act.event? keyMap) =
      List.replicate (schedule.ticks now) .tick :=
    List.filterMap_replicate_of_some rfl
  unfold Schedule.openingActs Schedule.tickActs
  rw [List.filterMap_append, List.filterMap_append, noReport, sameTicks, ticks]
  exact List.append_nil _

theorem ofRun_of_mem_openingActs {schedule : Schedule} {now : Float} {act : Act}
    (member : act ∈ schedule.openingActs now) : act.OfRun := by
  unfold Schedule.openingActs Schedule.reportActs Schedule.tickActs at member
  split at member
  · simp only [List.mem_append, List.mem_cons, List.mem_replicate, List.not_mem_nil,
      or_false] at member
    rcases member with (rfl | rfl) | ⟨-, rfl⟩ | rfl <;> trivial
  · simp only [List.nil_append, List.mem_append, List.mem_cons, List.mem_replicate,
      List.not_mem_nil, or_false] at member
    rcases member with ⟨-, rfl⟩ | rfl <;> trivial

namespace Follows

variable {host : Host} {reference : Processor}

theorem opened (follows : host.Follows reference) (now : Float) :
    (host.opened now).Follows
      (reference.after (List.replicate (host.schedule.ticks now) .tick)) := by
  rw [opened_eq, ← events_openingActs host.schedule now host.keyMap]
  exact follows.actAll fun _ => ofRun_of_mem_openingActs

/-- All key events of a poll get through. -/
theorem keyEvents (follows : host.Follows reference) (events : List KeyEvent) :
    (Host.keyEvents events host).2 = none ∧ keyActs events host = events.map .key := by
  induction events generalizing host reference with
  | nil => exact ⟨rfl, rfl⟩
  | cons event later inductionHypothesis =>
    obtain ⟨next, mapped, passed, nextFollows⟩ := follows.keyEvent event
    have delivered : host.deliver event = next.send (.key event.hostKey mapped) := by
      unfold Host.deliver
      rw [passed]
    have deliveredFollows := follows.deliver event
    rw [delivered] at deliveredFollows
    obtain ⟨noFault, acts⟩ := inductionHypothesis deliveredFollows
    unfold Host.keyEvents keyActs
    rw [passed]
    dsimp only
    rw [delivered, acts]
    exact ⟨noFault, rfl⟩

theorem pollActs (follows : host.Follows reference) (now : Float) (poll : Poll) :
    host.pollActs now poll = poll.events.map .key ++
      if poll.quit then [] else [.refresh, .reschedule (host.schedule.afterRefresh now)] := by
  obtain ⟨noFault, acts⟩ := follows.keyEvents poll.events
  unfold Host.pollActs
  rw [noFault, acts]

theorem events_pollActs (follows : host.Follows reference) (now : Float) (poll : Poll) :
    (host.pollActs now poll).filterMap (Act.event? host.keyMap) =
      poll.events.filterMap host.keyMap.event? := by
  have shows : (if poll.quit then [] else
      [Act.refresh, .reschedule (host.schedule.afterRefresh now)]).filterMap
        (Act.event? host.keyMap) = [] := by
    split <;> rfl
  rw [follows.pollActs, List.filterMap_append, shows, List.append_nil, List.filterMap_map]
  rfl

theorem pollAndRefresh_ending (follows : host.Follows reference) (now : Float) (poll : Poll) :
    (host.pollAndRefresh now poll).2 = if poll.quit then some .quit else none := by
  obtain ⟨noFault, -⟩ := follows.keyEvents poll.events
  unfold Host.pollAndRefresh
  generalize Host.keyEvents poll.events host = result at noFault
  obtain ⟨pressed, fault⟩ := result
  cases noFault
  cases poll.quit <;> rfl

theorem pollAndRefresh (follows : host.Follows reference) (now : Float) (poll : Poll) :
    (host.pollAndRefresh now poll).1.Follows
      (reference.after (poll.events.filterMap host.keyMap.event?)) := by
  rw [pollAndRefresh_eq, ← follows.events_pollActs now poll]
  apply follows.actAll
  rw [follows.pollActs]
  intro act member
  rcases List.mem_append.mp member with pressed | shown
  · obtain ⟨event, -, rfl⟩ := List.mem_map.mp pressed
    trivial
  · cases quit : poll.quit with
    | true => simp [quit] at shown
    | false =>
      simp only [quit, Bool.false_eq_true, if_false, List.mem_cons, List.not_mem_nil,
        or_false] at shown
      rcases shown with rfl | rfl <;> trivial

theorem step_not_refused (follows : host.Follows reference) : host.processor.step.fault = none := by
  obtain ⟨-, sameFault⟩ := follows.same.step follows.sound.machine
  rw [← sameFault]
  exact (step_transition follows.sound.machine).2

theorem stepActs (follows : host.Follows reference) :
    host.stepActs = .operate .step :: host.processor.step.trace.toList.map .trace ++
      if host.processor.step.processor.status.isHalted then [.refresh] else [] := by
  unfold Host.stepActs
  dsimp only
  rw [follows.step_not_refused]

theorem events_stepActs (follows : host.Follows reference) (keyMap : KeyMap) :
    host.stepActs.filterMap (Act.event? keyMap) = [.step] := by
  rw [follows.stepActs]
  cases host.processor.step.trace with
  | none => split <;> rfl
  | some line => split <;> rfl

theorem stepProcessor (follows : host.Follows reference) :
    host.stepProcessor.1.Follows (reference.after [.step]) := by
  rw [stepProcessor_eq, ← follows.events_stepActs host.keyMap]
  apply follows.actAll
  rw [follows.stepActs]
  intro act member
  rcases List.mem_append.mp member with stepped | last
  · rcases List.mem_cons.mp stepped with rfl | traced
    · rfl
    · obtain ⟨line, -, rfl⟩ := List.mem_map.mp traced
      trivial
  · split at last
    · rw [List.mem_singleton.mp last]
      trivial
    · contradiction

/-- A step ends a run exactly if it leaves the processor halted. -/
theorem stepProcessor_ending (follows : host.Follows reference) :
    host.stepProcessor.2 =
      if host.stepProcessor.1.processor.status.isHalted then
        some (.fault (.emulationHalted host.stepProcessor.1.processor.fullDump))
      else none := by
  have noFault := follows.step_not_refused
  unfold Host.stepProcessor
  generalize host.processor.step = report at noFault
  obtain ⟨next, trace, fault⟩ := report
  cases (noFault : fault = none)
  by_cases halted : next.status.isHalted = true
  · cases trace <;> simp [halted, status_refresh, send]
  · cases trace <;> simp [halted, send]

end Follows

/-! ### Whole turns -/

/-- The key events of a look at the input devices, if a turn takes it. -/
def keysDue (host : Host) (now : Float) (poll : Poll) : List KeyEvent :=
  if host.nextRefresh ≤ now then poll.events else []

/-- A turn looks at the input devices and learns that the user quits. -/
def quitDue (host : Host) (now : Float) (poll : Poll) : Bool :=
  decide (host.nextRefresh ≤ now) && poll.quit

/-- What the part of a turn after its beginning comes to. -/
structure Closed (opened : Host) (reference : Processor) (now : Float) (poll : Poll) (turn : Turn)
    (acts : List Act) : Prop where
  events : acts.filterMap (Act.event? opened.keyMap) =
    (opened.keysDue now poll).filterMap opened.keyMap.event? ++
      if opened.quitDue now poll then [] else [.step]
  follows : turn.host.Follows (reference.after (acts.filterMap (Act.event? opened.keyMap)))
  ending : turn.ending =
    if opened.quitDue now poll then some .quit
    else if turn.host.processor.status.isHalted then
      some (.fault (.emulationHalted turn.host.processor.fullDump))
    else none
  onlyKeys : opened.quitDue now poll = true → acts = (opened.keysDue now poll).map .key

theorem Closes.closed {opened : Host} {now : Float} {poll : Poll} {turn : Turn} {acts : List Act}
    (closes : opened.Closes now poll turn acts) {reference : Processor}
    (follows : opened.Follows reference) : opened.Closed reference now poll turn acts := by
  have pollEvents := follows.events_pollActs now poll
  have pressed := follows.pollAndRefresh now poll
  have answer := follows.pollAndRefresh_ending now poll
  cases closes with
  | @endedByPoll after ending due polled =>
    rw [polled] at pressed answer
    have quit : poll.quit = true := by
      by_contra goesOn
      rw [if_neg goesOn] at answer
      contradiction
    have keys : opened.keysDue now poll = poll.events := if_pos due
    have quits : opened.quitDue now poll = true := by simp [quitDue, due, quit]
    rw [if_pos quit] at answer
    refine ⟨?_, ?_, ?_, ?_⟩
    · rw [pollEvents, keys, if_pos quits, List.append_nil]
    · rw [pollEvents]
      exact pressed
    · rw [if_pos quits]
      exact answer
    · intro _
      rw [follows.pollActs, if_pos quit, keys, List.append_nil]
  | @refreshed after due polled =>
    rw [polled] at pressed answer
    have goesOn : ¬poll.quit = true := by
      intro quit
      rw [if_pos quit] at answer
      contradiction
    have keys : opened.keysDue now poll = poll.events := if_pos due
    have stays : ¬opened.quitDue now poll = true := by simp [quitDue, goesOn]
    have stepEvents := pressed.events_stepActs opened.keyMap
    refine ⟨?_, ?_, ?_, fun quits => absurd quits stays⟩
    · rw [List.filterMap_append, pollEvents, stepEvents, keys, if_neg stays]
    · rw [List.filterMap_append, pollEvents, stepEvents, Processor.after_append]
      exact pressed.stepProcessor
    · rw [if_neg stays]
      exact pressed.stepProcessor_ending
  | stepped notDue =>
    have keys : opened.keysDue now poll = [] := if_neg notDue
    have stays : ¬opened.quitDue now poll = true := by simp [quitDue, notDue]
    have stepEvents := follows.events_stepActs opened.keyMap
    refine ⟨?_, ?_, ?_, fun quits => absurd quits stays⟩
    · rw [stepEvents, keys, if_neg stays]
      rfl
    · rw [stepEvents]
      exact follows.stepProcessor
    · rw [if_neg stays]
      exact follows.stepProcessor_ending

/-- What a turn does to the processor, in order. -/
def turnEvents (host : Host) (now : Float) (poll : Poll) : List Event :=
  (host.turnActs now poll).filterMap (Act.event? host.keyMap)

/-- What a turn of a host comes to. The screen is not looked at again once the user quits. -/
structure Turned (host : Host) (reference : Processor) (now : Float) (poll : Poll) : Prop where
  events : host.turnEvents now poll =
    List.replicate (host.schedule.ticks now) .tick ++
      (host.keysDue now poll).filterMap host.keyMap.event? ++
        if host.quitDue now poll then [] else [.step]
  follows : (host.turn now poll).host.Follows (reference.after (host.turnEvents now poll))
  ending : (host.turn now poll).ending =
    if host.quitDue now poll then some .quit
    else if (host.turn now poll).host.processor.status.isHalted then
      some (.fault (.emulationHalted (host.turn now poll).host.processor.fullDump))
    else none
  onlyKeys : host.quitDue now poll = true → host.turnActs now poll =
    host.schedule.openingActs now ++ (host.keysDue now poll).map .key

theorem nextRefresh_opened (host : Host) (now : Float) :
    (host.opened now).nextRefresh = host.nextRefresh := by
  have sameSchedule := congrArg Schedule.nextRefresh (schedule_opened host now)
  unfold Schedule.opened Schedule.afterTicks Schedule.afterReport at sameSchedule
  split at sameSchedule
  · exact sameSchedule
  · exact sameSchedule

theorem Follows.turned {host : Host} {reference : Processor} (follows : host.Follows reference)
    (now : Float) (poll : Poll) : host.Turned reference now poll := by
  have sameKeys : (host.opened now).keysDue now poll = host.keysDue now poll := by
    unfold keysDue
    rw [nextRefresh_opened]
  have sameQuit : (host.opened now).quitDue now poll = host.quitDue now poll := by
    unfold quitDue
    rw [nextRefresh_opened]
  have sameMap : (host.opened now).keyMap = host.keyMap := by
    rw [opened_eq, keyMap_actAll]
  have parts : host.turnEvents now poll = List.replicate (host.schedule.ticks now) .tick ++
      ((host.opened now).closingActs now poll).filterMap (Act.event? host.keyMap) := by
    unfold turnEvents turnActs
    rw [List.filterMap_append, events_openingActs]
  obtain ⟨events, after, ending, onlyKeys⟩ :=
    (closes_turn host now poll).closed (follows.opened now)
  rw [sameMap, sameKeys, sameQuit] at events
  rw [sameMap] at after
  rw [sameQuit] at ending
  rw [sameQuit, sameKeys] at onlyKeys
  refine ⟨?_, ?_, ending, ?_⟩
  · rw [parts, events, List.append_assoc]
  · rw [parts, Processor.after_append]
    exact after
  · intro quits
    unfold turnActs
    rw [onlyKeys quits]

end Host

end Chip8
