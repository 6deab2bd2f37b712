import Chip8.Proofs.Host.Course
import Chip8.Proofs.Processor.Drawing
import Chip8.Proofs.Processor.Refusal

/-!
Contract: the frame that a host handed over last is never stale.

Owns:
- the frames that a host handed over, and that only a refresh adds one;
- `Host.Draws` and `Host.DrawsAlong`, the acts that draw on the screen;
- `Host.UpToDate`, the invariant that a screen without a mark is the one shown last;
- that a run which ends with a halt has shown the final screen.

Does not own: how a frame looks in a window.
-/

namespace Chip8

open Display (Redrawn)

def Signal.screen? : Signal → Option Grid
  | .frame screen => some screen
  | _ => none

namespace Host

/-- The frames handed over so far, newest first. -/
def framesSent (host : Host) : List Grid :=
  host.sent.filterMap Signal.screen?

def display (host : Host) : Display Resolution.standard :=
  host.processor.machine.display

/-- The frame handed over last is the screen as it is. -/
def ShowsScreen (host : Host) : Prop :=
  host.framesSent.head? = some host.display.grid

/-- An act that clears the screen, switches a pixel over or puts the pixels of a snapshot back. -/
def Draws (host : Host) : Act → Prop
  | .operate operation => host.processor.DrawsBy operation
  | .restore saved => host.processor.machine.ReachesScreen saved.snapshot
  | _ => False

/-- One of these acts draws when its turn comes. -/
def DrawsAlong (host : Host) : List Act → Prop
  | [] => False
  | act :: later => host.Draws act ∨ (host.act act).DrawsAlong later

/-! ### Acts other than a refresh -/

theorem framesSent_switchBuzzer (host : Host) (sounding : Bool) :
    (host.switchBuzzer sounding).framesSent = host.framesSent := by
  unfold switchBuzzer
  split <;> rfl

theorem display_switchBuzzer (host : Host) (sounding : Bool) :
    (host.switchBuzzer sounding).display = host.display := by
  unfold switchBuzzer
  split <;> rfl

theorem deliver_keeps_screen (host : Host) (event : KeyEvent) :
    (host.deliver event).framesSent = host.framesSent ∧
      (host.deliver event).display = host.display := by
  rcases deliver_cases host event with same | ⟨keypad, mapped, same⟩
  · rw [same]
    exact ⟨rfl, rfl⟩
  · rw [same]
    exact ⟨rfl, rfl⟩

theorem framesSent_act (host : Host) {act : Act} (notRefresh : act ≠ .refresh) :
    (host.act act).framesSent = host.framesSent := by
  cases act with
  | tick | silence => exact framesSent_switchBuzzer _ _
  | key event => exact (deliver_keeps_screen host event).1
  | refresh => exact absurd rfl notRefresh
  | report | trace | operate | restore | reschedule => rfl

/-- Whatever draws leaves its mark, and only a refresh takes it away. -/
theorem redrawn_act (host : Host) {act : Act} (notRefresh : act ≠ .refresh) :
    Redrawn (host.Draws act) host.display (host.act act).display := by
  cases act with
  | tick | silence => exact .of_not_drawn not_false (display_switchBuzzer _ _)
  | key event => exact .of_not_drawn not_false (deliver_keeps_screen host event).2
  | refresh => exact absurd rfl notRefresh
  | operate operation => exact Processor.redrawn_perform host.processor operation
  | restore saved => exact Processor.redrawn_restore host.processor saved
  | report | trace | reschedule => exact .of_not_drawn not_false rfl

theorem dirty_act_iff (host : Host) {act : Act} (notRefresh : act ≠ .refresh) :
    (host.act act).display.dirty = true ↔ host.display.dirty = true ∨ host.Draws act := by
  have redrawn := redrawn_act host notRefresh
  by_cases draws : host.Draws act
  · simp only [redrawn.marked draws, draws, or_true]
  · rw [redrawn.kept draws]
    simp only [draws, or_false]

theorem dirty_actAll_iff (host : Host) {acts : List Act}
    (noRefresh : ∀ act ∈ acts, act ≠ .refresh) :
    (host.actAll acts).display.dirty = true ↔
      host.display.dirty = true ∨ host.DrawsAlong acts := by
  induction acts generalizing host with
  | nil => simp only [actAll_nil, DrawsAlong, or_false]
  | cons first later inductionHypothesis =>
    rw [List.forall_mem_cons] at noRefresh
    rw [actAll_cons, inductionHypothesis _ noRefresh.2, dirty_act_iff host noRefresh.1,
      DrawsAlong, or_assoc]

/-! ### A refresh -/

theorem framesSent_refresh_of_dirty {host : Host} (dirty : host.display.dirty = true) :
    host.refresh.framesSent = host.display.grid :: host.framesSent := by
  have marked : host.processor.machine.display.dirty = true := dirty
  simp only [refresh, marked, if_true]
  rfl

theorem framesSent_refresh_of_clean {host : Host} (clean : host.display.dirty = false) :
    host.refresh.framesSent = host.framesSent := by
  have unmarked : host.processor.machine.display.dirty = false := clean
  simp only [refresh, unmarked, Bool.false_eq_true, if_false]
  rfl

theorem display_refresh (host : Host) :
    host.refresh.display = { host.display with dirty := false } := by
  cases dirty : host.processor.machine.display.dirty with
  | true =>
    simp only [refresh, dirty, if_true]
    rfl
  | false =>
    simp only [refresh, dirty, Bool.false_eq_true, if_false]
    change host.display = _
    rw [← dirty]
    rfl

theorem refresh_hands_over_iff (host : Host) :
    host.refresh.framesSent ≠ host.framesSent ↔ host.display.dirty = true := by
  cases dirty : host.display.dirty with
  | true => simp [framesSent_refresh_of_dirty dirty]
  | false => simp [framesSent_refresh_of_clean dirty]

/-! ### The invariant -/

/-- A screen without a mark is the one shown last. -/
def UpToDate (host : Host) : Prop :=
  host.display.dirty = false → host.ShowsScreen

theorem showsScreen_refresh {host : Host} (upToDate : host.UpToDate) :
    host.refresh.ShowsScreen := by
  have sameGrid : host.refresh.display.grid = host.display.grid := by
    rw [display_refresh]
    rfl
  rw [ShowsScreen, sameGrid]
  cases dirty : host.display.dirty with
  | true => rw [framesSent_refresh_of_dirty dirty, List.head?_cons]
  | false =>
    rw [framesSent_refresh_of_clean dirty]
    exact upToDate dirty

theorem upToDate_act {host : Host} (upToDate : host.UpToDate) (act : Act) :
    (host.act act).UpToDate := by
  intro clean
  by_cases isRefresh : act = .refresh
  · subst isRefresh
    exact showsScreen_refresh upToDate
  · have redrawn := redrawn_act host isRefresh
    have notDrawn : ¬host.Draws act := by
      intro draws
      rw [redrawn.marked draws] at clean
      contradiction
    have same := redrawn.kept notDrawn
    rw [same] at clean
    rw [ShowsScreen, framesSent_act host isRefresh, same]
    exact upToDate clean

theorem upToDate_actAll {host : Host} (upToDate : host.UpToDate) (acts : List Act) :
    (host.actAll acts).UpToDate := by
  induction acts generalizing host with
  | nil => exact upToDate
  | cons first later inductionHypothesis =>
    exact inductionHypothesis (upToDate_act upToDate first)

/-! ### The final screen -/

theorem ofMachine_of_keyEvent {host : Host} {event : KeyEvent} {fault : Fault}
    (refused : host.keyEvent event = .error fault) : fault.OfMachine := by
  unfold keyEvent at refused
  dsimp only at refused
  split at refused
  · rename_i cause pressed
    cases refused
    exact KeyMap.ofMachine_of_press pressed
  · contradiction

theorem ofMachine_of_keyEvents {events : List KeyEvent} {host after : Host} {fault : Fault}
    (refused : keyEvents events host = (after, some fault)) : fault.OfMachine := by
  induction events generalizing host with
  | nil => cases refused
  | cons event later inductionHypothesis =>
    rw [keyEvents] at refused
    cases passed : host.keyEvent event with
    | ok result =>
      rw [passed] at refused
      exact inductionHypothesis refused
    | error cause =>
      rw [passed] at refused
      cases refused
      exact ofMachine_of_keyEvent passed

theorem ofMachine_of_pollAndRefresh {host after : Host} {now : Float} {poll : Poll} {fault : Fault}
    (refused : host.pollAndRefresh now poll = (after, some (.fault fault))) :
    fault.OfMachine := by
  unfold pollAndRefresh at refused
  cases events : keyEvents poll.events host with
  | mk pressed cause =>
    rw [events] at refused
    cases cause with
    | some cause =>
      cases refused
      exact ofMachine_of_keyEvents events
    | none =>
      dsimp only at refused
      split at refused <;> cases refused

/-- A step that halts the processor refreshes the screen once more. -/
theorem showsScreen_of_stepProcessor {host : Host} (upToDate : host.UpToDate) {dump : String}
    (halted : host.stepProcessor.2 = some (.fault (.emulationHalted dump))) :
    host.stepProcessor.1.ShowsScreen := by
  unfold stepProcessor at halted ⊢
  dsimp only at halted ⊢
  -- a refused step ends the run as well, but never for a halt
  cases refused : host.processor.step.fault with
  | some fault =>
    rw [refused] at halted
    cases halted
    nomatch Processor.ofMachine_of_step refused
  | none =>
    rw [refused] at halted
    have stepped := upToDate_act upToDate (.operate .step)
    dsimp only at halted ⊢
    split at halted
    · rename_i isHalted
      rw [if_pos isHalted]
      cases host.processor.step.trace with
      | none => exact showsScreen_refresh stepped
      | some line => exact showsScreen_refresh (upToDate_act stepped (.trace line))
    · contradiction

theorem Closes.showsScreen {opened : Host} {now : Float} {poll : Poll} {turn : Turn}
    {acts : List Act} (closes : opened.Closes now poll turn acts) (upToDate : opened.UpToDate)
    {dump : String} (halted : turn.ending = some (.fault (.emulationHalted dump))) :
    turn.host.ShowsScreen := by
  cases closes with
  | endedByPoll due polled =>
    cases halted
    nomatch ofMachine_of_pollAndRefresh polled
  | refreshed due polled =>
    have afterUpToDate : (opened.pollAndRefresh now poll).1.UpToDate := by
      rw [pollAndRefresh_eq]
      exact upToDate_actAll upToDate _
    rw [polled] at afterUpToDate
    exact showsScreen_of_stepProcessor afterUpToDate halted
  | stepped notDue => exact showsScreen_of_stepProcessor upToDate halted

theorem showsScreen_of_turn {host : Host} (upToDate : host.UpToDate) {now : Float} {poll : Poll}
    {dump : String} (halted : (host.turn now poll).ending = some (.fault (.emulationHalted dump))) :
    (host.turn now poll).host.ShowsScreen := by
  have openedUpToDate : (host.opened now).UpToDate := by
    rw [opened_eq]
    exact upToDate_actAll upToDate _
  exact (closes_turn host now poll).showsScreen openedUpToDate halted

end Host

namespace Session

open Host (Act Ending)

theorem showsScreen_of_loop {limit : Option Int} {left made : Nat} {session ended : Session}
    {dump : String} (upToDate : session.host.UpToDate)
    (halted : loop limit left made session =
      (ended, .ended (.fault (.emulationHalted dump)))) :
    ended.host.ShowsScreen := by
  induction left generalizing made session with
  | zero =>
    unfold loop at halted
    split at halted <;> cases halted
  | succ left inductionHypothesis =>
    unfold loop at halted
    split at halted
    · cases halted
    · cases turned : session.turn with
      | mk next ending =>
        rw [turned] at halted
        cases ending with
        | some ending =>
          cases halted
          obtain ⟨now, poll, ending, sameHost⟩ := turn_of_ended turned
          rw [sameHost]
          exact Host.showsScreen_of_turn upToDate ending
        | none =>
          have taken : session.turn.1.host.UpToDate := by
            rw [host_turn]
            exact Host.upToDate_actAll upToDate _
          rw [turned] at taken
          exact inductionHypothesis taken halted

theorem showsScreen_of_run {session ended : Session} {limit : Option Int} {dump : String}
    (upToDate : session.host.UpToDate)
    (halted : session.run limit = (ended, .ended (.fault (.emulationHalted dump)))) :
    ended.host.ShowsScreen := by
  rw [run_eq] at halted
  cases start : session.begun with
  | none =>
    rw [start] at halted
    cases halted
  | some begun =>
    have begunUpToDate : begun.host.UpToDate := by
      rw [host_of_begun start]
      exact Host.upToDate_act upToDate _
    rw [start] at halted
    dsimp only at halted
    cases looped : loop limit begun.clock.left 0 begun with
    | mk last ending =>
    rw [looped] at halted
    cases halted
    have shown := showsScreen_of_loop begunUpToDate looped
    rw [Host.ShowsScreen, Host.framesSent_switchBuzzer, Host.display_switchBuzzer]
    exact shown

end Session

namespace Host

/-! ### The screen is never stale -/

/-- Whatever is asked of a host around a fresh processor, runs included, and at any moment of it:
a screen without a mark is the frame shown last, and so is every screen after a refresh and after
a run that a halt has ended. A refresh shows a new frame exactly if something was drawn since the
refresh before. -/
theorem screen_never_stale {flagsIndexOverflow tracing : Bool} {random : RandomSource}
    {keyMap : KeyMap} {speed : Option Int} {host : Host}
    (built : start (Processor.start flagsIndexOverflow tracing random) keyMap speed = .ok host) :
    (∀ requests, host.answerAll requests = host.actAll (host.course requests)) ∧
      ∀ acts,
        let now := host.actAll acts
        (now.display.dirty = false → now.ShowsScreen) ∧
          now.refresh.ShowsScreen ∧
          (∀ between, (∀ act ∈ between, act ≠ .refresh) →
            let later := now.refresh.actAll between
            later.refresh.framesSent ≠ later.framesSent ↔ now.refresh.DrawsAlong between) ∧
          ∀ clock polls inputs limit ended dump,
            (now.session clock polls inputs).run limit =
                (ended, .ended (.fault (.emulationHalted dump))) →
              ended.host.ShowsScreen := by
  refine ⟨answerAll_eq host, ?_⟩
  intro acts now
  have started : host.UpToDate := by
    intro clean
    rw [display, (state_of_start built).1] at clean
    cases clean
  have upToDate : now.UpToDate := upToDate_actAll started acts
  refine ⟨upToDate, showsScreen_refresh upToDate, ?_, ?_⟩
  · intro between noRefresh later
    have clean : now.refresh.display.dirty = false := by rw [display_refresh]
    rw [refresh_hands_over_iff, dirty_actAll_iff _ noRefresh, clean]
    simp only [Bool.false_eq_true, false_or]
  · intro clock polls inputs limit ended dump halted
    exact Session.showsScreen_of_run upToDate halted

/-- A run draws a digit and halts; the refresh at its end shows the digit. -/
theorem screen_never_stale_at_halt :
    let keyMap : KeyMap := ⟨Vector.ofFn fun key => Int.ofNat key.val⟩
    ∃ host, start (Processor.start false false ⟨fun _ => 0, 0⟩) keyMap (some 0) = .ok host ∧
      let shown := (host.act (.operate (.load [0xD0, 0x05, 0xFF, 0xFF]))).refresh
      let run := (shown.session ⟨fun _ => -1.0, 0, 9⟩ 0 fun _ => Poll.nothing).run none
      shown.DrawsAlong [.operate .step] ∧ shown.framesSent.length = 1 ∧
        run.2 = .ended (.fault (.emulationHalted run.1.host.processor.fullDump)) ∧
        run.1.host.framesSent.length = 2 ∧ run.1.host.ShowsScreen := by
  intro keyMap
  have built : start (Processor.start false false ⟨fun _ => 0, 0⟩) keyMap (some 0) = .ok _ := rfl
  refine ⟨_, built, ?_⟩
  intro shown run
  have here : (shown.act (.operate .step)).refresh.framesSent ≠
        (shown.act (.operate .step)).framesSent ∧
      shown.framesSent.length = 1 ∧
      run.2 = .ended (.fault (.emulationHalted run.1.host.processor.fullDump)) ∧
      run.1.host.framesSent.length = 2 := by
    decide +kernel
  obtain ⟨handsOver, oneFrame, halted, twoFrames⟩ := here
  obtain ⟨-, -, handsOverIff, -⟩ := (screen_never_stale built).2
    [.operate (.load [0xD0, 0x05, 0xFF, 0xFF])]
  obtain ⟨-, -, -, showsAtHalt⟩ := (screen_never_stale built).2
    [.operate (.load [0xD0, 0x05, 0xFF, 0xFF]), .refresh]
  refine ⟨?_, oneFrame, halted, twoFrames, ?_⟩
  · refine (handsOverIff [.operate .step] ?_).mp handsOver
    intro act member
    rw [List.mem_singleton.mp member]
    nofun
  · exact showsAtHalt _ _ _ _ _ _ (Prod.ext rfl halted)

end Host

end Chip8
