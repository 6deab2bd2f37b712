import Chip8.Media.Headless
import Chip8.Proofs.Host.Course

/-!
Contract: when the buzzer sounds, and what it is told.

Owns:
- `Host.buzzerCalls`, what a host told the buzzer, and that a buzzer obeys the last call;
- `Host.InTurns`, the invariant that the calls go on, off, on, ..., kept by every act;
- that the buzzer follows the sound timer at every tick and is silent after every run.

Does not own: what the buzzer sounds like.
-/

namespace Chip8

def Signal.sounding? : Signal → Option Bool
  | .buzzer sounding => some sounding
  | _ => none

namespace Host

/-- What the buzzer was told so far, the oldest call first. -/
def buzzerCalls (host : Host) : List Bool :=
  (host.sent.filterMap Signal.sounding?).reverse

/-- A screen and a buzzer after all that the host told them. -/
def heard (host : Host) (headless : Headless) : Headless :=
  host.sent.reverse.foldl Headless.hear headless

/-- On, off, on, ...: so many calls. -/
def alternating (calls : Nat) : List Bool :=
  (List.range calls).map (· % 2 == 0)

/-- The calls to the buzzer were on and off in turns, and the host remembers the last one. -/
structure InTurns (host : Host) : Prop where
  calls : host.buzzerCalls = alternating host.buzzerCalls.length
  buzzerOn : host.buzzerOn = (host.buzzerCalls.length % 2 == 1)

theorem alternating_succ (calls : Nat) :
    alternating (calls + 1) = alternating calls ++ [calls % 2 == 0] := by
  simp only [alternating, List.range_succ, List.map_append, List.map_cons, List.map_nil]

/-! ### What the buzzer does -/

theorem sounding_foldl_hear (signals : List Signal) (headless : Headless) :
    (signals.foldl Headless.hear headless).sounding =
      (signals.filterMap Signal.sounding?).getLast?.getD headless.sounding := by
  induction signals generalizing headless with
  | nil => rfl
  | cons signal later inductionHypothesis =>
    rw [List.foldl_cons, inductionHypothesis]
    cases signal with
    | buzzer sounding =>
      simp [Signal.sounding?, Headless.hear, List.getLast?_cons]
    | resolution | frame | refresh | performance | key | trace => rfl

theorem sounding_heard (host : Host) (headless : Headless) :
    (host.heard headless).sounding = host.buzzerCalls.getLast?.getD headless.sounding := by
  rw [heard, sounding_foldl_hear, buzzerCalls, List.filterMap_reverse]

theorem InTurns.sounding_heard {host : Host} (inTurns : host.InTurns) {headless : Headless}
    (silent : headless.sounding = false) : (host.heard headless).sounding = host.buzzerOn := by
  -- the number of calls tells which one was the last
  rw [Host.sounding_heard, inTurns.calls, inTurns.buzzerOn, silent]
  cases host.buzzerCalls.length with
  | zero => rfl
  | succ calls =>
    rw [alternating_succ, List.getLast?_concat, Option.getD_some, Bool.eq_iff_iff, beq_iff_eq,
      beq_iff_eq]
    omega

/-! ### What the host does -/

theorem buzzerOn_switchBuzzer (host : Host) (sounding : Bool) :
    (host.switchBuzzer sounding).buzzerOn = sounding := by
  unfold switchBuzzer
  split
  · rename_i same
    exact same.symm
  · rfl

theorem buzzerCalls_switchBuzzer {host : Host} {sounding : Bool}
    (changes : sounding ≠ host.buzzerOn) :
    (host.switchBuzzer sounding).buzzerCalls = host.buzzerCalls ++ [sounding] := by
  rw [switchBuzzer, if_neg changes]
  simp [buzzerCalls, send, Signal.sounding?]

theorem processor_switchBuzzer (host : Host) (sounding : Bool) :
    (host.switchBuzzer sounding).processor = host.processor := by
  unfold switchBuzzer
  split <;> rfl

/-- The buzzer sounds after a tick exactly if the sound timer still runs. -/
theorem buzzerOn_tick (host : Host) :
    host.tick.buzzerOn = decide (0 < host.tick.processor.machine.timers.sound) := by
  unfold tick
  dsimp only
  rw [buzzerOn_switchBuzzer, processor_switchBuzzer]
  rfl

theorem InTurns.of_same {before after : Host} (inTurns : before.InTurns)
    (sameOn : after.buzzerOn = before.buzzerOn)
    (sameCalls : after.buzzerCalls = before.buzzerCalls) : after.InTurns := by
  constructor
  · rw [sameCalls]
    exact inTurns.calls
  · rw [sameOn, sameCalls]
    exact inTurns.buzzerOn

/-- A call is made only if it is not the last one again. -/
theorem InTurns.switchBuzzer {host : Host} (inTurns : host.InTurns) (sounding : Bool) :
    (host.switchBuzzer sounding).InTurns := by
  by_cases same : sounding = host.buzzerOn
  · rw [Host.switchBuzzer, if_pos same]
    exact inTurns
  · have calls := buzzerCalls_switchBuzzer same
    have other : sounding = (host.buzzerCalls.length % 2 == 0) := by
      have opposite : sounding = !host.buzzerOn := Bool.eq_not.mpr same
      rw [opposite, inTurns.buzzerOn]
      rcases Nat.mod_two_eq_zero_or_one host.buzzerCalls.length with even | odd
      · simp [even]
      · simp [odd]
    constructor
    · rw [calls, List.length_append, List.length_singleton, alternating_succ, ← inTurns.calls,
        ← other]
    · rw [buzzerOn_switchBuzzer, calls, List.length_append, List.length_singleton, other,
        Bool.eq_iff_iff, beq_iff_eq, beq_iff_eq]
      omega

theorem deliver_keeps_buzzer (host : Host) (event : KeyEvent) :
    (host.deliver event).buzzerOn = host.buzzerOn ∧
      (host.deliver event).buzzerCalls = host.buzzerCalls := by
  rcases deliver_cases host event with same | ⟨keypad, mapped, same⟩
  · rw [same]
    exact ⟨rfl, rfl⟩
  · rw [same]
    exact ⟨rfl, rfl⟩

theorem refresh_keeps_buzzer (host : Host) :
    host.refresh.buzzerOn = host.buzzerOn ∧ host.refresh.buzzerCalls = host.buzzerCalls := by
  unfold refresh
  dsimp only
  split <;> exact ⟨rfl, rfl⟩

theorem inTurns_act {host : Host} (inTurns : host.InTurns) (act : Act) :
    (host.act act).InTurns := by
  cases act with
  | tick =>
    have ticked : { host with processor := host.processor.tick }.InTurns :=
      inTurns.of_same rfl rfl
    exact ticked.switchBuzzer _
  | silence => exact inTurns.switchBuzzer false
  | key event =>
    have kept := deliver_keeps_buzzer host event
    exact inTurns.of_same kept.1 kept.2
  | refresh =>
    have kept := refresh_keeps_buzzer host
    exact inTurns.of_same kept.1 kept.2
  | report | trace | operate | restore | reschedule => exact inTurns.of_same rfl rfl

theorem inTurns_actAll {host : Host} (inTurns : host.InTurns) (acts : List Act) :
    (host.actAll acts).InTurns := by
  induction acts generalizing host with
  | nil => exact inTurns
  | cons first later inductionHypothesis =>
    exact inductionHypothesis (inTurns_act inTurns first)

/-- Without a first reading of the clock there is no run. -/
theorem silent_after_run (session : Session) (limit : Option Int)
    (begins : session.clock.left ≠ 0 ∨ (session.run limit).2 ≠ .clockStopped) :
    (session.run limit).1.host.buzzerOn = false := by
  rw [Session.run_eq] at begins ⊢
  cases start : session.begun with
  | none =>
    rw [start] at begins
    rcases begins with more | goesOn
    · unfold Session.begun Clock.read at start
      split at start
      · contradiction
      · cases start
    · exact absurd rfl goesOn
  | some begun => exact buzzerOn_switchBuzzer _ false

/-! ### The buzzer follows the sound timer -/

/-- Whatever is asked of a host whose buzzer was silent at first, runs included, and at any moment
of it: the host knows whether the buzzer sounds, a tick makes it sound exactly if the sound timer
runs, a run leaves it silent however it ends, and it was told on, off, on, ... in turns. -/
theorem buzzer_follows_sound_timer {processor : Processor} {keyMap : KeyMap} {speed : Option Int}
    {host : Host} (built : start processor keyMap speed = .ok host) {buzzer : Headless}
    (silent : buzzer.sounding = false) :
    (∀ requests, host.answerAll requests = host.actAll (host.course requests)) ∧
      ∀ acts,
        let now := host.actAll acts
        now.buzzerOn = (now.heard buzzer).sounding ∧
          (now.tick.buzzerOn = decide (0 < now.tick.processor.machine.timers.sound) ∧
            (now.tick.heard buzzer).sounding =
              decide (0 < now.tick.processor.machine.timers.sound)) ∧
          (∀ clock polls inputs limit,
            let run := (now.session clock polls inputs).run limit
            clock.left ≠ 0 ∨ run.2 ≠ .clockStopped →
              run.1.host.buzzerOn = false ∧ (run.1.host.heard buzzer).sounding = false) ∧
          now.buzzerCalls = alternating now.buzzerCalls.length := by
  refine ⟨answerAll_eq host, ?_⟩
  intro acts now
  obtain ⟨-, off, sent⟩ := state_of_start built
  have noCalls : host.buzzerCalls = [] := by
    rw [buzzerCalls, sent]
    rfl
  have started : host.InTurns := by
    constructor
    · rw [noCalls]
      rfl
    · rw [noCalls, off]
      rfl
  have inTurns : now.InTurns := inTurns_actAll started acts
  refine ⟨(inTurns.sounding_heard silent).symm, ⟨buzzerOn_tick now, ?_⟩, ?_, inTurns.calls⟩
  · have ticked : now.tick.InTurns := inTurns_act inTurns .tick
    rw [ticked.sounding_heard silent, buzzerOn_tick]
  · intro clock polls inputs limit run begins
    have off : run.1.host.buzzerOn = false := silent_after_run _ limit begins
    have ended : run.1.host.InTurns := by
      rw [Session.host_run]
      exact inTurns_actAll inTurns _
    exact ⟨off, (ended.sounding_heard silent).trans off⟩

/-- The buzzer sounds when a run is ended by a halt. -/
theorem buzzer_follows_sound_timer_to_halt :
    let keyMap : KeyMap := ⟨Vector.ofFn fun key => Int.ofNat key.val⟩
    let processor := (Processor.start false false ⟨fun _ => 0, 0⟩).performAll
      [.load [0x60, 0x05, 0xF0, 0x18, 0xFF, 0xFF]]
    let buzzer := Headless.start none
    buzzer.sounding = false ∧
      ∃ host, start processor keyMap (some 0) = .ok host ∧
        let stepped := host.actAll [.operate .step, .operate .step]
        let clock : Clock := ⟨fun readings => -1.0 + Float.ofNat readings / 32.0, 0, 9⟩
        let run := (stepped.tick.session clock 0 fun _ => Poll.nothing).run none
        stepped.processor.machine.timers.sound = 5 ∧ stepped.buzzerOn = false ∧
          (stepped.tick.heard buzzer).sounding = true ∧
          run.1.host.processor.machine.timers.sound = 3 ∧
          (run.1.host.heard buzzer).sounding = false ∧
          run.1.host.buzzerCalls = [true, false] := by
  intro keyMap processor buzzer
  have built : start processor keyMap (some 0) = .ok _ := rfl
  refine ⟨rfl, _, built, ?_⟩
  intro stepped clock run
  have here : stepped.processor.machine.timers.sound = 5 ∧ stepped.buzzerOn = false ∧
      stepped.tick.processor.machine.timers.sound = 4 ∧
      run.1.host.processor.machine.timers.sound = 3 ∧ run.2 ≠ .clockStopped ∧
      run.1.host.buzzerCalls = [true, false] := by
    decide +kernel
  obtain ⟨sound, off, soundAfterTick, soundAtEnd, begins, calls⟩ := here
  obtain ⟨-, follows⟩ := buzzer_follows_sound_timer built (rfl : buzzer.sounding = false)
  obtain ⟨-, ⟨-, heardAfterTick⟩, -, -⟩ := follows [.operate .step, .operate .step]
  obtain ⟨-, -, heardAfterRun, -⟩ := follows [.operate .step, .operate .step, .tick]
  refine ⟨sound, off, ?_, soundAtEnd, ?_, calls⟩
  · refine heardAfterTick.trans ?_
    change decide (0 < stepped.tick.processor.machine.timers.sound) = true
    rw [soundAfterTick]
    rfl
  · exact (heardAfterRun clock 0 _ none (Or.inr begins)).2

end Host

end Chip8
