import Chip8.Host.Clock
import Chip8.Host.Turn

/-!
Contract: a host running on a clock and on what its input devices bring.

Owns: `Session` and `Session.run`, which takes turns until one ends the run, until a number of
steps was made, or until the clock has no more readings. Between two turns the clock is read over
and over until the next turn is due; an instruction counts from then on, so the last one of a run
that is stopped in this wait does not. However a run ends, the buzzer is silent afterwards.
-/

namespace Chip8

structure Session where
  host : Host
  clock : Clock
  /-- Looks at the input devices so far. -/
  polls : Nat
  /-- What each look brings; the first has number one. -/
  inputs : Nat → Poll

namespace Session

/-- How a run ended. -/
inductive RunEnd where
  | ended (ending : Host.Ending)
  | stepsMade
  | clockStopped
deriving DecidableEq, Repr

/-- Reads the clock until it shows at least `due`, at most as often as the first argument says. -/
def waitWithin (due : Float) : Nat → Clock → Option Clock
  | 0, _ => none
  | left + 1, clock =>
    match clock.read with
    | none => none
    | some (now, later) => if now < due then waitWithin due left later else some later

def waitFor (clock : Clock) (due : Option Float) : Option Clock :=
  match due with
  | none => some clock
  | some due => waitWithin due clock.left clock

/-- One turn and the wait after it, at whose end the instruction is counted. -/
def turn (session : Session) : Session × Option RunEnd :=
  match session.clock.read with
  | none => (session, some .clockStopped)
  | some (now, clock) =>
    let turn := session.host.turn now (session.inputs (session.polls + 1))
    let turned := { session with
      host := turn.host
      clock := clock
      polls := if turn.polled then session.polls + 1 else session.polls }
    match turn.ending with
    | some ending => (turned, some (.ended ending))
    | none =>
      match waitFor clock (turn.host.nextTurn now) with
      | none => (turned, some .clockStopped)
      | some clock => ({ turned with clock := clock, host := turn.host.countInstruction }, none)

/-- Whether as many steps were made as a limit allows. -/
def limitReached (limit : Option Int) (made : Nat) : Bool :=
  limit.any fun (steps : Int) => decide (steps ≤ made)

/-- Takes turns, one step each, until the limit is reached. Every turn reads the clock, so there
are no more turns than readings left. -/
def loop (limit : Option Int) : Nat → Nat → Session → Session × RunEnd
  | 0, made, session =>
    (session, if limitReached limit made then .stepsMade else .clockStopped)
  | left + 1, made, session =>
    if limitReached limit made then
      (session, .stepsMade)
    else
      match session.turn with
      | (ended, some ending) => (ended, ending)
      | (next, none) => loop limit left (made + 1) next

def run (session : Session) (limit : Option Int) : Session × RunEnd :=
  match session.clock.read with
  | none => (session, .clockStopped)
  | some (now, clock) =>
    let begun := { session with
      clock := clock
      host := { session.host with nextTick := some (now + Host.tickInterval) } }
    let (ended, ending) := loop limit clock.left 0 begun
    ({ ended with host := ended.host.switchBuzzer false }, ending)

end Session

end Chip8
