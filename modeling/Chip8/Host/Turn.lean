import Chip8.Host

/-!
Contract: one turn of a host at a given time.

Owns: `Host.turn`. A turn reports what was done if a second is over, catches the timers up with
the time, looks at the input devices and refreshes the screen if that is due, and makes one step
of the processor. It ends the run if the user quits, if the processor halts, or if an operation
is refused.

Does not own: the clock, and waiting for the next turn, after which the instruction is counted.
-/

namespace Chip8.Host

/-- How a turn ends a run. -/
inductive Ending where
  | quit
  | fault (fault : Fault)
deriving DecidableEq, Repr

structure Turn where
  host : Host
  /-- The input devices were looked at. -/
  polled : Bool
  ending : Option Ending

/-- The whole part of a number. -/
def wholePart (value : Float) : Float :=
  if value < 0.0 then value.ceil else value.floor

/-- Reports and counts anew once the second of the last report is over. -/
def reportIfDue (host : Host) (now : Float) : Host :=
  if host.nextReport ≤ now then
    { host.report host.frames host.instructions with
      nextReport := wholePart now + 1.0
      frames := 0
      instructions := 0 }
  else
    host

/-- Ticks once for each interval that has passed, at most as often as the first argument says. -/
def catchUpWithin (now : Float) : Nat → Float → Host → Host
  | 0, due, host => { host with nextTick := some due }
  | left + 1, due, host =>
    if due ≤ now then
      catchUpWithin now left (due + tickInterval) host.tick
    else
      { host with nextTick := some due }

/-- More ticks than fit between two times: twice as many leave room for rounding. -/
def ticksBetween (due now : Float) : Nat :=
  2 * ((now - due) / tickInterval).toUInt64.toNat + 2

def catchUp (host : Host) (now : Float) : Host :=
  match host.nextTick with
  | none => host
  | some due => catchUpWithin now (ticksBetween due now) due host

/-- Steps the processor; a halt leaves the last frame on the screen. -/
def stepProcessor (host : Host) : Host × Option Ending :=
  let report := host.processor.step
  let stepped := { host with processor := report.processor }
  let stepped := match report.trace with
    | some line => stepped.send (.trace line)
    | none => stepped
  match report.fault with
  | some fault => (stepped, some (.fault fault))
  | none =>
    if report.processor.status.isHalted then
      let shown := stepped.refresh
      (shown, some (.fault (.emulationHalted shown.processor.fullDump)))
    else
      (stepped, none)

/-- Looks at the input devices, whose answer is `poll`, and refreshes the screen. After a wish
to quit the screen stays as it is. -/
def pollAndRefresh (host : Host) (now : Float) (poll : Poll) : Host × Option Ending :=
  match keyEvents poll.events host with
  | (pressed, some fault) => (pressed, some (.fault fault))
  | (pressed, none) =>
    if poll.quit then
      (pressed, some .quit)
    else
      let refreshed := { pressed with nextRefresh := now + refreshInterval }.refresh
      ({ refreshed with frames := refreshed.frames + 1 }, none)

/-- A turn at a time, where `poll` is what a look at the input devices would bring. -/
def turn (host : Host) (now : Float) (poll : Poll) : Turn :=
  let host := (host.reportIfDue now).catchUp now
  if host.nextRefresh ≤ now then
    match host.pollAndRefresh now poll with
    | (ended, some ending) => ⟨ended, true, some ending⟩
    | (refreshed, none) =>
      let (stepped, ending) := refreshed.stepProcessor
      ⟨stepped, true, ending⟩
  else
    let (stepped, ending) := host.stepProcessor
    ⟨stepped, false, ending⟩

/-- The time of the next turn after one at `now`. -/
def nextTurn (host : Host) (now : Float) : Option Float :=
  host.instructionInterval.map (now + ·)

def countInstruction (host : Host) : Host :=
  { host with instructions := host.instructions + 1 }

end Chip8.Host
