import Chip8.Input.Poll
import Chip8.Processor.Step

/-!
Contract: the host that keeps a processor, its timers, the screen and the buzzer in time.

Owns:
- `Signal`, what the host tells the screen, the buzzer and whoever listens;
- `Host`, which records the signals it sent, newest first;
- the single duties of a host: counting the timers down, refreshing the screen, passing key
  events on, and reporting how much it did.

Does not own: when the duties are due, and what is done about a signal.
-/

namespace Chip8

inductive Signal where
  | resolution (width height : Nat)
  | frame (screen : Grid)
  | refresh (changed : Bool)
  /-- Frames and instructions in the time before; the title of the screen tells of them. -/
  | performance (frames instructions : Int)
  | buzzer (sounding : Bool)
  | key (hostKey : Int) (mapped : Bool)
  | trace (line : String)
deriving DecidableEq, Repr

/-- The title of a screen that tells of the performance. -/
def performanceTitle (frames instructions : Int) : String :=
  About.name ++ " - " ++ toString frames ++ " FPS, " ++ toString instructions ++ " OPS"

structure Host where
  processor : Processor
  keyMap : KeyMap
  /-- Seconds from one instruction to the next; none stands for as fast as can be. -/
  instructionInterval : Option Float
  buzzerOn : Bool
  nextTick : Option Float
  nextRefresh : Float
  nextReport : Float
  /-- Frames since the last report. -/
  frames : Nat
  /-- Instructions since the last report. -/
  instructions : Nat
  /-- Newest first. -/
  sent : List Signal

namespace Host

/-- Seconds between two ticks of the timers. -/
def tickInterval : Float := 1.0 / Float.ofNat About.timerFrequency

/-- Seconds between two looks at the input devices, each followed by a refresh. -/
def refreshInterval : Float := 1.0 / Float.ofNat About.timerFrequency

def send (host : Host) (signal : Signal) : Host :=
  { host with sent := signal :: host.sent }

def report (host : Host) (frames instructions : Int) : Host :=
  host.send (.performance frames instructions)

/-- A whole number as the nearest double. -/
def floatOfNat (value : Nat) : Float :=
  Float.ofScientific value false 0

/-- Seconds from one instruction to the next at a speed in instructions per second. -/
def intervalOf (speed : Option Int) : Except Fault (Option Float) :=
  let speed := speed.getD About.defaultClockSpeed
  if speed < 0 then .error .negativeClockSpeed
  else if speed = 0 then .ok none
  else if (floatOfNat speed.toNat).isInf then .error .clockSpeedTooLarge
  else .ok (some (1.0 / floatOfNat speed.toNat))

/-- A host says how large the screen is and that it has done nothing yet. -/
def start (processor : Processor) (keyMap : KeyMap) (speed : Option Int) : Except Fault Host := do
  let host : Host := {
    processor := processor
    keyMap := keyMap
    instructionInterval := ← intervalOf speed
    buzzerOn := false
    nextTick := none
    nextRefresh := 0.0
    nextReport := 0.0
    frames := 0
    instructions := 0
    sent := [.resolution Resolution.standard.width Resolution.standard.height] }
  return host.report 0 0

def withMachine (host : Host) (machine : Machine) : Host :=
  { host with processor := host.processor.withMachine machine }

/-- Takes note of whether the sound timer runs and tells the buzzer of a change. -/
def switchBuzzer (host : Host) (sounding : Bool) : Host :=
  if sounding = host.buzzerOn then
    host
  else
    { host.send (.buzzer sounding) with buzzerOn := sounding }

def tick (host : Host) : Host :=
  let ticked := { host with processor := host.processor.tick }
  ticked.switchBuzzer ticked.processor.soundActive

/-- Shows a new frame only if something was drawn since the last one. -/
def refresh (host : Host) : Host :=
  let display := host.processor.machine.display
  if display.dirty then
    let shown := host.withMachine {
      host.processor.machine with display := { display with dirty := false } }
    (shown.send (.frame display.grid)).send (.refresh true)
  else
    host.send (.refresh false)

/-- Passes a key event on and tells whether its key is mapped. -/
def keyEvent (host : Host) (event : KeyEvent) : Except Fault (Host × Bool) :=
  let machine := host.processor.machine
  match host.keyMap.press machine.keypad event with
  | .error fault => .error fault
  | .ok (keypad, mapped) =>
    .ok (host.withMachine { machine with keypad := keypad }, mapped)

/-- Passes the events of a poll on in order and says so of each; a refused one ends it. -/
def keyEvents : List KeyEvent → Host → Host × Option Fault
  | [], host => (host, none)
  | event :: later, host =>
    match host.keyEvent event with
    | .error fault => (host, some fault)
    | .ok (next, mapped) => keyEvents later (next.send (.key event.hostKey mapped))

end Host

end Chip8
