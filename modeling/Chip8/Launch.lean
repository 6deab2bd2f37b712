import Chip8.CommandLine.Help
import Chip8.CommandLine.Parse
import Chip8.Host.Session
import Chip8.Listing
import Chip8.Media.Speaker
import Chip8.Media.Window
import Chip8.Rom

/-!
Contract: a whole run of the emulator, from its options to its end.

Owns:
- `Devices`, a window with or without a speaker, or nothing at all, and how they take in what
  the host says;
- `Launch.prepare`, which makes everything a run needs, in an order that decides which of two
  faults is met first;
- `Launch.run`, which adds a session and puts the devices away after it, and
  `Launch.commandLine`, which begins with the words of a command line.

Does not own: where programs, time and key events come from; these are given as a `Surroundings`.
-/

namespace Chip8

/-- The devices of a run. -/
structure Devices where
  window : Option Window
  speaker : Option (Speaker Bool)
deriving DecidableEq, Repr

namespace Devices

def none : Devices :=
  ⟨.none, .none⟩

def hearWindow (window : Option Window) (signal : Signal) : Option Window × List MediaCall :=
  match window with
  | .none => (.none, [])
  | some window => let (next, calls) := window.hear signal; (some next, calls)

/-- A speaker only heeds the buzzer; it has its sound before a host speaks to it. -/
def hearSpeaker (speaker : Option (Speaker Bool)) (signal : Signal) :
    Option (Speaker Bool) × List MediaCall :=
  match speaker, signal with
  | some speaker, .buzzer sounding =>
    let effect := speaker.enable sounding
    (some effect.speaker, effect.calls)
  | speaker, _ => (speaker, [])

def hear (devices : Devices) (signal : Signal) : Devices × List MediaCall :=
  let (window, windowCalls) := hearWindow devices.window signal
  let (speaker, speakerCalls) := hearSpeaker devices.speaker signal
  (⟨window, speaker⟩, windowCalls ++ speakerCalls)

/-- Takes in signals in order. -/
def hearAll (devices : Devices) : List Signal → Devices × List MediaCall
  | [] => (devices, [])
  | signal :: later =>
    let (next, calls) := devices.hear signal
    let (last, laterCalls) := next.hearAll later
    (last, calls ++ laterCalls)

/-- The speaker goes first and the window last. -/
def close (devices : Devices) : List MediaCall :=
  (match devices.speaker with
    | .none => []
    | some speaker => speaker.close) ++
  (match devices.window with
    | .none => []
    | some _ => Window.close)

end Devices

namespace Launch

/-- What a run meets outside itself. -/
structure Surroundings where
  /-- The room for blocks of bytes. -/
  room : Extent.Room
  /-- The picture of the screen, the largest block that a run makes, finds room. -/
  ample : Window.pointSize * Resolution.standard.area ≤ room.bytes
  /-- The program file asked for, as it was found. -/
  program : Except Fault (List UInt8)
  windowAvailable : Bool
  random : RandomSource
  clock : Clock
  /-- The events of a window at each look at it; the first has number one. -/
  events : Nat → List WindowEvent

/-- What is left of a run. -/
structure Report where
  lines : List String
  calls : List MediaCall
  fault : Option Fault
deriving DecidableEq, Repr

/-- The pitch of the buzzer. -/
def buzzerFrequency : Rat := 440

open CommandLine (Options Renderer)

/-- A renderer named without saying which is none, which only shows when it is needed. -/
def chooseRenderer (options : Options) (windowAvailable : Bool) : Except Fault (Option Renderer) :=
  match options.renderer, windowAvailable with
  | .value .headless, _ => .ok (some .headless)
  | .value .window, true => .ok (some .window)
  | .value .window, false => .error .windowUnavailable
  | .unsaid, true => .ok (some .window)
  | .unsaid, false => .ok (some .headless)
  | .blank, _ => .ok .none

def listingLines (program : List UInt8) : List String :=
  (Listing.ofBytes program.toArray 0 programStart).lines.map Line.format

/-- A host with its devices, or why there is none, and the calls made on the way. -/
structure Preparation where
  calls : List MediaCall
  ready : Except Fault (Host × Devices)

def startSpeaker (options : Options) (room : Extent.Room) :
    List MediaCall × Except Fault (Option (Speaker Bool)) :=
  if options.mute.toOption.getD false then
    ([], .ok .none)
  else
    let (speaker, opening) := Speaker.start false
    let effect := speaker.setFrequency room buzzerFrequency
    (opening ++ effect.calls,
      match effect.fault with
      | some fault => .error fault
      | .none => .ok (some effect.speaker))

def readPalette (options : Options) : Except Fault Palette := do
  Palette.ofText (← options.palette.ask .paletteBlank)

def startWindow (options : Options) : List MediaCall × Except Fault Window :=
  match options.scale.ask .scaleBlank with
  | .error fault => (Window.opening, .error fault)
  | .ok scale => Window.start scale (readPalette options)

def readKeyMap (options : Options) : Except Fault KeyMap := do
  KeyMap.ofText ((← options.keyMap.ask .keyMapBlank).getD About.defaultKeyMap)

def startHost (options : Options) (processor : Processor) (keyMap : KeyMap) :
    Except Fault Host := do
  Host.start processor keyMap (← options.clockSpeed.ask .clockSpeedBlank)

/-- The window is opened first, then the key map is read, the speaker made, and at last the
host. Nothing is closed again if one of them fails. -/
def prepareWindow (options : Options) (room : Extent.Room) (processor : Processor) :
    Preparation :=
  let (opening, window) := startWindow options
  match window with
  | .error fault => ⟨opening, .error fault⟩
  | .ok window =>
    match readKeyMap options with
    | .error fault => ⟨opening, .error fault⟩
    | .ok keyMap =>
      let (speakerCalls, speaker) := startSpeaker options room
      ⟨opening ++ speakerCalls, do
        let speaker ← speaker
        let host ← startHost options processor keyMap
        return (host, ⟨some window, speaker⟩)⟩

/-- Without a window its settings are not looked at. -/
def prepareHeadless (options : Options) (processor : Processor) : Preparation where
  calls := []
  ready := do
    let keyMap ← readKeyMap options
    let host ← startHost options processor keyMap
    return (host, Devices.none)

def prepare (options : Options) (surroundings : Surroundings) (program : List UInt8) :
    Preparation :=
  match chooseRenderer options surroundings.windowAvailable with
  | .error fault => ⟨[], .error fault⟩
  | .ok renderer =>
    let processor :=
      Processor.start (options.flagsIndexOverflow.toOption.getD false) options.debug
        surroundings.random
    match processor.load program with
    | (_, some fault) => ⟨[], .error fault⟩
    | (loaded, .none) =>
      match renderer with
      | some .window => prepareWindow options surroundings.room loaded
      | some .headless => prepareHeadless options loaded
      | .none => ⟨[], .error .rendererBlank⟩

/-- The lines that a host reported, oldest first. -/
def traceLines (signals : List Signal) : List String :=
  signals.filterMap fun
    | .trace line => some line
    | _ => .none

/-- The fault a run ended with; quitting is none. -/
def faultOf : Session.RunEnd → Option Fault
  | .ended (.fault fault) => some fault
  | _ => .none

/-- Without a window there are no events to look at. -/
def inputsOf (devices : Devices) (events : Nat → List WindowEvent) (look : Nat) : Poll :=
  if devices.window.isSome then Poll.ofWindow (events look) else Poll.nothing

def runHost (surroundings : Surroundings) (host : Host) (devices : Devices) : Report :=
  let session : Session := {
    host := host
    clock := surroundings.clock
    polls := 0
    inputs := inputsOf devices surroundings.events }
  let (ended, ending) := session.run .none
  let signals := ended.host.sent.reverse
  let (devices, calls) := devices.hearAll signals
  ⟨traceLines signals, calls ++ devices.close, faultOf ending⟩

/-- Greets, then lists the program or runs it. -/
def run (options : Options) (surroundings : Surroundings) : Report :=
  let greeted (report : Report) : Report :=
    { report with lines := About.greeting :: report.lines }
  match surroundings.program with
  | .error fault => greeted ⟨[], [], some fault⟩
  | .ok program =>
    if options.listing then
      greeted ⟨listingLines program, [], .none⟩
    else
      let preparation := prepare options surroundings program
      match preparation.ready with
      | .error fault => greeted ⟨[], preparation.calls, some fault⟩
      | .ok (host, devices) =>
        let report := runHost surroundings host devices
        greeted { report with calls := preparation.calls ++ report.calls }

/-- A run from the words of a command line, or why it ends before it begins. -/
def commandLine (arguments : List String) (surroundings : String → Surroundings) :
    List String × Except CommandLine.Exit Report :=
  match CommandLine.parse arguments with
  | .error .help => (CommandLine.helpLines, .error .help)
  | .error (.usage message) => ([], .error (.usage message))
  | .ok options =>
    let report := run options (surroundings options.file)
    (report.lines, .ok report)

end Launch

end Chip8
