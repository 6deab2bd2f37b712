import Chip8.Input.KeyMap

/-!
Contract: what a look at the input devices brings.

Owns:
- `Poll`, key events in order and whether to quit, and how the events of a window make one: closing
  the window or letting go of the escape key quits, and no later event is lost by that;
- `Poll.attend`, a look at the events of a window, and `Poll.attendAll`, one look after the other.

Does not own: when the looks are made.
-/

namespace Chip8

structure Poll where
  events : List KeyEvent
  quit : Bool
deriving DecidableEq, Repr

inductive WindowEvent where
  | keyDown (hostKey : Int)
  | keyUp (hostKey : Int)
  | close
  | other
deriving DecidableEq, Repr

namespace WindowEvent

def escapeKey : Int := 27

def asksToQuit : WindowEvent → Bool
  | .close => true
  | .keyUp hostKey => hostKey == escapeKey
  | _ => false

/-- Letting go of the escape key is no key event. -/
def keyEvent : WindowEvent → Option KeyEvent
  | .keyDown hostKey => some ⟨hostKey, true⟩
  | .keyUp hostKey => if hostKey == escapeKey then none else some ⟨hostKey, false⟩
  | _ => none

end WindowEvent

namespace Poll

def nothing : Poll :=
  ⟨[], false⟩

def ofWindow (events : List WindowEvent) : Poll :=
  ⟨events.filterMap WindowEvent.keyEvent, events.any WindowEvent.asksToQuit⟩

/-- Presses the keys of a poll one after the other; a refused one ends it. -/
def press (keyMap : KeyMap) : List KeyEvent → Keypad → Keypad × Option Fault
  | [], keypad => (keypad, none)
  | event :: later, keypad =>
    match keyMap.press keypad event with
    | .error fault => (keypad, some fault)
    | .ok (next, _) => press keyMap later next

/-- A look at the events of a window: the keypad after it, and whether to quit unless a key was
refused. -/
def attend (keyMap : KeyMap) (keypad : Keypad) (events : List WindowEvent) :
    Keypad × Except Fault Bool :=
  match press keyMap (ofWindow events).events keypad with
  | (next, none) => (next, .ok (ofWindow events).quit)
  | (next, some fault) => (next, .error fault)

/-- Looks one after the other; the next one is made also after a key was refused. -/
def attendAll (keyMap : KeyMap) (keypad : Keypad) :
    List (List WindowEvent) → Keypad × List (Except Fault Bool)
  | [] => (keypad, [])
  | events :: later =>
    let (next, answer) := attend keyMap keypad events
    let (last, answers) := attendAll keyMap next later
    (last, answer :: answers)

end Poll

end Chip8
