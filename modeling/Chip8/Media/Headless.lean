import Chip8.Host

/-!
Contract: a screen and a buzzer that only keep count of what they are told.

Owns: `Headless` and how it takes in a signal.
-/

namespace Chip8

structure Headless where
  scale : Int
  width : Nat
  height : Nat
  /-- Frames handed over so far. -/
  frames : Nat
  title : String
  sounding : Bool
deriving DecidableEq, Repr

namespace Headless

def start (scale : Option Int) : Headless where
  scale := scale.getD 1
  width := 0
  height := 0
  frames := 0
  title := ""
  sounding := false

/-- A new screen says that it has no size yet. -/
def opening : List Signal :=
  [.resolution 0 0]

def hear (headless : Headless) : Signal → Headless
  | .resolution width height => { headless with width := width, height := height }
  | .frame _ => { headless with frames := headless.frames + 1 }
  | .performance frames instructions =>
    { headless with title := performanceTitle frames instructions }
  | .buzzer sounding => { headless with sounding := sounding }
  | .refresh _ | .key .. | .trace _ => headless

end Headless

end Chip8
