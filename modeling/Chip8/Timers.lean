/-!
Contract: the delay and the sound timer, which count down to zero and stop there.

Owns: `Timers` with its tick and its writes, which keep the low byte. A restored timer may hold
any integer.
-/

namespace Chip8

structure Timers where
  delay : Int
  sound : Int
deriving DecidableEq, Repr

namespace Timers

def zero : Timers :=
  ⟨0, 0⟩

def countDown (value : Int) : Int :=
  if 0 < value then value - 1 else value

def tick (timers : Timers) : Timers :=
  ⟨countDown timers.delay, countDown timers.sound⟩

def setDelay (timers : Timers) (value : Int) : Timers :=
  { timers with delay := value % 256 }

def setSound (timers : Timers) (value : Int) : Timers :=
  { timers with sound := value % 256 }

/-- The buzzer sounds while the sound timer runs. -/
def soundActive (timers : Timers) : Bool :=
  decide (0 < timers.sound)

end Timers

end Chip8
