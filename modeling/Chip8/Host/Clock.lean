/-!
Contract: a clock whose readings are laid down in advance.

Owns: `Clock`, which gives out a limited number of readings, and `Clock.paced`, whose readings
go up by given steps over and over again.
-/

namespace Chip8

structure Clock where
  /-- The answer to each reading, in seconds. -/
  reading : Nat → Float
  /-- Readings made so far. -/
  used : Nat
  /-- Readings that can still be made. -/
  left : Nat

namespace Clock

/-- Nothing is read once the last reading is used up. -/
def read (clock : Clock) : Option (Float × Clock) :=
  match clock.left with
  | 0 => none
  | left + 1 => some (clock.reading clock.used, { clock with used := clock.used + 1, left := left })

/-- Microseconds as seconds, rounded to the nearest double. -/
def secondsOf (microseconds : Int) : Float :=
  let seconds := Float.ofScientific microseconds.natAbs true 6
  if microseconds < 0 then -seconds else seconds

/-- The time after so many readings: whole rounds through the steps, then the first few. -/
def timeAfter (start : Int) (steps : Array Int) (readings : Nat) : Int :=
  let whole := steps.foldl (· + ·) 0
  let begun := (steps.extract 0 (readings % steps.size)).foldl (· + ·) 0
  start + whole * Int.ofNat (readings / steps.size) + begun

/-- A clock that starts at a time and goes up by the next step at each reading. -/
def paced (start : Int) (steps : Array Int) (left : Nat) : Clock where
  reading readings := secondsOf (timeAfter start steps readings)
  used := 0
  left := left

end Clock

end Chip8
