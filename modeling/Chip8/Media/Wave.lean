import Chip8.Extent

/-!
Contract: how long one cycle of a tone is in samples.

Owns:
- `exactValue`, what a double stands for, since tones are compared exactly;
- `roundHalfEven`, the whole number nearest to a quotient;
- `doubleQuotient`, a quotient rounded to a double, as a numerator over a power of two;
- `halfPeriod`, the samples of half a cycle. The quotient of the sampling rate and the frequency
  is rounded to a double before it is halved and cut off, and no half cycle is empty.
-/

namespace Chip8.Wave

/-- Samples per second. -/
def samplingRate : Nat := 44100

/-- The number that the bits of a double stand for. An exponent of zero goes with digits that begin
with zero; infinity counts as the power of two that comes after all doubles. -/
def exactValue (double : Float) : Rat :=
  let bits := double.toBits.toNat
  let exponent := (bits >>> 52) % 2048
  let fraction := bits % (1 <<< 52)
  let digits := if exponent = 0 then fraction else fraction + (1 <<< 52)
  let size := mkRat (digits <<< max 1 exponent : Nat) (1 <<< 1075)
  if bits >>> 63 = 1 then -size else size

/-- Of two whole numbers equally near the even one is taken. -/
def roundHalfEven (numerator denominator : Nat) : Nat :=
  let quotient := numerator / denominator
  let twice := 2 * (numerator % denominator)
  if twice < denominator then quotient
  else if denominator < twice then quotient + 1
  else if quotient % 2 = 0 then quotient
  else quotient + 1

/-- A quotient of at least one rounded to 53 binary digits, with the number of digits after the
point; the digits are negative where the last places before the point are zeros. -/
def doubleQuotient (numerator denominator : Nat) : Nat × Int :=
  let places : Int := 52 - Int.ofNat (numerator / denominator).log2
  let digits :=
    if 0 ≤ places then roundHalfEven (numerator <<< places.toNat) denominator
    else roundHalfEven numerator (denominator <<< (-places).toNat)
  (digits, places)

/-- The whole part of half the rounded quotient. -/
def wholeHalf (numerator denominator : Nat) : Nat :=
  let (digits, places) := doubleQuotient numerator denominator
  if 0 ≤ places then digits >>> (places.toNat + 1)
  else (digits <<< (-places).toNat) / 2

/-- Half of the least quotient that is too large for a double. -/
def unbounded : Nat := 1 <<< 1023

/-- Half a cycle at a frequency other than zero, unless it is too long. One that comes out as
negative is as short as can be, but its quotient has to be a double. -/
def halfPeriod (frequency : Rat) : Option Nat :=
  let numerator := samplingRate * frequency.den
  let denominator := frequency.num.natAbs
  if numerator < denominator then
    some 1
  else
    let half := wholeHalf numerator denominator
    if unbounded ≤ half then none
    else if frequency < 0 then some 1
    else if Extent.greatest < half then none
    else some (max 1 half)

end Chip8.Wave
