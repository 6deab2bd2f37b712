import Chip8.Fault
import Chip8.Media.Call
import Chip8.Media.Wave
import Chip8.Truth

/-!
Contract: the buzzer as a sound that is played over and over.

Owns: `Speaker`, whose operations give the calls they make, in order. A tone that is the one
remembered makes no new sound; a new tone takes over while the buzzer is on; switching on what is
on and off what is off makes no call. The value that switches the buzzer is kept as it was given.
-/

namespace Chip8

structure Speaker (α : Type) where
  /-- The tone asked for last, also if there is no sound for it. -/
  frequency : Option Rat
  hasSound : Bool
  enabled : α
deriving DecidableEq, Repr

namespace Speaker

variable {α : Type}

/-- What an operation on a speaker did. -/
structure Effect (α : Type) where
  speaker : Speaker α
  calls : List MediaCall
  fault : Option Fault

def start (off : α) : Speaker α × List MediaCall :=
  (⟨none, false, off⟩, [.prepareMixer Wave.samplingRate 8 1 512 0, .openMixer])

/-- A tenth of the full volume. -/
def volume : Nat := 100

def stopSound (speaker : Speaker α) : List MediaCall :=
  if speaker.hasSound then [.stop] else []

/-- Half a cycle of a tone; there has to be room for a whole one. -/
def waveFor (room : Extent.Room) (frequency : Rat) : Except Fault Nat :=
  if frequency = 0 then
    .error .zeroFrequency
  else
    match Wave.halfPeriod frequency with
    | none => .error .waveUnbounded
    | some halfPeriod => (Extent.hold room (2 * halfPeriod)).map fun _ => halfPeriod

def setFrequency [Truth α] (speaker : Speaker α) (room : Extent.Room) (frequency : Rat) :
    Effect α :=
  if speaker.frequency = some frequency then
    ⟨speaker, [], none⟩
  else
    let remembered := { speaker with frequency := some frequency }
    match waveFor room frequency with
    | .error fault => ⟨remembered, [], some fault⟩
    | .ok halfPeriod =>
      ⟨{ remembered with hasSound := true },
        speaker.stopSound ++ [.makeSound halfPeriod, .setVolume volume] ++
          (if Truth.holds speaker.enabled then [.play] else []),
        none⟩

/-- Without a sound a switch fails where it would have to play or to stop one. -/
def enable [Truth α] (speaker : Speaker α) (enabled : α) : Effect α :=
  let switched := { speaker with enabled := enabled }
  match Truth.holds speaker.enabled, Truth.holds enabled, speaker.hasSound with
  | false, true, true => ⟨switched, [.play], none⟩
  | true, false, true => ⟨switched, [.stop], none⟩
  | false, true, false => ⟨speaker, [], some .noSound⟩
  | true, false, false => ⟨speaker, [], some .noSound⟩
  | _, _, _ => ⟨switched, [], none⟩

def close (speaker : Speaker α) : List MediaCall :=
  speaker.stopSound ++ [.closeMixer]

end Speaker

end Chip8
