/-!
Contract: the requests to the library that owns the window and the sound device.

Owns: `MediaCall`, `Colour`, and the bytes that a picture is made of.
-/

namespace Chip8

structure Colour where
  red : UInt8
  green : UInt8
  blue : UInt8
deriving DecidableEq, Repr

/-- A picture has these bytes for a pixel of the colour. -/
def Colour.bytes (colour : Colour) : List UInt8 :=
  [colour.red, colour.green, colour.blue]

/-- The bytes of pixels that are given row by row. -/
def pictureBytes (pixels : List Colour) : List UInt8 :=
  pixels.flatMap Colour.bytes

inductive MediaCall where
  | openDisplay
  | setCaption (text : String)
  | setMode (width height : Int)
  /-- Makes a picture of the bytes of pixels that are given row by row. -/
  | picture (pixels : List Colour) (width height : Int)
  | scaleTo (width height : Int)
  /-- Puts the picture into the upper left corner. -/
  | place
  | flip
  | closeDisplay
  | prepareMixer (frequency bits channels buffer allowedChanges : Nat)
  | openMixer
  /-- Makes a sound of one cycle: so many samples high, then as many low. -/
  | makeSound (halfPeriod : Nat)
  | setVolume (thousandths : Nat)
  /-- Plays the sound over and over. -/
  | play
  | stop
  | closeMixer
deriving DecidableEq, Repr

end Chip8
