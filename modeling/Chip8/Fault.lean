import Chip8.About
import Chip8.Layout
import Chip8.Text.Hex

/-!
Contract: the causes for which an operation of the emulator is refused, and what a refusal leaves.

Owns:
- `Fault`, one constructor for each cause, and `Fault.message`, the text shown for it;
- `Attempt`, what is left of a change that may be stopped half way: the state that was reached and
  the fault that stopped it.

Does not own: the causes that halt a running program (`HaltCause`), which are states of the
processor and no refusals.
-/

namespace Chip8

inductive Fault where
  /-- An address outside a memory bank. -/
  | addressOutside (location : Int)
  | indexOutside
  /-- A value that is no byte was stored where only bytes fit. -/
  | notAByte
  /-- A block was stored in a space of another size. -/
  | sizeMismatch
  | negativeSize
  /-- A size that no word can hold. -/
  | sizeTooLarge
  | outOfMemory
  | stackOverflow
  | stackUnderflow
  | keyOutside (key : Int)
  | screenNotPositive
  | gridMismatch
  | programTooLarge (size : Nat)
  | fileTooLarge (name : String) (size : Nat)
  | fileMissing
  | fileIsDirectory
  /-- A part of a path that is no directory is used as one. -/
  | fileNotDirectory
  | fileNameInvalid
  | fileNameTooLong
  | negativeClockSpeed
  | clockSpeedTooLarge
  | clockSpeedBlank
  /-- The processor halted during a run; `dump` shows where. -/
  | emulationHalted (dump : String)
  | keyMapSize
  | keyMapNotInteger
  | keyMapDuplicate
  | keyMapBlank
  | paletteSize
  | colourLength
  | colourInvalid
  | colourNegative
  | paletteBlank
  | scaleBlank
  | rendererBlank
  | windowUnavailable
  | zeroFrequency
  /-- A wave so long that its length is no number. -/
  | waveUnbounded
  | noSound
deriving DecidableEq, Repr

def Fault.message : Fault → String
  | .addressOutside location => "Memory overflow at 0x" ++ Hex.padded 4 location
  | .indexOutside => "Index out of range"
  | .notAByte => "Value does not fit in a byte"
  | .sizeMismatch => "Block does not fit the space it is stored in"
  | .negativeSize => "Size cannot be negative"
  | .sizeTooLarge => "Size is too large"
  | .outOfMemory => "Out of memory"
  | .stackOverflow => "Stack overflow"
  | .stackUnderflow => "Stack underflow"
  | .keyOutside key => "Key 0x" ++ Hex.padded 1 key ++ " is outside the keypad"
  | .screenNotPositive => "Display dimensions must be positive"
  | .gridMismatch => "Pixel data does not match the display size"
  | .programTooLarge size =>
    "ROM is " ++ toString size ++ " bytes, but only " ++ toString programLimit ++
      " bytes are available from 0x" ++ Hex.padded 3 programStart
  | .fileTooLarge name size =>
    "ROM '" ++ name ++ "' is " ++ toString size ++ " bytes, which is over the " ++
      toString programLimit ++ " byte limit"
  | .fileMissing => "No such file or directory"
  | .fileIsDirectory => "Is a directory"
  | .fileNotDirectory => "Not a directory"
  | .fileNameInvalid => "Embedded null byte"
  | .fileNameTooLong => "File name too long"
  | .negativeClockSpeed => "Clock speed cannot be negative"
  | .clockSpeedTooLarge => "Clock speed is too large"
  | .clockSpeedBlank => "Clock speed has no value"
  | .emulationHalted dump => "Emulation halted.\n\n" ++ About.intro ++ "Debug info:\n" ++ dump
  | .keyMapSize => "Incorrect number of keys defined -- 16 required.  Use commas to split numbers"
  | .keyMapNotInteger => "Defined keys are not all integer values"
  | .keyMapDuplicate => "Duplicate keys defined"
  | .keyMapBlank => "Key map has no value"
  | .paletteSize => "Too many palette colours defined."
  | .colourLength => "Palette colours must all be 6 hex digits long."
  | .colourInvalid => "Invalid palette colour defined."
  | .colourNegative => "Colour cannot be negative"
  | .paletteBlank => "Palette has no value"
  | .scaleBlank => "Scale has no value"
  | .rendererBlank => "Renderer has no value"
  | .windowUnavailable => "PyGame does not appear to be installed."
  | .zeroFrequency => "Division by zero"
  | .waveUnbounded => "Wave length is not finite"
  | .noSound => "No sound has been made"

/-- The state that a change has led to, and the fault that stopped it there, if one did. Nothing
is undone: what was changed before the stop stays changed. -/
abbrev Attempt (State : Type) :=
  State × Option Fault

namespace Attempt

variable {State Part Value : Type}

/-- A change made only if a check before it succeeds, with what the check gave. -/
def guarded (state : State) (checked : Except Fault Value) (change : Value → Attempt State) :
    Attempt State :=
  match checked with
  | .error fault => (state, some fault)
  | .ok value => change value

/-- Goes on from the state reached, unless the change was stopped. -/
def andThen (attempt : Attempt State) (next : State → Attempt State) : Attempt State :=
  match attempt with
  | (state, some fault) => (state, some fault)
  | (state, none) => next state

/-- The change of a part as a change of the whole. -/
def within (attempt : Attempt Part) (rebuild : Part → State) : Attempt State :=
  (rebuild attempt.1, attempt.2)

/-- What a caller is told of a change. -/
def result (attempt : Attempt State) : Except Fault State :=
  match attempt with
  | (_, some fault) => .error fault
  | (state, none) => .ok state

@[simp] theorem andThen_none (state : State) (next : State → Attempt State) :
    andThen (state, none) next = next state :=
  rfl

@[simp] theorem andThen_some (state : State) (fault : Fault) (next : State → Attempt State) :
    andThen (state, some fault) next = (state, some fault) :=
  rfl

end Attempt

end Chip8
