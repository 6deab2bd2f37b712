import Chip8.Fault
import Chip8.Media.Call
import Chip8.Text.Numeral
import Chip8.Text.Pieces

/-!
Contract: the two colours of the screen.

Owns: `Palette` and `Palette.ofText`, which reads up to two colours of six hexadecimal characters
between commas. Colours that are not given keep their default. A colour may be written as any
hexadecimal numeral of that length, so one may be negative, which only shows when it is split
into its three parts.
-/

namespace Chip8

structure Palette where
  background : Colour
  foreground : Colour
deriving DecidableEq, Repr

/-- The three bytes of a colour number. -/
def Colour.ofNumber (number : Int) : Except Fault Colour :=
  if 0 ≤ number ∧ number < 0x1000000 then
    .ok ⟨UInt8.ofNat (number / 0x10000).toNat, UInt8.ofNat (number / 0x100 % 0x100).toNat,
      UInt8.ofNat (number % 0x100).toNat⟩
  else
    .error .colourNegative

namespace Palette

def defaultBackground : Int := 0x222222

def defaultForeground : Int := 0xDDDDDD

def readNumber (piece : List Char) : Except Fault Int :=
  if piece.length ≠ 6 then .error .colourLength
  else match Text.hexadecimal piece with
    | none => .error .colourInvalid
    | some number => .ok number

def readNumbers : List (List Char) → Except Fault (List Int)
  | [] => .ok []
  | piece :: rest => do return (← readNumber piece) :: (← readNumbers rest)

def ofNumbers (numbers : List Int) : Except Fault Palette := do
  let background ← Colour.ofNumber (numbers[0]?.getD defaultBackground)
  let foreground ← Colour.ofNumber (numbers[1]?.getD defaultForeground)
  return ⟨background, foreground⟩

def ofText (text : Option String) : Except Fault Palette :=
  match text with
  | none => ofNumbers []
  | some text =>
    let texts := Text.pieces ',' text.toList
    if 2 < texts.length then .error .paletteSize
    else (readNumbers texts).bind ofNumbers

end Palette

end Chip8
