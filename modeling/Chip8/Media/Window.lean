import Chip8.Extent
import Chip8.Host
import Chip8.Media.Palette

/-!
Contract: a window that shows the screen, one picture point for each pixel, stretched to fit.

Owns: `Window`, whose operations give the calls they make, in order. A picture is only shown if
it changed and has at least one point.
-/

namespace Chip8

structure Window where
  /-- The width of the window; its height is half of that. -/
  scale : Int
  palette : Palette
  width : Int
  height : Int
  /-- The points of the picture row by row, once there is a size. -/
  pixels : Option (List Colour)
  /-- Frames handed over so far. -/
  frames : Nat
  title : String
deriving DecidableEq, Repr

namespace Window

def defaultScale : Int := 512

def scaledSize (scale : Int) : Int × Int :=
  (scale, scale / 2)

/-- The calls before the size of a window is looked at. -/
def opening : List MediaCall :=
  [.openDisplay, .setCaption About.name]

/-- Opens a window; what came of reading the palette is looked at after that. -/
def start (scale : Option Int) (palette : Except Fault Palette) :
    List MediaCall × Except Fault Window :=
  let scale := scale.getD defaultScale
  let (width, height) := scaledSize scale
  (opening ++ [.setMode width height],
    palette.map fun palette => {
      scale := scale
      palette := palette
      width := 0
      height := 0
      pixels := none
      frames := 0
      title := "" })

/-- A screen with no columns or no rows has no picture. -/
def resize (window : Window) (width height : Int) : Window :=
  { window with
    width := width
    height := height
    pixels :=
      if width = 0 ∨ height = 0 then none
      else some (List.replicate (width * height).toNat window.palette.background) }

/-- Bytes for one point of a picture. -/
def pointSize : Nat := 3

/-- Changes the size if there is room for the picture; one with a negative number of points has
none of them. -/
def setResolution (window : Window) (room : Extent.Room) (width height : Int) :
    Except Fault Window := do
  let points := width * height
  if ¬Extent.IsWord points ∨ (Extent.greatest : Int) < points * pointSize then
    throw .sizeTooLarge
  else
    let _ ← Extent.hold room (points.toNat * pointSize)
    return window.resize width height

def colourOf (palette : Palette) (lit : Bool) : Colour :=
  if lit then palette.foreground else palette.background

def drawFrame (window : Window) (screen : Grid) : Window :=
  { window with
    pixels := some (screen.flatten.map (colourOf window.palette))
    frames := window.frames + 1 }

def refresh (window : Window) (changed : Bool) : List MediaCall :=
  match changed, window.pixels with
  | true, some (first :: rest) =>
    let (width, height) := scaledSize window.scale
    [.picture (first :: rest) window.width window.height, .scaleTo width height, .place, .flip]
  | _, _ => []

def setTitle (window : Window) (text : String) : Window × List MediaCall :=
  ({ window with title := text }, [.setCaption text])

def close : List MediaCall :=
  [.closeDisplay]

def hear (window : Window) : Signal → Window × List MediaCall
  | .resolution width height => (window.resize width height, [])
  | .frame screen => (window.drawFrame screen, [])
  | .refresh changed => (window, window.refresh changed)
  | .performance frames instructions => window.setTitle (performanceTitle frames instructions)
  | .buzzer _ | .key .. | .trace _ => (window, [])

end Window

end Chip8
