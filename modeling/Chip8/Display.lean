import Chip8.Bank
import Chip8.Truth

/-!
Contract: a screen of lit and dark pixels on which sprites are drawn by switching pixels over.

Owns:
- `Resolution`, a positive width and height, and the cell of a point with coordinates that wrap;
- `Display`, one byte of its bank for each pixel, and the mark that it changed since it was shown;
- `Display.draw`, which visits the points of a sprite row by row;
- `Display.grid`, which reads a screen off from the cells at which its rows start, and
  `Display.load`, which writes rows of values to a screen one pixel at a time.

Does not own: how a grid is shown.
-/

namespace Chip8

structure Resolution where
  width : Nat
  height : Nat
  width_pos : 0 < width
  height_pos : 0 < height
deriving DecidableEq, Repr

namespace Resolution

def standard : Resolution :=
  ⟨screenWidth, screenHeight, by decide, by decide⟩

/-- A resolution with room for the bank of its pixels. -/
def ofInts (room : Extent.Room) (width height : Int) : Except Fault Resolution :=
  if positive : 0 < width ∧ 0 < height then
    (Bank.sizeOf room (width * height)).map fun _ =>
      ⟨width.toNat, height.toNat, by omega, by omega⟩
  else
    .error .screenNotPositive

def area (resolution : Resolution) : Nat :=
  resolution.width * resolution.height

theorem toNat_emod_lt {size : Nat} (sizePositive : 0 < size) (position : Int) :
    (position % size).toNat < size := by
  have below := Int.emod_lt_of_pos position (by omega : (0 : Int) < size)
  omega

def column (resolution : Resolution) (x : Int) : Fin resolution.width :=
  ⟨(x % resolution.width).toNat, toNat_emod_lt resolution.width_pos x⟩

def row (resolution : Resolution) (y : Int) : Fin resolution.height :=
  ⟨(y % resolution.height).toNat, toNat_emod_lt resolution.height_pos y⟩

theorem cell_lt {width height column row : Nat} (columnLt : column < width)
    (rowLt : row < height) : row * width + column < width * height := by
  have below : (row + 1) * width ≤ height * width := Nat.mul_le_mul_right width rowLt
  rw [Nat.add_mul] at below
  rw [Nat.mul_comm width height]
  omega

/-- Cells are counted row by row; points beyond an edge come in again at the other side. -/
def cell (resolution : Resolution) (x y : Int) : Fin resolution.area :=
  ⟨(resolution.row y).val * resolution.width + (resolution.column x).val,
    cell_lt (resolution.column x).isLt (resolution.row y).isLt⟩

/-- The cells at which the rows start: every `width` cells, as long as there are more. -/
def rowStarts (resolution : Resolution) : List Nat :=
  List.range' 0 ((resolution.area + resolution.width - 1) / resolution.width) resolution.width

theorem length_rowStarts (resolution : Resolution) :
    resolution.rowStarts.length = resolution.height := by
  rw [rowStarts, List.length_range', area, Nat.add_sub_assoc resolution.width_pos,
    Nat.mul_add_div resolution.width_pos,
    Nat.div_eq_of_lt (Nat.sub_one_lt_of_lt resolution.width_pos), Nat.add_zero]

theorem getElem_rowStarts (resolution : Resolution) {y : Nat}
    (inside : y < resolution.rowStarts.length) :
    resolution.rowStarts[y] = y * resolution.width := by
  simp only [rowStarts, List.getElem_range', Nat.zero_add, Nat.mul_comm]

/-- A whole row stands behind every start. -/
theorem add_width_le_of_mem_rowStarts {resolution : Resolution} {start : Nat}
    (starts : start ∈ resolution.rowStarts) : start + resolution.width ≤ resolution.area := by
  obtain ⟨y, inside, rfl⟩ := List.getElem_of_mem starts
  have rowLt : y < resolution.height := resolution.length_rowStarts ▸ inside
  have below : (y + 1) * resolution.width ≤ resolution.height * resolution.width :=
    Nat.mul_le_mul_right resolution.width rowLt
  rw [resolution.getElem_rowStarts inside, area, Nat.mul_comm resolution.width]
  rw [Nat.succ_mul] at below
  exact below

end Resolution

/-- The rows of a screen from top to bottom, each from left to right. -/
abbrev Grid := List (List Bool)

structure Display (resolution : Resolution) where
  pixels : Bank resolution.area
  /-- Something was drawn since the screen was last shown. -/
  dirty : Bool
deriving DecidableEq, Repr

namespace Display

variable {resolution : Resolution}

def lit : UInt8 := 0xFF

def dark : UInt8 := 0x00

def pixelByte (isLit : Bool) : UInt8 :=
  if isLit then lit else dark

def blank : Display resolution :=
  ⟨Bank.blank resolution.area, true⟩

def clear (_ : Display resolution) : Display resolution :=
  blank

def pixelAt (display : Display resolution) (x y : Int) : Bool :=
  display.pixels.get (resolution.cell x y) != dark

/-- Switches one pixel over and tells whether it was lit. -/
def flip (display : Display resolution) (x y : Int) : Display resolution × Bool :=
  let place := resolution.cell x y
  let before := display.pixels.get place
  (⟨display.pixels.set place (before ^^^ 0xFF), true⟩, before != dark)

/-- Bit 7 of a row is its leftmost pixel; all higher bits are off the sprite. -/
def rowBit (row : Int) (column : Nat) : Bool :=
  row >>> (spriteWidth - 1 - column) % 2 == 1

/-- The points that a sprite switches over, in drawing order. -/
def points (x y : Int) : List Int → List (Int × Int)
  | [] => []
  | row :: below =>
    ((List.range spriteWidth).filter (rowBit row)).map (fun (column : Nat) => (x + column, y)) ++
      points x (y + 1) below

/-- Draws every point, also after one was switched off; the flag tells whether any was. -/
def draw (display : Display resolution) (x y : Int) (rows : List Int) :
    Display resolution × Bool :=
  (points x y rows).foldl
    (fun drawn point =>
      let flipped := drawn.1.flip point.1 point.2
      (flipped.1, drawn.2 || flipped.2))
    (display, false)

/-! ### Screens as rows -/

/-- The pixels of the row that starts at a cell. -/
def rowFrom (display : Display resolution) (start : Nat)
    (inside : start + resolution.width ≤ resolution.area) : List Bool :=
  (List.finRange resolution.width).map fun x =>
    display.pixels.get ⟨start + x.val, by omega⟩ != dark

def grid (display : Display resolution) : Grid :=
  resolution.rowStarts.pmap display.rowFrom fun _ => Resolution.add_width_le_of_mem_rowStarts

section Loading

variable {Value : Type}

/-- As many rows as a screen has, all of them as wide as the screen. -/
abbrev Fits (resolution : Resolution) (rows : List (List Value)) : Prop :=
  rows.length = resolution.height ∧ ∀ row ∈ rows, row.length = resolution.width

variable [Truth Value]

/-- Writes values to the cells of row `y` from column `x` on. -/
def writeRow (y : Nat) : Nat → List Value → Display resolution → Attempt (Display resolution)
  | _, [], display => (display, none)
  | x, value :: right, display =>
    let byte := pixelByte (Truth.holds value)
    match display.pixels.write (y * resolution.width + x : Nat) byte with
    | .error fault => (display, some fault)
    | .ok pixels => writeRow y (x + 1) right { display with pixels := pixels }

/-- Writes rows of values from row `y` on. -/
def writeRows : Nat → List (List Value) → Display resolution → Attempt (Display resolution)
  | _, [], display => (display, none)
  | y, row :: below, display => (writeRow y 0 row display).andThen (writeRows (y + 1) below)

/-- Writes rows of values to all of a screen. Their shape is looked at first. -/
def load (display : Display resolution) (rows : List (List Value)) : Attempt (Display resolution) :=
  if Fits resolution rows then
    (writeRows 0 rows display).andThen fun written => ({ written with dirty := true }, none)
  else
    (display, some .gridMismatch)

end Loading

end Display

end Chip8
