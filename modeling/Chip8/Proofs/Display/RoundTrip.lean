import Chip8.Proofs.Display.Grid

/-!
Contract: a screen and its grid go back and forth, whatever the size of the screen.

Owns:
- `Resolution.pixelIn`, the pixel that a grid has at a point, and that it is the one of the screen;
- `Display.truths`, the grid of rows of any values, and that a screen they were loaded into has
  this grid;
- that rows of another shape are refused and change no screen.

Does not own: the marks of screens that are shown again.
-/

namespace Chip8

/-- The pixel of a grid at a point, whose coordinates wrap. -/
def Resolution.pixelIn (resolution : Resolution) (rows : Grid) (x y : Int) : Option Bool :=
  rows[(y % resolution.height).toNat]?.bind fun row => row[(x % resolution.width).toNat]?

namespace Display

variable {resolution : Resolution} {Value : Type}

/-- A grid of the values that hold. -/
def truths [Truth Value] (rows : List (List Value)) : Grid :=
  rows.map fun row => row.map Truth.holds

/-! ### Pixels of a grid -/

/-- Where a point comes in again it has the same cell. -/
theorem cell_emod (resolution : Resolution) (x y : Int) :
    resolution.cell (x % resolution.width).toNat (y % resolution.height).toNat =
      resolution.cell x y :=
  Fin.ext (val_cell (Resolution.toNat_emod_lt resolution.width_pos x)
    (Resolution.toNat_emod_lt resolution.height_pos y))

theorem pixelIn_grid (display : Display resolution) (x y : Int) :
    resolution.pixelIn display.grid x y = some (display.pixelAt x y) := by
  have rowInside := Resolution.toNat_emod_lt resolution.height_pos y
  have columnInside := Resolution.toNat_emod_lt resolution.width_pos x
  rw [Resolution.pixelIn, grid_eq_table, List.getElem?_map, List.getElem?_range rowInside,
    Option.map_some, Option.bind_some, List.getElem?_map, List.getElem?_range columnInside,
    Option.map_some]
  unfold pixelAt
  rw [cell_emod]

/-! ### Screens that hold rows -/

theorem pixelByte_bne_dark (isLit : Bool) : (pixelByte isLit != dark) = isLit := by
  cases isLit <;> rfl

/-- Grids of one shape that are the same row after row are the same. -/
theorem eq_of_flatten_eq {left right : Grid} (leftFits : Fits resolution left)
    (rightFits : Fits resolution right) (same : left.flatten = right.flatten) : left = right := by
  have widths : ∀ {rows : Grid}, Fits resolution rows →
      rows.map List.length = List.replicate resolution.height resolution.width := by
    intro rows fits
    rw [List.eq_replicate_iff, List.length_map]
    refine ⟨fits.1, ?_⟩
    intro width member
    obtain ⟨row, rowMember, rfl⟩ := List.mem_map.mp member
    exact fits.2 row rowMember
  rw [List.eq_iff_flatten_eq]
  exact ⟨same, (widths leftFits).trans (widths rightFits).symm⟩

variable [Truth Value]

theorem fits_truths {rows : List (List Value)} (fits : Fits resolution rows) :
    Fits resolution (truths rows) := by
  simpa only [Fits, truths, List.length_map, List.forall_mem_map] using fits

/-- What is read off a screen that holds rows of values are their truths. -/
theorem Shows.grid_eq {shown : Display resolution} {rows : List (List Value)}
    (holdsRows : shown.Shows rows) : shown.grid = truths rows := by
  apply eq_of_flatten_eq (fits_grid shown) (fits_truths holdsRows.fits)
  calc shown.grid.flatten
      = (bytesOf rows.flatten).map (· != dark) := by rw [flatten_grid, holdsRows.pixels]
    _ = rows.flatten.map ((· != dark) ∘ fun value => pixelByte (Truth.holds value)) :=
        List.map_map
    _ = rows.flatten.map Truth.holds :=
        List.map_congr_left fun value _ => pixelByte_bne_dark (Truth.holds value)
    _ = (truths rows).flatten := List.map_flatten

/-- The grid of a two-valued screen has the shape of the screen and at every point, coordinates
beyond its edges included, the pixel of the screen; loaded into any other screen it gives it the
same pixels. Rows of values of the right shape can be loaded into any screen, which then has the
grid of their truths; those of any other shape are refused and change nothing. -/
theorem grid_round_trips {display : Display resolution} (twoValued : display.TwoValued) :
    (Fits resolution display.grid ∧
        (∀ x y, resolution.pixelIn display.grid x y = some (display.pixelAt x y)) ∧
        ∀ other : Display resolution,
          other.load display.grid = ({ display with dirty := true }, none)) ∧
      ∀ (Value : Type) [Truth Value] (other : Display resolution) (rows : List (List Value)),
        (Fits resolution rows → ∃ shown : Display resolution,
          other.load rows = (shown, none) ∧ shown.grid = truths rows ∧ shown.dirty = true) ∧
        (¬Fits resolution rows → other.load rows = (other, some .gridMismatch)) := by
  refine ⟨⟨fits_grid display, pixelIn_grid display, load_grid twoValued⟩, ?_⟩
  intro Value _ other rows
  constructor
  · intro fits
    obtain ⟨shown, loaded, holdsRows⟩ := other.load_of_fits fits
    exact ⟨shown, loaded, holdsRows.grid_eq, holdsRows.dirty⟩
  · exact other.load_of_not_fits

/-- A screen of three columns and two rows with one lit pixel, and rows that are ragged. -/
theorem grid_round_trips_on_small_screen :
    let small : Resolution := ⟨3, 2, by decide, by decide⟩
    let display : Display small := (blank.flip 4 (-1)).1
    let ragged := [[true, false, true], [true]]
    display.TwoValued ∧ display.grid = [[false, false, false], [false, true, false]] ∧
      small.pixelIn display.grid (-2) 3 = some true ∧
      blank.load display.grid = (display, none) ∧
      ¬Fits small ragged ∧ display.load ragged = (display, some .gridMismatch) := by
  intro small display ragged
  have twoValued : display.TwoValued := twoValued_blank.flip 4 (-1)
  have misshaped : ¬Fits small ragged := by decide
  obtain ⟨⟨-, pixels, back⟩, rowsOfValues⟩ := grid_round_trips twoValued
  have lit : display.pixelAt (-2) 3 = true := by decide
  refine ⟨twoValued, by decide, ?_, back blank, misshaped, ?_⟩
  · rw [pixels, lit]
  · exact (rowsOfValues Bool display ragged).2 misshaped

end Display

end Chip8
