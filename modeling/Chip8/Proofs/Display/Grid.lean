import Chip8.Proofs.Machine.WellFormed

/-!
Contract: a screen read off row by row and written pixel by pixel has one layout.

Owns:
- `Display.grid_eq_table`, that the rows read off from their starts hold the pixels of the points;
- `Display.load_of_fits`, that writing the values of rows one by one comes to putting all their
  bytes over the screen, and `Display.Shows`, a screen written in this way;
- that the grid of a two-valued screen gives back its pixels, whatever screen it is loaded into.

Does not own: which rows are turned away.
-/

namespace Chip8.Display

variable {resolution : Resolution}

/-! ### Rows that are read -/

/-- Rows of one width laid end to end count up the cells. -/
theorem flatten_rows {Value : Type} (width height : Nat) (value : Nat → Value) :
    ((List.range height).map fun (y : Nat) =>
      (List.range width).map fun (x : Nat) => value (y * width + x)).flatten =
        (List.range (height * width)).map value := by
  induction height with
  | zero => simp
  | succ height inductionHypothesis =>
    rw [List.range_succ, List.map_append, List.flatten_append, inductionHypothesis, Nat.succ_mul,
      List.range_add, List.map_append, List.map_map]
    simp [Function.comp_def]

theorem val_cell {x y : Nat} (xInside : x < resolution.width) (yInside : y < resolution.height) :
    (resolution.cell x y).val = y * resolution.width + x := by
  have sameColumn : (resolution.column x).val = x := by
    simp only [Resolution.column]
    rw [Int.emod_eq_of_lt (by omega) (by omega), Int.toNat_natCast]
  have sameRow : (resolution.row y).val = y := by
    simp only [Resolution.row]
    rw [Int.emod_eq_of_lt (by omega) (by omega), Int.toNat_natCast]
  simp only [Resolution.cell, sameColumn, sameRow]

/-- The row that starts at the cell of the first point of row `y` holds the pixels of its points. -/
theorem rowFrom_eq (display : Display resolution) {y : Nat} (yInside : y < resolution.height)
    (inside : y * resolution.width + resolution.width ≤ resolution.area) :
    display.rowFrom (y * resolution.width) inside =
      (List.range resolution.width).map fun (x : Nat) => display.pixelAt x y := by
  apply List.ext_getElem
  · rw [rowFrom, List.length_map, List.length_finRange, List.length_map, List.length_range]
  · intro x inRow _
    have xInside : x < resolution.width := by
      rw [rowFrom, List.length_map, List.length_finRange] at inRow
      exact inRow
    have sameCell : resolution.cell x y = ⟨y * resolution.width + x, by omega⟩ :=
      Fin.ext (val_cell xInside yInside)
    simp only [rowFrom, List.getElem_map, List.getElem_finRange, List.getElem_range, pixelAt,
      sameCell]
    rfl

/-- Rows read off from their starts are those of a table of all points. -/
theorem grid_eq_table (display : Display resolution) :
    display.grid = (List.range resolution.height).map fun (y : Nat) =>
      (List.range resolution.width).map fun (x : Nat) => display.pixelAt x y := by
  apply List.ext_getElem
  · rw [grid, List.length_pmap, resolution.length_rowStarts, List.length_map, List.length_range]
  · intro y inGrid _
    rw [grid, List.length_pmap] at inGrid
    have yInside : y < resolution.height := resolution.length_rowStarts ▸ inGrid
    simp only [grid, List.getElem_pmap, resolution.getElem_rowStarts inGrid, List.getElem_map,
      List.getElem_range]
    exact display.rowFrom_eq yInside _

/-- A grid tells of pixels alone. -/
theorem grid_congr {left right : Display resolution} (same : left.pixels = right.pixels) :
    left.grid = right.grid := by
  obtain ⟨leftPixels, leftDirty⟩ := left
  obtain rfl : leftPixels = right.pixels := same
  rfl

theorem fits_grid (display : Display resolution) : Fits resolution display.grid := by
  rw [grid_eq_table]
  refine ⟨by simp, ?_⟩
  intro row member
  obtain ⟨y, -, rfl⟩ := List.mem_map.mp member
  simp

theorem length_flatten_of_fits {Value : Type} {width : Nat} {rows : List (List Value)}
    (widths : ∀ row ∈ rows, row.length = width) :
    rows.flatten.length = width * rows.length := by
  induction rows with
  | nil => simp
  | cons row below inductionHypothesis =>
    have first := widths row (by simp)
    have rest := inductionHypothesis fun other member => widths other (by simp [member])
    simp only [List.flatten_cons, List.length_append, List.length_cons, first, rest, Nat.mul_add]
    omega

/-- The rows of a grid laid end to end are the bytes of the pixels in order. -/
theorem flatten_grid (display : Display resolution) :
    display.grid.flatten = display.pixels.toList.map (· != dark) := by
  have pixelOfCell : ∀ y < resolution.height, ∀ x < resolution.width,
      display.pixelAt x y =
        (display.pixels.toList.getD (y * resolution.width + x) dark != dark) := by
    intro y yInside x xInside
    rw [List.getD_eq_getElem?_getD, ← val_cell xInside yInside, Bank.getElem?_toList]
    rfl
  have rows : display.grid = (List.range resolution.height).map fun (y : Nat) =>
      (List.range resolution.width).map fun (x : Nat) =>
        display.pixels.toList.getD (y * resolution.width + x) dark != dark := by
    rw [grid_eq_table]
    apply List.map_congr_left
    intro y yMember
    apply List.map_congr_left
    intro x xMember
    exact pixelOfCell y (List.mem_range.mp yMember) x (List.mem_range.mp xMember)
  rw [rows, flatten_rows resolution.width resolution.height
    fun cell => display.pixels.toList.getD cell dark != dark]
  apply List.ext_getElem
  · rw [List.length_map, List.length_map, List.length_range, Bank.length_toList]
    exact Nat.mul_comm _ _
  · intro cell inRange inBank
    simp only [List.length_map] at inBank
    simp [List.getElem?_eq_getElem inBank]

/-! ### Rows that are written -/

section Loading

variable {Value : Type} [Truth Value]

/-- The bytes that values are written as. -/
def bytesOf (values : List Value) : List UInt8 :=
  values.map fun value => pixelByte (Truth.holds value)

@[simp] theorem bytesOf_cons (value : Value) (right : List Value) :
    bytesOf (value :: right) = pixelByte (Truth.holds value) :: bytesOf right :=
  rfl

@[simp] theorem bytesOf_append (left right : List Value) :
    bytesOf (left ++ right) = bytesOf left ++ bytesOf right :=
  List.map_append

@[simp] theorem length_bytesOf (values : List Value) : (bytesOf values).length = values.length :=
  List.length_map _

/-- The values of a row are written next to each other. -/
theorem writeRow_eq (display : Display resolution) {y x : Nat} {row : List Value}
    (yInside : y < resolution.height) (fits : x + row.length ≤ resolution.width) :
    writeRow y x row display =
      ({ display with
        pixels := display.pixels.overlay (y * resolution.width + x) (bytesOf row) }, none) := by
  induction row generalizing x display with
  | nil => rfl
  | cons value right inductionHypothesis =>
    rw [List.length_cons] at fits
    have inside : y * resolution.width + x < resolution.area :=
      Resolution.cell_lt (by omega) yInside
    have holds : Bank.Holds resolution.area (y * resolution.width + x : Nat) :=
      ⟨Int.natCast_nonneg _, Int.ofNat_lt.mpr inside⟩
    rw [writeRow, Bank.write_of_holds _ holds]
    dsimp only
    rw [inductionHypothesis _ (by omega), bytesOf_cons, Bank.overlay_cons _ inside]
    rfl

/-- Every row begins where the one above it has ended. -/
theorem writeRows_eq (display : Display resolution) {y : Nat} {rows : List (List Value)}
    (widths : ∀ row ∈ rows, row.length = resolution.width)
    (fits : y + rows.length ≤ resolution.height) :
    writeRows y rows display =
      ({ display with
        pixels := display.pixels.overlay (y * resolution.width) (bytesOf rows.flatten) },
        none) := by
  induction rows generalizing y display with
  | nil => rfl
  | cons row below inductionHypothesis =>
    obtain ⟨width, widthsBelow⟩ := List.forall_mem_cons.mp widths
    rw [List.length_cons] at fits
    have nextStart : (y + 1) * resolution.width =
        y * resolution.width + (bytesOf row).length := by
      rw [Nat.succ_mul, length_bytesOf, width]
    rw [writeRows, writeRow_eq display (by omega) (by omega), Attempt.andThen_none,
      inductionHypothesis _ widthsBelow (by omega), List.flatten_cons, bytesOf_append,
      Bank.overlay_append, nextStart]
    rfl

/-- A screen that holds rows of values and has to be shown. -/
structure Shows (display : Display resolution) (rows : List (List Value)) : Prop where
  fits : Fits resolution rows
  pixels : display.pixels.toList = bytesOf rows.flatten
  dirty : display.dirty = true

theorem Shows.unique {left right : Display resolution} {rows : List (List Value)}
    (leftShows : left.Shows rows) (rightShows : right.Shows rows) : left = right := by
  obtain ⟨⟨leftPixels⟩, leftDirty⟩ := left
  obtain ⟨⟨rightPixels⟩, rightDirty⟩ := right
  obtain rfl : leftDirty = rightDirty := leftShows.dirty.trans rightShows.dirty.symm
  obtain rfl : leftPixels = rightPixels :=
    Vector.toList_inj.mp (leftShows.pixels.trans rightShows.pixels.symm)
  rfl

/-- Rows of the right shape are shown by any screen that they are loaded into. -/
theorem load_of_fits (display : Display resolution) {rows : List (List Value)}
    (fits : Fits resolution rows) :
    ∃ shown : Display resolution, display.load rows = (shown, none) ∧ shown.Shows rows := by
  have length : (bytesOf rows.flatten).length = resolution.area := by
    rw [length_bytesOf, length_flatten_of_fits fits.2, fits.1]
    rfl
  unfold load
  rw [if_pos fits, writeRows_eq display fits.2 (by rw [fits.1]; omega), Attempt.andThen_none,
    Nat.zero_mul]
  exact ⟨_, rfl, fits, display.pixels.toList_overlay length, rfl⟩

theorem load_of_not_fits (display : Display resolution) {rows : List (List Value)}
    (misfits : ¬Fits resolution rows) : display.load rows = (display, some .gridMismatch) :=
  if_neg misfits

end Loading

/-! ### Grids that are loaded -/

theorem pixelByte_ne_dark {byte : UInt8} (twoValued : byte = lit ∨ byte = dark) :
    pixelByte (byte != dark) = byte := by
  rcases twoValued with rfl | rfl <;> decide

/-- Every pixel of a two-valued screen is the byte written for what is read off of it. -/
theorem TwoValued.shows_grid {display : Display resolution} (twoValued : display.TwoValued) :
    { display with dirty := true }.Shows display.grid where
  fits := fits_grid display
  dirty := rfl
  pixels := by
    rw [flatten_grid, bytesOf, List.map_map]
    apply List.ext_getElem (by simp)
    intro cell inBank _
    have cellLt : cell < resolution.area := by
      rw [← Bank.length_toList display.pixels]
      exact inBank
    rw [List.getElem_map]
    symm
    apply pixelByte_ne_dark
    simpa [Bank.toList, Bank.get] using twoValued ⟨cell, cellLt⟩

/-- The grid of a two-valued screen gives any other screen the same pixels. -/
theorem load_grid {display : Display resolution} (twoValued : display.TwoValued)
    (other : Display resolution) :
    other.load display.grid = ({ display with dirty := true }, none) := by
  obtain ⟨shown, loaded, holdsGrid⟩ := other.load_of_fits (fits_grid display)
  rw [loaded, holdsGrid.unique twoValued.shows_grid]

end Chip8.Display
