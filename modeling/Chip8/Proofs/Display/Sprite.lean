import Mathlib.Algebra.BigOperators.Fin
import Mathlib.Data.Int.Bitwise
import Chip8.Proofs.Display.Points

/-!
Contract: a sprite switches each pixel over once for every bit that falls on it.

Owns:
- `Resolution.hits`, the number of bits of a sprite that fall on a pixel, on a screen of any size;
- that the points of a sprite visit each pixel as often as it is hit;
- the pixels, the flag and the mark of a screen after a sprite was drawn, read off the hits.

Does not own: the rows of a sprite in memory.
-/

namespace Chip8

/-- How many bits of a sprite fall on a pixel: the pairs of a row and a column of the sprite whose
bit is set and whose place, counted around the edges of the screen, is the pixel. The leftmost
column of a row is its bit 7. -/
def Resolution.hits (resolution : Resolution) (x y : Int) (rows : List Int)
    (pixel : Pixel resolution) : Nat :=
  (Finset.univ.filter fun (bit : Fin rows.length × Fin 8) =>
    (rows.get bit.1).testBit (7 - bit.2.val) = true ∧
      (x + bit.2.val) % resolution.width = pixel.1.val ∧
      (y + bit.1.val) % resolution.height = pixel.2.val).card

namespace Display

variable {resolution : Resolution}

/-! ### Hits and visits -/

theorem rowBit_eq_testBit (row : Int) (column : Nat) :
    rowBit row column = row.testBit (7 - column) := by
  have ofNatural : ∀ number place : Nat,
      number.testBit place = decide (number >>> place % 2 = 1) := by
    intro number place
    rw [Nat.testBit_eq_decide_div_mod_eq, Nat.shiftRight_eq_div_pow]
  cases row with
  | ofNat number =>
    have shifted : rowBit (Int.ofNat number) column =
        (((number >>> (7 - column) : Nat) : Int) % 2 == 1) :=
      rfl
    rw [shifted, Int.testBit, ofNatural, Bool.eq_iff_iff, beq_iff_eq, decide_eq_true_iff]
    omega
  | negSucc number =>
    have shifted : rowBit (Int.negSucc number) column =
        (Int.negSucc (number >>> (7 - column)) % 2 == 1) :=
      rfl
    rw [shifted, Int.testBit, ofNatural, Bool.eq_iff_iff, beq_iff_eq, Bool.not_eq_true',
      decide_eq_false_iff_not]
    omega

theorem countP_range (count : Nat) (chosen : Nat → Bool) :
    (List.range count).countP chosen =
      ∑ column : Fin count, if chosen column.val = true then 1 else 0 := by
  induction count with
  | zero => rfl
  | succ count inductionHypothesis =>
    rw [List.range_succ, List.countP_append, inductionHypothesis, Fin.sum_univ_castSucc,
      List.countP_singleton]
    rfl

/-- The hits of one row, column by column. -/
theorem visits_row (x y row : Int) (pixel : Pixel resolution) :
    visits (((List.range spriteWidth).filter (rowBit row)).map
        fun (column : Nat) => (x + column, y)) pixel =
      ∑ column : Fin 8, if row.testBit (7 - column.val) = true ∧
        (x + column.val) % resolution.width = pixel.1.val ∧
        y % resolution.height = pixel.2.val then 1 else 0 := by
  unfold visits
  rw [List.countP_map, List.countP_filter, countP_range]
  apply Finset.sum_congr rfl
  intro column _
  congr 1
  rw [Function.comp_apply, Bool.and_eq_true, decide_eq_true_iff, Resolution.pixelOf_eq_iff,
    rowBit_eq_testBit]
  exact propext and_comm

theorem hits_cons (x y row : Int) (below : List Int) (pixel : Pixel resolution) :
    resolution.hits x y (row :: below) pixel =
      visits (((List.range spriteWidth).filter (rowBit row)).map
        fun (column : Nat) => (x + column, y)) pixel + resolution.hits x (y + 1) below pixel := by
  unfold Resolution.hits
  rw [visits_row, Finset.card_filter, Finset.card_filter, Fintype.sum_prod_type,
    Fintype.sum_prod_type]
  refine (Fin.sum_univ_succ _).trans (congrArg₂ (· + ·) ?_ ?_)
  · apply Finset.sum_congr rfl
    intro column _
    simp
  · apply Finset.sum_congr rfl
    intro place _
    apply Finset.sum_congr rfl
    intro column _
    have lower : y + ((place.succ : Fin _).val : Int) = y + 1 + place.val := by
      rw [Fin.val_succ]
      omega
    dsimp only
    rw [lower]
    rfl

/-- The points of a sprite visit a pixel as often as its bits fall on it. -/
theorem visits_points (x y : Int) (rows : List Int) (pixel : Pixel resolution) :
    visits (points x y rows) pixel = resolution.hits x y rows pixel := by
  induction rows generalizing y with
  | nil =>
    have noHits : resolution.hits x y [] pixel = 0 := by
      rw [Resolution.hits, Finset.card_eq_zero, Finset.filter_eq_empty_iff]
      exact fun bit _ => bit.1.elim0
    rw [noHits]
    rfl
  | cons row below inductionHypothesis =>
    rw [points, hits_cons, ← inductionHypothesis]
    exact List.countP_append

theorem dirty_draw_iff (display : Display resolution) (x y : Int) (rows : List Int) :
    (display.draw x y rows).1.dirty = true ↔
      display.dirty = true ∨ points x y rows ≠ [] := by
  by_cases none : points x y rows = []
  · rw [draw_of_points_nil display none]
    simp [none]
  · simp [dirty_draw display none, none]

/-- On a screen of any size, whatever the place and the rows of a sprite: a pixel is lit afterwards
if it was lit and hit an even number of times or was dark and hit an odd number of times; the bytes
stay two-valued; the flag tells of a pixel that was hit twice, or hit and lit before; and the screen
is marked if it was marked or some pixel was hit. -/
theorem draw_eq_hits {display : Display resolution} (twoValued : display.TwoValued) (x y : Int)
    (rows : List Int) :
    let drawn := display.draw x y rows
    let hits := resolution.hits x y rows
    (∀ pixel, drawn.1.isLit pixel = (display.isLit pixel ^^ decide (hits pixel % 2 = 1))) ∧
      drawn.1.TwoValued ∧
      (drawn.2 = true ↔ ∃ pixel, 2 ≤ hits pixel ∨ (1 ≤ hits pixel ∧ display.isLit pixel = true)) ∧
      (drawn.1.dirty = true ↔ display.dirty = true ∨ ∃ pixel, 1 ≤ hits pixel) := by
  intro drawn hits
  have sameHits : hits = visits (points x y rows) :=
    funext fun pixel => (visits_points x y rows pixel).symm
  have isDrawn : drawn = (points x y rows).foldl visit (display, false) :=
    draw_eq_foldl_visit display x y rows
  have started : (display, false).1.TwoValued := twoValued
  rw [sameHits]
  refine ⟨?_, twoValued.draw x y rows, ?_, ?_⟩
  · intro pixel
    rw [isDrawn]
    exact isLit_foldl_visit started _ pixel
  · rw [isDrawn, flag_foldl_visit started]
    simp only [Bool.false_eq_true, false_or]
  · rw [exists_visits_iff]
    exact dirty_draw_iff display x y rows

/-- On a screen of three columns and two rows a sprite of three rows hits every pixel more than
once. Its second row is negative, so it has every bit, and bit 8 of the third is off the sprite. -/
theorem draw_eq_hits_on_small_screen :
    let small : Resolution := ⟨3, 2, by decide, by decide⟩
    let display : Display small := { (blank.draw 0 0 [0x80]).1 with dirty := false }
    let rows := [0xFF, -1, 0x180]
    let corner : Pixel small := (⟨0, by decide⟩, ⟨0, by decide⟩)
    let opposite : Pixel small := (⟨2, by decide⟩, ⟨1, by decide⟩)
    let drawn := display.draw (-1) 5 rows
    display.TwoValued ∧ display.isLit corner = true ∧ display.isLit opposite = false ∧
      small.hits (-1) 5 rows corner = 3 ∧ small.hits (-1) 5 rows opposite = 4 ∧
      drawn.1.isLit corner = false ∧ drawn.1.isLit opposite = false ∧ drawn.2 = true ∧
      drawn.1.dirty = true := by
  intro small display rows corner opposite drawn
  have twoValued : display.TwoValued := twoValued_blank.draw 0 0 [0x80]
  have here : display.isLit corner = true ∧ display.isLit opposite = false ∧
      small.hits (-1) 5 rows corner = 3 ∧ small.hits (-1) 5 rows opposite = 4 := by
    decide +kernel
  obtain ⟨cornerLit, oppositeDark, threeHits, fourHits⟩ := here
  obtain ⟨pixels, -, flag, mark⟩ := draw_eq_hits twoValued (-1) 5 rows
  have cornerAfter : drawn.1.isLit corner = false := by
    rw [pixels corner, cornerLit, threeHits]
    rfl
  have oppositeAfter : drawn.1.isLit opposite = false := by
    rw [pixels opposite, oppositeDark, fourHits]
    rfl
  have switchedOff : drawn.2 = true := flag.mpr ⟨opposite, Or.inl (by omega)⟩
  have marked : drawn.1.dirty = true := mark.mpr (Or.inr ⟨corner, by omega⟩)
  exact ⟨twoValued, cornerLit, oppositeDark, threeHits, fourHits, cornerAfter, oppositeAfter,
    switchedOff, marked⟩

end Display

end Chip8
