import Chip8.Proofs.Display.Sprite

/-!
Contract: a sprite that fits on a screen covers each pixel at most once.

Owns:
- `Resolution.Covers`, that a set bit of a sprite falls on a pixel;
- that no pixel is hit twice by a sprite which is neither wider nor higher than the screen, even
  where it is drawn around the edges;
- the pixels and the flag after such a sprite was drawn, with nothing to count.

Does not own: sprites that overlap themselves.
-/

namespace Chip8

/-- Offsets below a modulus that lead from one place to the same one are equal. -/
theorem offset_eq_of_emod_eq {start : Int} {size left right : Nat} (leftBelow : left < size)
    (rightBelow : right < size) (same : (start + left) % size = (start + right) % size) :
    left = right := by
  have remainders := Int.emod_add_cancel_left.mp same
  rw [Int.emod_eq_of_lt (by omega) (by omega),
    Int.emod_eq_of_lt (by omega) (by omega)] at remainders
  omega

namespace Resolution

variable {resolution : Resolution}

/-- A set bit of a sprite falls on a pixel. -/
def Covers (resolution : Resolution) (x y : Int) (rows : List Int) (pixel : Pixel resolution) :
    Prop :=
  ∃ bit : Fin rows.length × Fin 8, (rows.get bit.1).testBit (7 - bit.2.val) = true ∧
    (x + bit.2.val) % resolution.width = pixel.1.val ∧
    (y + bit.1.val) % resolution.height = pixel.2.val

instance (resolution : Resolution) (x y : Int) (rows : List Int) (pixel : Pixel resolution) :
    Decidable (resolution.Covers x y rows pixel) :=
  inferInstanceAs (Decidable (∃ bit : Fin rows.length × Fin 8,
    (rows.get bit.1).testBit (7 - bit.2.val) = true ∧
      (x + bit.2.val) % resolution.width = pixel.1.val ∧
      (y + bit.1.val) % resolution.height = pixel.2.val))

theorem hits_pos_iff {x y : Int} {rows : List Int} {pixel : Pixel resolution} :
    0 < resolution.hits x y rows pixel ↔ resolution.Covers x y rows pixel := by
  unfold hits Covers
  rw [Finset.card_pos, Finset.filter_nonempty_iff]
  simp only [Finset.mem_univ, true_and]

/-- Two bits that fall on one pixel stand in the same column and the same row. -/
theorem hits_le_one {rows : List Int} (wide : spriteWidth ≤ resolution.width)
    (high : rows.length ≤ resolution.height) (x y : Int) (pixel : Pixel resolution) :
    resolution.hits x y rows pixel ≤ 1 := by
  unfold hits
  rw [Finset.card_le_one]
  intro left leftHits right rightHits
  obtain ⟨-, -, leftColumn, leftRow⟩ := Finset.mem_filter.mp leftHits
  obtain ⟨-, -, rightColumn, rightRow⟩ := Finset.mem_filter.mp rightHits
  have narrow : ∀ column : Fin 8, column.val < resolution.width :=
    fun column => Nat.lt_of_lt_of_le column.isLt wide
  have low : ∀ row : Fin rows.length, row.val < resolution.height :=
    fun row => Nat.lt_of_lt_of_le row.isLt high
  apply Prod.ext
  · apply Fin.ext
    exact offset_eq_of_emod_eq (low left.1) (low right.1) (leftRow.trans rightRow.symm)
  · apply Fin.ext
    exact offset_eq_of_emod_eq (narrow left.2) (narrow right.2) (leftColumn.trans rightColumn.symm)

theorem hits_eq_ite {rows : List Int} (wide : spriteWidth ≤ resolution.width)
    (high : rows.length ≤ resolution.height) (x y : Int) (pixel : Pixel resolution) :
    resolution.hits x y rows pixel = if resolution.Covers x y rows pixel then 1 else 0 := by
  have atMost := hits_le_one wide high x y pixel
  by_cases covers : resolution.Covers x y rows pixel
  · have atLeast := hits_pos_iff.mpr covers
    rw [if_pos covers]
    omega
  · have none := mt hits_pos_iff.mp covers
    rw [if_neg covers]
    omega

end Resolution

namespace Display

variable {resolution : Resolution} {display : Display resolution} {rows : List Int}
  (twoValued : display.TwoValued) (wide : spriteWidth ≤ resolution.width)
  (high : rows.length ≤ resolution.height) (x y : Int)

include twoValued wide high

/-- A pixel is switched over if the sprite covers it. -/
theorem isLit_draw_of_fits (pixel : Pixel resolution) :
    (display.draw x y rows).1.isLit pixel =
      (display.isLit pixel ^^ decide (resolution.Covers x y rows pixel)) := by
  have started : (display, false).1.TwoValued := twoValued
  rw [draw_eq_foldl_visit, isLit_foldl_visit started, visits_points,
    Resolution.hits_eq_ite wide high]
  by_cases covers : resolution.Covers x y rows pixel <;> simp [covers]

/-- The flag tells that a pixel went dark. -/
theorem flag_draw_of_fits :
    (display.draw x y rows).2 = true ↔ ∃ pixel : Pixel resolution,
      display.isLit pixel = true ∧ (display.draw x y rows).1.isLit pixel = false := by
  have started : (display, false).1.TwoValued := twoValued
  have switched := isLit_draw_of_fits twoValued wide high x y
  rw [draw_eq_foldl_visit, flag_foldl_visit started, ← draw_eq_foldl_visit]
  simp only [Bool.false_eq_true, false_or, switched, visits_points,
    Resolution.hits_eq_ite wide high]
  apply exists_congr
  intro pixel
  by_cases covers : resolution.Covers x y rows pixel <;> simp [covers]

end Display

end Chip8
