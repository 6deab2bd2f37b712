import Chip8.Proofs.Display.Grid

/-!
Contract: what the points of a sprite do to a screen, visited one after the other.

Owns:
- `Pixel`, a place on a screen, with the pixel of a point and whether it is lit;
- that a sprite has no points exactly if all its rows are blank;
- that after a visit of points a pixel has been switched over as often as it was among them, and
  that the flag tells whether a lit pixel was switched off on the way.

Does not own: which pixels are among the points of a sprite, and how often.
-/

namespace Chip8

/-- The column and the row of a place on a screen. -/
abbrev Pixel (resolution : Resolution) := Fin resolution.width × Fin resolution.height

namespace Resolution

variable {resolution : Resolution}

/-- The pixel of a point, whose coordinates wrap. -/
def pixelOf (resolution : Resolution) (point : Int × Int) : Pixel resolution :=
  (resolution.column point.1, resolution.row point.2)

def cellOf (pixel : Pixel resolution) : Fin resolution.area :=
  resolution.cell pixel.1.val pixel.2.val

theorem val_cellOf (pixel : Pixel resolution) :
    (cellOf pixel).val = pixel.2.val * resolution.width + pixel.1.val :=
  Display.val_cell pixel.1.isLt pixel.2.isLt

theorem cellOf_pixelOf (point : Int × Int) :
    cellOf (resolution.pixelOf point) = resolution.cell point.1 point.2 :=
  Fin.ext (val_cellOf _)

/-- Different pixels have different cells. -/
theorem cellOf_inj {left right : Pixel resolution} : cellOf left = cellOf right ↔ left = right := by
  refine ⟨?_, congrArg cellOf⟩
  intro sameCell
  have same := congrArg Fin.val sameCell
  rw [val_cellOf, val_cellOf] at same
  have columns : left.1.val = right.1.val := by
    have remainders := congrArg (· % resolution.width) same
    rwa [Nat.mul_add_mod_of_lt left.1.isLt, Nat.mul_add_mod_of_lt right.1.isLt] at remainders
  rw [columns] at same
  have rows : left.2.val = right.2.val :=
    Nat.eq_of_mul_eq_mul_right resolution.width_pos (Nat.add_right_cancel same)
  exact Prod.ext (Fin.ext columns) (Fin.ext rows)

theorem pixelOf_eq_iff {point : Int × Int} {pixel : Pixel resolution} :
    resolution.pixelOf point = pixel ↔
      point.1 % resolution.width = pixel.1.val ∧ point.2 % resolution.height = pixel.2.val := by
  have widthPositive := resolution.width_pos
  have heightPositive := resolution.height_pos
  have column := Int.emod_nonneg point.1 (by omega : (resolution.width : Int) ≠ 0)
  have row := Int.emod_nonneg point.2 (by omega : (resolution.height : Int) ≠ 0)
  rw [Prod.ext_iff, Fin.ext_iff, Fin.ext_iff]
  simp only [pixelOf, Resolution.column, Resolution.row]
  omega

end Resolution

namespace Display

open Resolution (cellOf)

variable {resolution : Resolution}

/-! ### The points of a sprite -/

/-- Every byte but zero has a bit in one of the columns of a sprite. -/
theorem exists_rowBit {byte : UInt8} (notBlank : byte ≠ 0) :
    ∃ column < spriteWidth, rowBit (Int.ofNat byte.toNat) column = true := by
  have ofNumber : ∀ number < 256, number ≠ 0 →
      ∃ column < spriteWidth, rowBit (Int.ofNat number) column = true := by
    decide +kernel
  have notZero : byte.toNat ≠ 0 := fun zero => notBlank (UInt8.toNat.inj zero)
  exact ofNumber byte.toNat byte.toNat_lt notZero

theorem points_eq_nil_iff (x y : Int) (rows : List Int) :
    points x y rows = [] ↔
      ∀ row ∈ rows, ∀ column < spriteWidth, rowBit row column = false := by
  induction rows generalizing y with
  | nil => simp [points]
  | cons row below inductionHypothesis =>
    rw [points, List.append_eq_nil_iff, inductionHypothesis, List.forall_mem_cons]
    simp [List.filter_eq_nil_iff]

theorem dirty_draw (display : Display resolution) {x y : Int} {rows : List Int}
    (some : points x y rows ≠ []) : (display.draw x y rows).1.dirty = true := by
  obtain ⟨first, later, split⟩ := List.exists_cons_of_ne_nil some
  rw [draw, split, List.foldl_cons]
  exact List.foldlRecOn (motive := fun (drawn : Display resolution × Bool) =>
    drawn.1.dirty = true) later _ rfl fun _ _ _ _ => rfl

theorem draw_of_points_nil (display : Display resolution) {x y : Int} {rows : List Int}
    (none : points x y rows = []) : display.draw x y rows = (display, false) := by
  rw [draw, none, List.foldl_nil]

/-! ### A visit of points -/

def isLit (display : Display resolution) (pixel : Pixel resolution) : Bool :=
  display.pixelAt pixel.1.val pixel.2.val

/-- Switches a point over and keeps in mind whether any so far was lit. -/
def visit (drawn : Display resolution × Bool) (point : Int × Int) : Display resolution × Bool :=
  let flipped := drawn.1.flip point.1 point.2
  (flipped.1, drawn.2 || flipped.2)

theorem draw_eq_foldl_visit (display : Display resolution) (x y : Int) (rows : List Int) :
    display.draw x y rows = (points x y rows).foldl visit (display, false) :=
  rfl

theorem TwoValued.visit {drawn : Display resolution × Bool} (twoValued : drawn.1.TwoValued)
    (point : Int × Int) : (visit drawn point).1.TwoValued :=
  twoValued.flip point.1 point.2

theorem ne_dark_xor {byte : UInt8} (twoValued : byte = lit ∨ byte = dark) :
    (byte ^^^ 0xFF != dark) = !(byte != dark) := by
  rcases twoValued with rfl | rfl <;> decide

theorem isLit_visit {drawn : Display resolution × Bool} (twoValued : drawn.1.TwoValued)
    (point : Int × Int) (pixel : Pixel resolution) :
    (visit drawn point).1.isLit pixel =
      (drawn.1.isLit pixel ^^ decide (resolution.pixelOf point = pixel)) := by
  change (((drawn.1.pixels.set (resolution.cell point.1 point.2) _).get (cellOf pixel)) != dark) =
    ((drawn.1.pixels.get (cellOf pixel) != dark) ^^ _)
  rw [← Resolution.cellOf_pixelOf]
  by_cases same : resolution.pixelOf point = pixel
  · rw [same, Bank.get_set_self, ne_dark_xor (twoValued (cellOf pixel))]
    simp
  · have otherCell : cellOf pixel ≠ cellOf (resolution.pixelOf point) :=
      fun sameCell => same (Resolution.cellOf_inj.mp sameCell).symm
    rw [Bank.get_set_of_ne _ otherCell]
    simp [same]

theorem flag_visit (drawn : Display resolution × Bool) (point : Int × Int) :
    (visit drawn point).2 = (drawn.2 || drawn.1.isLit (resolution.pixelOf point)) := by
  change (drawn.2 || (drawn.1.pixels.get (resolution.cell point.1 point.2) != dark)) = _
  rw [← Resolution.cellOf_pixelOf]
  rfl

/-- How often a pixel is among points. -/
def visits (visited : List (Int × Int)) (pixel : Pixel resolution) : Nat :=
  visited.countP fun point => decide (resolution.pixelOf point = pixel)

theorem visits_cons (point : Int × Int) (later : List (Int × Int)) (pixel : Pixel resolution) :
    visits (point :: later) pixel =
      visits later pixel + if resolution.pixelOf point = pixel then 1 else 0 := by
  unfold visits
  rw [List.countP_cons]
  simp only [decide_eq_true_eq]

theorem isLit_foldl_visit {drawn : Display resolution × Bool} (twoValued : drawn.1.TwoValued)
    (visited : List (Int × Int)) (pixel : Pixel resolution) :
    (visited.foldl visit drawn).1.isLit pixel =
      (drawn.1.isLit pixel ^^ decide (visits visited pixel % 2 = 1)) := by
  induction visited generalizing drawn with
  | nil => simp [visits]
  | cons point later inductionHypothesis =>
    rw [List.foldl_cons, inductionHypothesis (twoValued.visit point),
      isLit_visit twoValued, visits_cons]
    by_cases same : resolution.pixelOf point = pixel
    · have parity : decide ((visits later pixel + 1) % 2 = 1) =
          !decide (visits later pixel % 2 = 1) := by
        rw [← decide_not]
        congr 1
        apply propext
        omega
      rw [if_pos same, parity, decide_eq_true same]
      cases drawn.1.isLit pixel <;> simp
    · rw [if_neg same, decide_eq_false same, Bool.xor_false, Nat.add_zero]

/-- A lit pixel is switched off where one is visited that was lit before, or one for the second
time. -/
theorem flag_foldl_visit {drawn : Display resolution × Bool} (twoValued : drawn.1.TwoValued)
    (visited : List (Int × Int)) :
    (visited.foldl visit drawn).2 = true ↔
      drawn.2 = true ∨ ∃ pixel : Pixel resolution, 2 ≤ visits visited pixel ∨
        (1 ≤ visits visited pixel ∧ drawn.1.isLit pixel = true) := by
  induction visited generalizing drawn with
  | nil => simp [visits]
  | cons point later inductionHypothesis =>
    rw [List.foldl_cons, inductionHypothesis (twoValued.visit point), flag_visit,
      Bool.or_eq_true, or_assoc]
    refine or_congr_right ?_
    simp only [visits_cons, isLit_visit twoValued]
    constructor
    · rintro (wasLit | ⟨pixel, twice | ⟨once, nowLit⟩⟩)
      · exact ⟨resolution.pixelOf point, Or.inr ⟨by simp, wasLit⟩⟩
      · exact ⟨pixel, Or.inl (by omega)⟩
      · refine ⟨pixel, ?_⟩
        by_cases same : resolution.pixelOf point = pixel
        · left
          rw [if_pos same]
          omega
        · right
          rw [decide_eq_false same, Bool.xor_false] at nowLit
          exact ⟨by omega, nowLit⟩
    · rintro ⟨pixel, hit⟩
      by_cases same : resolution.pixelOf point = pixel
      · rw [if_pos same] at hit
        subst same
        cases wasLit : drawn.1.isLit (resolution.pixelOf point) with
        | true => exact Or.inl rfl
        | false =>
          right
          refine ⟨resolution.pixelOf point, Or.inr ⟨?_, by simp [wasLit]⟩⟩
          rcases hit with twice | ⟨-, contrary⟩
          · omega
          · rw [wasLit] at contrary
            contradiction
      · rw [if_neg same, Nat.add_zero] at hit
        right
        refine ⟨pixel, ?_⟩
        rw [decide_eq_false same, Bool.xor_false]
        exact hit

theorem exists_visits_iff {visited : List (Int × Int)} :
    (∃ pixel : Pixel resolution, 1 ≤ visits visited pixel) ↔ visited ≠ [] := by
  constructor
  · rintro ⟨pixel, hit⟩ rfl
    simp [visits] at hit
  · intro some
    obtain ⟨point, later, rfl⟩ := List.exists_cons_of_ne_nil some
    refine ⟨resolution.pixelOf point, ?_⟩
    rw [visits_cons, if_pos rfl]
    omega

end Display

end Chip8
