import Chip8.Proofs.Display.Fitting
import Chip8.Proofs.Processor.Frame

/-!
Contract: which pixels a sprite from memory leaves lit, and what the flag tells of them.

Owns:
- `Machine.SpriteCovers`, the pixels on which bits of the sprite at the index fall, with addresses
  counted around the end of memory and places around the edges of the screen;
- that a step on a drawing word switches these pixels over, sets the flag if one of them went dark,
  and leaves the rest of the machine alone.

Does not own: when the screen is marked.
-/

namespace Chip8

/-! ### Sprites in memory -/

namespace Machine

/-- The rows of the sprite at the index. -/
def spriteRows (machine : Machine) (height : Nat) : List Int :=
  (List.range height).map fun (row : Nat) =>
    Int.ofNat (machine.byteAt (machine.index + row)).toNat

/-- A set bit of the sprite at the index falls on a pixel, when the sprite is drawn at the place
that two registers hold. Bit 7 of a row is its leftmost. -/
def SpriteCovers (machine : Machine) (x y : Register) (height : Nat)
    (pixel : Pixel Resolution.standard) : Prop :=
  ∃ row < height, ∃ column < 8,
    (machine.byteAt (machine.index + (row : Nat))).toNat.testBit (7 - column) = true ∧
      ((machine.register x).toNat + column) % 64 = pixel.1.val ∧
      ((machine.register y).toNat + row) % 32 = pixel.2.val

instance (machine : Machine) (x y : Register) (height : Nat) (pixel : Pixel Resolution.standard) :
    Decidable (machine.SpriteCovers x y height pixel) :=
  inferInstanceAs (Decidable (∃ row < height, ∃ column < 8,
    (machine.byteAt (machine.index + (row : Nat))).toNat.testBit (7 - column) = true ∧
      ((machine.register x).toNat + column) % 64 = pixel.1.val ∧
      ((machine.register y).toNat + row) % 32 = pixel.2.val))

theorem length_spriteRows (machine : Machine) (height : Nat) :
    (machine.spriteRows height).length = height := by
  simp [spriteRows]

theorem get_spriteRows (machine : Machine) (height : Nat)
    (row : Fin (machine.spriteRows height).length) :
    (machine.spriteRows height).get row =
      Int.ofNat (machine.byteAt (machine.index + row.val)).toNat := by
  rw [List.get_eq_getElem]
  simp [spriteRows]

theorem covers_spriteRows_iff {machine : Machine} {x y : Register} {height : Nat}
    {pixel : Pixel Resolution.standard} :
    Resolution.standard.Covers (machine.register x).toNat (machine.register y).toNat
        (machine.spriteRows height) pixel ↔
      machine.SpriteCovers x y height pixel := by
  have sameColumn : ∀ column : Nat,
      ((machine.register x).toNat + (column : Int)) % Resolution.standard.width = pixel.1.val ↔
        ((machine.register x).toNat + column) % 64 = pixel.1.val := by
    intro column
    change ((machine.register x).toNat + (column : Int)) % 64 = pixel.1.val ↔ _
    omega
  have sameRow : ∀ row : Nat,
      ((machine.register y).toNat + (row : Int)) % Resolution.standard.height = pixel.2.val ↔
        ((machine.register y).toNat + row) % 32 = pixel.2.val := by
    intro row
    change ((machine.register y).toNat + (row : Int)) % 32 = pixel.2.val ↔ _
    omega
  constructor
  · rintro ⟨⟨row, column⟩, isSet, inColumn, inRow⟩
    have inside : row.val < height :=
      Nat.lt_of_lt_of_eq row.isLt (length_spriteRows machine height)
    refine ⟨row.val, inside, column.val, column.isLt, ?_, (sameColumn _).mp inColumn,
      (sameRow _).mp inRow⟩
    rw [get_spriteRows] at isSet
    exact isSet
  · rintro ⟨row, inside, column, narrow, isSet, inColumn, inRow⟩
    rw [← length_spriteRows machine height] at inside
    refine ⟨⟨⟨row, inside⟩, ⟨column, narrow⟩⟩, ?_, (sameColumn _).mpr inColumn,
      (sameRow _).mpr inRow⟩
    rw [get_spriteRows]
    exact isSet

end Machine

namespace Processor

open Machine (register_setRegister_self register_setRegister_of_ne)

/-! ### The drawing of a sprite -/

/-- Every sprite that a word can ask for is lower than the screen. -/
theorem length_spriteRows_le (machine : Machine) (height : Fin 16) :
    (machine.spriteRows height.val).length ≤ Resolution.standard.height := by
  have below := height.isLt
  rw [Machine.length_spriteRows]
  change height.val ≤ 32
  omega

section Drawing

variable {processor : Processor} (twoValued : processor.machine.display.TwoValued)
  (x y : Register) (height : Fin 16)

include twoValued

theorem isLit_drawSprite (pixel : Pixel Resolution.standard) :
    (processor.drawSprite (processor.machine.register x) (processor.machine.register y)
        height.val).machine.display.isLit pixel =
      (processor.machine.display.isLit pixel ^^
        decide (processor.machine.SpriteCovers x y height.val pixel)) := by
  have drawn := Display.isLit_draw_of_fits twoValued (by decide)
    (length_spriteRows_le processor.machine height) (processor.machine.register x).toNat
    (processor.machine.register y).toNat pixel
  simp only [Machine.covers_spriteRows_iff] at drawn
  exact drawn

theorem register_flag_drawSprite :
    let after := (processor.drawSprite (processor.machine.register x)
      (processor.machine.register y) height.val).machine
    after.register Register.flag =
      if ∃ pixel, processor.machine.display.isLit pixel = true ∧ after.display.isLit pixel = false
      then 1 else 0 := by
  intro after
  have wentDark := Display.flag_draw_of_fits twoValued (by decide)
    (length_spriteRows_le processor.machine height) (processor.machine.register x).toNat
    (processor.machine.register y).toNat
  calc after.register Register.flag
    _ = if (processor.machine.display.draw (processor.machine.register x).toNat
          (processor.machine.register y).toNat (processor.machine.spriteRows height.val)).2
        then 1 else 0 := register_setRegister_self _ _ _
    _ = _ := if_congr wentDark rfl rfl

end Drawing

/-! ### Steps -/

/-- A step on a drawing word switches over the pixels that the sprite at the index covers, with the
registers, the index and the memory as they were before the step. The flag tells whether a pixel
that was lit is dark now. The program goes on behind the word; memory, index and the other registers
stay. -/
theorem step_draws_sprite {processor : Processor} (reachable : Reachable processor)
    (running : processor.status = .running) {x y : Register} {height : Fin 16}
    (form : processor.machine.nextWord.WithRegisters 0xD x y height) :
    let before := processor.machine
    let after := processor.step.processor.machine
    processor.step.fault = none ∧
      (∀ pixel, after.display.isLit pixel =
        (before.display.isLit pixel ^^ decide (before.SpriteCovers x y height.val pixel))) ∧
      (after.register Register.flag =
        if ∃ pixel, before.display.isLit pixel = true ∧ after.display.isLit pixel = false
        then 1 else 0) ∧
      after.pc = (before.pc + 2) % 0x1000 ∧ after.ram = before.ram ∧ after.index = before.index ∧
      ∀ other, other ≠ Register.flag → after.register other = before.register other := by
  intro before after
  have wellFormed := reachable.sound.machine
  have twoValued : processor.pastFetch.machine.display.TwoValued := wellFormed.display
  have stepped : processor.step =
      ⟨processor.pastFetch.drawSprite (before.register x) (before.register y) height.val,
        processor.traceLine, none⟩ :=
    step_of_encoded (.draw x y height) running wellFormed.pc rfl form rfl
  have noFault : processor.step.fault = none := by rw [stepped]
  have drawn : after = (processor.pastFetch.drawSprite (before.register x) (before.register y)
      height.val).machine :=
    congrArg (fun report => report.processor.machine) stepped
  clear_value after
  subst drawn
  exact ⟨noFault, isLit_drawSprite twoValued x y height,
    register_flag_drawSprite twoValued x y height, rfl, rfl, rfl,
    fun _ notFlag => register_setRegister_of_ne _ notFlag _⟩

/-- A sprite whose second row lies at the start of memory is drawn over itself around a corner of
the screen, with the flag register as its column. -/
theorem step_draws_sprite_around_corner :
    let processor := (start false false ⟨fun _ => 0, 0⟩).performAll
      [.load [0x60, 0x81, 0xAF, 0xFF, 0xF0, 0x55, 0x62, 0x3E, 0x61, 0x1F, 0xD2, 0x12, 0x6F, 0x3E,
        0xDF, 0x12], .step, .step, .step, .step, .step, .step, .step]
    let after := processor.step.processor.machine
    let corner : Pixel Resolution.standard := (⟨1, by decide⟩, ⟨0, by decide⟩)
    Reachable processor ∧ processor.machine.nextWord = 0xDF12 ∧
      processor.machine.index = 0xFFF ∧ processor.machine.register Register.flag = 62 ∧
      processor.machine.register 1 = 31 ∧ processor.machine.display.isLit corner = true ∧
      processor.machine.SpriteCovers Register.flag 1 2 corner ∧
      after.display.isLit corner = false ∧ after.register Register.flag = 1 ∧
      after.pc = 0x210 ∧ after.register 1 = 31 := by
  intro processor after corner
  have reachable : Reachable processor := (Reachable.start false false ⟨fun _ => 0, 0⟩).performAll _
  have here : processor.status = .running ∧ processor.machine.nextWord = 0xDF12 ∧
      processor.machine.index = 0xFFF ∧ processor.machine.register Register.flag = 62 ∧
      processor.machine.register 1 = 31 ∧ processor.machine.pc = 0x20E ∧
      processor.machine.display.isLit corner = true ∧
      processor.machine.SpriteCovers Register.flag 1 2 corner := by
    decide +kernel
  obtain ⟨running, word, index, column, row, pc, wasLit, covered⟩ := here
  clear_value processor
  have form : processor.machine.nextWord.WithRegisters 0xD Register.flag 1 2 := by
    rw [word]
    exact ⟨rfl, rfl, rfl, rfl⟩
  obtain ⟨-, pixels, flag, goesOn, -, -, kept⟩ := step_draws_sprite reachable running form
  have isDark : after.display.isLit corner = false := by
    rw [pixels corner, wasLit, Bool.true_xor]
    exact congrArg not (decide_eq_true covered)
  have collided : after.register Register.flag = 1 := by
    rw [flag, if_pos ⟨corner, wasLit, isDark⟩]
  refine ⟨reachable, word, index, column, row, wasLit, covered, isDark, collided, ?_, ?_⟩
  · rw [goesOn, pc]
    rfl
  · exact (kept 1 (by decide)).trans row

end Processor

end Chip8
