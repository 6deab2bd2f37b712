import Chip8.Proofs.Display.Points
import Chip8.Proofs.Machine.PartialRestore
import Chip8.Proofs.Processor.Frame

/-!
Contract: when the screen changes, and that it is marked whenever it does.

Owns:
- `Display.Redrawn`, a screen that is marked if it was drawn on and else left alone;
- that a sprite switches pixels over exactly if one of its rows is not blank;
- `Processor.Draws` and `Processor.DrawsBy`, the steps and operations that draw, on machines of any
  kind;
- `Machine.ReachesScreen`, the snapshots, also ill-fitting ones, whose screen is put back.

Does not own: which pixels a drawing leaves lit.
-/

namespace Chip8

namespace Display

variable {resolution : Resolution}

/-- The screen `after` is marked if it was `drawn` on, and else it is still `before`. -/
structure Redrawn (drawn : Prop) (before after : Display resolution) : Prop where
  marked : drawn → after.dirty = true
  kept : ¬drawn → after = before

theorem Redrawn.of_drawn {drawn : Prop} {before after : Display resolution} (isDrawn : drawn)
    (marked : after.dirty = true) : Redrawn drawn before after :=
  ⟨fun _ => marked, fun notDrawn => absurd isDrawn notDrawn⟩

theorem Redrawn.of_not_drawn {drawn : Prop} {before after : Display resolution}
    (notDrawn : ¬drawn) (kept : after = before) : Redrawn drawn before after :=
  ⟨fun isDrawn => absurd isDrawn notDrawn, fun _ => kept⟩

end Display

open Display (Redrawn)

/-- A row of the sprite at the index is not blank. -/
def Machine.SpriteLit (machine : Machine) (height : Nat) : Prop :=
  ∃ row < height, machine.byteAt (machine.index + (row : Nat)) ≠ 0

namespace Processor

theorem redrawn_drawSprite (processor : Processor) (x y : UInt8) (height : Nat) :
    Redrawn (processor.machine.SpriteLit height) processor.machine.display
      (processor.drawSprite x y height).machine.display := by
  constructor
  · rintro ⟨row, inside, notBlank⟩
    apply Display.dirty_draw
    rw [ne_eq, Display.points_eq_nil_iff]
    intro blank
    obtain ⟨column, columnInside, isSet⟩ := Display.exists_rowBit notBlank
    have isClear := blank _ (List.mem_map_of_mem (List.mem_range.mpr inside)) column columnInside
    rw [isSet] at isClear
    contradiction
  · intro allBlank
    have noPoints : Display.points x.toNat y.toNat ((List.range height).map fun (row : Nat) =>
        Int.ofNat (processor.machine.byteAt (processor.machine.index + row)).toNat) = [] := by
      rw [Display.points_eq_nil_iff]
      intro row member column inside
      obtain ⟨number, numberInside, rfl⟩ := List.mem_map.mp member
      have isBlank : processor.machine.byteAt (processor.machine.index + (number : Nat)) = 0 :=
        Decidable.byContradiction fun notBlank =>
          allBlank ⟨number, List.mem_range.mp numberInside, notBlank⟩
      rw [isBlank]
      simp [Display.rowBit]
    exact congrArg Prod.fst (Display.draw_of_points_nil processor.machine.display noPoints)

/-! ### Steps -/

/-- A word that clears the screen, or one that draws a sprite which is not all blank. -/
def DrawsWord (machine : Machine) (word : Word) : Prop :=
  word = 0x00E0 ∨ (word.family = 0xD ∧ machine.SpriteLit word.n.val)

/-- The next step clears the screen or switches a pixel over. -/
def Draws (processor : Processor) : Prop :=
  processor.status = .running ∧
    ∃ word, processor.machine.fetch = .ok word ∧ DrawsWord processor.machine word

theorem decode_of_family_draw {word : Word} (family : word.family = 0xD) :
    Instruction.decode word = .draw word.x word.y word.n :=
  Instruction.decode_of_encoded rfl ⟨family, rfl, rfl, rfl⟩

theorem redrawn_execute {word : Word} {processor next : Processor}
    (done : execute (Instruction.decode word) processor = .ok next) :
    Redrawn (DrawsWord processor.machine word) processor.machine.display
      next.machine.display := by
  by_cases isClear : word = 0x00E0
  · subst isClear
    cases done
    exact .of_drawn (Or.inl rfl) rfl
  · by_cases isDraw : word.family = 0xD
    · rw [decode_of_family_draw isDraw] at done
      cases done
      have redrawn := redrawn_drawSprite processor (processor.machine.register word.x)
        (processor.machine.register word.y) word.n.val
      refine ⟨?_, ?_⟩
      · rintro (contrary | ⟨-, lit⟩)
        · exact absurd contrary isClear
        · exact redrawn.marked lit
      · intro notDrawn
        exact redrawn.kept fun lit => notDrawn (Or.inr ⟨isDraw, lit⟩)
    · -- the footprint of every other word leaves the screen out
      have within := within_execute (Instruction.encoded_decode word)
        (Machine.Within.refl _ processor.machine) done
      have notDrawn : ¬DrawsWord processor.machine word := by
        rintro (contrary | ⟨contrary, -⟩)
        · exact isClear contrary
        · exact isDraw contrary
      apply Redrawn.of_not_drawn notDrawn
      apply within.display.resolve_left
      rintro (contrary | contrary)
      · exact isClear contrary
      · exact isDraw contrary

/-- What draws is always carried out. -/
theorem exists_execute_of_drawsWord {machine : Machine} {word : Word}
    (draws : DrawsWord machine word) (processor : Processor) :
    ∃ next, execute (Instruction.decode word) processor = .ok next := by
  rcases draws with rfl | ⟨family, -⟩
  · exact ⟨_, rfl⟩
  · rw [decode_of_family_draw family]
    exact ⟨_, rfl⟩

theorem redrawn_complete (processor : Processor) :
    Redrawn (DrawsWord processor.machine processor.word) processor.machine.display
      processor.complete.1.machine.display := by
  unfold complete
  dsimp only
  generalize behind : processor.withMachine processor.machine.advance = past
  have sameDraws : DrawsWord processor.machine processor.word =
      DrawsWord past.machine processor.word := by
    rw [← behind]
    rfl
  have sameDisplay : processor.machine.display = past.machine.display := by
    rw [← behind]
    rfl
  rw [sameDraws, sameDisplay]
  cases result : execute (Instruction.decode processor.word) past with
  | ok next => exact redrawn_execute result
  | error stop =>
    have notDrawn : ¬DrawsWord past.machine processor.word := by
      intro draws
      obtain ⟨next, done⟩ := exists_execute_of_drawsWord draws past
      rw [result] at done
      contradiction
    cases stop with
    | halt cause => exact .of_not_drawn notDrawn rfl
    | fault fault => exact .of_not_drawn notDrawn rfl

theorem redrawn_step (processor : Processor) :
    Redrawn processor.Draws processor.machine.display processor.step.processor.machine.display := by
  unfold step
  cases status : processor.status with
  | halted cause word address =>
    refine .of_not_drawn ?_ rfl
    rintro ⟨running, -⟩
    rw [status] at running
    contradiction
  | awaitingKey register =>
    refine .of_not_drawn ?_ ?_
    · rintro ⟨running, -⟩
      rw [status] at running
      contradiction
    · dsimp only
      unfold collectKey
      split <;> rfl
  | running =>
    dsimp only
    unfold runInstruction
    cases fetched : processor.machine.fetch with
    | error fault =>
      refine .of_not_drawn ?_ rfl
      rintro ⟨-, word, contrary, -⟩
      rw [fetched] at contrary
      contradiction
    | ok word =>
      have redrawn := redrawn_complete
        { processor with fetchedAt := processor.machine.pc, word := word }
      have sameDraws : processor.Draws ↔ DrawsWord processor.machine word := by
        refine ⟨?_, fun draws => ⟨status, word, fetched, draws⟩⟩
        rintro ⟨-, other, same, draws⟩
        rw [fetched] at same
        cases same
        exact draws
      exact ⟨fun draws => redrawn.marked (sameDraws.mp draws),
        fun notDrawn => redrawn.kept fun draws => notDrawn (sameDraws.mpr draws)⟩

/-- An operation that clears the screen or switches a pixel over. -/
def DrawsBy (processor : Processor) : Operation → Prop
  | .reset => True
  | .step => processor.Draws
  | .load _ | .tick | .setKey .. => False

theorem redrawn_perform (processor : Processor) (operation : Operation) :
    Redrawn (processor.DrawsBy operation) processor.machine.display
      (processor.perform operation).1.machine.display := by
  cases operation with
  | load program =>
    rw [perform_load_eq]
    split <;> exact .of_not_drawn not_false rfl
  | reset => exact .of_drawn trivial rfl
  | step => exact redrawn_step processor
  | tick => exact .of_not_drawn not_false rfl
  | setKey key pressed =>
    change Redrawn _ _ (processor.attempt (processor.setKeyAt key pressed)).1.machine.display
    rw [setKeyAt_eq]
    cases processor.machine.keypad.setKeyAt key pressed <;> exact .of_not_drawn not_false rfl

end Processor

/-! ### Going back -/

namespace Machine

/-- The stages of a restore that come before the screen succeed, and the screen fits. -/
def ReachesScreen (machine : Machine) (saved : Snapshot) : Prop :=
  (runStages ((restoreStages saved).take 5) machine).2 = none ∧
    Display.Fits Resolution.standard saved.screen

theorem reachesScreen_iff {machine : Machine} {saved : Snapshot} :
    machine.ReachesScreen saved ↔ .screen ∈ saved.partsPutBack := by
  have early : LeavesBehind saved (Part.inOrder.take 5) machine
      (runStages ((restoreStages saved).take 5) machine) :=
    leavesBehind_runStages saved (by decide) machine
  unfold ReachesScreen
  rw [early.fault, Snapshot.findSome?_refusal_eq_none_iff, Snapshot.screen_mem_partsPutBack_iff,
    Snapshot.fits_screen_iff]

theorem redrawn_restore (machine : Machine) (saved : Snapshot) :
    Redrawn (machine.ReachesScreen saved) machine.display (machine.restore saved).1.display := by
  have behind := leavesBehind_restore machine saved
  by_cases reached : .screen ∈ saved.partsPutBack
  · have shown := behind.restored .screen reached
    exact .of_drawn (reachesScreen_iff.mpr reached) shown.dirty
  · exact .of_not_drawn (mt reachesScreen_iff.mp reached) (behind.kept .screen reached)

end Machine

theorem Processor.redrawn_restore (processor : Processor) (saved : Saved) :
    Redrawn (processor.machine.ReachesScreen saved.snapshot) processor.machine.display
      (processor.restore saved).1.machine.display := by
  have redrawn := Machine.redrawn_restore processor.machine saved.snapshot
  unfold restore
  generalize processor.machine.restore saved.snapshot = result at redrawn
  obtain ⟨reached, fault⟩ := result
  cases fault with
  | some fault => exact redrawn
  | none =>
    dsimp only
    split <;> exact redrawn

end Chip8
