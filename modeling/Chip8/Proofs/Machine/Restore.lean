import Chip8.Machine.Snapshot
import Chip8.Proofs.Display.Grid

/-!
Contract: what going back to the snapshot of a well-formed machine restores.

Owns: `Machine.putBack`, and that restoring a snapshot of a well-formed machine is never refused
and leads there from any machine.

Does not own: snapshots that were put together by hand.
-/

namespace Chip8

theorem CallStack.ofOldestFirst_oldestFirst {limit : Int} {stack : CallStack limit}
    (wellFormed : stack.WellFormed) : ofOldestFirst stack.oldestFirst = .ok stack := by
  have fits : ¬limit < (stack.oldestFirst.length : Int) := by
    have depth_le := wellFormed.depth_le
    simp only [oldestFirst, depth, List.length_reverse] at depth_le ⊢
    omega
  unfold ofOldestFirst
  rw [if_neg fits]
  simp [oldestFirst]

namespace Machine

theorem registersOf_toList (registers : Vector UInt8 16) :
    registersOf registers.toList = .ok registers := by
  unfold registersOf
  rw [dif_pos (by simp)]
  congr 1

/-- `saved`, except that the screen has to be shown again and that the keypad keeps its latch and
whether it is armed. -/
def putBack (machine saved : Machine) : Machine :=
  { saved with
    display := { saved.display with dirty := true }
    keypad := { machine.keypad with down := saved.keypad.down } }

theorem restore_snapshot (machine : Machine) {saved : Machine} (wellFormed : saved.WellFormed) :
    machine.restore saved.snapshot = (machine.putBack saved, none) := by
  have memory : ∀ before : Machine,
      before.restoreMemory saved.ram.toList = ({ before with ram := saved.ram }, none) := by
    intro before
    unfold restoreMemory
    rw [Bank.writeBlock_toList (by decide)]
    rfl
  have registers : ∀ before : Machine,
      before.restoreRegisters saved.registers.toList =
        ({ before with registers := saved.registers }, none) := by
    intro before
    unfold restoreRegisters
    rw [registersOf_toList]
    rfl
  have stack : ∀ before : Machine,
      before.restoreStack saved.stack.oldestFirst =
        ({ before with stack := saved.stack }, none) := by
    intro before
    unfold restoreStack
    rw [CallStack.ofOldestFirst_oldestFirst wellFormed.stack]
    rfl
  have screen : ∀ before : Machine,
      before.restoreScreen saved.display.grid =
        ({ before with display := { saved.display with dirty := true } }, none) := by
    intro before
    unfold restoreScreen
    rw [Display.load_grid wellFormed.display]
    rfl
  simp only [restore, restoreStages, snapshot, runStages, memory, registers, stack, screen,
    Attempt.andThen_none]
  rfl

/-- The snapshot of a machine put back is the one that was restored. -/
theorem snapshot_putBack (machine saved : Machine) :
    (machine.putBack saved).snapshot = saved.snapshot :=
  rfl

theorem WellFormed.putBack (machine : Machine) {saved : Machine} (wellFormed : saved.WellFormed) :
    (machine.putBack saved).WellFormed :=
  { wellFormed with display := wellFormed.display, keypad := wellFormed.keypad }

end Machine

end Chip8
