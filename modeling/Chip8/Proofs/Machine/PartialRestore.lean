import Chip8.Proofs.Bank.Block
import Chip8.Proofs.Machine.Restore

/-!
Contract: what a restore of any snapshot leaves behind, whether or not it is refused.

Owns:
- `Part`, what one stage of a restore puts back, and `Snapshot.refusal`, why a part of a snapshot
  does not fit a machine;
- that a restore puts back the parts before the first one that does not fit and no other, so a
  refused one changes nothing exactly if these are what the machine has anyway.

Does not own: snapshots of well-formed machines, which are never refused.
-/

namespace Chip8

/-- What one stage of a restore puts back. -/
inductive Part where
  | memory
  | registers
  | counters
  | stack
  | timers
  | screen
  | keys
deriving DecidableEq, Repr

/-- The parts in the order in which they are put back. -/
def Part.inOrder : List Part :=
  [.memory, .registers, .counters, .stack, .timers, .screen, .keys]

theorem Part.mem_inOrder (part : Part) : part ∈ inOrder := by
  cases part <;> decide

theorem Part.nodup_inOrder : inOrder.Nodup := by
  decide

namespace Snapshot

/-- Why a part of a snapshot fits no machine, if it does not. -/
def refusal (saved : Snapshot) : Part → Option Fault
  | .memory =>
    if 0 < saved.memory.length ∧ saved.memory.length ≤ memorySize then none
    else some (.addressOutside (saved.memory.length - 1))
  | .registers => if saved.registers.length = 16 then none else some .sizeMismatch
  | .stack => if saved.stack.length ≤ callDepth then none else some .stackOverflow
  | .screen => if Display.Fits Resolution.standard saved.screen then none else some .gridMismatch
  | .counters | .timers | .keys => none

def fits (saved : Snapshot) (part : Part) : Bool :=
  (saved.refusal part).isNone

/-- The parts before the first one that does not fit. -/
def partsPutBack (saved : Snapshot) : List Part :=
  Part.inOrder.takeWhile saved.fits

theorem findSome?_refusal_eq_none_iff {saved : Snapshot} {parts : List Part} :
    parts.findSome? saved.refusal = none ↔ ∀ part ∈ parts, saved.fits part := by
  rw [List.findSome?_eq_none_iff]
  exact forall₂_congr fun _ _ => Option.isNone_iff_eq_none.symm

theorem fits_screen_iff {saved : Snapshot} :
    saved.fits .screen ↔ Display.Fits Resolution.standard saved.screen := by
  unfold fits refusal
  split <;> simp_all

/-- A screen that fits is put back if all that comes before it fits. -/
theorem screen_mem_partsPutBack_iff {saved : Snapshot} :
    .screen ∈ saved.partsPutBack ↔
      (∀ part ∈ Part.inOrder.take 5, saved.fits part) ∧ saved.fits .screen := by
  unfold partsPutBack Part.inOrder
  simp only [List.takeWhile_cons]
  grind

end Snapshot

namespace Machine

/-- The stage of a restore that puts one part back. -/
def restorePart (saved : Snapshot) : Part → Machine → Attempt Machine
  | .memory => (·.restoreMemory saved.memory)
  | .registers => (·.restoreRegisters saved.registers)
  | .counters => fun machine => ({ machine with index := saved.index, pc := saved.pc }, none)
  | .stack => (·.restoreStack saved.stack)
  | .timers => fun machine => ({ machine with timers := ⟨saved.delay, saved.sound⟩ }, none)
  | .screen => (·.restoreScreen saved.screen)
  | .keys => fun machine =>
    ({ machine with keypad := { machine.keypad with down := saved.keys } }, none)

theorem restoreStages_eq (saved : Snapshot) :
    restoreStages saved = Part.inOrder.map (restorePart saved) :=
  rfl

/-- A machine has what a snapshot holds of a part. A snapshot of less than the whole memory holds
its beginning; the screen moreover has to be shown again. -/
def Has (machine : Machine) (saved : Snapshot) : Part → Prop
  | .memory => saved.memory <+: machine.ram.toList
  | .registers => machine.registers.toList = saved.registers
  | .counters => machine.index = saved.index ∧ machine.pc = saved.pc
  | .stack => machine.stack.oldestFirst = saved.stack
  | .timers => machine.timers = ⟨saved.delay, saved.sound⟩
  | .screen => machine.display.Shows saved.screen
  | .keys => machine.keypad.down = saved.keys

/-- Two machines have the same part. -/
def SamePart (left right : Machine) : Part → Prop
  | .memory => left.ram = right.ram
  | .registers => left.registers = right.registers
  | .counters => (left.index, left.pc) = (right.index, right.pc)
  | .stack => left.stack = right.stack
  | .timers => left.timers = right.timers
  | .screen => left.display = right.display
  | .keys => left.keypad = right.keypad

/-- A machine with one part of another. -/
def withPart (machine other : Machine) : Part → Machine
  | .memory => { machine with ram := other.ram }
  | .registers => { machine with registers := other.registers }
  | .counters => { machine with index := other.index, pc := other.pc }
  | .stack => { machine with stack := other.stack }
  | .timers => { machine with timers := other.timers }
  | .screen => { machine with display := other.display }
  | .keys => { machine with keypad := other.keypad }

section Parts

variable {left right middle : Machine} {saved : Snapshot} {part : Part}

theorem samePart_refl (machine : Machine) (part : Part) : machine.SamePart machine part := by
  cases part <;> rfl

theorem SamePart.trans (first : left.SamePart middle part) (second : middle.SamePart right part) :
    left.SamePart right part := by
  cases part <;> exact Eq.trans first second

theorem SamePart.has_iff (same : left.SamePart right part) :
    left.Has saved part ↔ right.Has saved part := by
  cases part <;> simp only [SamePart, Prod.mk.injEq] at same <;> simp only [Has, same]

theorem samePart_withPart (machine other : Machine) {taken : Part} (apart : part ≠ taken) :
    (machine.withPart other taken).SamePart machine part := by
  cases taken <;> cases part <;> first | rfl | contradiction

end Parts

/-! ### One stage -/

/-- What putting one part back does to a machine. -/
structure PutsBack (saved : Snapshot) (part : Part) (before after : Machine) : Prop where
  restored : after.Has saved part
  elsewhere : before.withPart after part = after
  idle : before.Has saved part → after = before

theorem PutsBack.samePart {saved : Snapshot} {part other : Part} {before after : Machine}
    (putsBack : PutsBack saved part before after) (apart : other ≠ part) :
    after.SamePart before other := by
  have same := before.samePart_withPart after apart
  rw [putsBack.elsewhere] at same
  exact same

/-- How the stage of one part may end. -/
inductive StageEnds (saved : Snapshot) (part : Part) (before : Machine) :
    Attempt Machine → Prop where
  | refused {fault : Fault} (refusal : saved.refusal part = some fault) :
    StageEnds saved part before (before, some fault)
  | done {after : Machine} (fits : saved.refusal part = none)
    (putsBack : PutsBack saved part before after) : StageEnds saved part before (after, none)

section Stages

variable (saved : Snapshot) (machine : Machine)

theorem stageEnds_memory :
    StageEnds saved .memory machine (machine.restoreMemory saved.memory) := by
  have lastInside : Bank.Holds 4096 (saved.memory.length - 1) ↔
      0 < saved.memory.length ∧ saved.memory.length ≤ memorySize := by
    unfold memorySize
    omega
  unfold restoreMemory
  rw [Bank.writeBlock_eq, Int.zero_add]
  by_cases room : 0 < saved.memory.length ∧ saved.memory.length ≤ memorySize
  · rw [if_pos (lastInside.mpr room)]
    refine .done (if_pos room) ⟨machine.ram.prefix_toList_overlay room.2, rfl, ?_⟩
    intro already
    change { machine with ram := machine.ram.overlay 0 saved.memory } = machine
    rw [Bank.overlay_of_prefix already]
  · rw [if_neg (mt lastInside.mp room)]
    exact .refused (if_neg room)

theorem stageEnds_registers :
    StageEnds saved .registers machine (machine.restoreRegisters saved.registers) := by
  unfold restoreRegisters
  by_cases sixteen : saved.registers.length = 16
  · obtain ⟨registers, same⟩ : ∃ registers : Vector UInt8 16, registers.toList = saved.registers :=
      ⟨⟨saved.registers.toArray, sixteen⟩, rfl⟩
    rw [← same, registersOf_toList]
    refine .done (if_pos sixteen) ⟨same, rfl, ?_⟩
    intro already
    rw [Vector.toList_inj.mp (same.trans already.symm)]
  · have refused : registersOf saved.registers = .error .sizeMismatch := dif_neg sixteen
    rw [refused]
    exact .refused (if_neg sixteen)

theorem stageEnds_counters : StageEnds saved .counters machine
    ({ machine with index := saved.index, pc := saved.pc }, none) := by
  refine .done rfl ⟨⟨rfl, rfl⟩, rfl, ?_⟩
  rintro ⟨index, pc⟩
  rw [← index, ← pc]

theorem stageEnds_stack :
    StageEnds saved .stack machine (machine.restoreStack saved.stack) := by
  have deeper : (16 : Int) < saved.stack.length ↔ ¬saved.stack.length ≤ callDepth := by
    unfold callDepth
    omega
  unfold restoreStack CallStack.ofOldestFirst
  by_cases shallow : saved.stack.length ≤ callDepth
  · rw [if_neg fun deep => deeper.mp deep shallow]
    refine .done (if_pos shallow) ⟨List.reverse_reverse _, rfl, ?_⟩
    intro already
    rw [← already, CallStack.oldestFirst, List.reverse_reverse]
  · rw [if_pos (deeper.mpr shallow)]
    exact .refused (if_neg shallow)

theorem stageEnds_timers : StageEnds saved .timers machine
    ({ machine with timers := ⟨saved.delay, saved.sound⟩ }, none) := by
  refine .done rfl ⟨rfl, rfl, ?_⟩
  intro already
  rw [← already]

theorem stageEnds_screen :
    StageEnds saved .screen machine (machine.restoreScreen saved.screen) := by
  unfold restoreScreen
  by_cases shape : Display.Fits Resolution.standard saved.screen
  · obtain ⟨display, loaded, holdsScreen⟩ := machine.display.load_of_fits shape
    rw [loaded]
    refine .done (if_pos shape) ⟨holdsScreen, rfl, ?_⟩
    intro already
    have same : display = machine.display := holdsScreen.unique already
    rw [same]
  · rw [machine.display.load_of_not_fits shape]
    exact .refused (if_neg shape)

theorem stageEnds_keys : StageEnds saved .keys machine
    ({ machine with keypad := { machine.keypad with down := saved.keys } }, none) := by
  refine .done rfl ⟨rfl, rfl, ?_⟩
  intro already
  rw [← already]

theorem stageEnds (part : Part) :
    StageEnds saved part machine (restorePart saved part machine) := by
  cases part with
  | memory => exact stageEnds_memory saved machine
  | registers => exact stageEnds_registers saved machine
  | counters => exact stageEnds_counters saved machine
  | stack => exact stageEnds_stack saved machine
  | timers => exact stageEnds_timers saved machine
  | screen => exact stageEnds_screen saved machine
  | keys => exact stageEnds_keys saved machine

end Stages

/-! ### A whole restore -/

/-- What is left of a machine after parts were put back up to the first one that does not fit. -/
structure LeavesBehind (saved : Snapshot) (parts : List Part) (before : Machine)
    (attempt : Attempt Machine) : Prop where
  fault : attempt.2 = parts.findSome? saved.refusal
  restored : ∀ part ∈ parts.takeWhile saved.fits, attempt.1.Has saved part
  kept : ∀ part, part ∉ parts.takeWhile saved.fits → attempt.1.SamePart before part
  idle : (∀ part ∈ parts.takeWhile saved.fits, before.Has saved part) → attempt.1 = before

/-- Parts are put back one at a time, and none is touched again after its turn. -/
theorem leavesBehind_runStages (saved : Snapshot) {parts : List Part} (distinct : parts.Nodup)
    (machine : Machine) : LeavesBehind saved parts machine
      (runStages (parts.map (restorePart saved)) machine) := by
  induction parts generalizing machine with
  | nil =>
    exact ⟨rfl, fun _ member => absurd member List.not_mem_nil,
      fun part _ => samePart_refl machine part, fun _ => rfl⟩
  | cons part later inductionHypothesis =>
    obtain ⟨notLater, laterDistinct⟩ := List.nodup_cons.mp distinct
    have ends := stageEnds saved machine part
    rw [List.map_cons, runStages]
    generalize restorePart saved part machine = result at ends ⊢
    cases ends with
    | @refused fault refusal =>
      have noneFits : (part :: later).takeWhile saved.fits = [] := by
        simp [Snapshot.fits, refusal]
      refine ⟨?_, ?_, fun other _ => samePart_refl machine other, fun _ => rfl⟩
      · rw [Attempt.andThen_some, List.findSome?_cons, refusal]
      · rw [noneFits]
        exact fun _ member => absurd member List.not_mem_nil
    | @done next fits putsBack =>
      have first : (part :: later).takeWhile saved.fits = part :: later.takeWhile saved.fits := by
        simp [Snapshot.fits, fits]
      have notAgain : part ∉ later.takeWhile saved.fits :=
        fun member => notLater (List.takeWhile_sublist _ |>.subset member)
      obtain ⟨fault, restored, kept, idle⟩ := inductionHypothesis laterDistinct next
      refine ⟨?_, ?_, ?_, ?_⟩
      · rw [List.findSome?_cons, fits]
        exact fault
      · rw [first]
        intro other member
        rcases List.mem_cons.mp member with rfl | member
        · exact (kept other notAgain).has_iff.mpr putsBack.restored
        · exact restored other member
      · rw [first]
        intro other outside
        rw [List.mem_cons, not_or] at outside
        exact (kept other outside.2).trans (putsBack.samePart outside.1)
      · rw [first]
        intro already
        have same : next = machine := putsBack.idle (already part List.mem_cons_self)
        rw [← same] at already ⊢
        exact idle fun other member => already other (List.mem_cons_of_mem _ member)

theorem leavesBehind_restore (machine : Machine) (saved : Snapshot) :
    LeavesBehind saved Part.inOrder machine (machine.restore saved) := by
  rw [restore, restoreStages_eq]
  exact leavesBehind_runStages saved Part.nodup_inOrder machine

theorem restore_unchanged_iff (machine : Machine) (saved : Snapshot) :
    (machine.restore saved).1 = machine ↔ ∀ part ∈ saved.partsPutBack, machine.Has saved part := by
  have ran := leavesBehind_restore machine saved
  constructor
  · intro unchanged part member
    have restored := ran.restored part member
    rw [unchanged] at restored
    exact restored
  · exact ran.idle

theorem restore_accepted_iff (machine : Machine) (saved : Snapshot) :
    (machine.restore saved).2 = none ↔ ∀ part, saved.fits part := by
  rw [(leavesBehind_restore machine saved).fault, Snapshot.findSome?_refusal_eq_none_iff]
  exact ⟨fun allFit part => allFit part part.mem_inOrder, fun allFit part _ => allFit part⟩

/-- A restore puts back the parts of a snapshot before the first one that does not fit, is refused
for that one, and leaves the parts from there on as they were. So it either completes or changes
nothing exactly if all parts fit or the machine had those put back anyway. -/
theorem restore_all_or_nothing_iff (machine : Machine) (saved : Snapshot) :
    (machine.restore saved).2 = Part.inOrder.findSome? saved.refusal ∧
      (∀ part, if part ∈ saved.partsPutBack then (machine.restore saved).1.Has saved part
        else (machine.restore saved).1.SamePart machine part) ∧
      (((machine.restore saved).2 = none ∨ (machine.restore saved).1 = machine) ↔
        (∀ part, saved.fits part) ∨ ∀ part ∈ saved.partsPutBack, machine.Has saved part) := by
  obtain ⟨fault, restored, kept, -⟩ := leavesBehind_restore machine saved
  refine ⟨fault, ?_, or_congr (restore_accepted_iff machine saved)
    (restore_unchanged_iff machine saved)⟩
  intro part
  split
  · rename_i member
    exact restored part member
  · rename_i outside
    exact kept part outside

/-- A snapshot with a screen of one pixel is refused only after all that comes before the screen was
put into a fresh machine. -/
theorem restore_refused_after_change :
    let saved : Snapshot := {
      memory := [0x12, 0x34]
      registers := List.replicate 16 7
      index := 0x300
      pc := 0x400
      stack := [0x202]
      delay := 5
      sound := 0
      screen := [[true]]
      keys := List.replicate 16 false }
    let after := Machine.fresh.restore saved
    after.2 = some .gridMismatch ∧
      (after.1.pc = 0x400 ∧ Machine.fresh.pc = 0x200) ∧
      (after.1.stack.oldestFirst = [0x202] ∧ Machine.fresh.stack.oldestFirst = []) ∧
      ¬∀ (machine : Machine) (saved : Snapshot) (fault : Fault),
        (machine.restore saved).2 = some fault → (machine.restore saved).1 = machine := by
  intro saved after
  have ran : LeavesBehind saved Part.inOrder Machine.fresh after := leavesBehind_restore _ _
  have left : Machine.fresh.restore saved = after := rfl
  -- The machine left behind is known by its parts alone; its memory is too large to compute.
  clear_value after
  have refused : after.2 = some .gridMismatch := ran.fault.trans (by decide)
  obtain ⟨-, pc⟩ : after.1.Has saved .counters := ran.restored .counters (by decide)
  have stack : after.1.Has saved .stack := ran.restored .stack (by decide)
  refine ⟨refused, ⟨pc, rfl⟩, ⟨stack, rfl⟩, ?_⟩
  intro law
  have unchanged := law Machine.fresh saved .gridMismatch
  rw [left] at unchanged
  rw [unchanged refused] at pc
  exact absurd pc (by decide : (0x200 : Int) ≠ 0x400)

end Machine

end Chip8
