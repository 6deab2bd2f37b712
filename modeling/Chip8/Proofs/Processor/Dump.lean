import Chip8.Proofs.Processor.Lockstep
import Chip8.Proofs.Processor.Reachable
import Chip8.Proofs.Text.Hex
import Chip8.Proofs.Text.Pieces

/-!
Contract: the text about a processor tells all that it shows.

Owns:
- that everything shown of a reachable processor has the width it is shown in, where the word
  decoded last was fetched included;
- `Processor.ShowsSame`, sameness in all that the text shows, and that two reachable processors
  have one text exactly then;
- that the text about an instruction is one line.

Does not own: whether the word shown is the one that halted the processor.
-/

namespace Chip8

/-! ### Widths -/

namespace Hex

theorem fits_of_isAddress {value : Int} (inside : IsAddress value) : Fits 3 value := by
  obtain ⟨notBelow, below⟩ := inside
  obtain ⟨number, rfl⟩ := Int.eq_ofNat_of_zero_le notBelow
  have small : number < 4096 := by omega
  exact ⟨number, small, rfl⟩

theorem fits_of_isByte {value : Int} (inside : IsByte value) : Fits 2 value := by
  obtain ⟨notBelow, below⟩ := inside
  obtain ⟨number, rfl⟩ := Int.eq_ofNat_of_zero_le notBelow
  have small : number < 256 := by omega
  exact ⟨number, small, rfl⟩

end Hex

namespace Processor

theorem isAddress_programStart : IsAddress (programStart : Int) :=
  ⟨by decide, by decide⟩

/-- The word decoded last was fetched at an address, even if the program counter was put back. -/
theorem Reachable.isAddress_fetchedAt {processor : Processor} (reachable : Reachable processor) :
    IsAddress processor.fetchedAt := by
  induction reachable with
  | start => exact isAddress_programStart
  | @perform processor reachable operation inductionHypothesis =>
    cases operation with
    | load program =>
      rw [perform_load_eq]
      split <;> exact inductionHypothesis
    | reset => exact isAddress_programStart
    | tick => exact inductionHypothesis
    | setKey key pressed =>
      change IsAddress (processor.attempt (processor.setKeyAt key pressed)).1.fetchedAt
      rw [setKeyAt_eq]
      cases processor.machine.keypad.setKeyAt key pressed <;> exact inductionHypothesis
    | step =>
      have inside := reachable.sound.machine.pc
      change IsAddress processor.step.processor.fetchedAt
      have transition := (step_transition reachable.sound.machine).1
      generalize processor.step.processor = next at transition ⊢
      cases transition with
      | rested | waited | collected => exact inductionHypothesis
      | stopped => exact inside
      | executed status done =>
        rw [(record_of_execute done).2.1]
        exact inside
  | restore _ sourceReachable =>
    rw [restore_save _ sourceReachable.sound.machine]
    exact sourceReachable.sound.machine.pc

/-! ### The parts of the text -/

/-- The registers as they are shown, register 15 first. -/
def shownRegisters (machine : Machine) : List Int :=
  machine.registers.toList.reverse.map fun byte => (byte.toNat : Int)

theorem toList_registersText (machine : Machine) :
    (registersText machine).toList = Hex.row 2 [] (shownRegisters machine) := by
  simp [registersText, shownRegisters, Hex.row, Hex.byte, List.flatMap_def, Function.comp_def]

theorem shownRegisters_append_inj {left right : Machine} {leftRest rightRest : List Char}
    (same : Hex.row 2 [] (shownRegisters left) ++ leftRest =
      Hex.row 2 [] (shownRegisters right) ++ rightRest) :
    left.registers = right.registers ∧ leftRest = rightRest := by
  have fit : ∀ (machine : Machine), ∀ value ∈ shownRegisters machine, Hex.Fits 2 value := by
    intro machine value member
    obtain ⟨byte, -, rfl⟩ := List.mem_map.mp member
    exact Hex.fits_byte byte
  have count : ∀ machine : Machine, (shownRegisters machine).length = 16 := by
    intro machine
    rw [shownRegisters, List.length_map, List.length_reverse, Vector.length_toList]
  have bytesOf : ∀ first second : UInt8, (first.toNat : Int) = second.toNat → first = second :=
    fun first second equal => UInt8.toNat_inj.mp (Int.ofNat.inj equal)
  obtain ⟨shown, rest⟩ := Hex.row_append_inj (by decide) [] (fit left) (fit right)
    ((count left).trans (count right).symm) same
  exact ⟨Vector.toList_inj.mp (List.reverse_inj.mp ((List.map_inj_right bytesOf).mp shown)), rest⟩

theorem toList_stackText (stack : CallStack 16) :
    (stackText stack).toList =
      if stack.entries = [] then " (Empty)".toList
      else Hex.row 3 " 0x".toList stack.oldestFirst := by
  unfold stackText
  cases entries : stack.entries with
  | nil => rfl
  | cons newest older =>
    simp [String.toList_join, Hex.row, List.flatMap_def, Function.comp_def]

/-- The end of the text, where there is nothing unless the processor halted. -/
def reasonText : Option String → String
  | some reason => "\nReason: " ++ reason
  | none => ""

theorem fullDump_eq (processor : Processor) :
    processor.fullDump =
      processor.dump ++ "\nStack:" ++ stackText processor.machine.stack ++
        reasonText processor.status.reason :=
  rfl

/-! ### Line breaks -/

theorem newline_notMem_padded (width : Nat) (value : Int) :
    '\n' ∉ (Hex.padded width value).toList := by
  intro member
  have noDigit : ∀ digit : Fin 16, '\n' ≠ digit.val.digitChar := by decide
  rcases Hex.mem_padded_int member with sign | ⟨digit, small, same⟩
  · exact absurd sign (by decide)
  · exact noDigit ⟨digit, small⟩ same

theorem newline_notMem_row {width : Nat} {lead : List Char} (values : List Int)
    (notInLead : '\n' ∉ lead) : '\n' ∉ Hex.row width lead values := by
  intro member
  obtain ⟨value, -, inPart⟩ := List.mem_flatMap.mp member
  rcases List.mem_append.mp inPart with inLead | inNumber
  · exact notInLead inLead
  · exact newline_notMem_padded width value inNumber

theorem newline_notMem_mnemonic (instruction : Instruction) :
    '\n' ∉ instruction.mnemonic.toList := by
  cases instruction <;>
    simp only [Instruction.mnemonic, Instruction.registerText, Instruction.byteText,
      Instruction.addressText, String.toList_append, List.mem_append, newline_notMem_padded,
      or_false] <;>
    decide

theorem newline_notMem_stackText (stack : CallStack 16) : '\n' ∉ (stackText stack).toList := by
  rw [toList_stackText]
  split
  · decide
  · exact newline_notMem_row _ (by decide)

theorem newline_notMem_append {first second : String} (notInFirst : '\n' ∉ first.toList)
    (notInSecond : '\n' ∉ second.toList) : '\n' ∉ (first ++ second).toList := by
  rw [String.toList_append, List.mem_append]
  exact not_or.mpr ⟨notInFirst, notInSecond⟩

theorem newline_notMem_field {before : String} (absent : '\n' ∉ before.toList) (name : String)
    (notInName : '\n' ∉ name.toList) (width : Nat) (value : Int) :
    '\n' ∉ (before ++ name ++ Hex.padded width value).toList :=
  newline_notMem_append (newline_notMem_append absent notInName)
    (newline_notMem_padded width value)

/-- What is shown of an instruction is one line, whatever the machine holds. -/
theorem newline_notMem_dump (processor : Processor) : '\n' ∉ processor.dump.toList := by
  have registers : '\n' ∉ ("V: 0x" ++ registersText processor.machine).toList := by
    refine newline_notMem_append (by decide) ?_
    rw [toList_registersText]
    exact newline_notMem_row _ (by decide)
  have index := newline_notMem_field registers " I: 0x" (by decide) 3 processor.machine.index
  have delay := newline_notMem_field index " DT: 0x" (by decide) 2 processor.machine.timers.delay
  have sound := newline_notMem_field delay " ST: 0x" (by decide) 2 processor.machine.timers.sound
  have fetchedAt := newline_notMem_field sound " PC: 0x" (by decide) 3 processor.fetchedAt
  have word := newline_notMem_field fetchedAt " OP: 0x" (by decide) 4 processor.word.toNat
  exact newline_notMem_append (newline_notMem_append word (by decide))
    (newline_notMem_mnemonic _)

/-! ### One text for what is shown -/

/-- Sameness in all that the text about a processor shows. -/
structure ShowsSame (left right : Processor) : Prop where
  registers : left.machine.registers = right.machine.registers
  index : left.machine.index = right.machine.index
  timers : left.machine.timers = right.machine.timers
  fetchedAt : left.fetchedAt = right.fetchedAt
  word : left.word = right.word
  stack : left.machine.stack = right.machine.stack
  reason : left.status.reason = right.status.reason

theorem empty_ne_row (values : List Int) :
    " (Empty)".toList ≠ Hex.row 3 " 0x".toList values := by
  cases values with
  | nil => decide
  | cons value later =>
    rw [Hex.row_cons]
    intro same
    have second : some '(' = some '0' := congrArg (fun (text : List Char) => text[1]?) same
    exact absurd second (by decide)

theorem stackText_inj {left right : CallStack 16} (leftFormed : left.WellFormed)
    (rightFormed : right.WellFormed)
    (same : (stackText left).toList = (stackText right).toList) : left = right := by
  have fit : ∀ {stack : CallStack 16}, stack.WellFormed →
      ∀ entry ∈ stack.oldestFirst, Hex.Fits 3 entry := by
    intro stack wellFormed entry member
    exact Hex.fits_of_isAddress (wellFormed.addresses entry (List.mem_reverse.mp member))
  rw [toList_stackText, toList_stackText] at same
  rw [CallStack.mk.injEq]
  by_cases leftEmpty : left.entries = []
  · by_cases rightEmpty : right.entries = []
    · exact leftEmpty.trans rightEmpty.symm
    · rw [if_pos leftEmpty, if_neg rightEmpty] at same
      exact absurd same (empty_ne_row _)
  · by_cases rightEmpty : right.entries = []
    · rw [if_neg leftEmpty, if_pos rightEmpty] at same
      exact absurd same.symm (empty_ne_row _)
    · rw [if_neg leftEmpty, if_neg rightEmpty] at same
      exact List.reverse_inj.mp (Hex.row_inj (by decide) _ (fit leftFormed) (fit rightFormed) same)

/-- No line break is in the text of the stack, so it ends where the reason begins. -/
theorem stackText_append_reasonText_inj {leftStack rightStack : CallStack 16}
    {leftReason rightReason : Option String}
    (same : (stackText leftStack).toList ++ (reasonText leftReason).toList =
      (stackText rightStack).toList ++ (reasonText rightReason).toList) :
    (stackText leftStack).toList = (stackText rightStack).toList ∧ leftReason = rightReason := by
  have leftLine := newline_notMem_stackText leftStack
  have rightLine := newline_notMem_stackText rightStack
  have broken : ∀ reason, (reasonText (some reason)).toList =
      '\n' :: ("Reason: ".toList ++ reason.toList) :=
    fun reason => String.toList_append
  have unbroken : (reasonText none).toList = [] := rfl
  cases leftReason with
  | none =>
    cases rightReason with
    | none => exact ⟨List.append_cancel_right same, rfl⟩
    | some reason =>
      -- Only the text on the right has a line break.
      rw [unbroken, broken, List.append_nil] at same
      exact absurd (by rw [same]; simp) leftLine
  | some reason =>
    cases rightReason with
    | none =>
      rw [unbroken, broken, List.append_nil] at same
      exact absurd (by rw [← same]; simp) rightLine
    | some otherReason =>
      rw [broken, broken] at same
      have lines := congrArg (Text.pieces '\n') same
      rw [Text.pieces_append_cons leftLine, Text.pieces_append_cons rightLine,
        List.cons.injEq] at lines
      rw [lines.1] at same
      have rest := (List.cons.inj (List.append_cancel_left same)).2
      exact ⟨lines.1, congrArg some (String.toList_inj.mp (List.append_cancel_left rest))⟩

theorem ShowsSame.fullDump_eq {left right : Processor} (same : ShowsSame left right) :
    left.fullDump = right.fullDump := by
  unfold fullDump dump registersText
  dsimp only
  rw [same.registers, same.index, same.timers, same.fetchedAt, same.word, same.stack, same.reason]

theorem toList_fullDump (processor : Processor) :
    processor.fullDump.toList =
      "V: 0x".toList ++ (Hex.row 2 [] (shownRegisters processor.machine) ++
      (" I: 0x".toList ++ ((Hex.padded 3 processor.machine.index).toList ++
      (" DT: 0x".toList ++ ((Hex.padded 2 processor.machine.timers.delay).toList ++
      (" ST: 0x".toList ++ ((Hex.padded 2 processor.machine.timers.sound).toList ++
      (" PC: 0x".toList ++ ((Hex.padded 3 processor.fetchedAt).toList ++
      (" OP: 0x".toList ++ ((Hex.padded 4 processor.word.toNat).toList ++
      (" IN: ".toList ++ ((Instruction.decode processor.word).mnemonic.toList ++
      ("\nStack:".toList ++ ((stackText processor.machine.stack).toList ++
        (reasonText processor.status.reason).toList))))))))))))))) := by
  rw [fullDump_eq]
  unfold dump
  simp only [String.toList_append, List.append_assoc, toList_registersText]

/-- Every part of the text has one width up to the instruction, which the word before it tells. -/
theorem showsSame_of_fullDump_eq {left right : Processor} (leftReachable : Reachable left)
    (rightReachable : Reachable right) (same : left.fullDump = right.fullDump) :
    ShowsSame left right := by
  have leftFormed := leftReachable.sound.machine
  have rightFormed := rightReachable.sound.machine
  have text := congrArg String.toList same
  rw [toList_fullDump, toList_fullDump] at text
  obtain ⟨registers, text⟩ := shownRegisters_append_inj (List.append_cancel_left text)
  obtain ⟨index, text⟩ := Hex.padded_append_inj (by decide) (Hex.fits_of_isAddress leftFormed.index)
    (Hex.fits_of_isAddress rightFormed.index) (List.append_cancel_left text)
  obtain ⟨delay, text⟩ := Hex.padded_append_inj (by decide)
    (Hex.fits_of_isByte leftFormed.timers.delay) (Hex.fits_of_isByte rightFormed.timers.delay)
    (List.append_cancel_left text)
  obtain ⟨sound, text⟩ := Hex.padded_append_inj (by decide)
    (Hex.fits_of_isByte leftFormed.timers.sound) (Hex.fits_of_isByte rightFormed.timers.sound)
    (List.append_cancel_left text)
  obtain ⟨fetchedAt, text⟩ := Hex.padded_append_inj (by decide)
    (Hex.fits_of_isAddress leftReachable.isAddress_fetchedAt)
    (Hex.fits_of_isAddress rightReachable.isAddress_fetchedAt) (List.append_cancel_left text)
  obtain ⟨wordNumber, text⟩ := Hex.padded_append_inj (by decide) (Hex.fits_word left.word)
    (Hex.fits_word right.word) (List.append_cancel_left text)
  have word : left.word = right.word := UInt16.toNat_inj.mp (Int.ofNat.inj wordNumber)
  rw [word] at text
  have afterInstruction := List.append_cancel_left (List.append_cancel_left text)
  obtain ⟨stack, reason⟩ :=
    stackText_append_reasonText_inj (List.append_cancel_left afterInstruction)
  exact {
    registers := registers
    index := index
    timers := by rw [Timers.mk.injEq]; exact ⟨delay, sound⟩
    fetchedAt := fetchedAt
    word := word
    stack := stackText_inj leftFormed.stack rightFormed.stack stack
    reason := reason }

end Processor

end Chip8
