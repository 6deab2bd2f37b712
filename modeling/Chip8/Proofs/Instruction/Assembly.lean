import Chip8.Instruction.Mnemonic
import Chip8.Proofs.Text.Hex
import Chip8.Proofs.Text.Pieces

/-!
Contract: the text of an instruction can be read back.

Owns:
- `Operator` and `Operand`, the words of which a line of assembler text is made;
- `Instruction.assemble`, which reads a line, and that it reads every mnemonic;
- that different instructions have different mnemonics.

Does not own: which word an instruction is made from.
-/

namespace Chip8

inductive Operator where
  | cls | ret | jp | call | se | sne | ld | add | or | and | xor | sub | shr | subn | shl | rnd
  | drw | skp | sknp
  /-- Stands before a word that is no instruction. -/
  | bad
deriving DecidableEq

namespace Operator

def text : Operator → String
  | .cls => "CLS"
  | .ret => "RET"
  | .jp => "JP"
  | .call => "CALL"
  | .se => "SE"
  | .sne => "SNE"
  | .ld => "LD"
  | .add => "ADD"
  | .or => "OR"
  | .and => "AND"
  | .xor => "XOR"
  | .sub => "SUB"
  | .shr => "SHR"
  | .subn => "SUBN"
  | .shl => "SHL"
  | .rnd => "RND"
  | .drw => "DRW"
  | .skp => "SKP"
  | .sknp => "SKNP"
  | .bad => "???"

def all : List Operator := [
  .cls, .ret, .jp, .call, .se, .sne, .ld, .add, .or, .and, .xor, .sub, .shr, .subn, .shl, .rnd,
  .drw, .skp, .sknp, .bad]

def read (name : List Char) : Option Operator :=
  all.find? fun operator => operator.text.toList == name

theorem read_text (operator : Operator) : read operator.text.toList = some operator := by
  cases operator <;> decide

theorem space_notMem_text (operator : Operator) : ' ' ∉ operator.text.toList := by
  cases operator <;> decide

end Operator

inductive Operand where
  | register (number : Register)
  | nibble (value : Fin 16)
  | byte (value : UInt8)
  | address (value : Address)
  | word (value : Word)
  | index
  /-- The memory from the index on. -/
  | memory
  | delay
  | sound
  | key
  | glyph
  | decimal
deriving DecidableEq

namespace Operand

def text : Operand → String
  | .register number => Instruction.registerText number
  | .nibble value => "0x" ++ Hex.padded 1 value.val
  | .byte value => Instruction.byteText value
  | .address value => Instruction.addressText value
  | .word value => "0x" ++ Hex.padded 4 value.toNat
  | .index => "I"
  | .memory => "[I]"
  | .delay => "DT"
  | .sound => "ST"
  | .key => "K"
  | .glyph => "F"
  | .decimal => "B"

/-- The kind of a number is told by how many digits it has. -/
def ofNumber (width number : Nat) : Option Operand :=
  match width with
  | 1 => some (.nibble ⟨number % 16, Nat.mod_lt _ (by decide)⟩)
  | 2 => some (.byte (UInt8.ofNat number))
  | 3 => some (.address ⟨number % 4096, Nat.mod_lt _ (by decide)⟩)
  | 4 => some (.word (UInt16.ofNat number))
  | _ => none

def read : List Char → Option Operand
  | 'V' :: digits => some (.register ⟨Hex.value digits % 16, Nat.mod_lt _ (by decide)⟩)
  | '0' :: 'x' :: digits => ofNumber digits.length (Hex.value digits)
  | ['I'] => some .index
  | ['[', 'I', ']'] => some .memory
  | ['D', 'T'] => some .delay
  | ['S', 'T'] => some .sound
  | ['K'] => some .key
  | ['F'] => some .glyph
  | ['B'] => some .decimal
  | _ => none

theorem read_number {width number : Nat} (positive : 0 < width) (fits : number < 16 ^ width) :
    read ("0x" ++ Hex.padded width number).toList = ofNumber width number := by
  rw [String.toList_append]
  change ofNumber (Hex.padded width number).toList.length
    (Hex.value (Hex.padded width number).toList) = _
  rw [Hex.length_padded positive fits, Hex.value_padded]

theorem read_registerText (number : Register) :
    read (Instruction.registerText number).toList = some (.register number) := by
  rw [Instruction.registerText, String.toList_append]
  change some (Operand.register
    ⟨Hex.value (Hex.padded 1 number.val).toList % 16, Nat.mod_lt _ (by decide)⟩) = _
  simp only [Hex.value_padded, Nat.mod_eq_of_lt number.isLt]

theorem read_text (operand : Operand) : read operand.text.toList = some operand := by
  cases operand with
  | register number => exact read_registerText number
  | nibble value =>
    have fits : value.val < 16 ^ 1 := value.isLt
    rw [text, read_number (by decide) fits, ofNumber]
    simp only [Nat.mod_eq_of_lt value.isLt]
  | byte value =>
    rw [text, Instruction.byteText, read_number (by decide) value.toNat_lt, ofNumber]
    simp
  | address value =>
    rw [text, Instruction.addressText, read_number (by decide) value.isLt, ofNumber]
    simp only [Nat.mod_eq_of_lt value.isLt]
  | word value =>
    rw [text, read_number (by decide) value.toNat_lt, ofNumber]
    simp
  | index | memory | delay | sound | key | glyph | decimal => rfl

theorem separator_notMem_text {separator : Char} (isSeparator : separator = ' ' ∨ separator = ',')
    (operand : Operand) : separator ∉ operand.text.toList := by
  have notInNumber : ∀ width number : Nat, separator ∉ (Hex.padded width number).toList := by
    intro width number member
    have noDigit : ∀ digit : Fin 16, digit.val.digitChar ≠ ' ' ∧ digit.val.digitChar ≠ ',' := by
      decide
    obtain ⟨digit, small, rfl⟩ := Hex.mem_padded member
    rcases isSeparator with space | comma
    · exact (noDigit ⟨digit, small⟩).1 space
    · exact (noDigit ⟨digit, small⟩).2 comma
  have notV : separator ≠ 'V' := by rcases isSeparator with rfl | rfl <;> decide
  have notZero : separator ≠ '0' := by rcases isSeparator with rfl | rfl <;> decide
  have notX : separator ≠ 'x' := by rcases isSeparator with rfl | rfl <;> decide
  cases operand with
  | register => simp [text, Instruction.registerText, notInNumber, notV]
  | nibble | byte | address | word =>
    simp [text, Instruction.byteText, Instruction.addressText, notInNumber, notZero, notX]
  | index | memory | delay | sound | key | glyph | decimal =>
    rcases isSeparator with rfl | rfl <;> decide

/-- Reads an operand that a comma may follow. -/
def readWord (word : List Char) : Option Operand :=
  read (word.filter (· != ','))

theorem filter_text (operand : Operand) :
    operand.text.toList.filter (· != ',') = operand.text.toList := by
  rw [List.filter_eq_self]
  intro char member
  have noComma : char ≠ ',' := by
    rintro rfl
    exact separator_notMem_text (Or.inr rfl) operand member
  simpa using noComma

theorem readWord_text (operand : Operand) : readWord operand.text.toList = some operand := by
  rw [readWord, filter_text, read_text]

theorem readWord_comma (operand : Operand) :
    readWord (operand.text.toList ++ [',']) = some operand := by
  rw [readWord, List.filter_append, filter_text]
  change read (operand.text.toList ++ []) = some operand
  rw [List.append_nil, read_text]

/-- The words of operands in a line: a comma follows each but the last. -/
def punctuated : List Operand → List (List Char)
  | [] => []
  | [last] => [last.text.toList]
  | operand :: later => (operand.text.toList ++ [',']) :: punctuated later

theorem mapM_readWord_punctuated (operands : List Operand) :
    (punctuated operands).mapM readWord = some operands := by
  fun_induction punctuated operands with
  | case1 => rfl
  | case2 last => simp [readWord_text]
  | case3 operand later notLast inductionHypothesis =>
    simp [readWord_comma, inductionHypothesis]

theorem space_notMem_punctuated {operands : List Operand} {word : List Char}
    (member : word ∈ punctuated operands) : ' ' ∉ word := by
  fun_induction punctuated operands with
  | case1 => contradiction
  | case2 last =>
    rw [List.mem_singleton.mp member]
    exact separator_notMem_text (Or.inl rfl) last
  | case3 operand later notLast inductionHypothesis =>
    rcases List.mem_cons.mp member with rfl | behind
    · have notInText := separator_notMem_text (Or.inl rfl) operand
      simp [notInText]
    · exact inductionHypothesis behind

end Operand

namespace Instruction

def operator : Instruction → Operator
  | .clear => .cls
  | .ret => .ret
  | .jump _ | .jumpOffset _ => .jp
  | .call _ => .call
  | .skipIfByte .. | .skipIfSame .. => .se
  | .skipUnlessByte .. | .skipUnlessSame .. => .sne
  | .setByte .. | .copy .. | .setIndex _ | .readDelay _ | .awaitKey _ | .writeDelay _
  | .writeSound _ | .glyph _ | .decimal _ | .saveRegisters _ | .loadRegisters _ => .ld
  | .addByte .. | .add .. | .addIndex _ => .add
  | .or .. => .or
  | .and .. => .and
  | .xor .. => .xor
  | .sub .. => .sub
  | .shiftRight _ => .shr
  | .subFrom .. => .subn
  | .shiftLeft _ => .shl
  | .random .. => .rnd
  | .draw .. => .drw
  | .skipIfKey _ => .skp
  | .skipUnlessKey _ => .sknp
  | .unknown _ => .bad

def operands : Instruction → List Operand
  | .clear | .ret => []
  | .jump address | .call address => [.address address]
  | .jumpOffset address => [.register Register.first, .address address]
  | .setIndex address => [.index, .address address]
  | .skipIfByte x byte | .skipUnlessByte x byte | .setByte x byte | .addByte x byte
  | .random x byte => [.register x, .byte byte]
  | .skipIfSame x y | .skipUnlessSame x y | .copy x y | .or x y | .and x y | .xor x y | .add x y
  | .sub x y | .subFrom x y => [.register x, .register y]
  | .draw x y height => [.register x, .register y, .nibble height]
  | .shiftRight x | .shiftLeft x | .skipIfKey x | .skipUnlessKey x => [.register x]
  | .readDelay x => [.register x, .delay]
  | .awaitKey x => [.register x, .key]
  | .loadRegisters x => [.register x, .memory]
  | .writeDelay x => [.delay, .register x]
  | .writeSound x => [.sound, .register x]
  | .addIndex x => [.index, .register x]
  | .glyph x => [.glyph, .register x]
  | .decimal x => [.decimal, .register x]
  | .saveRegisters x => [.memory, .register x]
  | .unknown word => [.word word]

/-- The instruction that an operator makes of operands. -/
def ofParts : Operator → List Operand → Option Instruction
  | .cls, [] => some .clear
  | .ret, [] => some .ret
  | .jp, [.address target] => some (.jump target)
  | .jp, [.register _, .address address] => some (.jumpOffset address)
  | .call, [.address target] => some (.call target)
  | .se, [.register x, .byte byte] => some (.skipIfByte x byte)
  | .se, [.register x, .register y] => some (.skipIfSame x y)
  | .sne, [.register x, .byte byte] => some (.skipUnlessByte x byte)
  | .sne, [.register x, .register y] => some (.skipUnlessSame x y)
  | .ld, [.register x, .byte byte] => some (.setByte x byte)
  | .ld, [.register x, .register y] => some (.copy x y)
  | .ld, [.register x, .delay] => some (.readDelay x)
  | .ld, [.register x, .key] => some (.awaitKey x)
  | .ld, [.register x, .memory] => some (.loadRegisters x)
  | .ld, [.index, .address address] => some (.setIndex address)
  | .ld, [.delay, .register x] => some (.writeDelay x)
  | .ld, [.sound, .register x] => some (.writeSound x)
  | .ld, [.glyph, .register x] => some (.glyph x)
  | .ld, [.decimal, .register x] => some (.decimal x)
  | .ld, [.memory, .register x] => some (.saveRegisters x)
  | .add, [.register x, .byte byte] => some (.addByte x byte)
  | .add, [.register x, .register y] => some (.add x y)
  | .add, [.index, .register x] => some (.addIndex x)
  | .or, [.register x, .register y] => some (.or x y)
  | .and, [.register x, .register y] => some (.and x y)
  | .xor, [.register x, .register y] => some (.xor x y)
  | .sub, [.register x, .register y] => some (.sub x y)
  | .subn, [.register x, .register y] => some (.subFrom x y)
  | .shr, [.register x] => some (.shiftRight x)
  | .shl, [.register x] => some (.shiftLeft x)
  | .rnd, [.register x, .byte mask] => some (.random x mask)
  | .drw, [.register x, .register y, .nibble height] => some (.draw x y height)
  | .skp, [.register x] => some (.skipIfKey x)
  | .sknp, [.register x] => some (.skipUnlessKey x)
  | .bad, [.word word] => some (.unknown word)
  | _, _ => none

theorem ofParts_operands (instruction : Instruction) :
    ofParts instruction.operator instruction.operands = some instruction := by
  cases instruction <;> rfl

/-! ### Whole lines -/

theorem mnemonic_eq (instruction : Instruction) :
    instruction.mnemonic.toList = [' '].intercalate
      (instruction.operator.text.toList :: Operand.punctuated instruction.operands) := by
  cases instruction with
  | jumpOffset address =>
    have first : (registerText Register.first).toList = ['V', '0'] := by decide
    simp [mnemonic, operator, operands, Operand.punctuated, Operator.text, Operand.text,
      List.intercalate, first]
  | _ =>
    simp [mnemonic, operator, operands, Operand.punctuated, Operator.text, Operand.text,
      List.intercalate]

/-- The instruction that a line of assembler text stands for. -/
def assemble (line : String) : Option Instruction :=
  match Text.pieces ' ' line.toList with
  | [] => none
  | name :: words => do ofParts (← Operator.read name) (← words.mapM Operand.readWord)

theorem assemble_mnemonic (instruction : Instruction) :
    assemble instruction.mnemonic = some instruction := by
  have noSpaces : ∀ word ∈ instruction.operator.text.toList ::
      Operand.punctuated instruction.operands, ' ' ∉ word := by
    intro word member
    rcases List.mem_cons.mp member with rfl | operand
    · exact Operator.space_notMem_text _
    · exact Operand.space_notMem_punctuated operand
  unfold assemble
  rw [mnemonic_eq, Text.pieces_intercalate (List.cons_ne_nil _ _) noSpaces]
  simp only [Operator.read_text, Operand.mapM_readWord_punctuated]
  exact ofParts_operands instruction

theorem mnemonic_inj {left right : Instruction} :
    left.mnemonic = right.mnemonic ↔ left = right := by
  constructor
  · intro sameText
    apply Option.some.inj
    rw [← assemble_mnemonic left, sameText, assemble_mnemonic]
  · intro sameInstruction
    rw [sameInstruction]

end Instruction

end Chip8
