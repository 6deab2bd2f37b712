import Chip8.Instruction

/-!
Contract: which words stand for which instruction.

Owns:
- the three forms in which a word holds operands, each of which determines the word;
- `Instruction.Encoded`, the table of the words of every instruction, which decoding follows, and
  that no word is in the table for an instruction that it does not decode to;
- that two words of one instruction are the same, except that a shift does not look at the second
  register.

Does not own: the text of an instruction, and what it does.
-/

namespace Chip8

/-! ### Forms of words -/

namespace Word

/-- A family with an address behind it. -/
def WithAddress (word : Word) (family : Nat) (address : Address) : Prop :=
  word.family = family ∧ word.nnn = address

/-- A family with a register and a byte behind it. -/
def WithByte (word : Word) (family : Nat) (x : Register) (byte : UInt8) : Prop :=
  word.family = family ∧ word.x = x ∧ word.nn = byte

/-- A family with two registers and four more bits behind it. -/
def WithRegisters (word : Word) (family : Nat) (x y : Register) (n : Fin 16) : Prop :=
  word.family = family ∧ word.x = x ∧ word.y = y ∧ word.n = n

theorem family_lt (word : Word) : word.family < 16 := by
  have below := word.toNat_lt
  unfold family
  omega

theorem val_nnn (word : Word) : word.nnn.val = word.toNat % 4096 :=
  rfl

theorem toNat_nn (word : Word) : word.nn.toNat = word.toNat % 256 := by
  unfold nn
  rw [UInt8.toNat_ofNat']
  omega

variable {left right : Word} {family : Nat} {x y : Register}

theorem WithAddress.eq {address : Address} (leftForm : left.WithAddress family address)
    (rightForm : right.WithAddress family address) : left = right := by
  obtain ⟨leftFamily, leftAddress⟩ := leftForm
  obtain ⟨rightFamily, rightAddress⟩ := rightForm
  have sameAddress : left.toNat % 4096 = right.toNat % 4096 := by
    rw [← val_nnn, ← val_nnn, leftAddress, rightAddress]
  have sameFamily : left.toNat / 4096 = right.toNat / 4096 :=
    leftFamily.trans rightFamily.symm
  apply UInt16.toNat.inj
  omega

/-- A family and a register make up the upper byte. -/
theorem upper_eq (sameFamily : left.family = right.family) (sameX : left.x = right.x) :
    left.toNat / 256 = right.toNat / 256 := by
  have sameDigit : left.toNat / 256 % 16 = right.toNat / 256 % 16 := congrArg Fin.val sameX
  unfold Word.family at sameFamily
  omega

theorem WithByte.eq {byte : UInt8} (leftForm : left.WithByte family x byte)
    (rightForm : right.WithByte family x byte) : left = right := by
  obtain ⟨leftFamily, leftX, leftByte⟩ := leftForm
  obtain ⟨rightFamily, rightX, rightByte⟩ := rightForm
  have sameUpper := upper_eq (leftFamily.trans rightFamily.symm) (leftX.trans rightX.symm)
  have sameByte : left.toNat % 256 = right.toNat % 256 := by
    rw [← toNat_nn, ← toNat_nn, leftByte, rightByte]
  apply UInt16.toNat.inj
  omega

/-- Only the four bits of the second register can tell two words apart that agree otherwise. -/
theorem WithRegisters.eq_but_y {otherY : Register} {n : Fin 16}
    (leftForm : left.WithRegisters family x y n)
    (rightForm : right.WithRegisters family x otherY n) :
    left.toNat / 256 = right.toNat / 256 ∧ left.toNat % 16 = right.toNat % 16 := by
  obtain ⟨leftFamily, leftX, -, leftN⟩ := leftForm
  obtain ⟨rightFamily, rightX, -, rightN⟩ := rightForm
  have sameUpper := upper_eq (leftFamily.trans rightFamily.symm) (leftX.trans rightX.symm)
  exact ⟨sameUpper, congrArg Fin.val (leftN.trans rightN.symm)⟩

theorem WithRegisters.eq {n : Fin 16} (leftForm : left.WithRegisters family x y n)
    (rightForm : right.WithRegisters family x y n) : left = right := by
  have sameY : left.toNat / 16 % 16 = right.toNat / 16 % 16 :=
    congrArg Fin.val (leftForm.2.2.1.trans rightForm.2.2.1.symm)
  obtain ⟨sameHigh, sameLow⟩ := leftForm.eq_but_y rightForm
  apply UInt16.toNat.inj
  omega

end Word

/-! ### The table of words -/

namespace Instruction

/-- Whether a word stands for an instruction. -/
def Encoded (word : Word) : Instruction → Prop
  | .clear => word = 0x00E0
  | .ret => word = 0x00EE
  | .jump target => word.WithAddress 0x1 target
  | .call target => word.WithAddress 0x2 target
  | .skipIfByte x byte => word.WithByte 0x3 x byte
  | .skipUnlessByte x byte => word.WithByte 0x4 x byte
  | .skipIfSame x y => word.WithRegisters 0x5 x y 0x0
  | .setByte x byte => word.WithByte 0x6 x byte
  | .addByte x byte => word.WithByte 0x7 x byte
  | .copy x y => word.WithRegisters 0x8 x y 0x0
  | .or x y => word.WithRegisters 0x8 x y 0x1
  | .and x y => word.WithRegisters 0x8 x y 0x2
  | .xor x y => word.WithRegisters 0x8 x y 0x3
  | .add x y => word.WithRegisters 0x8 x y 0x4
  | .sub x y => word.WithRegisters 0x8 x y 0x5
  | .shiftRight x => ∃ y, word.WithRegisters 0x8 x y 0x6
  | .subFrom x y => word.WithRegisters 0x8 x y 0x7
  | .shiftLeft x => ∃ y, word.WithRegisters 0x8 x y 0xE
  | .skipUnlessSame x y => word.WithRegisters 0x9 x y 0x0
  | .setIndex address => word.WithAddress 0xA address
  | .jumpOffset address => word.WithAddress 0xB address
  | .random x mask => word.WithByte 0xC x mask
  | .draw x y height => word.WithRegisters 0xD x y height
  | .skipIfKey x => word.WithByte 0xE x 0x9E
  | .skipUnlessKey x => word.WithByte 0xE x 0xA1
  | .readDelay x => word.WithByte 0xF x 0x07
  | .awaitKey x => word.WithByte 0xF x 0x0A
  | .writeDelay x => word.WithByte 0xF x 0x15
  | .writeSound x => word.WithByte 0xF x 0x18
  | .addIndex x => word.WithByte 0xF x 0x1E
  | .glyph x => word.WithByte 0xF x 0x29
  | .decimal x => word.WithByte 0xF x 0x33
  | .saveRegisters x => word.WithByte 0xF x 0x55
  | .loadRegisters x => word.WithByte 0xF x 0x65
  | .unknown original => word = original

theorem encoded_decodeRegisters {word : Word} (family : word.family = 0x8) :
    Encoded word (decodeRegisters word) := by
  unfold decodeRegisters
  split
  case h_10 => rfl
  case h_7 n | h_9 n => exact ⟨word.y, family, rfl, rfl, Fin.ext n⟩
  all_goals exact ⟨family, rfl, rfl, Fin.ext ‹_›⟩

theorem encoded_decodeDevices {word : Word} (family : word.family = 0xF) :
    Encoded word (decodeDevices word) := by
  unfold decodeDevices
  split
  case h_10 => rfl
  all_goals exact ⟨family, rfl, UInt8.toNat.inj ‹_›⟩

/-- Decoding follows the table. -/
theorem encoded_decode (word : Word) : Encoded word (decode word) := by
  have below := word.family_lt
  unfold decode
  split
  case h_1 =>
    split
    · assumption
    · split
      · assumption
      · rfl
  case h_6 family | h_10 family =>
    split
    · exact ⟨family, rfl, rfl, Fin.ext ‹_›⟩
    · rfl
  case h_9 family => exact encoded_decodeRegisters family
  case h_15 family =>
    split
    · exact ⟨family, rfl, ‹_›⟩
    · split
      · exact ⟨family, rfl, ‹_›⟩
      · rfl
  case h_16 =>
    have last : word.family = 0xF := by grind
    exact encoded_decodeDevices last
  case h_2 family | h_3 family | h_11 family | h_12 family => exact ⟨family, rfl⟩
  case h_4 family | h_5 family | h_7 family | h_8 family | h_13 family =>
    exact ⟨family, rfl, rfl⟩
  case h_14 family => exact ⟨family, rfl, rfl, rfl⟩

/-- A word that stands for an instruction by the table decodes to it. -/
theorem decode_of_encoded {word : Word} {instruction : Instruction}
    (known : instruction.isUnknown = false) (encoded : Encoded word instruction) :
    decode word = instruction := by
  cases instruction with
  | clear | ret =>
    cases encoded
    rfl
  | jump | call | setIndex | jumpOffset =>
    obtain ⟨family, rfl⟩ := encoded
    simp only [decode, family]
  | skipIfByte | skipUnlessByte | setByte | addByte | random =>
    obtain ⟨family, rfl, rfl⟩ := encoded
    simp only [decode, family]
  | skipIfSame | skipUnlessSame | draw =>
    obtain ⟨family, rfl, rfl, n⟩ := encoded
    simp [decode, family, n]
  | copy | or | and | xor | add | sub | subFrom =>
    obtain ⟨family, rfl, rfl, n⟩ := encoded
    simp only [decode, family, decodeRegisters, n]
    rfl
  | shiftRight | shiftLeft =>
    obtain ⟨y, family, rfl, rfl, n⟩ := encoded
    simp only [decode, family, decodeRegisters, n]
    rfl
  | skipIfKey | skipUnlessKey =>
    obtain ⟨family, rfl, byte⟩ := encoded
    simp [decode, family, byte]
  | readDelay | awaitKey | writeDelay | writeSound | addIndex | glyph | decimal | saveRegisters
    | loadRegisters =>
    obtain ⟨family, rfl, byte⟩ := encoded
    simp only [decode, family, decodeDevices, byte]
    rfl
  | unknown => contradiction

/-- A word is known by its instruction, except that a shift has one word for each register that it
does not look at. -/
theorem eq_or_shift_of_encoded {left right : Word} {instruction : Instruction}
    (leftEncoded : Encoded left instruction) (rightEncoded : Encoded right instruction) :
    left = right ∨
      (∃ x, instruction = .shiftRight x ∨ instruction = .shiftLeft x) ∧
        left.toNat / 256 = right.toNat / 256 ∧ left.toNat % 16 = right.toNat % 16 := by
  cases instruction with
  | clear | ret | unknown =>
    left
    exact Eq.trans leftEncoded (Eq.symm rightEncoded)
  | jump | call | setIndex | jumpOffset =>
    left
    exact Word.WithAddress.eq leftEncoded rightEncoded
  | skipIfByte | skipUnlessByte | setByte | addByte | random | skipIfKey | skipUnlessKey | readDelay
    | awaitKey | writeDelay | writeSound | addIndex | glyph | decimal | saveRegisters
    | loadRegisters =>
    left
    exact Word.WithByte.eq leftEncoded rightEncoded
  | skipIfSame | copy | or | and | xor | add | sub | subFrom | skipUnlessSame | draw =>
    left
    exact Word.WithRegisters.eq leftEncoded rightEncoded
  | shiftRight x =>
    right
    obtain ⟨leftY, leftForm⟩ := leftEncoded
    obtain ⟨rightY, rightForm⟩ := rightEncoded
    exact ⟨⟨x, Or.inl rfl⟩, leftForm.eq_but_y rightForm⟩
  | shiftLeft x =>
    right
    obtain ⟨leftY, leftForm⟩ := leftEncoded
    obtain ⟨rightY, rightForm⟩ := rightEncoded
    exact ⟨⟨x, Or.inr rfl⟩, leftForm.eq_but_y rightForm⟩

end Instruction

end Chip8
