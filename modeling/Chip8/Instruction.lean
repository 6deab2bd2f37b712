/-!
Contract: instruction words and the instructions they stand for.

Owns:
- `Word`, sixteen bits, and its operand fields at fixed places;
- `Instruction`, one constructor for each operation with the operands it reads;
- `Instruction.decode`, which is total: a word of no operation decodes to `unknown`.

Does not own: the text of an instruction, and what it does.
-/

namespace Chip8

abbrev Word := UInt16

/-- The number of a register. -/
abbrev Register := Fin 16

namespace Register

def first : Register := ⟨0, by decide⟩

/-- The register that instructions put their flag into. -/
def flag : Register := ⟨15, by decide⟩

end Register

/-- Addresses have twelve bits. -/
abbrev Address := Fin 4096

def Address.wrap (location : Int) : Address :=
  ⟨(location % 4096).toNat, by omega⟩

theorem Address.wrap_of_lt {location : Int} (notBelow : 0 ≤ location)
    (notAbove : location < 4096) : (Address.wrap location).val = location.toNat := by
  simp only [Address.wrap]
  omega

namespace Word

/-- The low sixteen bits of an integer. -/
def ofInt (value : Int) : Word :=
  UInt16.ofNat (value % 65536).toNat

def ofBytes (high low : UInt8) : Word :=
  UInt16.ofNat (high.toNat * 256 + low.toNat)

/-- The four bits that sort words into families. -/
def family (word : Word) : Nat :=
  word.toNat / 4096

def x (word : Word) : Register :=
  ⟨word.toNat / 256 % 16, Nat.mod_lt _ (by decide)⟩

def y (word : Word) : Register :=
  ⟨word.toNat / 16 % 16, Nat.mod_lt _ (by decide)⟩

def n (word : Word) : Fin 16 :=
  ⟨word.toNat % 16, Nat.mod_lt _ (by decide)⟩

def nn (word : Word) : UInt8 :=
  UInt8.ofNat (word.toNat % 256)

def nnn (word : Word) : Address :=
  ⟨word.toNat % 4096, Nat.mod_lt _ (by decide)⟩

theorem toNat_ofBytes (high low : UInt8) :
    (ofBytes high low).toNat = high.toNat * 256 + low.toNat := by
  have highSmall := high.toNat_lt
  have lowSmall := low.toNat_lt
  simp only [ofBytes, UInt16.toNat_ofNat']
  omega

end Word

inductive Instruction where
  | clear
  | ret
  | jump (target : Address)
  | call (target : Address)
  | skipIfByte (x : Register) (byte : UInt8)
  | skipUnlessByte (x : Register) (byte : UInt8)
  | skipIfSame (x y : Register)
  | setByte (x : Register) (byte : UInt8)
  | addByte (x : Register) (byte : UInt8)
  | copy (x y : Register)
  | or (x y : Register)
  | and (x y : Register)
  | xor (x y : Register)
  | add (x y : Register)
  /-- Puts `x - y` into `x`. -/
  | sub (x y : Register)
  | shiftRight (x : Register)
  /-- Puts `y - x` into `x`. -/
  | subFrom (x y : Register)
  | shiftLeft (x : Register)
  | skipUnlessSame (x y : Register)
  | setIndex (address : Address)
  /-- A jump to the address plus register 0. -/
  | jumpOffset (address : Address)
  | random (x : Register) (mask : UInt8)
  | draw (x y : Register) (height : Fin 16)
  | skipIfKey (x : Register)
  | skipUnlessKey (x : Register)
  | readDelay (x : Register)
  | awaitKey (x : Register)
  | writeDelay (x : Register)
  | writeSound (x : Register)
  | addIndex (x : Register)
  /-- Points the index at the glyph of a digit. -/
  | glyph (x : Register)
  /-- Writes the three decimal digits of a register to memory. -/
  | decimal (x : Register)
  | saveRegisters (x : Register)
  | loadRegisters (x : Register)
  | unknown (word : Word)
deriving DecidableEq, Repr

namespace Instruction

/-- The operations on two registers, told apart by the last four bits. -/
def decodeRegisters (word : Word) : Instruction :=
  match word.n.val with
  | 0x0 => .copy word.x word.y
  | 0x1 => .or word.x word.y
  | 0x2 => .and word.x word.y
  | 0x3 => .xor word.x word.y
  | 0x4 => .add word.x word.y
  | 0x5 => .sub word.x word.y
  | 0x6 => .shiftRight word.x
  | 0x7 => .subFrom word.x word.y
  | 0xE => .shiftLeft word.x
  | _ => .unknown word

/-- The operations on the index, the timers and the keypad, told apart by the low byte. -/
def decodeDevices (word : Word) : Instruction :=
  match word.nn.toNat with
  | 0x07 => .readDelay word.x
  | 0x0A => .awaitKey word.x
  | 0x15 => .writeDelay word.x
  | 0x18 => .writeSound word.x
  | 0x1E => .addIndex word.x
  | 0x29 => .glyph word.x
  | 0x33 => .decimal word.x
  | 0x55 => .saveRegisters word.x
  | 0x65 => .loadRegisters word.x
  | _ => .unknown word

/-- Family 0 has two words only, family 8 and F have a table of their own, and every other
family is one operation. -/
def decode (word : Word) : Instruction :=
  match word.family with
  | 0x0 => if word = 0x00E0 then .clear else if word = 0x00EE then .ret else .unknown word
  | 0x1 => .jump word.nnn
  | 0x2 => .call word.nnn
  | 0x3 => .skipIfByte word.x word.nn
  | 0x4 => .skipUnlessByte word.x word.nn
  | 0x5 => if word.n.val = 0 then .skipIfSame word.x word.y else .unknown word
  | 0x6 => .setByte word.x word.nn
  | 0x7 => .addByte word.x word.nn
  | 0x8 => decodeRegisters word
  | 0x9 => if word.n.val = 0 then .skipUnlessSame word.x word.y else .unknown word
  | 0xA => .setIndex word.nnn
  | 0xB => .jumpOffset word.nnn
  | 0xC => .random word.x word.nn
  | 0xD => .draw word.x word.y word.n
  | 0xE =>
    if word.nn = 0x9E then .skipIfKey word.x
    else if word.nn = 0xA1 then .skipUnlessKey word.x
    else .unknown word
  | _ => decodeDevices word

def isUnknown : Instruction → Bool
  | .unknown _ => true
  | _ => false

end Instruction

end Chip8
