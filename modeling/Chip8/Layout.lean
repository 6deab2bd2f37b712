/-!
Contract: the fixed dimensions of the machine and the glyphs built into it.

Owns: the memory map, the number of registers and keys, the call depth, and the
hexadecimal font with its place in memory.
-/

namespace Chip8

abbrev memorySize : Nat := 0x1000

abbrev highestAddress : Nat := memorySize - 1

/-- Programs are loaded here; the addresses below hold the font. -/
abbrev programStart : Nat := 0x200

abbrev programLimit : Nat := memorySize - programStart

abbrev registerCount : Nat := 16

abbrev callDepth : Nat := 16

abbrev screenWidth : Nat := 64

abbrev screenHeight : Nat := 32

/-- Every sprite row is one byte, so it covers this many pixels. -/
abbrev spriteWidth : Nat := 8

abbrev keyCount : Nat := 16

namespace Font

abbrev location : Nat := 0

abbrev glyphSize : Nat := 5

/-- Sixteen glyphs, `0` to `F`, of five rows each; the left half of a byte is drawn. -/
def bytes : List UInt8 := [
  0xF0, 0x90, 0x90, 0x90, 0xF0,
  0x20, 0x60, 0x20, 0x20, 0x70,
  0xF0, 0x10, 0xF0, 0x80, 0xF0,
  0xF0, 0x10, 0xF0, 0x10, 0xF0,
  0x90, 0x90, 0xF0, 0x10, 0x10,
  0xF0, 0x80, 0xF0, 0x10, 0xF0,
  0xF0, 0x80, 0xF0, 0x90, 0xF0,
  0xF0, 0x10, 0x20, 0x40, 0x40,
  0xF0, 0x90, 0xF0, 0x90, 0xF0,
  0xF0, 0x90, 0xF0, 0x10, 0xF0,
  0xF0, 0x90, 0xF0, 0x90, 0x90,
  0xE0, 0x90, 0xE0, 0x90, 0xE0,
  0xF0, 0x80, 0x80, 0x80, 0xF0,
  0xE0, 0x90, 0x90, 0x90, 0xE0,
  0xF0, 0x80, 0xF0, 0x80, 0xF0,
  0xF0, 0x80, 0xF0, 0x80, 0x80]

end Font

end Chip8
