import Chip8.Fault
import Chip8.Instruction.Mnemonic

/-!
Contract: a block of bytes listed as instructions, two bytes a line, without running any.

Owns: `Listing.ofBytes`, which starts at any offset and leaves out a trailing odd byte, and the
form of a line.
-/

namespace Chip8

structure Line where
  address : Int
  word : Int
  text : String
deriving DecidableEq, Repr

def Line.format (line : Line) : String :=
  "0x" ++ Hex.padded 3 line.address ++ "  " ++ Hex.padded 4 line.word ++ "  " ++ line.text

structure Listing where
  lines : List Line
  /-- Why the listing ends before its last line, if it does. -/
  fault : Option Fault
deriving DecidableEq, Repr

namespace Listing

/-- The byte at an offset; one below zero counts from the end. -/
def byteAt (data : Array UInt8) (offset : Int) : Option UInt8 :=
  let place := if offset < 0 then offset + data.size else offset
  if place < 0 then none else data[place.toNat]?

def lineAt (data : Array UInt8) (base offset : Int) : Option Line := do
  let word := Word.ofBytes (← byteAt data offset) (← byteAt data (offset + 1))
  return ⟨base + offset, word.toNat, (Instruction.decode word).mnemonic⟩

/-- So many lines from an offset on, up to the first that reaches outside the data. -/
def linesFrom (data : Array UInt8) (base : Int) : Nat → Int → Listing
  | 0, _ => ⟨[], none⟩
  | count + 1, offset =>
    match lineAt data base offset with
    | none => ⟨[], some .indexOutside⟩
    | some line =>
      let rest := linesFrom data base count (offset + 2)
      ⟨line :: rest.lines, rest.fault⟩

/-- Lists the data from `start` on as if its first byte stood at address `base`. -/
def ofBytes (data : Array UInt8) (start base : Int) : Listing :=
  linesFrom data base ((data.size - start) / 2).toNat start

/-- The first lines; the fault is only met by asking for more lines than there are. -/
def take (listing : Listing) (count : Nat) : Listing :=
  ⟨listing.lines.take count, if count ≤ listing.lines.length then none else listing.fault⟩

end Listing

end Chip8
