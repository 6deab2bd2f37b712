/-!
Contract: lower-case hexadecimal text of integers, filled up with zeros to a least width.

Owns: `Hex.padded`, where a minus sign takes one of the characters of the width, and `Hex.byte`.
Does not own: reading hexadecimal text.
-/

namespace Chip8.Hex

/-- Zeros stand between the sign and the first digit. -/
def padded (width : Nat) (value : Int) : String :=
  if value < 0 then
    String.ofList ('-' :: List.leftpad (width - 1) '0' (Nat.toDigits 16 value.natAbs))
  else
    String.ofList (List.leftpad width '0' (Nat.toDigits 16 value.natAbs))

def byte (value : UInt8) : String :=
  padded 2 value.toNat

end Chip8.Hex
