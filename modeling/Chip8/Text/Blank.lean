/-!
Contract: the characters that may surround a number.

Owns: `isBlank`, the White_Space property of Unicode, and `trimBlanks`.
-/

namespace Chip8.Text

def blankRuns : List (Nat × Nat) := [
  (0x09, 0x0D), (0x20, 0x20), (0x85, 0x85), (0xA0, 0xA0), (0x1680, 0x1680), (0x2000, 0x200A),
  (0x2028, 0x2029), (0x202F, 0x202F), (0x205F, 0x205F), (0x3000, 0x3000)]

def isBlank (char : Char) : Bool :=
  blankRuns.any fun run => run.1 ≤ char.toNat && char.toNat ≤ run.2

/-- The text without the blanks at both ends. -/
def trimBlanks (text : List Char) : List Char :=
  ((text.dropWhile isBlank).reverse.dropWhile isBlank).reverse

end Chip8.Text
