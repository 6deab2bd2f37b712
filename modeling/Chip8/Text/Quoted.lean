import Chip8.Text.Hex
import Chip8.Text.Printable

/-!
Contract: a text shown between quotation marks so that every character can be made out.

Owns: `quoted`. The mark is the single one, or the double one where only single ones occur in the
text. The mark and the backslash are escaped, three controls have a letter, and whatever else is
not printable is shown by the hexadecimal digits of its code point.
-/

namespace Chip8.Text

def escaped (mark char : Char) : String :=
  if char = mark ∨ char = '\x5c' then String.ofList ['\x5c', char]
  else if char = '\t' then "\\t"
  else if char = '\n' then "\\n"
  else if char = '\x0d' then "\\r"
  else if isPrintable char then String.singleton char
  else if char.toNat ≤ 0xFF then "\\x" ++ Hex.padded 2 char.toNat
  else if char.toNat ≤ 0xFFFF then "\\u" ++ Hex.padded 4 char.toNat
  else "\\U" ++ Hex.padded 8 char.toNat

def quotationMark (text : List Char) : Char :=
  if '\x27' ∈ text ∧ '\x22' ∉ text then '\x22' else '\x27'

def quoted (text : String) : String :=
  let mark := quotationMark text.toList
  String.singleton mark ++ String.join (text.toList.map (escaped mark)) ++ String.singleton mark

end Chip8.Text
