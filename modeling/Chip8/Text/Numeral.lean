import Chip8.Text.Blank
import Chip8.Text.Digit

/-!
Contract: integers as people type them, in base ten and in base sixteen.

Owns: the grammar. Blanks surround a numeral; a sign may come first; single underscores may stand
between digits; a hexadecimal numeral may begin with `0x`, which one underscore may follow. A
decimal numeral has at most `decimalLimit` digits.
-/

namespace Chip8.Text

def decimalLimit : Nat := 4300

/-- Digits with at most one underscore between two of them. -/
def digitValues (base : Nat) : List Char → Option (List Nat)
  | [] => none
  | [char] => (digitBelow base char).map ([·])
  | char :: '_' :: rest => do return (← digitBelow base char) :: (← digitValues base rest)
  | char :: rest => do return (← digitBelow base char) :: (← digitValues base rest)

def valueOf (base : Nat) (digits : List Nat) : Nat :=
  digits.foldl (fun value digit => value * base + digit) 0

/-- Splits off a sign; no sign means plus. -/
def signOf : List Char → Bool × List Char
  | '-' :: rest => (true, rest)
  | '+' :: rest => (false, rest)
  | text => (false, text)

def applySign (negative : Bool) (value : Nat) : Int :=
  if negative then -(value : Int) else value

def decimal (text : List Char) : Option Int := do
  let (negative, rest) := signOf (trimBlanks text)
  let digits ← digitValues 10 rest
  if digits.length ≤ decimalLimit then
    return applySign negative (valueOf 10 digits)
  else
    none

/-- Drops `0x` and one underscore after it. -/
def dropHexMark : List Char → List Char
  | first :: x :: rest =>
    if decimalDigit first = some 0 ∧ (x = 'x' ∨ x = 'X') then
      match rest with
      | '_' :: digits => digits
      | digits => digits
    else
      first :: x :: rest
  | text => text

def hexadecimal (text : List Char) : Option Int := do
  let (negative, rest) := signOf (trimBlanks text)
  return applySign negative (valueOf 16 (← digitValues 16 (dropHexMark rest)))

end Chip8.Text
