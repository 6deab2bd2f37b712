/-!
Contract: the pieces of a text between separators.

Owns: `pieces`. Each separator ends a piece and begins another, so no text has no piece.
-/

namespace Chip8.Text

def pieces (separator : Char) : List Char → List (List Char)
  | [] => [[]]
  | char :: rest =>
    if char = separator then
      [] :: pieces separator rest
    else
      match pieces separator rest with
      | [] => [[char]]
      | first :: others => (char :: first) :: others

theorem pieces_ne_nil (separator : Char) (text : List Char) : pieces separator text ≠ [] := by
  cases text with
  | nil => simp [pieces]
  | cons char rest =>
    unfold pieces
    split
    · simp
    · split <;> simp

end Chip8.Text
