import Chip8.Keypad
import Chip8.Text.Numeral
import Chip8.Text.Pieces

/-!
Contract: which key of the host stands for which key of the keypad.

Owns: `KeyMap`, the host code of each keypad key, and `KeyMap.ofText`, which reads sixteen
integers between commas and refuses a code given twice.
-/

namespace Chip8

structure KeyMap where
  codes : Vector Int 16
deriving DecidableEq, Repr

namespace KeyMap

/-- Reads the codes in order and stops at the first that is no integer or was there before. -/
def readCodes (seen : List Int) : List (List Char) → Except Fault (List Int)
  | [] => .ok []
  | piece :: rest =>
    match Text.decimal piece with
    | none => .error .keyMapNotInteger
    | some code =>
      if code ∈ seen then
        .error .keyMapDuplicate
      else
        (readCodes (code :: seen) rest).map (code :: ·)

theorem length_of_readCodes {seen : List Int} {texts : List (List Char)} {codes : List Int}
    (accepted : readCodes seen texts = .ok codes) : codes.length = texts.length := by
  induction texts generalizing seen codes with
  | nil =>
    simp only [readCodes, Except.ok.injEq] at accepted
    simp [← accepted]
  | cons piece rest inductionHypothesis =>
    simp only [readCodes] at accepted
    split at accepted
    · contradiction
    · split at accepted
      · contradiction
      · cases later : readCodes (‹Int› :: seen) rest with
        | error fault => simp [later, Except.map] at accepted
        | ok others =>
          simp only [later, Except.map, Except.ok.injEq] at accepted
          simp [← accepted, inductionHypothesis later]

def ofText (text : String) : Except Fault KeyMap :=
  let texts := Text.pieces ',' text.toList
  if sixteen : texts.length = 16 then
    match accepted : readCodes [] texts with
    | .error fault => .error fault
    | .ok codes =>
      .ok ⟨⟨codes.toArray, by
        rw [List.size_toArray, length_of_readCodes accepted, sixteen]⟩⟩
  else
    .error .keyMapSize

def keyOf (keyMap : KeyMap) (hostKey : Int) : Option Key :=
  keyMap.codes.finIdxOf? hostKey

end KeyMap

/-- A key of the host going down or up. -/
structure KeyEvent where
  hostKey : Int
  pressed : Bool
deriving DecidableEq, Repr

/-- Passes an event on to the keypad if its key is mapped, and tells whether it is. -/
def KeyMap.press (keyMap : KeyMap) (keypad : Keypad) (event : KeyEvent) :
    Except Fault (Keypad × Bool) :=
  match keyMap.keyOf event.hostKey with
  | none => .ok (keypad, false)
  | some key => (keypad.setKey key event.pressed).map (·, true)

end Chip8
