import Chip8.Fault

/-!
Contract: the sixteen keys and the latch that catches a key press for a waiting program.

Owns: `Keypad`. Only a change from up to down is latched, only while the keypad is armed, and
the first such key stays until it is taken. The list of key flags has one flag for each key
except after a restore that was given another number of them.
-/

namespace Chip8

abbrev Key := Fin 16

structure Keypad where
  down : List Bool
  armed : Bool
  latch : Option Key
deriving DecidableEq, Repr

namespace Keypad

def released : Keypad :=
  ⟨List.replicate keyCount false, false, none⟩

def keyOf (key : Int) : Except Fault Key :=
  if inside : 0 ≤ key ∧ key < 16 then
    .ok ⟨key.toNat, by omega⟩
  else
    .error (.keyOutside key)

def setKey (keypad : Keypad) (key : Key) (pressed : Bool) : Except Fault Keypad :=
  match keypad.down[key.val]? with
  | none => .error .indexOutside
  | some wasDown =>
    let caught := pressed && !wasDown && keypad.armed && keypad.latch.isNone
    .ok { keypad with
      down := keypad.down.set key.val pressed
      latch := if caught then some key else keypad.latch }

/-- Sets the key of any number; the number is looked at before the flags. -/
def setKeyAt (keypad : Keypad) (key : Int) (pressed : Bool) : Except Fault Keypad := do
  keypad.setKey (← keyOf key) pressed

/-- The low four bits of the number pick the key. -/
def isDown (keypad : Keypad) (key : Int) : Except Fault Bool :=
  match keypad.down[(key % 16).toNat]? with
  | none => .error .indexOutside
  | some isDown => .ok isDown

def beginWait (keypad : Keypad) : Keypad :=
  { keypad with armed := true, latch := none }

/-- Hands out the latched key and disarms; an empty latch changes nothing. -/
def take (keypad : Keypad) : Option (Key × Keypad) :=
  keypad.latch.map fun key => (key, { keypad with armed := false, latch := none })

end Keypad

end Chip8
