import Chip8.Fault

/-!
Contract: what was said about a setting.

Owns: `Given`. A setting may be left out, it may be named with the mark `--` where its value
belongs, or it may have a value. Only a setting that was left out has a default.
-/

namespace Chip8.CommandLine

inductive Given (α : Type) where
  | unsaid
  /-- Named, but without a value. -/
  | blank
  | value (wanted : α)
deriving DecidableEq, Repr

namespace Given

variable {α : Type}

def ofOption : Option α → Given α
  | none => .unsaid
  | some wanted => .value wanted

/-- The value, if there is one. -/
def toOption : Given α → Option α
  | .value wanted => some wanted
  | .unsaid | .blank => none

/-- The value, if the setting was not left out; a setting without a value is refused. -/
def ask (given : Given α) (whenBlank : Fault) : Except Fault (Option α) :=
  match given with
  | .unsaid => .ok none
  | .blank => .error whenBlank
  | .value wanted => .ok (some wanted)

end Given

end Chip8.CommandLine
