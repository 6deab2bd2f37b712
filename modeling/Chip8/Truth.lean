/-!
Contract: values that are asked for a yes or a no.

Owns: `Truth`, the types of such values. What a value is kept as is not decided here.
-/

namespace Chip8

/-- Values that mean yes or no. -/
class Truth (α : Type) where
  holds : α → Bool

instance : Truth Bool :=
  ⟨id⟩

end Chip8
