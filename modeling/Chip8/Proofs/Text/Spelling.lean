import Chip8.Proofs.Text.Numeral

/-!
Contract: integers as they are written in base ten.

Owns:
- that no two integers are written alike;
- `Spelling`, the ways to write an integer with spaces and a sign, and that each is read back.

Does not own: other numerals for the same integer.
-/

namespace Chip8.Text

/-! ### Digits and signs -/

theorem toList_toString (value : Int) :
    (toString value).toList =
      (if value < 0 then ['-'] else []) ++ Nat.toDigits 10 value.natAbs := by
  rw [Int.toString_eq_repr, Int.repr_eq_if]
  by_cases negative : value < 0
  · rw [if_neg (by omega), if_pos negative, String.toList_append, Nat.toList_repr,
      show (-value).toNat = value.natAbs by omega]
    rfl
  · rw [if_pos (by omega), if_neg negative, Nat.toList_repr,
      show value.toNat = value.natAbs by omega, List.nil_append]

theorem notMem_toDigits {char : Char} (notDigit : char.isDigit = false) (number : Nat) :
    char ∉ Nat.toDigits 10 number := by
  intro member
  rw [Nat.isDigit_of_mem_toDigits (by decide) (by decide) member] at notDigit
  contradiction

theorem toDigits_inj {number other : Nat} (same : Nat.toDigits 10 number = Nat.toDigits 10 other) :
    number = other := by
  have values := congrArg (Nat.ofDigitChars 10 · 0) same
  simpa only [Nat.ofDigitChars_ten_toDigits] using values

/-- No two integers are written alike. -/
theorem toString_inj {value other : Int} (same : toString value = toString other) :
    value = other := by
  have noMinus : ∀ number, '-' ∉ Nat.toDigits 10 number := notMem_toDigits (by decide)
  have lists := congrArg String.toList same
  rw [toList_toString, toList_toString] at lists
  by_cases negative : value < 0
  · by_cases otherNegative : other < 0
    · rw [if_pos negative, if_pos otherNegative, List.append_cancel_left_eq] at lists
      have sameNumber := toDigits_inj lists
      omega
    · rw [if_pos negative, if_neg otherNegative, List.nil_append] at lists
      refine absurd ?_ (noMinus other.natAbs)
      rw [← lists]
      exact List.mem_cons_self
  · by_cases otherNegative : other < 0
    · rw [if_neg negative, if_pos otherNegative, List.nil_append] at lists
      refine absurd ?_ (noMinus value.natAbs)
      rw [lists]
      exact List.mem_cons_self
    · rw [if_neg negative, if_neg otherNegative] at lists
      have sameNumber := toDigits_inj lists
      omega

/-! ### Reading back -/

theorem exists_digits_toDigits (number : Nat) :
    ∃ digits, (Nat.toDigits 10 number).map (digitBelow 10) = digits.map some ∧
      valueOf 10 digits = number := by
  induction number using Nat.base_induction 10 (by decide) with
  | single digit small =>
    refine ⟨[digit], ?_, ?_⟩
    · rw [Nat.toDigits_of_lt_base small, List.map_singleton,
        (digitBelow_digitChar small (by decide)).1, List.map_singleton]
    · exact Nat.zero_add digit
  | digit upper digit small positive inductionHypothesis =>
    obtain ⟨digits, shown, same⟩ := inductionHypothesis
    refine ⟨digits ++ [digit], ?_, ?_⟩
    · rw [← Nat.toDigits_append_toDigits (by decide) positive small, List.map_append, shown,
        Nat.toDigits_of_lt_base small, List.map_singleton,
        (digitBelow_digitChar small (by decide)).1, List.map_append, List.map_singleton]
    · rw [valueOf_append_singleton, same, Nat.mul_comm]

theorem exists_showsDigits_toDigits (number : Nat) :
    ∃ digits, ShowsDigits 10 (Nat.toDigits 10 number) digits ∧ valueOf 10 digits = number := by
  obtain ⟨digits, values, same⟩ := exists_digits_toDigits number
  exact ⟨digits, showsDigits_of_map Nat.toDigits_ne_nil values, same⟩

/-- How an integer is written: the spaces on both sides, and whether a plus stands before it
unless it is negative. -/
structure Spelling where
  before : Nat
  after : Nat
  plus : Bool
deriving DecidableEq, Repr

namespace Spelling

def write (spelling : Spelling) (value : Int) : List Char :=
  List.replicate spelling.before ' ' ++
    ((if spelling.plus ∧ 0 ≤ value then ['+'] else []) ++ (toString value).toList) ++
    List.replicate spelling.after ' '

end Spelling

theorem exists_sign_write (spelling : Spelling) (value : Int) :
    ∃ sign : Sign, Encloses isBlank (spelling.write value)
        (sign.text ++ Nat.toDigits 10 value.natAbs) ∧ sign.apply value.natAbs = value := by
  have blankSpaces : ∀ count, ∀ char ∈ List.replicate count ' ', isBlank char = true := by
    intro count char member
    rw [(List.mem_replicate.mp member).2]
    decide
  have enclosed : Encloses isBlank (spelling.write value) _ :=
    ⟨_, _, rfl, blankSpaces spelling.before, blankSpaces spelling.after⟩
  rw [toList_toString] at enclosed
  by_cases negative : value < 0
  · rw [if_neg (by omega), if_pos negative] at enclosed
    refine ⟨.minus, enclosed, ?_⟩
    simp only [Sign.apply]
    omega
  · rw [if_neg negative] at enclosed
    by_cases plus : spelling.plus ∧ 0 ≤ value
    · rw [if_pos plus] at enclosed
      exact ⟨.plus, enclosed, Int.natAbs_of_nonneg plus.2⟩
    · rw [if_neg plus] at enclosed
      exact ⟨.none, enclosed, Int.natAbs_of_nonneg (Int.not_lt.mp negative)⟩

theorem isDecimal_write (spelling : Spelling) {value : Int}
    (few : (Nat.toDigits 10 value.natAbs).length ≤ decimalLimit) :
    IsDecimal isBlank (spelling.write value) value := by
  obtain ⟨sign, enclosed, same⟩ := exists_sign_write spelling value
  obtain ⟨digits, shown, sameNumber⟩ := exists_showsDigits_toDigits value.natAbs
  refine ⟨sign, _, digits, enclosed, shown, Nat.le_trans shown.length_le few, ?_⟩
  rw [sameNumber, same]

end Chip8.Text
