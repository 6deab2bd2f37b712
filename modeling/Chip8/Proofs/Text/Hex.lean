import Mathlib.Algebra.Ring.Nat
import Chip8.Text.Hex

/-!
Contract: hexadecimal text gives back its number.

Owns:
- `Hex.value`, which reads hexadecimal digits, and that it reads what `Hex.padded` writes;
- that the text of a number has nothing but digits, and no more of them than asked for where the
  number fits;
- `Hex.Fits`, the numbers written in one width, and that their texts are told apart, also at the
  beginning of longer texts and one after another.

Does not own: reading the text of numbers below zero.
-/

namespace Chip8.Hex

def digitValue (digit : Char) : Nat :=
  if digit.toNat < 'a'.toNat then digit.toNat - '0'.toNat else digit.toNat - 'a'.toNat + 10

/-- The number with the digits of `upper` and then those given. -/
def valueAfter (upper : Nat) (digits : List Char) : Nat :=
  digits.foldl (fun number digit => 16 * number + digitValue digit) upper

def value (digits : List Char) : Nat :=
  valueAfter 0 digits

theorem digitValue_digitChar {digit : Nat} (small : digit < 16) :
    digitValue digit.digitChar = digit := by
  have eachDigit : ∀ number : Fin 16, digitValue number.val.digitChar = number.val := by decide
  exact eachDigit ⟨digit, small⟩

theorem valueAfter_append (upper : Nat) (first second : List Char) :
    valueAfter upper (first ++ second) = valueAfter (valueAfter upper first) second :=
  List.foldl_append

theorem value_replicate_zero (count : Nat) : value (List.replicate count '0') = 0 := by
  induction count with
  | zero => rfl
  | succ count inductionHypothesis => exact inductionHypothesis

theorem value_toDigits (number : Nat) : value (Nat.toDigits 16 number) = number := by
  induction number using Nat.base_induction 16 (by decide) with
  | single digit small =>
    rw [Nat.toDigits_of_lt_base small]
    change 16 * 0 + digitValue digit.digitChar = digit
    rw [digitValue_digitChar small, Nat.mul_zero, Nat.zero_add]
  | digit upper digit small positive inductionHypothesis =>
    rw [← Nat.toDigits_append_toDigits (by decide) positive small, value, valueAfter_append,
      Nat.toDigits_of_lt_base small]
    change 16 * value (Nat.toDigits 16 upper) + digitValue digit.digitChar = _
    rw [inductionHypothesis, digitValue_digitChar small]

theorem toList_padded (width number : Nat) :
    (padded width number).toList = List.leftpad width '0' (Nat.toDigits 16 number) := by
  unfold padded
  rw [if_neg (by omega), Int.natAbs_natCast, String.toList_ofList]

theorem value_padded (width number : Nat) : value (padded width number).toList = number := by
  rw [toList_padded, List.leftpad, value, valueAfter_append]
  change valueAfter (value (List.replicate _ '0')) _ = number
  rw [value_replicate_zero]
  exact value_toDigits number

theorem length_padded {width number : Nat} (positive : 0 < width) (fits : number < 16 ^ width) :
    (padded width number).toList.length = width := by
  have notLonger := (Nat.length_toDigits_le_iff (by decide) positive).mpr fits
  rw [toList_padded, List.length_leftpad]
  omega

theorem mem_toDigits {number : Nat} {char : Char} (member : char ∈ Nat.toDigits 16 number) :
    ∃ digit < 16, char = digit.digitChar := by
  induction number using Nat.base_induction 16 (by decide) with
  | single digit small =>
    rw [Nat.toDigits_of_lt_base small, List.mem_singleton] at member
    exact ⟨digit, small, member⟩
  | digit upper digit small positive inductionHypothesis =>
    rw [← Nat.toDigits_append_toDigits (by decide) positive small, List.mem_append,
      Nat.toDigits_of_lt_base small, List.mem_singleton] at member
    rcases member with inUpper | last
    · exact inductionHypothesis inUpper
    · exact ⟨digit, small, last⟩

theorem mem_padded {width number : Nat} {char : Char}
    (member : char ∈ (padded width number).toList) : ∃ digit < 16, char = digit.digitChar := by
  rw [toList_padded, List.leftpad, List.mem_append] at member
  rcases member with filler | ofNumber
  · exact ⟨0, by decide, (List.mem_replicate.mp filler).2⟩
  · exact mem_toDigits ofNumber

/-- In the text of a number below zero there is a sign besides the digits. -/
theorem mem_padded_int {width : Nat} {value : Int} {char : Char}
    (member : char ∈ (padded width value).toList) :
    char = '-' ∨ ∃ digit < 16, char = digit.digitChar := by
  unfold padded at member
  split at member
  · rw [String.toList_ofList, List.mem_cons, List.leftpad, List.mem_append] at member
    rcases member with sign | filler | ofNumber
    · exact .inl sign
    · exact .inr ⟨0, by decide, (List.mem_replicate.mp filler).2⟩
    · exact .inr (mem_toDigits ofNumber)
  · rename_i notBelow
    obtain ⟨number, rfl⟩ := Int.eq_ofNat_of_zero_le (Int.not_lt.mp notBelow)
    refine .inr (mem_padded (?_ : char ∈ (padded width number).toList))
    rw [toList_padded]
    rwa [String.toList_ofList] at member

/-! ### Numbers of one width -/

/-- A number that is written with no more digits than `width`. -/
def Fits (width : Nat) (value : Int) : Prop :=
  ∃ number : Nat, number < 16 ^ width ∧ value = number

theorem fits_byte (byte : UInt8) : Fits 2 byte.toNat :=
  ⟨byte.toNat, byte.toNat_lt, rfl⟩

theorem fits_word (word : UInt16) : Fits 4 word.toNat :=
  ⟨word.toNat, word.toNat_lt, rfl⟩

section Fitting

variable {width : Nat} {left right : Int} {leftRest rightRest : List Char}

theorem padded_append_inj (positive : 0 < width) (leftFits : Fits width left)
    (rightFits : Fits width right)
    (same : (padded width left).toList ++ leftRest = (padded width right).toList ++ rightRest) :
    left = right ∧ leftRest = rightRest := by
  obtain ⟨leftNumber, leftBelow, rfl⟩ := leftFits
  obtain ⟨rightNumber, rightBelow, rfl⟩ := rightFits
  have sameLength : (padded width leftNumber).toList.length =
      (padded width rightNumber).toList.length := by
    rw [length_padded positive leftBelow, length_padded positive rightBelow]
  obtain ⟨sameDigits, sameRest⟩ := List.append_inj same sameLength
  have sameNumber : leftNumber = rightNumber := by
    rw [← value_padded width leftNumber, sameDigits, value_padded]
  exact ⟨congrArg Nat.cast sameNumber, sameRest⟩

/-- The text of numbers that follow one another, each with the same lead before it. -/
def row (width : Nat) (lead : List Char) (values : List Int) : List Char :=
  values.flatMap fun value => lead ++ (padded width value).toList

theorem row_cons (lead : List Char) (value : Int) (later : List Int) :
    row width lead (value :: later) =
      lead ++ ((padded width value).toList ++ row width lead later) := by
  rw [row, List.flatMap_cons, List.append_assoc]
  rfl

theorem row_append_inj (positive : 0 < width) (lead : List Char) {left right : List Int}
    (leftFit : ∀ value ∈ left, Fits width value) (rightFit : ∀ value ∈ right, Fits width value)
    (sameCount : left.length = right.length)
    (same : row width lead left ++ leftRest = row width lead right ++ rightRest) :
    left = right ∧ leftRest = rightRest := by
  induction left generalizing right with
  | nil =>
    obtain rfl := List.length_eq_zero_iff.mp sameCount.symm
    exact ⟨rfl, same⟩
  | cons leftValue leftLater inductionHypothesis =>
    cases right with
    | nil => contradiction
    | cons rightValue rightLater =>
      simp only [row_cons, List.append_assoc] at same
      have rest := List.append_cancel_left same
      obtain ⟨sameValue, later⟩ := padded_append_inj positive
        (leftFit _ List.mem_cons_self) (rightFit _ List.mem_cons_self) rest
      obtain ⟨sameLater, sameRest⟩ := inductionHypothesis
        (fun value member => leftFit value (List.mem_cons_of_mem _ member))
        (fun value member => rightFit value (List.mem_cons_of_mem _ member))
        (Nat.succ.inj sameCount) later
      exact ⟨by rw [sameValue, sameLater], sameRest⟩

theorem length_row (positive : 0 < width) (lead : List Char) {values : List Int}
    (fit : ∀ value ∈ values, Fits width value) :
    (row width lead values).length = values.length * (lead.length + width) := by
  induction values with
  | nil => rw [List.length_nil, Nat.zero_mul]; rfl
  | cons value later inductionHypothesis =>
    obtain ⟨number, below, rfl⟩ := fit value List.mem_cons_self
    have laterLength := inductionHypothesis
      (fun other member => fit other (List.mem_cons_of_mem _ member))
    rw [row_cons, List.length_append, List.length_append, length_padded positive below,
      laterLength, List.length_cons, Nat.succ_mul]
    omega

theorem row_inj (positive : 0 < width) (lead : List Char) {left right : List Int}
    (leftFit : ∀ value ∈ left, Fits width value) (rightFit : ∀ value ∈ right, Fits width value)
    (same : row width lead left = row width lead right) : left = right := by
  have lengths := congrArg List.length same
  rw [length_row positive lead leftFit, length_row positive lead rightFit] at lengths
  have sameCount := Nat.eq_of_mul_eq_mul_right (Nat.add_pos_right _ positive) lengths
  exact (row_append_inj positive lead leftFit rightFit sameCount
    (congrArg (· ++ []) same)).1

end Fitting

end Chip8.Hex
