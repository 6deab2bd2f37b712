import Mathlib.Algebra.Ring.Nat
import Mathlib.Data.List.Induction
import Chip8.Proofs.Text.Pieces
import Chip8.Text.Numeral

/-!
Contract: which texts are digits, and which number these are.

Owns:
- that no digit is blank, and that a digit written is read;
- `ShowsDigits`, groups of digits with underscores between them, and that exactly such texts are
  read as digits;
- that a number is smaller than its number of digits allows.

Does not own: which characters are digits and which are blank.
-/

namespace Chip8.Text

/-! ### Characters -/

section Characters

variable {char : Char} {base digit : Nat}

theorem digitBelow_eq_none (base : Nat) (notDecimal : decimalDigit char = none)
    (notLetter : letterDigit char = none) : digitBelow base char = none := by
  unfold digitBelow
  rw [notDecimal, notLetter]
  rfl

theorem lt_of_digitBelow (found : digitBelow base char = some digit) : digit < base := by
  have below := (Option.filter_eq_some_iff.mp found).2
  exact of_decide_eq_true below

/-- No digit of any script and no Latin letter is blank. -/
theorem digitBelow_of_isBlank (base : Nat) (blank : isBlank char = true) :
    digitBelow base char = none := by
  have apart : ∀ run ∈ blankRuns, (∀ first ∈ decimalZeros, run.2 < first ∨ first + 9 < run.1) ∧
      (run.2 < 0x41 ∨ 0x7A < run.1) := by
    decide
  obtain ⟨run, member, within⟩ := List.any_eq_true.mp blank
  simp only [Bool.and_eq_true, decide_eq_true_eq] at within
  obtain ⟨fromDigits, fromLetters⟩ := apart run member
  apply digitBelow_eq_none
  · unfold decimalDigit
    rw [Option.map_eq_none_iff, List.find?_eq_none]
    intro first firstMember
    have between := fromDigits first firstMember
    simp only [Bool.and_eq_true, decide_eq_true_eq]
    omega
  · unfold letterDigit
    simp only [Char.le_def, UInt32.le_iff_toNat_le]
    change (if 0x61 ≤ char.toNat ∧ char.toNat ≤ 0x7A then some _
      else if 0x41 ≤ char.toNat ∧ char.toNat ≤ 0x5A then some _ else none) = none
    rw [if_neg (by omega), if_neg (by omega)]

theorem notBlank_of_digitBelow (found : digitBelow base char = some digit) :
    isBlank char = false := by
  rw [Bool.eq_false_iff]
  intro blank
  rw [digitBelow_of_isBlank base blank] at found
  contradiction

theorem digitBelow_underscore (base : Nat) : digitBelow base '_' = none :=
  digitBelow_eq_none base (by decide) (by decide)

theorem digitBelow_digitChar (small : digit < base) (few : base ≤ 16) :
    digitBelow base digit.digitChar = some digit ∧
      digitBelow base digit.digitChar.toUpper = some digit := by
  have eachDigit : ∀ number : Fin 16,
      (decimalDigit number.val.digitChar).or (letterDigit number.val.digitChar) =
          some number.val ∧
        (decimalDigit number.val.digitChar.toUpper).or (letterDigit number.val.digitChar.toUpper) =
          some number.val := by
    decide
  obtain ⟨lower, upper⟩ := eachDigit ⟨digit, Nat.lt_of_lt_of_le small few⟩
  constructor
  · rw [digitBelow, lower]
    simp [small]
  · rw [digitBelow, upper]
    simp [small]

end Characters

/-! ### Digits -/

/-- Groups of digits, none of them empty, with an underscore between each two. -/
structure ShowsDigits (base : Nat) (text : List Char) (digits : List Nat) : Prop where
  grouped : [] ∉ pieces '_' text
  values : (pieces '_' text).flatten.map (digitBelow base) = digits.map some

section Digits

variable {base : Nat} {text rest : List Char} {char : Char} {digits : List Nat}

theorem not_showsDigits_of_underscore (rest : List Char) (digits : List Nat) :
    ¬ShowsDigits base ('_' :: rest) digits := by
  intro shown
  apply shown.grouped
  rw [pieces_cons_self]
  exact List.mem_cons_self

theorem showsDigits_singleton_iff (different : char ≠ '_') :
    ShowsDigits base [char] digits ↔ ∃ digit, digitBelow base char = some digit ∧
      digits = [digit] := by
  have alone : pieces '_' [char] = [[char]] := by
    apply pieces_of_notMem
    rw [List.mem_singleton]
    exact different.symm
  constructor
  · intro shown
    have values := shown.values
    rw [alone] at values
    obtain ⟨digit, none, rfl, same, ended⟩ := List.map_eq_cons_iff.mp values.symm
    exact ⟨digit, same.symm, by rw [List.map_eq_nil_iff.mp ended]⟩
  · rintro ⟨digit, found, rfl⟩
    refine ⟨?_, ?_⟩
    · simp [alone]
    · rw [alone]
      simp [found]

/-- Whether a group ends behind the first digit or not, the others are shown by what follows. -/
theorem showsDigits_cons_iff (sameGrouping : [] ∈ pieces '_' text ↔ [] ∈ pieces '_' rest)
    (sameDigits : (pieces '_' text).flatten = char :: (pieces '_' rest).flatten) :
    ShowsDigits base text digits ↔ ∃ digit later, digitBelow base char = some digit ∧
      ShowsDigits base rest later ∧ digits = digit :: later := by
  constructor
  · intro shown
    have values := shown.values
    rw [sameDigits, List.map_cons] at values
    obtain ⟨digit, later, rfl, same, others⟩ := List.map_eq_cons_iff.mp values.symm
    have grouped := fun empty => shown.grouped (sameGrouping.mpr empty)
    exact ⟨digit, later, same.symm, ⟨grouped, others.symm⟩, rfl⟩
  · rintro ⟨digit, later, found, shown, rfl⟩
    refine ⟨fun empty => shown.grouped (sameGrouping.mp empty), ?_⟩
    rw [sameDigits, List.map_cons, found, shown.values, List.map_cons]

theorem bind_eq_some_iff_showsDigits
    (laterShown : ∀ later, digitValues base rest = some later ↔ ShowsDigits base rest later) :
    (do return (← digitBelow base char) :: (← digitValues base rest)) = some digits ↔
      ∃ digit later, digitBelow base char = some digit ∧ ShowsDigits base rest later ∧
        digits = digit :: later := by
  simp only [Option.bind_eq_bind, Option.bind_eq_some_iff, Option.pure_def, Option.some.injEq,
    laterShown]
  constructor
  · rintro ⟨digit, found, later, shown, same⟩
    exact ⟨digit, later, found, shown, same.symm⟩
  · rintro ⟨digit, later, found, shown, rfl⟩
    exact ⟨digit, found, later, shown, rfl⟩

theorem digitValues_eq_some_iff (base : Nat) (text : List Char) (digits : List Nat) :
    digitValues base text = some digits ↔ ShowsDigits base text digits := by
  induction text using digitValues.induct generalizing digits with
  | case1 =>
    have notShown : ¬ShowsDigits base [] digits := fun shown =>
      shown.grouped List.mem_cons_self
    simp [digitValues, notShown]
  | case2 char =>
    by_cases underscore : char = '_'
    · rw [underscore, digitValues, digitBelow_underscore]
      simp [not_showsDigits_of_underscore]
    · rw [showsDigits_singleton_iff underscore, digitValues, Option.map_eq_some_iff]
      simp only [eq_comm]
  | case3 char rest inductionHypothesis =>
    by_cases underscore : char = '_'
    · rw [underscore, digitValues, digitBelow_underscore]
      simp [not_showsDigits_of_underscore]
    · have notIn : '_' ∉ [char] := by simpa using Ne.symm underscore
      have split : pieces '_' (char :: '_' :: rest) = [char] :: pieces '_' rest :=
        pieces_append_cons notIn rest
      have sameGrouping : [] ∈ pieces '_' (char :: '_' :: rest) ↔ [] ∈ pieces '_' rest := by
        simp [split]
      have sameDigits : (pieces '_' (char :: '_' :: rest)).flatten =
          char :: (pieces '_' rest).flatten := by
        rw [split, List.flatten_cons, List.singleton_append]
      rw [digitValues, bind_eq_some_iff_showsDigits inductionHypothesis,
        showsDigits_cons_iff sameGrouping sameDigits]
  | case4 char rest nonempty notUnderscore inductionHypothesis =>
    by_cases underscore : char = '_'
    · rw [underscore, digitValues, digitBelow_underscore]
      · simp [not_showsDigits_of_underscore]
      · exact nonempty
      · exact notUnderscore
    · obtain ⟨next, others, rfl⟩ := List.exists_cons_of_ne_nil nonempty
      have nextInGroup : next ≠ '_' := by
        rintro rfl
        exact notUnderscore others rfl
      obtain ⟨first, later, splitOthers, split⟩ := pieces_cons_of_ne nextInGroup others
      obtain ⟨_, _, splitRest, splitText⟩ := pieces_cons_of_ne underscore (next :: others)
      rw [split] at splitRest
      obtain ⟨rfl, rfl⟩ := List.cons.inj splitRest
      have sameGrouping : [] ∈ pieces '_' (char :: next :: others) ↔
          [] ∈ pieces '_' (next :: others) := by
        simp [splitText, split]
      have sameDigits : (pieces '_' (char :: next :: others)).flatten =
          char :: (pieces '_' (next :: others)).flatten := by
        rw [splitText, split, List.flatten_cons, List.flatten_cons, List.cons_append]
      rw [digitValues, bind_eq_some_iff_showsDigits inductionHypothesis,
        showsDigits_cons_iff sameGrouping sameDigits]
      · exact nonempty
      · exact notUnderscore

/-- Digits without any underscore. -/
theorem showsDigits_of_map (nonempty : text ≠ [])
    (values : text.map (digitBelow base) = digits.map some) : ShowsDigits base text digits := by
  have noUnderscore : '_' ∉ text := by
    intro member
    have read := List.mem_map_of_mem (f := digitBelow base) member
    rw [values, digitBelow_underscore] at read
    obtain ⟨digit, -, same⟩ := List.mem_map.mp read
    contradiction
  refine ⟨?_, ?_⟩
  · rw [pieces_of_notMem noUnderscore, List.mem_singleton]
    exact nonempty.symm
  · rw [pieces_of_notMem noUnderscore, List.flatten_singleton, values]

theorem ShowsDigits.of_mem (shown : ShowsDigits base text digits) (member : char ∈ text) :
    char = '_' ∨ ∃ digit, digitBelow base char = some digit := by
  by_cases underscore : char = '_'
  · exact .inl underscore
  · have inGroup := (mem_flatten_pieces underscore text).mpr member
    have read := List.mem_map_of_mem (f := digitBelow base) inGroup
    rw [shown.values] at read
    obtain ⟨digit, _, found⟩ := List.mem_map.mp read
    exact .inr ⟨digit, found.symm⟩

theorem ShowsDigits.notMem (shown : ShowsDigits base text digits) (different : char ≠ '_')
    (noDigit : digitBelow base char = none) : char ∉ text := by
  intro member
  rcases shown.of_mem member with underscore | ⟨digit, found⟩
  · exact different underscore
  · rw [noDigit] at found
    contradiction

end Digits

/-! ### Values -/

section Values

variable {base : Nat} {text : List Char} {digits : List Nat}

theorem valueOf_append_singleton (base : Nat) (digits : List Nat) (last : Nat) :
    valueOf base (digits ++ [last]) = valueOf base digits * base + last :=
  List.foldl_append

theorem valueOf_lt (small : ∀ digit ∈ digits, digit < base) :
    valueOf base digits < base ^ digits.length := by
  induction digits using List.reverseRecOn with
  | nil => exact Nat.one_pos
  | append_singleton upper last inductionHypothesis =>
    have below := inductionHypothesis fun digit member =>
      small digit (List.mem_append_left [last] member)
    have lastSmall := small last (List.mem_append_right upper (List.mem_singleton_self last))
    rw [valueOf_append_singleton, List.length_append, List.length_singleton, Nat.pow_succ]
    calc valueOf base upper * base + last
        < valueOf base upper * base + base := Nat.add_lt_add_left lastSmall _
      _ = (valueOf base upper + 1) * base := (Nat.succ_mul _ _).symm
      _ ≤ base ^ upper.length * base := Nat.mul_le_mul_right base below

theorem ShowsDigits.lt (shown : ShowsDigits base text digits) :
    ∀ digit ∈ digits, digit < base := by
  intro digit member
  have inValues := List.mem_map_of_mem (f := some) member
  rw [← shown.values] at inValues
  obtain ⟨char, -, found⟩ := List.mem_map.mp inValues
  exact lt_of_digitBelow found

theorem ShowsDigits.length_le (shown : ShowsDigits base text digits) :
    digits.length ≤ text.length := by
  have sameLength := congrArg List.length shown.values
  rw [List.length_map, List.length_map] at sameLength
  rw [← sameLength]
  exact length_flatten_pieces_le '_' text

end Values

end Chip8.Text
