import Mathlib.Algebra.Ring.Int.Defs
import Chip8.Proofs.Text.Digits

/-!
Contract: which texts are numerals, and which numbers they stand for.

Owns:
- `IsDecimal` and `IsHexadecimal`, and that the two readers of numerals accept exactly these texts;
- that no hexadecimal numeral stands for more than so many digits can.

Does not own: which texts are digits.
-/

namespace Chip8.Text

/-! ### Blanks and signs -/

/-- The text is the core with nothing but blanks around it. -/
def Encloses (blank : Char → Bool) (text core : List Char) : Prop :=
  ∃ before after, text = before ++ core ++ after ∧ (∀ char ∈ before, blank char = true) ∧
    ∀ char ∈ after, blank char = true

inductive Sign where
  | none
  | plus
  | minus
deriving DecidableEq, Repr

namespace Sign

def text : Sign → List Char
  | .none => []
  | .plus => ['+']
  | .minus => ['-']

def apply : Sign → Nat → Int
  | .none, value => value
  | .plus, value => value
  | .minus, value => -value

end Sign

/-- Neither blanks nor signs. -/
def IsPlain (text : List Char) : Prop :=
  ∀ char ∈ text, isBlank char = false ∧ char ≠ '+' ∧ char ≠ '-'

section Enclosing

variable {text core body : List Char} {sign : Sign}

theorem encloses_trimBlanks (text : List Char) : Encloses isBlank text (trimBlanks text) := by
  have blankOf : ∀ {line : List Char}, ∀ char ∈ line.takeWhile isBlank, isBlank char = true :=
    fun char member => List.all_eq_true.mp List.all_takeWhile char member
  refine ⟨text.takeWhile isBlank, ((text.dropWhile isBlank).reverse.takeWhile isBlank).reverse,
    ?_, blankOf, ?_⟩
  · rw [trimBlanks, List.append_assoc, ← List.reverse_append, List.takeWhile_append_dropWhile,
      List.reverse_reverse, List.takeWhile_append_dropWhile]
  · intro char member
    exact blankOf char (List.mem_reverse.mp member)

theorem length_le_of_encloses {blank : Char → Bool} (enclosed : Encloses blank text core) :
    core.length ≤ text.length := by
  obtain ⟨before, after, rfl, -, -⟩ := enclosed
  simp only [List.length_append]
  omega

theorem dropWhile_append_of_solid (solid : ∀ char ∈ core, isBlank char = false)
    (nonempty : core ≠ []) (rest : List Char) :
    (core ++ rest).dropWhile isBlank = core ++ rest := by
  obtain ⟨first, others, rfl⟩ := List.exists_cons_of_ne_nil nonempty
  rw [List.cons_append, List.dropWhile_cons_of_neg]
  rw [solid first List.mem_cons_self]
  exact Bool.false_ne_true

theorem trimBlanks_of_encloses (enclosed : Encloses isBlank text core)
    (solid : ∀ char ∈ core, isBlank char = false) : trimBlanks text = core := by
  obtain ⟨before, after, rfl, blankBefore, blankAfter⟩ := enclosed
  rw [trimBlanks, List.append_assoc, List.dropWhile_append_of_pos blankBefore]
  by_cases empty : core = []
  · rw [empty, List.nil_append, ← List.append_nil after, List.dropWhile_append_of_pos blankAfter]
    rfl
  · have blankReverse : ∀ char ∈ after.reverse, isBlank char = true :=
      fun char member => blankAfter char (List.mem_reverse.mp member)
    have solidReverse : ∀ char ∈ core.reverse, isBlank char = false :=
      fun char member => solid char (List.mem_reverse.mp member)
    have kept := dropWhile_append_of_solid solidReverse (mt List.reverse_eq_nil_iff.mp empty) []
    rw [List.append_nil] at kept
    rw [dropWhile_append_of_solid solid empty, List.reverse_append,
      List.dropWhile_append_of_pos blankReverse, kept, List.reverse_reverse]

theorem signOf_append (plain : IsPlain body) :
    signOf (sign.text ++ body) = (sign == .minus, body) := by
  cases sign with
  | plus => rfl
  | minus => rfl
  | none =>
    cases body with
    | nil => rfl
    | cons first rest =>
      obtain ⟨-, notPlus, notMinus⟩ := plain first List.mem_cons_self
      simp [Sign.text, signOf, notPlus, notMinus]

theorem signOf_trimBlanks (enclosed : Encloses isBlank text (sign.text ++ body))
    (plain : IsPlain body) : signOf (trimBlanks text) = (sign == .minus, body) := by
  have solid : ∀ char ∈ sign.text ++ body, isBlank char = false := by
    intro char member
    rcases List.mem_append.mp member with inSign | inBody
    · cases sign with
      | none => exact absurd inSign List.not_mem_nil
      | plus =>
        rw [List.mem_singleton.mp inSign]
        decide
      | minus =>
        rw [List.mem_singleton.mp inSign]
        decide
    · exact (plain char inBody).1
  rw [trimBlanks_of_encloses enclosed solid, signOf_append plain]

theorem applySign_minus (sign : Sign) (value : Nat) :
    applySign (sign == .minus) value = sign.apply value := by
  cases sign <;> rfl

theorem exists_sign_encloses (text : List Char) :
    ∃ (sign : Sign) (body : List Char), Encloses isBlank text (sign.text ++ body) ∧
      signOf (trimBlanks text) = (sign == .minus, body) := by
  have enclosed := encloses_trimBlanks text
  unfold signOf
  split
  · rename_i body trimmed
    rw [trimmed] at enclosed
    exact ⟨.minus, body, enclosed, rfl⟩
  · rename_i body trimmed
    rw [trimmed] at enclosed
    exact ⟨.plus, body, enclosed, rfl⟩
  · exact ⟨.none, _, enclosed, rfl⟩

end Enclosing

/-! ### Decimal numerals -/

/-- A decimal numeral with its value; `blank` tells what may stand around it. -/
def IsDecimal (blank : Char → Bool) (text : List Char) (value : Int) : Prop :=
  ∃ (sign : Sign) (body : List Char) (digits : List Nat),
    Encloses blank text (sign.text ++ body) ∧ ShowsDigits 10 body digits ∧
      digits.length ≤ decimalLimit ∧ value = sign.apply (valueOf 10 digits)

theorem IsDecimal.mono {blank wider : Char → Bool} {text : List Char} {value : Int}
    (implies : ∀ char, blank char = true → wider char = true)
    (numeral : IsDecimal blank text value) : IsDecimal wider text value := by
  obtain ⟨sign, body, digits, ⟨before, after, same, blankBefore, blankAfter⟩, shown⟩ := numeral
  exact ⟨sign, body, digits, ⟨before, after, same,
    fun char member => implies char (blankBefore char member),
    fun char member => implies char (blankAfter char member)⟩, shown⟩

theorem IsDecimal.cons {blank : Char → Bool} {text : List Char} {value : Int} {char : Char}
    (numeral : IsDecimal blank text value) (isBlank : blank char = true) :
    IsDecimal blank (char :: text) value := by
  obtain ⟨sign, body, digits, ⟨before, after, rfl, blankBefore, blankAfter⟩, shown⟩ := numeral
  exact ⟨sign, body, digits, ⟨char :: before, after, rfl,
    List.forall_mem_cons.mpr ⟨isBlank, blankBefore⟩, blankAfter⟩, shown⟩

/-! ### Hexadecimal numerals -/

/-- What may stand before hexadecimal digits. -/
inductive IsHexMark : List Char → Prop where
  | none : IsHexMark []
  | mark {zero x : Char} (isZero : decimalDigit zero = some 0) (isX : x = 'x' ∨ x = 'X') :
      IsHexMark [zero, x]
  | underscored {zero x : Char} (isZero : decimalDigit zero = some 0) (isX : x = 'x' ∨ x = 'X') :
      IsHexMark [zero, x, '_']

/-- A hexadecimal numeral with its value. -/
def IsHexadecimal (text : List Char) (value : Int) : Prop :=
  ∃ (sign : Sign) (mark body : List Char) (digits : List Nat),
    Encloses isBlank text (sign.text ++ (mark ++ body)) ∧ IsHexMark mark ∧
      ShowsDigits 16 body digits ∧ value = sign.apply (valueOf 16 digits)

section Readers

variable {base : Nat} {text body mark : List Char} {digits : List Nat}

theorem ShowsDigits.isPlain (shown : ShowsDigits base body digits) : IsPlain body := by
  intro char member
  refine ⟨?_, ?_, ?_⟩
  · rcases shown.of_mem member with rfl | ⟨digit, found⟩
    · decide
    · exact notBlank_of_digitBelow found
  · rintro rfl
    exact shown.notMem (by decide) (digitBelow_eq_none base (by decide) (by decide)) member
  · rintro rfl
    exact shown.notMem (by decide) (digitBelow_eq_none base (by decide) (by decide)) member

theorem decimal_eq_some_iff_of_parts {sign : Sign} {value : Int}
    (parts : signOf (trimBlanks text) = (sign == .minus, body)) :
    decimal text = some value ↔ ∃ digits, ShowsDigits 10 body digits ∧
      digits.length ≤ decimalLimit ∧ value = sign.apply (valueOf 10 digits) := by
  unfold decimal
  simp only [parts, Option.bind_eq_bind, Option.bind_eq_some_iff, digitValues_eq_some_iff,
    applySign_minus, Option.pure_def, Option.ite_none_right_eq_some, Option.some.injEq]
  simp only [eq_comm]

theorem decimal_eq_some_iff (text : List Char) (value : Int) :
    decimal text = some value ↔ IsDecimal isBlank text value := by
  constructor
  · intro read
    obtain ⟨sign, body, enclosed, parts⟩ := exists_sign_encloses text
    obtain ⟨digits, shown, few, same⟩ := (decimal_eq_some_iff_of_parts parts).mp read
    exact ⟨sign, body, digits, enclosed, shown, few, same⟩
  · rintro ⟨sign, body, digits, enclosed, shown, few, same⟩
    have parts := signOf_trimBlanks enclosed shown.isPlain
    exact (decimal_eq_some_iff_of_parts parts).mpr ⟨digits, shown, few, same⟩

theorem IsDecimal.comma_notMem {value : Int} (numeral : IsDecimal isBlank text value) :
    ',' ∉ text := by
  obtain ⟨sign, body, digits, ⟨before, after, rfl, blankBefore, blankAfter⟩, shown, -, -⟩ := numeral
  have notBlank : isBlank ',' = false := by decide
  have notInSign : ',' ∉ sign.text := by cases sign <;> decide
  have notInBody : ',' ∉ body :=
    shown.notMem (by decide) (digitBelow_eq_none 10 (by decide) (by decide))
  have notIn : ∀ blanks : List Char, (∀ char ∈ blanks, isBlank char = true) → ',' ∉ blanks := by
    intro blanks allBlank member
    rw [allBlank ',' member] at notBlank
    contradiction
  simp only [List.mem_append, not_or]
  exact ⟨⟨notIn before blankBefore, notInSign, notInBody⟩, notIn after blankAfter⟩

theorem exists_hexMark (text : List Char) :
    ∃ mark, IsHexMark mark ∧ text = mark ++ dropHexMark text := by
  unfold dropHexMark
  split
  · rename_i first x rest
    by_cases marked : decimalDigit first = some 0 ∧ (x = 'x' ∨ x = 'X')
    · rw [if_pos marked]
      split
      · exact ⟨[first, x, '_'], .underscored marked.1 marked.2, rfl⟩
      · exact ⟨[first, x], .mark marked.1 marked.2, rfl⟩
    · rw [if_neg marked]
      exact ⟨[], .none, rfl⟩
  · exact ⟨[], .none, rfl⟩

theorem ShowsDigits.x_notMem (shown : ShowsDigits 16 body digits) {x : Char}
    (isX : x = 'x' ∨ x = 'X') : x ∉ body := by
  rcases isX with rfl | rfl
  · exact shown.notMem (by decide) (by decide)
  · exact shown.notMem (by decide) (by decide)

theorem dropHexMark_append (marked : IsHexMark mark) (shown : ShowsDigits 16 body digits) :
    dropHexMark (mark ++ body) = body := by
  cases marked with
  | none =>
    unfold dropHexMark
    split
    · rename_i first x rest same
      rw [List.nil_append] at same
      rw [if_neg, same]
      rintro ⟨-, isX⟩
      apply shown.x_notMem isX
      rw [same]
      exact List.mem_cons_of_mem first List.mem_cons_self
    · rfl
  | mark isZero isX =>
    simp only [List.cons_append, List.nil_append, dropHexMark, if_pos (And.intro isZero isX)]
    split
    · rename_i later
      exact absurd shown (not_showsDigits_of_underscore later digits)
    · rfl
  | underscored isZero isX =>
    simp only [List.cons_append, List.nil_append, dropHexMark, if_pos (And.intro isZero isX)]

theorem IsHexMark.isPlain (marked : IsHexMark mark) : IsPlain mark := by
  have plainZero : ∀ {zero : Char}, decimalDigit zero = some 0 →
      isBlank zero = false ∧ zero ≠ '+' ∧ zero ≠ '-' := by
    intro zero isZero
    have shown : ShowsDigits 16 [zero] [0] := by
      apply showsDigits_of_map (List.cons_ne_nil zero [])
      rw [List.map_singleton, digitBelow, isZero]
      rfl
    exact shown.isPlain zero (List.mem_singleton_self zero)
  have plainX : ∀ {x : Char}, x = 'x' ∨ x = 'X' → isBlank x = false ∧ x ≠ '+' ∧ x ≠ '-' := by
    rintro x (rfl | rfl) <;> decide
  intro char member
  cases marked with
  | none => exact absurd member List.not_mem_nil
  | mark isZero isX =>
    simp only [List.mem_cons, List.not_mem_nil, or_false] at member
    rcases member with rfl | rfl
    · exact plainZero isZero
    · exact plainX isX
  | underscored isZero isX =>
    simp only [List.mem_cons, List.not_mem_nil, or_false] at member
    rcases member with rfl | rfl | rfl
    · exact plainZero isZero
    · exact plainX isX
    · decide

theorem hexadecimal_eq_some_iff_of_parts {sign : Sign} {value : Int}
    (parts : signOf (trimBlanks text) = (sign == .minus, body)) :
    hexadecimal text = some value ↔ ∃ digits, ShowsDigits 16 (dropHexMark body) digits ∧
      value = sign.apply (valueOf 16 digits) := by
  unfold hexadecimal
  simp only [parts, Option.bind_eq_bind, Option.bind_eq_some_iff, digitValues_eq_some_iff,
    applySign_minus, Option.pure_def, Option.some.injEq]
  simp only [eq_comm]

theorem hexadecimal_eq_some_iff (text : List Char) (value : Int) :
    hexadecimal text = some value ↔ IsHexadecimal text value := by
  constructor
  · intro read
    obtain ⟨sign, body, enclosed, parts⟩ := exists_sign_encloses text
    obtain ⟨digits, shown, same⟩ := (hexadecimal_eq_some_iff_of_parts parts).mp read
    obtain ⟨mark, marked, split⟩ := exists_hexMark body
    rw [split] at enclosed
    exact ⟨sign, mark, dropHexMark body, digits, enclosed, marked, shown, same⟩
  · rintro ⟨sign, mark, body, digits, enclosed, marked, shown, same⟩
    have plain : IsPlain (mark ++ body) := by
      intro char member
      rcases List.mem_append.mp member with inMark | inBody
      · exact marked.isPlain char inMark
      · exact shown.isPlain char inBody
    have parts := signOf_trimBlanks enclosed plain
    rw [← dropHexMark_append marked shown] at shown
    exact (hexadecimal_eq_some_iff_of_parts parts).mpr ⟨digits, shown, same⟩

end Readers

/-- A numeral of so many characters has at most as many digits. -/
theorem IsHexadecimal.lt {text : List Char} {value : Int} (numeral : IsHexadecimal text value) :
    value < 16 ^ text.length := by
  obtain ⟨sign, mark, body, digits, enclosed, -, shown, rfl⟩ := numeral
  have longEnough : digits.length ≤ text.length := by
    have enclosedLength := length_le_of_encloses enclosed
    have bodyLength := shown.length_le
    simp only [List.length_append] at enclosedLength
    omega
  have below : valueOf 16 digits < 16 ^ text.length :=
    Nat.lt_of_lt_of_le (valueOf_lt shown.lt) (Nat.pow_le_pow_right (by decide) longEnough)
  have belowAsInt : (valueOf 16 digits : Int) < 16 ^ text.length := by exact_mod_cast below
  cases sign with
  | none => exact belowAsInt
  | plus => exact belowAsInt
  | minus =>
    simp only [Sign.apply]
    omega

end Chip8.Text
