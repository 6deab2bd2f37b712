import Mathlib.Data.List.Forall2
import Chip8.Media.Window
import Chip8.Proofs.Text.Numeral

/-!
Contract: which texts are palettes, and what becomes of the others.

Owns:
- `Colour.WrittenAs`, two hexadecimal digits for each part of a colour, and `Colour.ReadFrom`, any
  hexadecimal numeral of six characters with the number of the colour;
- that a window opens with exactly the palettes that are read, and why it does not open;
- `Palette.AsPromised`, that only colours written in six digits are read and every other text is
  refused as a palette, and of which texts this is true.

Does not own: which texts are numerals.
-/

namespace Chip8

open Chip8.Text

/-! ### Colours -/

/-- The digit in lower or upper case. -/
def IsHexDigit (char : Char) (digit : Nat) : Prop :=
  char = digit.digitChar ∨ char = digit.digitChar.toUpper

namespace Colour

/-- Two digits for each of the three parts. -/
def digits (colour : Colour) : List Nat :=
  [colour.red, colour.green, colour.blue].flatMap fun part => [part.toNat / 16, part.toNat % 16]

def number (colour : Colour) : Nat :=
  colour.red.toNat * 0x10000 + colour.green.toNat * 0x100 + colour.blue.toNat

def WrittenAs (piece : List Char) (colour : Colour) : Prop :=
  List.Forall₂ IsHexDigit piece colour.digits

/-- A numeral of six characters, whatever these are. -/
def IsNumeral (piece : List Char) (number : Int) : Prop :=
  piece.length = 6 ∧ IsHexadecimal piece number

def ReadFrom (piece : List Char) (colour : Colour) : Prop :=
  IsNumeral piece colour.number

theorem length_digits (colour : Colour) : colour.digits.length = 6 :=
  rfl

theorem digits_lt {colour : Colour} {digit : Nat} (member : digit ∈ colour.digits) :
    digit < 16 := by
  obtain ⟨part, -, halves⟩ := List.mem_flatMap.mp member
  have small := part.toNat_lt
  simp only [List.mem_cons, List.not_mem_nil, or_false] at halves
  omega

theorem valueOf_digits (colour : Colour) : valueOf 16 colour.digits = colour.number := by
  simp only [digits, number, valueOf, List.flatMap_cons, List.flatMap_nil, List.cons_append,
    List.nil_append, List.foldl_cons, List.foldl_nil]
  omega

theorem number_lt (colour : Colour) : colour.number < 0x1000000 := by
  have red := colour.red.toNat_lt
  have green := colour.green.toNat_lt
  have blue := colour.blue.toNat_lt
  unfold number
  omega

theorem ofNumber_number (colour : Colour) : ofNumber colour.number = .ok colour := by
  have small := colour.number_lt
  have green := colour.green.toNat_lt
  have blue := colour.blue.toNat_lt
  have redPart : ((colour.number : Int) / 0x10000).toNat = colour.red.toNat := by
    unfold number
    omega
  have greenPart : ((colour.number : Int) / 0x100 % 0x100).toNat = colour.green.toNat := by
    unfold number
    omega
  have bluePart : ((colour.number : Int) % 0x100).toNat = colour.blue.toNat := by
    unfold number
    omega
  unfold ofNumber
  rw [if_pos (by omega), redPart, greenPart, bluePart, UInt8.ofNat_toNat, UInt8.ofNat_toNat,
    UInt8.ofNat_toNat]

theorem ofNumber_of_negative {number : Int} (negative : number < 0) :
    ofNumber number = .error .colourNegative :=
  if_neg fun bounds => absurd bounds.1 (Int.not_le.mpr negative)

theorem exists_number_eq {number : Int} (positive : 0 ≤ number) (small : number < 0x1000000) :
    ∃ colour : Colour, (colour.number : Int) = number := by
  obtain ⟨value, rfl⟩ := Int.eq_ofNat_of_zero_le positive
  refine ⟨⟨.ofNat (value / 0x10000), .ofNat (value / 0x100), .ofNat value⟩, ?_⟩
  simp only [Colour.number, UInt8.toNat_ofNat']
  omega

theorem map_digitBelow {piece : List Char} {digits : List Nat}
    (written : List.Forall₂ IsHexDigit piece digits) (small : ∀ digit ∈ digits, digit < 16) :
    piece.map (digitBelow 16) = digits.map some := by
  induction written with
  | nil => rfl
  | @cons char digit _ _ shown _ inductionHypothesis =>
    obtain ⟨digitSmall, restSmall⟩ := List.forall_mem_cons.mp small
    have read : digitBelow 16 char = some digit := by
      obtain ⟨lower, upper⟩ := digitBelow_digitChar digitSmall (Nat.le_refl 16)
      rcases shown with rfl | rfl
      · exact lower
      · exact upper
    rw [List.map_cons, List.map_cons, read, inductionHypothesis restSmall]

theorem showsDigits_of_writtenAs {piece : List Char} {colour : Colour}
    (written : colour.WrittenAs piece) : ShowsDigits 16 piece colour.digits := by
  apply showsDigits_of_map
  · rintro rfl
    have length := List.Forall₂.length_eq written
    rw [length_digits] at length
    contradiction
  · exact map_digitBelow written fun _ => digits_lt

theorem ReadFrom.of_writtenAs {piece : List Char} {colour : Colour}
    (written : colour.WrittenAs piece) : colour.ReadFrom piece := by
  refine ⟨List.Forall₂.length_eq written, .none, [], piece, colour.digits, ⟨[], [], ?_, ?_, ?_⟩,
    .none, showsDigits_of_writtenAs written, ?_⟩
  · exact (List.append_nil piece).symm
  · exact List.forall_mem_nil _
  · exact List.forall_mem_nil _
  · rw [valueOf_digits]
    rfl

end Colour

/-! ### The numbers of a text -/

namespace Palette

/-- The faults of a text that is no palette. -/
def faults : List Fault :=
  [.paletteSize, .colourLength, .colourInvalid]

/-- One or two hexadecimal numerals of six characters. -/
def Numbered (text : String) (numbers : List Int) : Prop :=
  numbers.length ≤ 2 ∧
    List.Forall₂ Colour.IsNumeral (pieces ',' text.toList) numbers

/-- A colour that is missing is dark grey behind and light grey in front. -/
def ofColours (colours : List Colour) : Palette :=
  ⟨colours[0]?.getD ⟨0x22, 0x22, 0x22⟩, colours[1]?.getD ⟨0xDD, 0xDD, 0xDD⟩⟩

/-- One or two colours between commas; `shows` tells how a colour is written. -/
def Shown (shows : List Char → Colour → Prop) (text : String) (palette : Palette) : Prop :=
  ∃ colours, colours.length ≤ 2 ∧ List.Forall₂ shows (pieces ',' text.toList) colours ∧
    palette = ofColours colours

section Numbers

variable {text : String} {numbers : List Int} {colours : List Colour}

theorem readNumber_cases (piece : List Char) :
    (∃ number, readNumber piece = .ok number ∧ Colour.IsNumeral piece number) ∨
      ∃ fault ∈ faults, readNumber piece = .error fault := by
  unfold readNumber
  by_cases six : piece.length = 6
  · rw [if_neg (not_not.mpr six)]
    cases read : hexadecimal piece with
    | none => exact .inr ⟨.colourInvalid, by decide, rfl⟩
    | some number => exact .inl ⟨number, rfl, six, (hexadecimal_eq_some_iff piece number).mp read⟩
  · exact .inr ⟨.colourLength, by decide, if_pos six⟩

theorem readNumber_of_isNumeral {piece : List Char} {number : Int}
    (numeral : Colour.IsNumeral piece number) : readNumber piece = .ok number := by
  obtain ⟨six, hexadecimal⟩ := numeral
  unfold readNumber
  rw [if_neg (not_not.mpr six), (hexadecimal_eq_some_iff piece number).mpr hexadecimal]

theorem readNumbers_cases (texts : List (List Char)) :
    (∃ numbers, readNumbers texts = .ok numbers ∧
      List.Forall₂ Colour.IsNumeral texts numbers) ∨
      ∃ fault ∈ faults, readNumbers texts = .error fault := by
  induction texts with
  | nil => exact .inl ⟨[], rfl, .nil⟩
  | cons piece rest inductionHypothesis =>
    unfold readNumbers
    rcases readNumber_cases piece with ⟨number, read, numeral⟩ | ⟨fault, member, refused⟩
    · rcases inductionHypothesis with ⟨numbers, readRest, numerals⟩ | ⟨fault, member, refused⟩
      · rw [read, readRest]
        exact .inl ⟨number :: numbers, rfl, .cons numeral numerals⟩
      · rw [read, refused]
        exact .inr ⟨fault, member, rfl⟩
    · rw [refused]
      exact .inr ⟨fault, member, rfl⟩

theorem readNumbers_of_numerals {texts : List (List Char)}
    (numerals : List.Forall₂ Colour.IsNumeral texts numbers) :
    readNumbers texts = .ok numbers := by
  induction numerals with
  | nil => rfl
  | cons numeral _ inductionHypothesis =>
    rw [readNumbers, readNumber_of_isNumeral numeral, inductionHypothesis]
    rfl

theorem ofText_of_numbered (numbered : Numbered text numbers) :
    ofText (some text) = ofNumbers numbers := by
  obtain ⟨few, numerals⟩ := numbered
  have fewPieces : ¬2 < (pieces ',' text.toList).length := by
    rw [numerals.length_eq]
    exact Nat.not_lt.mpr few
  simp only [ofText, if_neg fewPieces, readNumbers_of_numerals numerals]
  rfl

theorem ofText_of_not_numbered (notNumbered : ¬∃ numbers, Numbered text numbers) :
    ∃ fault ∈ faults, ofText (some text) = .error fault := by
  by_cases many : 2 < (pieces ',' text.toList).length
  · exact ⟨.paletteSize, by decide, if_pos many⟩
  · rcases readNumbers_cases (pieces ',' text.toList) with
      ⟨numbers, read, numerals⟩ | ⟨fault, member, refused⟩
    · rw [numerals.length_eq] at many
      exact absurd ⟨numbers, Nat.not_lt.mp many, numerals⟩ notNumbered
    · refine ⟨fault, member, ?_⟩
      simp only [ofText, if_neg many, refused]
      rfl

theorem lt_of_numbered (numbered : Numbered text numbers) :
    ∀ number ∈ numbers, number < 0x1000000 := by
  obtain ⟨-, numerals⟩ := numbered
  generalize pieces ',' text.toList = texts at numerals
  induction numerals with
  | nil => exact List.forall_mem_nil _
  | cons numeral _ inductionHypothesis =>
    obtain ⟨six, hexadecimal⟩ := numeral
    have small := hexadecimal.lt
    rw [six] at small
    exact List.forall_mem_cons.mpr ⟨small, inductionHypothesis⟩

theorem ofNumbers_of_colours (colours : List Colour) :
    ofNumbers (colours.map fun colour => (colour.number : Int)) = .ok (ofColours colours) := by
  have either : ∀ (index : Nat) (colour : Colour),
      (colours.map fun colour => (colour.number : Int))[index]?.getD colour.number =
        ((colours[index]?.getD colour).number : Int) := by
    intro index colour
    rw [List.getElem?_map, Option.getD_map]
  have background := either 0 ⟨0x22, 0x22, 0x22⟩
  have foreground := either 1 ⟨0xDD, 0xDD, 0xDD⟩
  change _[0]?.getD defaultBackground = _ at background
  change _[1]?.getD defaultForeground = _ at foreground
  rw [ofNumbers, background, foreground, Colour.ofNumber_number, Colour.ofNumber_number]
  rfl

/-- The first colour that is negative is told of, even where the other one is too. -/
theorem ofNumbers_of_negative (numbered : Numbered text numbers)
    (negative : ∃ number ∈ numbers, number < 0) : ofNumbers numbers = .error .colourNegative := by
  have small := lt_of_numbered numbered
  have few := numbered.1
  rcases numbers with _ | ⟨first, rest⟩
  · simp at negative
  · by_cases firstNegative : first < 0
    · unfold ofNumbers
      change (Colour.ofNumber first >>= _) = _
      rw [Colour.ofNumber_of_negative firstNegative]
      rfl
    · obtain ⟨colour, rfl⟩ := Colour.exists_number_eq (Int.not_lt.mp firstNegative)
        (small first List.mem_cons_self)
      obtain ⟨number, member, below⟩ := negative
      rcases List.mem_cons.mp member with rfl | later
      · contradiction
      · have alone : rest = [number] := by
          rcases rest with _ | ⟨second, _ | ⟨third, others⟩⟩
          · contradiction
          · rw [List.mem_singleton.mp later]
          · simp at few
        rw [alone]
        unfold ofNumbers
        change (Colour.ofNumber colour.number >>= fun _ => Colour.ofNumber number >>= _) = _
        rw [Colour.ofNumber_number, Colour.ofNumber_of_negative below]
        rfl

theorem exists_colours (positive : ∀ number ∈ numbers, 0 ≤ number)
    (small : ∀ number ∈ numbers, number < 0x1000000) :
    ∃ colours : List Colour, numbers = colours.map fun colour => (colour.number : Int) := by
  induction numbers with
  | nil => exact ⟨[], rfl⟩
  | cons number rest inductionHypothesis =>
    obtain ⟨numberPositive, restPositive⟩ := List.forall_mem_cons.mp positive
    obtain ⟨numberSmall, restSmall⟩ := List.forall_mem_cons.mp small
    obtain ⟨colour, rfl⟩ := Colour.exists_number_eq numberPositive numberSmall
    obtain ⟨colours, rfl⟩ := inductionHypothesis restPositive restSmall
    exact ⟨colour :: colours, rfl⟩

theorem numbered_of_shown {palette : Palette} (shown : Shown Colour.ReadFrom text palette) :
    ∃ colours, palette = ofColours colours ∧
      Numbered text (colours.map fun colour => (colour.number : Int)) := by
  obtain ⟨colours, few, read, rfl⟩ := shown
  refine ⟨colours, rfl, ?_, ?_⟩
  · rw [List.length_map]
    exact few
  · exact List.forall₂_map_right_iff.mpr read

/-- Colours are read, or one is negative, or there is no palette at all. -/
theorem ofText_cases (text : String) :
    (∃ palette, ofText (some text) = .ok palette ∧ Shown Colour.ReadFrom text palette) ∨
    (ofText (some text) = .error .colourNegative ∧
      ∃ numbers, Numbered text numbers ∧ ∃ number ∈ numbers, number < 0) ∨
    (∃ fault ∈ faults, ofText (some text) = .error fault) ∧ ¬∃ numbers, Numbered text numbers := by
  by_cases numbered : ∃ numbers, Numbered text numbers
  · obtain ⟨numbers, numbered⟩ := numbered
    have read := ofText_of_numbered numbered
    by_cases negative : ∃ number ∈ numbers, number < 0
    · right
      left
      rw [read, ofNumbers_of_negative numbered negative]
      exact ⟨rfl, numbers, numbered, negative⟩
    · left
      have positive : ∀ number ∈ numbers, 0 ≤ number := by
        intro number member
        exact Int.not_lt.mp fun below => negative ⟨number, member, below⟩
      obtain ⟨colours, rfl⟩ := exists_colours positive (lt_of_numbered numbered)
      obtain ⟨few, numerals⟩ := numbered
      rw [List.length_map] at few
      rw [List.forall₂_map_right_iff] at numerals
      exact ⟨ofColours colours, by rw [read, ofNumbers_of_colours], colours, few, numerals, rfl⟩
  · exact .inr (.inr ⟨ofText_of_not_numbered numbered, numbered⟩)

theorem ofText_of_shown {palette : Palette} (shown : Shown Colour.ReadFrom text palette) :
    ofText (some text) = .ok palette := by
  obtain ⟨colours, rfl, numbered⟩ := numbered_of_shown shown
  rw [ofText_of_numbered numbered, ofNumbers_of_colours]

theorem ofText_eq_ok_iff (text : String) (palette : Palette) :
    ofText (some text) = .ok palette ↔ Shown Colour.ReadFrom text palette := by
  constructor
  · intro accepted
    rcases ofText_cases text with ⟨other, read, shown⟩ | ⟨refused, -⟩ | ⟨⟨fault, -, refused⟩, -⟩
    · rw [accepted, Except.ok.injEq] at read
      rw [read]
      exact shown
    · rw [accepted] at refused
      contradiction
    · rw [accepted] at refused
      contradiction
  · exact ofText_of_shown

theorem ofText_eq_colourNegative_iff (text : String) :
    ofText (some text) = .error .colourNegative ↔
      ∃ numbers, Numbered text numbers ∧ ∃ number ∈ numbers, number < 0 := by
  constructor
  · intro refused
    rcases ofText_cases text with ⟨palette, read, -⟩ | ⟨-, negative⟩ | ⟨⟨fault, member, other⟩, -⟩
    · rw [refused] at read
      contradiction
    · exact negative
    · rw [refused, Except.error.injEq] at other
      rw [← other] at member
      exact absurd member (by decide)
  · rintro ⟨numbers, numbered, negative⟩
    rw [ofText_of_numbered numbered, ofNumbers_of_negative numbered negative]

end Numbers

end Palette

/-! ### Opening a window -/

/-- The palette of the window that is opened for a text. -/
def Window.paletteFor (scale : Option Int) (text : String) : Except Fault Palette :=
  (Window.start scale (Palette.ofText (some text))).2.map Window.palette

theorem Window.paletteFor_eq (scale : Option Int) (text : String) :
    Window.paletteFor scale text = Palette.ofText (some text) := by
  unfold Window.paletteFor Window.start
  cases Palette.ofText (some text) <;> rfl

namespace Palette

/-- A window opens with colours of six hexadecimal digits, and with nothing else; any other text
is refused as a palette. -/
structure AsPromised (scale : Option Int) (text : String) : Prop where
  opens : ∀ palette, Window.paletteFor scale text = .ok palette ↔
    Shown Colour.WrittenAs text palette
  refused : (∀ palette, ¬Shown Colour.WrittenAs text palette) →
    ∃ fault ∈ faults, Window.paletteFor scale text = .error fault

section Promise

variable {scale : Option Int} {text : String}

theorem readFrom_of_writtenAs {palette : Palette} (written : Shown Colour.WrittenAs text palette) :
    Shown Colour.ReadFrom text palette := by
  obtain ⟨colours, few, shown, rfl⟩ := written
  exact ⟨colours, few, shown.imp fun _ _ => Colour.ReadFrom.of_writtenAs, rfl⟩

theorem asPromised_iff (scale : Option Int) (text : String) :
    AsPromised scale text ↔ (∃ palette, Shown Colour.WrittenAs text palette) ∨
      ¬∃ numbers, Numbered text numbers := by
  constructor
  · intro promised
    rw [or_iff_not_imp_left]
    intro notWritten
    rcases ofText_cases text with ⟨palette, read, -⟩ | ⟨negative, -⟩ | ⟨-, notNumbered⟩
    · rw [← Window.paletteFor_eq scale] at read
      exact absurd ⟨palette, (promised.opens palette).mp read⟩ notWritten
    · obtain ⟨fault, member, refused⟩ := promised.refused (not_exists.mp notWritten)
      rw [Window.paletteFor_eq, negative, Except.error.injEq] at refused
      rw [← refused] at member
      exact absurd member (by decide)
    · exact notNumbered
  · rintro (⟨written, shown⟩ | notNumbered)
    · have read := ofText_of_shown (readFrom_of_writtenAs shown)
      refine ⟨?_, fun notWritten => absurd shown (notWritten written)⟩
      intro palette
      rw [Window.paletteFor_eq]
      constructor
      · intro accepted
        rw [read, Except.ok.injEq] at accepted
        rw [← accepted]
        exact shown
      · exact fun other => ofText_of_shown (readFrom_of_writtenAs other)
    · have notWritten : ∀ palette, ¬Shown Colour.WrittenAs text palette := by
        intro palette written
        obtain ⟨colours, -, numbered⟩ := numbered_of_shown (readFrom_of_writtenAs written)
        exact notNumbered ⟨_, numbered⟩
      obtain ⟨fault, member, refused⟩ := ofText_of_not_numbered notNumbered
      rw [← Window.paletteFor_eq scale] at refused
      refine ⟨?_, fun _ => ⟨fault, member, refused⟩⟩
      intro palette
      rw [refused]
      exact iff_of_false (by simp) (notWritten palette)

theorem not_asPromised {piece : List Char} {number : Int} {char : Char}
    (only : pieces ',' text.toList = [piece]) (numeral : Colour.IsNumeral piece number)
    (member : char ∈ piece) (different : char ≠ '_') (noDigit : digitBelow 16 char = none) :
    ¬AsPromised scale text := by
  rw [asPromised_iff, not_or, not_not]
  constructor
  · rintro ⟨palette, colours, -, written, -⟩
    rw [only] at written
    obtain ⟨colour, _, first, -, -⟩ := List.forall₂_cons_left_iff.mp written
    exact (Colour.showsDigits_of_writtenAs first).notMem different noDigit member
  · refine ⟨[number], Nat.le_succ 1, ?_⟩
    rw [only]
    exact .cons numeral .nil

/-- A colour is read from any numeral of six characters, and a negative one is refused for another
reason than the rest. Just where such a numeral is no six hexadecimal digits, this is not as
promised. -/
theorem palette_as_promised_iff (scale : Option Int) (text : String) :
    (AsPromised scale text ↔ (∃ palette, Shown Colour.WrittenAs text palette) ∨
      ¬∃ numbers, Numbered text numbers) ∧
    (∀ palette, Window.paletteFor scale text = .ok palette ↔ Shown Colour.ReadFrom text palette) ∧
    (Window.paletteFor scale text = .error .colourNegative ↔
      ∃ numbers, Numbered text numbers ∧ ∃ number ∈ numbers, number < 0) ∧
    ∀ fault, Window.paletteFor scale text = .error fault →
      fault ∈ faults ∨ fault = .colourNegative := by
  rw [Window.paletteFor_eq]
  refine ⟨asPromised_iff scale text, ofText_eq_ok_iff text, ofText_eq_colourNegative_iff text, ?_⟩
  intro fault refused
  rcases ofText_cases text with ⟨palette, read, -⟩ | ⟨negative, -⟩ | ⟨⟨other, member, told⟩, -⟩
  · rw [refused] at read
    contradiction
  · rw [refused, Except.error.injEq] at negative
    exact .inr negative
  · rw [refused, Except.error.injEq] at told
    rw [told]
    exact .inl member

/-- A sign and a mark are no hexadecimal digits, yet a numeral may begin with them. -/
theorem palette_not_as_promised :
    (Window.paletteFor none "-00001" = .error .colourNegative ∧ ¬AsPromised none "-00001") ∧
      Window.paletteFor none "0x1234" = .ok ⟨⟨0x00, 0x12, 0x34⟩, ⟨0xDD, 0xDD, 0xDD⟩⟩ ∧
        ¬AsPromised none "0x1234" := by
  have negativePiece : pieces ',' "-00001".toList = [['-', '0', '0', '0', '0', '1']] := by
    decide +kernel
  have markedPiece : pieces ',' "0x1234".toList = [['0', 'x', '1', '2', '3', '4']] := by
    decide +kernel
  have negative : Colour.IsNumeral ['-', '0', '0', '0', '0', '1'] (-1) :=
    ⟨rfl, (hexadecimal_eq_some_iff _ _).mp (by decide)⟩
  have marked : Colour.IsNumeral ['0', 'x', '1', '2', '3', '4'] 0x1234 :=
    ⟨rfl, (hexadecimal_eq_some_iff _ _).mp (by decide)⟩
  refine ⟨⟨by decide +kernel, ?_⟩, by decide +kernel, ?_⟩
  · exact not_asPromised negativePiece negative List.mem_cons_self (by decide) (by decide)
  · exact not_asPromised markedPiece marked (List.mem_cons_of_mem '0' List.mem_cons_self)
      (by decide) (by decide)

end Promise

end Palette

end Chip8
