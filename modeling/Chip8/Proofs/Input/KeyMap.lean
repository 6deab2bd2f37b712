import Mathlib.Data.List.FinRange
import Mathlib.Data.List.Forall2
import Chip8.Input.KeyMap
import Chip8.Proofs.Text.Spelling

/-!
Contract: a key map is read exactly, and it is one to one.

Owns:
- `KeyMap.WrittenAs`, sixteen different codes as numerals between commas, and that exactly such
  texts are accepted;
- `KeyMap.StopsAt`, the first numeral that is missing or was there before, which decides how
  sixteen pieces are refused;
- that a host key stands for a key just when its code is the one given for that key.

Does not own: which texts are numerals.
-/

namespace Chip8.KeyMap

open Chip8.Text

/-! ### Reading the codes -/

/-- The first piece that is no integer or repeats a code, and what is said of it. -/
def StopsAt (seen : List Int) (texts : List (List Char)) (fault : Fault) : Prop :=
  ∃ before piece after codes, texts = before ++ piece :: after ∧
    List.Forall₂ (IsDecimal isBlank) before codes ∧ codes.Nodup ∧ List.Disjoint codes seen ∧
    ((fault = .keyMapNotInteger ∧ ∀ code, ¬IsDecimal isBlank piece code) ∨
      fault = .keyMapDuplicate ∧ ∃ code, IsDecimal isBlank piece code ∧
        (code ∈ codes ∨ code ∈ seen))

section Reading

variable {seen : List Int} {piece : List Char} {code : Int}

theorem readCodes_of_not_isDecimal (notInteger : ∀ code, ¬IsDecimal isBlank piece code)
    (seen : List Int) (rest : List (List Char)) :
    readCodes seen (piece :: rest) = .error .keyMapNotInteger := by
  have read : decimal piece = none := by
    rw [Option.eq_none_iff_forall_ne_some]
    intro code found
    exact notInteger code ((decimal_eq_some_iff piece code).mp found)
  rw [readCodes, read]

theorem readCodes_of_mem (numeral : IsDecimal isBlank piece code) (repeated : code ∈ seen)
    (rest : List (List Char)) : readCodes seen (piece :: rest) = .error .keyMapDuplicate := by
  rw [readCodes, (decimal_eq_some_iff piece code).mpr numeral]
  exact if_pos repeated

theorem readCodes_of_notMem (numeral : IsDecimal isBlank piece code) (fresh : code ∉ seen)
    (rest : List (List Char)) :
    readCodes seen (piece :: rest) = (readCodes (code :: seen) rest).map (code :: ·) := by
  rw [readCodes, (decimal_eq_some_iff piece code).mpr numeral]
  exact if_neg fresh

/-- Either all codes are read, or the first piece that does not fit stops the reading. -/
theorem readCodes_cases (seen : List Int) (texts : List (List Char)) :
    (∃ codes, readCodes seen texts = .ok codes ∧ List.Forall₂ (IsDecimal isBlank) texts codes ∧
      codes.Nodup ∧ List.Disjoint codes seen) ∨
    ∃ fault, readCodes seen texts = .error fault ∧ StopsAt seen texts fault := by
  induction texts generalizing seen with
  | nil => exact .inl ⟨[], rfl, .nil, List.nodup_nil, List.disjoint_nil_left seen⟩
  | cons piece rest inductionHypothesis =>
    by_cases numeral : ∃ code, IsDecimal isBlank piece code
    · obtain ⟨code, numeral⟩ := numeral
      by_cases repeated : code ∈ seen
      · right
        exact ⟨_, readCodes_of_mem numeral repeated rest, [], piece, rest, [], rfl, .nil,
          List.nodup_nil, List.disjoint_nil_left seen, .inr ⟨rfl, code, numeral, .inr repeated⟩⟩
      · have step := readCodes_of_notMem numeral repeated rest
        rcases inductionHypothesis (code :: seen) with
          ⟨codes, read, numerals, different, apart⟩ | ⟨fault, read, stops⟩
        · left
          rw [List.disjoint_cons_right] at apart
          refine ⟨code :: codes, ?_, .cons numeral numerals, ?_, ?_⟩
          · rw [step, read]
            rfl
          · exact List.nodup_cons.mpr ⟨apart.1, different⟩
          · exact List.disjoint_cons_left.mpr ⟨repeated, apart.2⟩
        · right
          obtain ⟨before, stopped, after, codes, rfl, numerals, different, apart, told⟩ := stops
          rw [List.disjoint_cons_right] at apart
          refine ⟨fault, ?_, piece :: before, stopped, after, code :: codes, rfl,
            .cons numeral numerals, ?_, ?_, ?_⟩
          · rw [step, read]
            rfl
          · exact List.nodup_cons.mpr ⟨apart.1, different⟩
          · exact List.disjoint_cons_left.mpr ⟨repeated, apart.2⟩
          · simpa only [List.mem_cons, or_assoc, or_left_comm] using told
    · right
      have notInteger : ∀ code, ¬IsDecimal isBlank piece code := not_exists.mp numeral
      exact ⟨_, readCodes_of_not_isDecimal notInteger seen rest, [], piece, rest, [], rfl, .nil,
        List.nodup_nil, List.disjoint_nil_left seen, .inl ⟨rfl, notInteger⟩⟩

theorem readCodes_of_numerals {texts : List (List Char)} {codes : List Int}
    (numerals : List.Forall₂ (IsDecimal isBlank) texts codes) (different : codes.Nodup)
    (apart : List.Disjoint codes seen) : readCodes seen texts = .ok codes := by
  induction numerals generalizing seen with
  | nil => rfl
  | cons numeral _ inductionHypothesis =>
    obtain ⟨notLater, differentLater⟩ := List.nodup_cons.mp different
    obtain ⟨fresh, apartLater⟩ := List.disjoint_cons_left.mp apart
    rw [readCodes_of_notMem numeral fresh,
      inductionHypothesis differentLater (List.disjoint_cons_right.mpr ⟨notLater, apartLater⟩)]
    rfl

end Reading

/-! ### Reading the text -/

/-- Sixteen numerals between commas, for the codes of the key map and no two alike; `blank` tells
what may stand around a numeral. -/
structure WrittenAs (blank : Char → Bool) (text : String) (keyMap : KeyMap) : Prop where
  numerals : List.Forall₂ (IsDecimal blank) (pieces ',' text.toList) keyMap.codes.toList
  different : keyMap.codes.toList.Nodup

/-- What is said of a text that is no key map. -/
inductive Refuses (text : String) : Fault → Prop where
  | size (notSixteen : (pieces ',' text.toList).length ≠ 16) : Refuses text .keyMapSize
  | stops {fault : Fault} (sixteen : (pieces ',' text.toList).length = 16)
      (stopped : StopsAt [] (pieces ',' text.toList) fault) : Refuses text fault

section Texts

variable {text : String} {keyMap : KeyMap}

theorem ofText_of_read (sixteen : (pieces ',' text.toList).length = 16)
    (read : readCodes [] (pieces ',' text.toList) = .ok keyMap.codes.toList) :
    ofText text = .ok keyMap := by
  unfold ofText
  rw [dif_pos sixteen]
  split
  · rename_i fault refused
    rw [read] at refused
    contradiction
  · rename_i codes accepted
    rw [read, Except.ok.injEq] at accepted
    subst accepted
    rfl

theorem ofText_of_writtenAs (written : keyMap.WrittenAs isBlank text) :
    ofText text = .ok keyMap := by
  apply ofText_of_read
  · rw [written.numerals.length_eq, Vector.length_toList]
  · exact readCodes_of_numerals written.numerals written.different (List.disjoint_nil_right _)

theorem ofText_of_refused {fault : Fault} (sixteen : (pieces ',' text.toList).length = 16)
    (refused : readCodes [] (pieces ',' text.toList) = .error fault) :
    ofText text = .error fault := by
  unfold ofText
  rw [dif_pos sixteen]
  split
  · rename_i other found
    rw [refused, Except.error.injEq] at found
    rw [found]
  · rename_i codes accepted
    rw [refused] at accepted
    contradiction

theorem ofText_cases (text : String) :
    (∃ keyMap, ofText text = .ok keyMap ∧ keyMap.WrittenAs isBlank text) ∨
      ∃ fault, ofText text = .error fault ∧ Refuses text fault := by
  by_cases sixteen : (pieces ',' text.toList).length = 16
  · rcases readCodes_cases [] (pieces ',' text.toList) with
      ⟨codes, read, numerals, different, -⟩ | ⟨fault, refused, stopped⟩
    · left
      have size : codes.toArray.size = 16 := by
        rw [List.size_toArray, ← numerals.length_eq, sixteen]
      exact ⟨⟨⟨codes.toArray, size⟩⟩, ofText_of_read sixteen read, numerals, different⟩
    · right
      exact ⟨fault, ofText_of_refused sixteen refused, .stops sixteen stopped⟩
  · right
    exact ⟨_, dif_neg sixteen, .size sixteen⟩

theorem ofText_eq_ok_iff (text : String) (keyMap : KeyMap) :
    ofText text = .ok keyMap ↔ keyMap.WrittenAs isBlank text := by
  constructor
  · intro accepted
    rcases ofText_cases text with ⟨other, read, written⟩ | ⟨fault, refused, -⟩
    · rw [accepted, Except.ok.injEq] at read
      rw [read]
      exact written
    · rw [accepted] at refused
      contradiction
  · exact ofText_of_writtenAs

theorem toList_eq_ofFn {α : Type} {size : Nat} (items : Vector α size) :
    items.toList = List.ofFn items.get := by
  apply List.ext_getElem
  · rw [Vector.length_toList, List.length_ofFn]
  · intro index _ _
    rw [Vector.getElem_toList, List.getElem_ofFn]
    rfl

theorem forall₂_ofFn {α β : Type} {relation : α → β → Prop} {size : Nat} {first : Fin size → α}
    {second : Fin size → β} (related : ∀ index, relation (first index) (second index)) :
    List.Forall₂ relation (List.ofFn first) (List.ofFn second) := by
  induction size with
  | zero => exact .nil
  | succ size inductionHypothesis =>
    rw [List.ofFn_succ, List.ofFn_succ]
    exact .cons (related 0) (inductionHypothesis fun index => related index.succ)

theorem injective_get_iff : Function.Injective keyMap.codes.get ↔ keyMap.codes.toList.Nodup := by
  rw [toList_eq_ofFn, List.nodup_ofFn]

theorem keyOf_eq_some_iff (different : keyMap.codes.toList.Nodup) (hostKey : Int) (key : Key) :
    keyMap.keyOf hostKey = some key ↔ keyMap.codes.get key = hostKey := by
  have injective := injective_get_iff.mpr different
  unfold keyOf Vector.finIdxOf?
  rw [Option.map_eq_some_iff]
  constructor
  · rintro ⟨place, found, rfl⟩
    exact (Array.finIdxOf?_eq_some_iff.mp found).1
  · intro same
    refine ⟨key.cast keyMap.codes.size_toArray.symm,
      Array.finIdxOf?_eq_some_iff.mpr ⟨same, ?_⟩, rfl⟩
    intro earlier before sameEarlier
    have sameCode : keyMap.codes.get (earlier.cast keyMap.codes.size_toArray) =
        keyMap.codes.get key := by
      rw [same]
      exact sameEarlier
    exact absurd (Fin.val_eq_of_eq (injective sameCode)) (Nat.ne_of_lt before)

theorem writtenAs_intercalate (different : keyMap.codes.toList.Nodup)
    (short : ∀ key, (Nat.toDigits 10 (keyMap.codes.get key).natAbs).length ≤ decimalLimit)
    (spelling : Key → Spelling) :
    keyMap.WrittenAs isBlank (String.ofList ([','].intercalate
      (List.ofFn fun key => (spelling key).write (keyMap.codes.get key)))) := by
  have spelled : ∀ key, IsDecimal isBlank ((spelling key).write (keyMap.codes.get key))
      (keyMap.codes.get key) := fun key => isDecimal_write (spelling key) (short key)
  refine ⟨?_, different⟩
  rw [String.toList_ofList, pieces_intercalate]
  · rw [toList_eq_ofFn]
    exact forall₂_ofFn spelled
  · exact List.ofFn_eq_nil_iff.not.mpr (by decide)
  · intro word member
    obtain ⟨key, rfl⟩ := List.mem_ofFn.mp member
    exact (spelled key).comma_notMem

end Texts

/-! ### The key map as a whole -/

/-- Exactly the texts of sixteen different numerals between commas are key maps, and any other is
refused for the reason it gives. The host key of each key is its code and no other, and sixteen
different integers are read back however they are spelled. -/
theorem key_map_read_exactly :
    (∀ text keyMap, ofText text = .ok keyMap ↔ keyMap.WrittenAs isBlank text) ∧
      (∀ text, (∀ keyMap : KeyMap, ¬keyMap.WrittenAs isBlank text) →
        ∃ fault, ofText text = .error fault ∧ Refuses text fault) ∧
      (∀ text keyMap, ofText text = .ok keyMap → Function.Injective keyMap.codes.get ∧
        ∀ hostKey key, keyMap.keyOf hostKey = some key ↔ keyMap.codes.get key = hostKey) ∧
      ∀ (keyMap : KeyMap) (spelling : Key → Spelling), Function.Injective keyMap.codes.get →
        (∀ key, (Nat.toDigits 10 (keyMap.codes.get key).natAbs).length ≤ decimalLimit) →
        ofText (String.ofList ([','].intercalate
          (List.ofFn fun key => (spelling key).write (keyMap.codes.get key)))) = .ok keyMap := by
  refine ⟨ofText_eq_ok_iff, ?_, ?_, ?_⟩
  · intro text notWritten
    rcases ofText_cases text with ⟨keyMap, -, written⟩ | refused
    · exact absurd written (notWritten keyMap)
    · exact refused
  · intro text keyMap accepted
    have written := (ofText_eq_ok_iff text keyMap).mp accepted
    exact ⟨injective_get_iff.mpr written.different, keyOf_eq_some_iff written.different⟩
  · intro keyMap spelling injective short
    exact ofText_of_writtenAs
      (writtenAs_intercalate (injective_get_iff.mp injective) short spelling)

/-- The usual codes are read back with a plus sign before each and a space after it. -/
theorem key_map_read_exactly_with_signs :
    KeyMap.ofText ("+120 ,+49 ,+50 ,+51 ,+113 ,+119 ,+101 ,+97 ,+115 ,+100 ,+122 ,+99 ,+52 ,+114 ,"
      ++ "+102 ,+118 ") =
      .ok ⟨#v[120, 49, 50, 51, 113, 119, 101, 97, 115, 100, 122, 99, 52, 114, 102, 118]⟩ := by
  have read := key_map_read_exactly.2.2.2
    ⟨#v[120, 49, 50, 51, 113, 119, 101, 97, 115, 100, 122, 99, 52, 114, 102, 118]⟩
    (fun _ => ⟨0, 1, true⟩) (injective_get_iff.mpr (by decide)) (by decide)
  exact read

/-- Blanks, and the information separators of ASCII. -/
def isBlankOrSeparator (char : Char) : Bool :=
  isBlank char || 0x1C ≤ char.toNat && char.toNat ≤ 0x1F

/-- An information separator before the first code is not skipped as a blank would be. -/
theorem key_map_with_separator_refused :
    (⟨#v[0, 1, 2, 3, 4, 5, 6, 7, 8, 9, 10, 11, 12, 13, 14, 15]⟩ : KeyMap).WrittenAs
        isBlankOrSeparator "\u001f0,1,2,3,4,5,6,7,8,9,10,11,12,13,14,15" ∧
      ofText "\u001f0,1,2,3,4,5,6,7,8,9,10,11,12,13,14,15" = .error .keyMapNotInteger := by
  constructor
  · have plain := (ofText_eq_ok_iff "0,1,2,3,4,5,6,7,8,9,10,11,12,13,14,15"
      ⟨#v[0, 1, 2, 3, 4, 5, 6, 7, 8, 9, 10, 11, 12, 13, 14, 15]⟩).mp (by decide +kernel)
    have numerals := plain.numerals
    have moreBlanks : ∀ char, isBlank char = true → isBlankOrSeparator char = true := by
      intro char blank
      rw [isBlankOrSeparator, blank, Bool.true_or]
    obtain ⟨first, others, split, splitWhole⟩ :=
      pieces_cons_of_ne (show Char.ofNat 0x1F ≠ ',' by decide)
        "0,1,2,3,4,5,6,7,8,9,10,11,12,13,14,15".toList
    rw [split] at numerals
    obtain ⟨firstNumeral, otherNumerals⟩ := List.forall₂_cons.mp numerals
    refine ⟨?_, plain.different⟩
    rw [show "\u001f0,1,2,3,4,5,6,7,8,9,10,11,12,13,14,15".toList =
      Char.ofNat 0x1F :: "0,1,2,3,4,5,6,7,8,9,10,11,12,13,14,15".toList by decide +kernel,
      splitWhole]
    exact .cons ((firstNumeral.mono moreBlanks).cons (by decide))
      (otherNumerals.imp fun _ _ numeral => numeral.mono moreBlanks)
  · decide +kernel

end Chip8.KeyMap
