import Chip8.Text.Pieces

/-!
Contract: pieces are what was put between the separators.

Owns:
- that words joined by a separator which is in none of them are the pieces of the whole;
- that the pieces have all characters but the separators.
-/

namespace Chip8.Text

variable {separator : Char}

theorem pieces_cons_self (rest : List Char) :
    pieces separator (separator :: rest) = [] :: pieces separator rest := by
  rw [pieces, if_pos rfl]

/-- Another character becomes the first one of the first piece. -/
theorem pieces_cons_of_ne {char : Char} (different : char ≠ separator) (rest : List Char) :
    ∃ first others, pieces separator rest = first :: others ∧
      pieces separator (char :: rest) = (char :: first) :: others := by
  obtain ⟨first, others, split⟩ := List.exists_cons_of_ne_nil (pieces_ne_nil separator rest)
  refine ⟨first, others, split, ?_⟩
  rw [pieces, if_neg different, split]

theorem mem_flatten_pieces {char : Char} (different : char ≠ separator) (text : List Char) :
    char ∈ (pieces separator text).flatten ↔ char ∈ text := by
  induction text with
  | nil => rfl
  | cons head rest inductionHypothesis =>
    by_cases same : head = separator
    · rw [same, pieces_cons_self, List.flatten_cons, List.nil_append, inductionHypothesis,
        List.mem_cons, or_iff_right different]
    · obtain ⟨first, others, split, splitWhole⟩ := pieces_cons_of_ne same rest
      rw [splitWhole, List.flatten_cons, List.cons_append, ← List.flatten_cons, ← split,
        List.mem_cons, List.mem_cons, inductionHypothesis]

theorem length_flatten_pieces_le (separator : Char) (text : List Char) :
    (pieces separator text).flatten.length ≤ text.length := by
  induction text with
  | nil => exact Nat.le_refl 0
  | cons head rest inductionHypothesis =>
    by_cases same : head = separator
    · rw [same, pieces_cons_self, List.flatten_cons, List.nil_append, List.length_cons]
      exact Nat.le_succ_of_le inductionHypothesis
    · obtain ⟨first, others, split, splitWhole⟩ := pieces_cons_of_ne same rest
      rw [splitWhole, List.flatten_cons, List.cons_append, ← List.flatten_cons, ← split,
        List.length_cons, List.length_cons]
      exact Nat.succ_le_succ inductionHypothesis

theorem pieces_of_notMem {text : List Char} (absent : separator ∉ text) :
    pieces separator text = [text] := by
  induction text with
  | nil => rfl
  | cons char rest inductionHypothesis =>
    rw [List.mem_cons, not_or] at absent
    rw [pieces, if_neg (Ne.symm absent.1), inductionHypothesis absent.2]

theorem pieces_append_cons {first : List Char} (absent : separator ∉ first) (rest : List Char) :
    pieces separator (first ++ separator :: rest) = first :: pieces separator rest := by
  induction first with
  | nil => rw [List.nil_append, pieces, if_pos rfl]
  | cons char others inductionHypothesis =>
    rw [List.mem_cons, not_or] at absent
    rw [List.cons_append, pieces, if_neg (Ne.symm absent.1), inductionHypothesis absent.2]

theorem pieces_intercalate {words : List (List Char)} (nonempty : words ≠ [])
    (absent : ∀ word ∈ words, separator ∉ word) :
    pieces separator ([separator].intercalate words) = words := by
  induction words with
  | nil => contradiction
  | cons word later inductionHypothesis =>
    have notInWord := absent word List.mem_cons_self
    cases later with
    | nil =>
      rw [List.intercalate_singleton]
      exact pieces_of_notMem notInWord
    | cons next others =>
      have rest := inductionHypothesis (List.cons_ne_nil next others)
        fun other member => absent other (List.mem_cons_of_mem word member)
      rw [List.intercalate_cons_cons, List.append_assoc, List.singleton_append,
        pieces_append_cons notInWord, rest]

end Chip8.Text
