import Mathlib.Data.List.Infix
import RowQuery.Proofs.Sql.Truth

/-!
# Texts that fit a pattern

This file says which texts a pattern stands for. In a pattern `%` is any sequence of characters,
`_` is any single one, and every other character is itself; there is no way to write a `%` or a
`_` that is only itself. So a pattern always fits the text that is spelled like it, and it fits
other texts as well exactly if it has one of these two characters.

A pattern between two `%` fits a text if the pattern fits some part of it, and with a `%` on one
side only, this part is the beginning or the end of the text.
-/

namespace RowQuery

namespace Pattern

/-- Whether a text is one of those that a pattern stands for. -/
def fits : List Char → List Char → Bool
  | [], text => text.isEmpty
  | wanted :: pattern, text =>
      if wanted = '%' then text.tails.any (fits pattern)
      else match text with
        | [] => false
        | first :: rest => (wanted = '_' || wanted = first) && fits pattern rest

/-- Whether a character stands for other characters in a pattern. -/
def isWildcard (character : Char) : Bool := character = '%' || character = '_'

@[simp]
theorem fits_nil (text : List Char) : fits [] text = true ↔ text = [] := by
  simp [fits]

theorem fits_percent (pattern text : List Char) :
    fits ('%' :: pattern) text = true ↔
      ∃ skipped rest, text = skipped ++ rest ∧ fits pattern rest = true := by
  simp only [fits, if_true, List.any_eq_true, List.mem_tails]
  constructor
  · rintro ⟨rest, ⟨skipped, rfl⟩, fitting⟩
    exact ⟨skipped, rest, rfl, fitting⟩
  · rintro ⟨skipped, rest, rfl, fitting⟩
    exact ⟨rest, List.suffix_append skipped rest, fitting⟩

theorem fits_cons {wanted : Char} (single : wanted ≠ '%') (pattern text : List Char) :
    fits (wanted :: pattern) text = true ↔
      ∃ first rest, text = first :: rest ∧ (wanted = '_' ∨ wanted = first) ∧
        fits pattern rest = true := by
  cases text with
  | nil => simp [fits, single]
  | cons first rest => simp [fits, single]

/-- A pattern can be cut in two wherever the text is cut to fit. -/
theorem fits_append (first second text : List Char) :
    fits (first ++ second) text = true ↔
      ∃ front back, text = front ++ back ∧ fits first front = true ∧ fits second back = true := by
  induction first generalizing text with
  | nil => simp
  | cons wanted pattern ih =>
      rw [List.cons_append]
      by_cases percent : wanted = '%'
      · subst percent
        simp only [fits_percent, ih]
        constructor
        · rintro ⟨skipped, _, rfl, front, back, rfl, fitsFront, fitsBack⟩
          exact ⟨skipped ++ front, back, by simp, ⟨skipped, front, rfl, fitsFront⟩, fitsBack⟩
        · rintro ⟨_, back, rfl, ⟨skipped, front, rfl, fitsFront⟩, fitsBack⟩
          exact ⟨skipped, front ++ back, by simp, front, back, rfl, fitsFront, fitsBack⟩
      · simp only [fits_cons percent, ih]
        constructor
        · rintro ⟨character, _, rfl, wantedIs, front, back, rfl, fitsFront, fitsBack⟩
          exact ⟨character :: front, back, rfl, ⟨character, front, rfl, wantedIs, fitsFront⟩,
            fitsBack⟩
        · rintro ⟨_, back, rfl, ⟨character, front, rfl, wantedIs, fitsFront⟩, fitsBack⟩
          exact ⟨character, front ++ back, rfl, wantedIs, front, back, rfl, fitsFront, fitsBack⟩

@[simp]
theorem fits_any (text : List Char) : fits ['%'] text = true := by
  rw [fits_percent]
  exact ⟨text, [], by simp, by simp⟩

theorem fits_atStart (pattern text : List Char) :
    fits (pattern ++ ['%']) text = true ↔ ∃ part, part <+: text ∧ fits pattern part = true := by
  rw [fits_append]
  constructor
  · rintro ⟨part, rest, rfl, fitting, _⟩
    exact ⟨part, List.prefix_append part rest, fitting⟩
  · rintro ⟨part, ⟨rest, rfl⟩, fitting⟩
    exact ⟨part, rest, rfl, fitting, fits_any rest⟩

theorem fits_atEnd (pattern text : List Char) :
    fits ('%' :: pattern) text = true ↔ ∃ part, part <:+ text ∧ fits pattern part = true := by
  rw [fits_percent]
  constructor
  · rintro ⟨skipped, part, rfl, fitting⟩
    exact ⟨part, List.suffix_append skipped part, fitting⟩
  · rintro ⟨part, ⟨skipped, rfl⟩, fitting⟩
    exact ⟨skipped, part, rfl, fitting⟩

theorem fits_anywhere (pattern text : List Char) :
    fits ('%' :: (pattern ++ ['%'])) text = true ↔
      ∃ part, part <:+: text ∧ fits pattern part = true := by
  rw [fits_atEnd]
  simp only [fits_atStart]
  constructor
  · rintro ⟨rest, behind, part, start, fitting⟩
    exact ⟨part, start.isInfix.trans behind.isInfix, fitting⟩
  · rintro ⟨part, ⟨skipped, rest, rfl⟩, fitting⟩
    refine ⟨part ++ rest, ?_, part, List.prefix_append part rest, fitting⟩
    exact ⟨skipped, by simp⟩

/-- A pattern without wildcards fits the text that is spelled like it, and no other. -/
theorem fits_iff_eq {pattern : List Char}
    (plain : ∀ character ∈ pattern, isWildcard character = false) (text : List Char) :
    fits pattern text = true ↔ text = pattern := by
  induction pattern generalizing text with
  | nil => simp
  | cons wanted pattern ih =>
      rw [List.forall_mem_cons] at plain
      have single : wanted ≠ '%' ∧ wanted ≠ '_' := by simpa [isWildcard] using plain.1
      rw [fits_cons single.1]
      simp only [single.2, false_or, ih plain.2]
      constructor
      · rintro ⟨_, _, rfl, rfl, rfl⟩
        rfl
      · rintro rfl
        exact ⟨wanted, pattern, rfl, rfl, rfl⟩

/-- A pattern with each wildcard taken for the same single character. -/
def filled (pattern : List Char) : List Char :=
  pattern.map fun character => if isWildcard character then 'x' else character

theorem fits_filled (pattern : List Char) : fits pattern (filled pattern) = true := by
  induction pattern with
  | nil => rfl
  | cons wanted pattern ih =>
      by_cases percent : wanted = '%'
      · subst percent
        rw [fits_percent]
        exact ⟨['x'], filled pattern, rfl, ih⟩
      · rw [fits_cons percent]
        refine ⟨_, filled pattern, rfl, ?_, ih⟩
        by_cases underscore : wanted = '_'
        · exact .inl underscore
        · right
          simp [isWildcard, percent, underscore]

/-- Filling a pattern changes it, unless it has no wildcard to be filled. -/
theorem filled_eq_iff (pattern : List Char) :
    filled pattern = pattern ↔ ∀ character ∈ pattern, isWildcard character = false := by
  have changed (character : Char) :
      (if isWildcard character then 'x' else character) = character ↔
        isWildcard character = false := by
    by_cases wild : isWildcard character
    · have different : 'x' ≠ character := by
        rintro rfl
        exact absurd wild (by decide)
      simp [wild, different]
    · simp [wild]
  have each := List.map_inj_left (l := pattern) (g := id)
    (f := fun character => if isWildcard character then 'x' else character)
  rw [List.map_id] at each
  rw [filled, each]
  simp only [changed, id_eq]

end Pattern

namespace Predicate

/--
The reading of patterns that a row gives, with a reading of all other predicates. A column without
a value neither fits a pattern nor fails to.
-/
def patternTruth (row : String → Option String) (others : Predicate → Bool) : Predicate → Bool
  | .like column (.text pattern) negated =>
      (row column).any fun text => Pattern.fits pattern.toList text.toList != negated
  | other => others other

end Predicate

end RowQuery
