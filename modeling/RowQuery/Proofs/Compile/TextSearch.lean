import RowQuery.Proofs.Compile.Outcome
import RowQuery.Proofs.Sql.Patterns

/-!
# Looking for a text

Four of the text operators look for the value of a filter within the text of a column. The value
is put into a pattern as it is, so that it is read as a pattern itself. This file shows that what
is looked for are the texts that the value stands for, and not only the value: the two are the
same exactly if the value has no wildcards in it.
-/

namespace RowQuery

namespace TextOperator

/-- The operators that look for a value within a text. -/
def searches : List TextOperator := [.contains, .notContains, .startsWith, .endsWith]

/--
What an operator asks of a text, if it is known which texts are looked for. The operators that
take no value ask nothing about it.
-/
def Asks (found : List Char → Prop) (operator : TextOperator) (text : List Char) : Prop :=
  match operator with
  | .contains => ∃ part, part <:+: text ∧ found part
  | .notContains => ¬ ∃ part, part <:+: text ∧ found part
  | .startsWith => ∃ part, part <+: text ∧ found part
  | .endsWith => ∃ part, part <:+ text ∧ found part
  | .equals => found text
  | .notEqual => ¬ found text
  | _ => True

variable {operator : TextOperator} (search : operator ∈ searches)

include search

/--
Looking for a pattern and for what it stands for differs in the filled pattern, because a part that
is as long as the filled pattern is all of it.
-/
theorem filled_eq_of_asks {pattern : List Char}
    (agree : operator.Asks (fun part => Pattern.fits pattern part = true)
        (Pattern.filled pattern) ↔
      operator.Asks (· = pattern) (Pattern.filled pattern)) :
    Pattern.filled pattern = pattern := by
  have fitting := Pattern.fits_filled pattern
  have whole {part : List Char} (inside : part <:+: Pattern.filled pattern)
      (equal : part = pattern) : Pattern.filled pattern = pattern := by
    have sameLength : part.length = (Pattern.filled pattern).length := by
      rw [equal, Pattern.filled, List.length_map]
    rw [← inside.eq_of_length sameLength, equal]
  simp only [searches, List.mem_cons, List.not_mem_nil, or_false] at search
  rcases search with rfl | rfl | rfl | rfl
  · rcases agree.mp ⟨_, List.infix_rfl, fitting⟩ with ⟨part, inside, equal⟩
    exact whole inside equal
  · by_contra different
    apply agree.mpr _ ⟨_, List.infix_rfl, fitting⟩
    rintro ⟨part, inside, equal⟩
    exact different (whole inside equal)
  · rcases agree.mp ⟨_, List.prefix_rfl, fitting⟩ with ⟨part, start, equal⟩
    exact whole start.isInfix equal
  · rcases agree.mp ⟨_, List.suffix_rfl, fitting⟩ with ⟨part, finish, equal⟩
    exact whole finish.isInfix equal

end TextOperator

namespace Predicate

/-- The predicate holds in a row if the row has a text in the column, and it is one of these. -/
def SelectsTexts (predicate : Predicate) (column : String) (wanted : List Char → Prop) : Prop :=
  ∀ row others, predicate.holds (patternTruth row others) = true ↔
    ∃ text, row column = some text ∧ wanted text.toList

theorem SelectsTexts.agree {predicate : Predicate} {column : String}
    {first second : List Char → Prop} (selectsFirst : predicate.SelectsTexts column first)
    (selectsSecond : predicate.SelectsTexts column second) (text : List Char) :
    first text ↔ second text := by
  have equivalent := (selectsFirst (fun _ => some (String.ofList text)) fun _ => false).symm.trans
    (selectsSecond _ _)
  simpa using equivalent

theorem holds_like (row : String → Option String) (others : Predicate → Bool)
    (column pattern : String) (negated : Bool) :
    (like column (.text pattern) negated).holds (patternTruth row others) = true ↔
      ∃ text, row column = some text ∧
        (Pattern.fits pattern.toList text.toList = true ↔ negated = false) := by
  rw [holds]
  · simp only [patternTruth, Option.any_eq_true]
    cases negated <;> simp
  · simp

end Predicate

/-- The condition of an operator that looks for a value holds of the texts that it asks for. -/
theorem TextOperator.selectsTexts {operator : TextOperator} {column value : String}
    {predicate : Predicate} (search : operator ∈ searches)
    (stands : operator.predicate? column value = some predicate) :
    predicate.SelectsTexts column
      (operator.Asks fun part => Pattern.fits value.toList part = true) := by
  intro row others
  have anywhere : ("%" ++ value ++ "%").toList = '%' :: (value.toList ++ ['%']) := by
    simp [String.toList_append]
  have atStart : (value ++ "%").toList = value.toList ++ ['%'] := by
    simp [String.toList_append]
  have atEnd : ("%" ++ value).toList = '%' :: value.toList := by
    simp [String.toList_append]
  simp only [searches, List.mem_cons, List.not_mem_nil, or_false] at search
  rcases search with rfl | rfl | rfl | rfl <;> cases stands <;> rw [Predicate.holds_like]
  · simp only [anywhere, Pattern.fits_anywhere, iff_true, Asks]
  · simp only [anywhere, Pattern.fits_anywhere, Bool.true_eq_false, iff_false, Asks]
  · simp only [atStart, Pattern.fits_atStart, iff_true, Asks]
  · simp only [atEnd, Pattern.fits_atEnd, iff_true, Asks]

namespace Filter

theorem compile_of_predicate? {operator : TextOperator} {column value : String}
    {predicate : Predicate} (policy : OperatorPolicy)
    (stands : operator.predicate? column value = some predicate) :
    (Filter.text operator (some value)).compile policy column =
      if column = "" then throw (.emptyIdentifier .filterColumn) else pure (some predicate) := by
  have compiled : compileText policy column operator (some value) = pure (some predicate) := by
    cases operator <;> cases stands <;> rfl
  simp only [compile, compiled, String.isEmpty_iff]

/--
A filter with an operator that looks for its value selects the texts with a part, a beginning or
an end that its value stands for as a pattern. These are the texts with the value itself there
exactly if the value has no wildcards.
-/
theorem text_search (policy : OperatorPolicy) (column value : String) (operator : TextOperator)
    (search : operator ∈ TextOperator.searches) :
    ∃ predicate : Predicate,
      (Filter.text operator (some value)).compile policy column =
          (if column = "" then throw (.emptyIdentifier .filterColumn)
            else pure (some predicate)) ∧
        predicate.SelectsTexts column
          (operator.Asks fun part => Pattern.fits value.toList part = true) ∧
        (predicate.SelectsTexts column (operator.Asks (· = value.toList)) ↔
          ∀ character ∈ value.toList, Pattern.isWildcard character = false) := by
  have stands : ∃ predicate, operator.predicate? column value = some predicate := by
    simp only [TextOperator.searches, List.mem_cons, List.not_mem_nil, or_false] at search
    rcases search with rfl | rfl | rfl | rfl <;> exact ⟨_, rfl⟩
  rcases stands with ⟨predicate, stands⟩
  have selects := TextOperator.selectsTexts search stands
  refine ⟨predicate, compile_of_predicate? policy stands, selects, ?_, ?_⟩
  · intro literally
    rw [← Pattern.filled_eq_iff]
    exact TextOperator.filled_eq_of_asks search (selects.agree literally _)
  · intro plain
    have same : (fun part => Pattern.fits value.toList part = true) = (· = value.toList) := by
      funext part
      rw [Pattern.fits_iff_eq plain]
    rwa [same] at selects

theorem text_search_startsWith :
    TextOperator.startsWith ∈ TextOperator.searches ∧
      ∃ predicate : Predicate,
        (Filter.text .startsWith (some "a.b")).compile .reject "name" = pure (some predicate) ∧
          predicate.SelectsTexts "name" (TextOperator.startsWith.Asks (· = "a.b".toList)) := by
  refine ⟨by decide, ?_⟩
  rcases text_search .reject "name" "a.b" .startsWith (by decide) with
    ⟨predicate, compiled, _, literally⟩
  have plain : ∀ character ∈ "a.b".toList, Pattern.isWildcard character = false := by
    simp [Pattern.isWildcard]
  exact ⟨predicate, by simpa using compiled, literally.mpr plain⟩

/-- A value that is a wildcard is found in every text, also where it does not occur. -/
theorem text_search_wildcard :
    ∃ predicate : Predicate,
      (Filter.text .contains (some "%")).compile .ignore "name" = pure (some predicate) ∧
        predicate.holds (Predicate.patternTruth (fun _ => some "a") fun _ => false) = true ∧
        ¬ "%".toList <:+: "a".toList := by
  refine ⟨.like "name" (.text "%%%") false, rfl, by decide, ?_⟩
  intro inside
  have wildcardMem : '%' ∈ "a".toList := inside.subset (List.mem_singleton_self '%')
  exact absurd wildcardMem (by decide)

end Filter

end RowQuery
