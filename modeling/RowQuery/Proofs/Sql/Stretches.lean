import RowQuery.Proofs.Sql.Lexing
import RowQuery.Proofs.Sql.Placeholders

/-!
# Counting a text stretch by stretch

This file shows that a quoted name leaves no trace in a count of placeholders: the texts
before and behind it are counted as if each stood alone. The count of a text is put together
from the counts of its stretches, where each is begun with the quote that the one before it
leaves open. A cut between two stretches changes a count in one case only, between a mark
and the digits behind it. A name begins with a quote, so a cut before a name is not such a
cut, and no cut is needed behind it, since the count goes on there as at a fresh start.
-/

namespace RowQuery

namespace Dialect

/--
A text that begins with no digit makes no placeholder of a mark before it, because behind the last
character of a stretch only a digit would count.
-/
theorem startsPlaceholder_append (dialect : Dialect) (character : Char) (first : List Char)
    {rest : List Char} (ended : rest.head?.any Char.isDigit = false) :
    dialect.startsPlaceholder character (first ++ rest) =
      dialect.startsPlaceholder character first := by
  cases dialect with
  | ansi => rfl
  | postgres =>
      cases first with
      | cons digit others => rfl
      | nil =>
          cases rest with
          | nil => rfl
          | cons digit others =>
              have noDigit : digit.isDigit = false := by simpa using ended
              simp [startsPlaceholder, noDigit]

/-- The second of two stretches is counted from the quote that the first leaves open. -/
theorem scan_append (dialect : Dialect) (quote : Option Char) (first : List Char)
    {rest : List Char} (ended : rest.head?.any Char.isDigit = false) :
    dialect.scan quote (first ++ rest) =
      dialect.scan quote first + dialect.scan (openQuote quote first) rest := by
  induction first generalizing quote with
  | nil => cases quote <;> simp [scan, openQuote]
  | cons character others ih =>
      cases quote with
      | some quote =>
          rw [List.cons_append, scan, scan, openQuote]
          by_cases closing : character = quote
          · rw [if_pos closing, if_pos closing, if_pos closing, ih]
          · rw [if_neg closing, if_neg closing, if_neg closing, ih]
      | none =>
          have sameMark := dialect.startsPlaceholder_append character others ended
          rw [List.cons_append, scan, scan, openQuote, sameMark]
          by_cases opening : character = '"' ∨ character = '\''
          · rw [if_pos opening, if_pos opening, if_pos opening, ih]
          · rw [if_neg opening, if_neg opening, if_neg opening, ih]
            split
            · exact Nat.add_right_comm _ _ 1
            · rfl

/-- Behind a name, a text is counted as if nothing stood before it. -/
theorem scan_quotedName (dialect : Dialect) (name : String) (rest : List Char) :
    dialect.scan none (quotedName name ++ rest) = dialect.scan none rest := by
  rw [scan_eq_run, Scanner.run_quotedName, foldr_search_quoted, scan_eq_run]

end Dialect

/-- A written name adds nothing to a count of placeholders, and it is read back whole. -/
theorem quotedName_unseen (name : String) :
    (∀ writer : Writer,
      writer.push [.name name] = { writer with text := writer.text ++ quotedName name }) ∧
    (∀ (dialect : Dialect) (before after : String), openQuote none before.toList = none →
      dialect.countPlaceholders (before ++ String.ofList (quotedName name) ++ after) =
        dialect.countPlaceholders before + dialect.countPlaceholders after) ∧
    ∀ rest : List Char, rest.head? ≠ some '"' →
      quotedName? (quotedName name ++ rest) = some (name, rest) := by
  refine ⟨?_, ?_, ?_⟩
  · intro writer
    simp [Writer.push, Dialect.write]
  · intro dialect before after outside
    have ended : (quotedName name ++ after.toList).head?.any Char.isDigit = false := rfl
    have counted := dialect.scan_append none before.toList ended
    rw [outside, dialect.scan_quotedName] at counted
    simpa [Dialect.countPlaceholders] using counted
  · intro rest closed
    exact quotedName?_append name closed

theorem quotedName_unseen_hostile :
    String.ofList (quotedName "\"\"?$1' OR \"") = "\"\"\"\"\"?$1' OR \"\"\"" ∧
    openQuote none "'\"' = $1 AND $".toList = none ∧
    Dialect.postgres.countPlaceholders
        ("'\"' = $1 AND $" ++ String.ofList (quotedName "\"\"?$1' OR \"") ++ "2 = $2 OR $3") =
      3 ∧
    "'\" = $2".toList.head? ≠ some '"' ∧
    quotedName? (quotedName "\"\"?$1' OR \"" ++ "'\" = $2".toList) =
      some ("\"\"?$1' OR \"", "'\" = $2".toList) := by
  rcases quotedName_unseen "\"\"?$1' OR \"" with ⟨_, counted, whole⟩
  have outside : openQuote none "'\"' = $1 AND $".toList = none := by decide
  have sum := counted .postgres "'\"' = $1 AND $" "2 = $2 OR $3" outside
  have parts : Dialect.postgres.countPlaceholders "'\"' = $1 AND $" +
      Dialect.postgres.countPlaceholders "2 = $2 OR $3" = 3 := by
    decide
  have closed : "'\" = $2".toList.head? ≠ some '"' := by decide
  exact ⟨by decide, outside, sum.trans parts, closed, whole _ closed⟩

end RowQuery
