import RowQuery.Sql.Render

/-!
# Counting placeholders

The placeholders of a statement can be counted again in its text. The scanner knows
nothing of statements: it passes over quoted runs, be they names or literals, and
counts the places outside them where a placeholder of the dialect starts. A quote
written twice ends a run and starts the next one, so nothing is counted between.
-/

namespace RowQuery

namespace Dialect

/-- Whether a placeholder of a dialect starts with a character, given what follows it. -/
def startsPlaceholder : Dialect → Char → List Char → Bool
  | .ansi, character, _ => character = '?'
  | .postgres, character, digit :: _ => character = '$' && digit.isDigit
  | .postgres, _, [] => false

/-- Counts placeholders, inside a run that ends at the given quote or outside of runs. -/
def scan (dialect : Dialect) : Option Char → List Char → Nat
  | _, [] => 0
  | some quote, character :: rest =>
      if character = quote then dialect.scan none rest else dialect.scan (some quote) rest
  | none, character :: rest =>
      if character = '"' ∨ character = '\'' then dialect.scan (some character) rest
      else if dialect.startsPlaceholder character rest then dialect.scan none rest + 1
      else dialect.scan none rest

/-- The number of placeholders in a text. -/
def countPlaceholders (dialect : Dialect) (sql : String) : Nat := dialect.scan none sql.toList

end Dialect

namespace Query

/-- The number of placeholders in a query's text. -/
def placeholderCount (query : Query) (dialect : Dialect) : Nat :=
  dialect.countPlaceholders query.sql

/-- Whether a query has as many placeholders as values. -/
def isAligned (query : Query) (dialect : Dialect) : Bool :=
  query.placeholderCount dialect = query.binds.length

end Query

end RowQuery
