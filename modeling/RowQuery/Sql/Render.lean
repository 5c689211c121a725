import RowQuery.Sql.Dialect

/-!
# Rendering

A `Writer` collects the text of statements and the list of their values side by side.
Since both come from the same tokens, the n-th placeholder of the text belongs to the
n-th value of the list.
-/

namespace RowQuery

/-- A statement as text, and its values in the order of their placeholders. -/
structure Query where
  sql : String
  binds : List Bind
  deriving DecidableEq, Repr

/-- The text that has been written for a dialect, and its values. -/
structure Writer where
  dialect : Dialect
  text : List Char
  binds : List Bind
  deriving DecidableEq, Repr

namespace Writer

/-- A writer that has written nothing. -/
def new (dialect : Dialect) : Writer := ⟨dialect, [], []⟩

/-- Writes tokens behind what has been written. -/
def push (writer : Writer) (tokens : List Token) : Writer :=
  { writer with
    text := writer.text ++ writer.dialect.write writer.binds.length tokens
    binds := writer.binds ++ Token.binds tokens }

/-- Writes a statement behind what has been written. -/
def pushStatement (writer : Writer) (statement : Statement) : Writer :=
  writer.push statement.tokens

/-- What has been written. -/
def finish (writer : Writer) : Query := ⟨String.ofList writer.text, writer.binds⟩

@[simp]
theorem push_push (writer : Writer) (first second : List Token) :
    (writer.push first).push second = writer.push (first ++ second) := by
  simp [push, Dialect.write_append, Token.binds_append]

end Writer

/-- The query of a statement by itself. -/
def Statement.render (statement : Statement) (dialect : Dialect) : Query :=
  ((Writer.new dialect).pushStatement statement).finish

end RowQuery
