import RowQuery.Compile.Explanation
import RowQuery.Wire.Config

/-!
# Queries and explanations in documents

The values of a query are numbers and texts; nothing else can be a value. An
explanation is sent with all of its fields.
-/

namespace RowQuery

namespace Bind

/-- Reads a value of a query: a number or a text. -/
def decode : Decoder Bind := fun room document =>
  if (document.json? room).isSome then
    match document with
    | .number (some value) => .ok (.number value)
    | .text (some content) => .ok (.text content)
    | _ => .error (.noVariant "BindValue")
  else .error .malformed

/-- A value of a query as it is sent. -/
def json : Bind → Json
  | .number value => .number value
  | .text content => .text content

end Bind

/-- The fields of a query. -/
inductive QueryField where
  | sql
  | binds
  deriving DecidableEq, Repr

namespace Query

/-- How queries are sent. -/
def format : RecordFormat QueryField where
  Content
    | .sql => String
    | .binds => List Bind
  fields := [.sql, .binds]
  name
    | .sql => "sql"
    | .binds => "binds"
  aliases _ := []
  required _ := true
  closed := false
  surplus := .malformed
  content
    | .sql => Decoder.text
    | .binds => Decoder.list Bind.decode

/-- Reads a query. -/
def decode : Decoder Query :=
  format.decode fun slots => do
    let sql ← format.require slots .sql
    let binds ← format.require slots .binds
    pure ⟨sql, binds⟩

/-- A query as it is sent. -/
def json (query : Query) : Json :=
  .object [("sql", .text query.sql), ("binds", .list (query.binds.map Bind.json))]

end Query

/-- The kinds of statements by their names. -/
def CompileMode.known : List (String × CompileMode) :=
  [("flat", .flat), ("grouped", .grouped), ("pivot", .pivot)]

/-- The fields of an explanation. -/
inductive ExplanationField where
  | mode
  | dialect
  | activeRowGroups
  | drillDepth
  | pivotCombinations
  | placeholderCount
  | bindCount
  | sql
  deriving DecidableEq, Repr

namespace Explanation

/-- How explanations are sent. -/
def format : RecordFormat ExplanationField where
  Content
    | .mode => CompileMode
    | .dialect => Dialect
    | .activeRowGroups => List String
    | .drillDepth => Nat
    | .pivotCombinations => Nat
    | .placeholderCount => Nat
    | .bindCount => Nat
    | .sql => String
  fields := [.mode, .dialect, .activeRowGroups, .drillDepth, .pivotCombinations,
    .placeholderCount, .bindCount, .sql]
  name
    | .mode => "mode"
    | .dialect => "dialect"
    | .activeRowGroups => "active_row_groups"
    | .drillDepth => "drill_depth"
    | .pivotCombinations => "pivot_combinations"
    | .placeholderCount => "placeholder_count"
    | .bindCount => "bind_count"
    | .sql => "sql"
  aliases _ := []
  required _ := true
  closed := false
  surplus := .malformed
  content
    | .mode => Decoder.enumeration CompileMode.known
    | .dialect => Decoder.enumeration Dialect.known
    | .activeRowGroups => Decoder.list Decoder.text
    | .drillDepth => Decoder.nat64
    | .pivotCombinations => Decoder.nat64
    | .placeholderCount => Decoder.nat64
    | .bindCount => Decoder.nat64
    | .sql => Decoder.text

/-- Reads an explanation. -/
def decode : Decoder Explanation :=
  format.decode fun slots => do
    let mode ← format.require slots .mode
    let dialect ← format.require slots .dialect
    let activeRowGroups ← format.require slots .activeRowGroups
    let drillDepth ← format.require slots .drillDepth
    let pivotCombinations ← format.require slots .pivotCombinations
    let placeholderCount ← format.require slots .placeholderCount
    let bindCount ← format.require slots .bindCount
    let sql ← format.require slots .sql
    pure ⟨mode, dialect, activeRowGroups, drillDepth, pivotCombinations, placeholderCount,
      bindCount, sql⟩

/-- An explanation as it is sent. -/
def json (explanation : Explanation) : Json :=
  .object [
    ("mode", .text explanation.mode.name),
    ("dialect", .text explanation.dialect.name),
    ("active_row_groups", Json.ofTexts explanation.activeRowGroups),
    ("drill_depth", .ofNat explanation.drillDepth),
    ("pivot_combinations", .ofNat explanation.pivotCombinations),
    ("placeholder_count", .ofNat explanation.placeholderCount),
    ("bind_count", .ofNat explanation.bindCount),
    ("sql", .text explanation.sql)]

end Explanation

end RowQuery
