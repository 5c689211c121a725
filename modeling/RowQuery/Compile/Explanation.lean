import RowQuery.Compile.Context
import RowQuery.Sql.Placeholder

/-!
# Compiling and explaining

`RowsRequest.compile` gives the query of a request, `RowsRequest.explain` a summary of
how it was compiled. Both do the same work, and both log its beginning and its end
around whatever the work itself logs.
-/

namespace RowQuery

/-- A summary of how a request was compiled. -/
structure Explanation where
  mode : CompileMode
  dialect : Dialect
  activeRowGroups : List String
  drillDepth : Nat
  pivotCombinations : Nat
  placeholderCount : Nat
  bindCount : Nat
  sql : String
  deriving DecidableEq, Repr

namespace Explanation

/-- The explanation of a query, from what it was compiled from. -/
def ofQuery (context : Context) (query : Query) (dialect : Dialect) : Explanation where
  mode := context.mode
  dialect := dialect
  activeRowGroups := context.drill.activeGroups
  drillDepth := context.drill.depth
  pivotCombinations :=
    match context.pivot with
    | none => 0
    | some expansion => expansion.combinationCount
  placeholderCount := query.placeholderCount dialect
  bindCount := query.binds.length
  sql := query.sql

/-- The lines about groups; there are none without groups. -/
def groupLines (explanation : Explanation) : List String :=
  if explanation.activeRowGroups.isEmpty then []
  else
    ["Row Groups: " ++ String.intercalate ", " explanation.activeRowGroups,
      "Drill Depth: " ++ natText explanation.drillDepth]

/-- The line about pivoting; there is none in the other modes. -/
def pivotLines (explanation : Explanation) : List String :=
  if explanation.mode = .pivot then
    ["Pivot Combinations: " ++ natText explanation.pivotCombinations]
  else []

/-- An explanation as lines of text. -/
def lines (explanation : Explanation) : List String :=
  ["=== COMPILE EXPLAIN ===", "Mode: " ++ explanation.mode.name,
    "Dialect: " ++ explanation.dialect.name] ++
  explanation.groupLines ++ explanation.pivotLines ++
  ["Placeholders: " ++ natText explanation.placeholderCount ++ " (" ++
      natText explanation.bindCount ++ " binds)",
    "SQL: " ++ explanation.sql]

/-- A summary as text, every line with its end. -/
def text (explanation : Explanation) : String :=
  String.join (explanation.lines.map (· ++ "\n"))

end Explanation

/-- The record of the beginning of a compile. -/
def startRecord (table : String) (request : RowsRequest) : LogRecord :=
  Event.record .compileStart [("table", table), ("start_row", intText request.startRow.toInt),
    ("end_row", intText request.endRow.toInt)]

/-- The record of a compile that gave a statement. -/
def completeRecord (table : String) (mode : CompileMode) : LogRecord :=
  Event.record .compileComplete [("table", table), ("mode", mode.name)]

/-- The record of a compile that refused its request. -/
def rejectedRecord (table : String) (error : CompileError) : LogRecord :=
  Event.record .compileRejected
    [("table", table), ("code", error.code), ("message", error.message)]

/-- Work on a request between the records of its beginning and its end. -/
def Traced.logged {α : Type} (table : String) (request : RowsRequest)
    (work : Traced CompileError (α × CompileMode)) : Traced CompileError α :=
  match work.result with
  | .ok (value, mode) =>
      ⟨startRecord table request :: work.records ++ [completeRecord table mode], .ok value⟩
  | .error error =>
      ⟨startRecord table request :: work.records ++ [rejectedRecord table error], .error error⟩

namespace RowsRequest

/-- A checked request together with its query. -/
def compileContext (request : RowsRequest) (config : Config) (table : String)
    (values : PivotValues) : Traced CompileError (Context × Query) := do
  let context ← Context.resolve config table request values
  let statement ← context.statement
  pure (context, statement.render config.dialect)

/-- Compiles a request to a query, with a record of the beginning and one of the end. -/
def compile (request : RowsRequest) (config : Config) (table : String)
    (values : PivotValues) : Traced CompileError Query :=
  Traced.logged table request do
    let (context, query) ← request.compileContext config table values
    pure (query, context.mode)

/-- Compiles a request and says what was compiled. -/
def explain (request : RowsRequest) (config : Config) (table : String)
    (values : PivotValues) : Traced CompileError Explanation :=
  Traced.logged table request do
    let (context, query) ← request.compileContext config table values
    pure (Explanation.ofQuery context query config.dialect, context.mode)

end RowsRequest

end RowQuery
