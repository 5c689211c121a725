import RowQuery.Compile.Drill
import RowQuery.Compile.Filter
import RowQuery.Compile.Pivot

/-!
# Compiling a request to a statement

A request is checked first: the window of rows, the size of the page, the table, the
names of value and sort columns, the drill path, the pivot columns, in this order. What
the checks find out is a `Context`, and the clauses of the statement are read off it.

The page size is computed in machine words. For a window that passed its check the
difference is not negative, so the size is exact; a configured limit that fits a row
number keeps the size within the range of row numbers.
-/

namespace RowQuery

/-- What kind of statement a request compiles to. -/
inductive CompileMode where
  /-- Rows as they are. -/
  | flat
  /-- Rows in groups. -/
  | grouped
  /-- Rows in groups, with values of pivot columns as columns. -/
  | pivot
  deriving DecidableEq, Repr

/-- The word for a kind of statement. -/
def CompileMode.name : CompileMode → String
  | .flat => "flat"
  | .grouped => "grouped"
  | .pivot => "pivot"

/-- What is known about a request once it has been checked. -/
structure Context where
  request : RowsRequest
  source : Table
  drill : DrillPath
  /-- The axes, if the request pivots. -/
  pivot : Option Expansion
  policy : OperatorPolicy
  /-- The number of rows of the page. -/
  pageSize : Int64
  deriving DecidableEq, Repr

namespace Context

/-- The number of rows of a request's page, if its window is in order and not too large. -/
def checkWindow (config : Config) (request : RowsRequest) : Except CompileError UInt64 :=
  if request.startRow < 0 ∨ request.endRow < request.startRow then
    .error (.invalidWindow request.startRow request.endRow)
  else
    let size := (request.endRow - request.startRow).toUInt64 + 1
    if config.maxPageSize < size then .error (.pageTooLarge size config.maxPageSize)
    else .ok size

/-- The table that a name stands for. No part of the name may be empty. -/
def checkTable (table : String) : Except CompileError Table :=
  match Table.ofQualified? table with
  | some source => .ok source
  | none => .error (.emptyIdentifier .tableName)

/-- Refuses value columns and sort entries without a column name. -/
def checkColumns (request : RowsRequest) : Except CompileError Unit :=
  if request.valueColumns.any fun column => column.field.isEmpty then
    .error (.emptyIdentifier .valueColumn)
  else if request.sort.any fun spec => spec.column.isEmpty then
    .error (.emptyIdentifier .sortColumn)
  else .ok ()

/-- The axes of a request, if it pivots. -/
def resolvePivot (request : RowsRequest) (values : PivotValues) :
    Traced CompileError (Option Expansion) :=
  if request.pivots then some <$> Expansion.resolve request.pivotColumns values else pure none

/--
Checks a request part by part and keeps what a statement is made from. The first fault counts.
-/
def resolve (config : Config) (table : String) (request : RowsRequest)
    (values : PivotValues) : Traced CompileError Context := do
  let size ← checkWindow config request
  let source ← checkTable table
  checkColumns request
  let drill ← DrillPath.resolve request
  let pivot ← resolvePivot request values
  pure ⟨request, source, drill, pivot, config.unknownOperator, size.toInt64⟩

/-- What kind of statement a request compiles to. -/
def mode (context : Context) : CompileMode :=
  if context.pivot.isSome then .pivot
  else if context.drill.isGrouping then .grouped
  else .flat

/-- A value column that is not pivoted: as it is, or its aggregate under its own name. -/
def valueItem (column : ColumnSpec) : Except CompileError SelectItem :=
  match column.aggregateName? with
  | none => .ok (.column column.field)
  | some name =>
      match Aggregate.ofName? name with
      | none => .error (.unsupportedAggregate column.field name)
      | some function => .ok ⟨.aggregate function (.column column.field), some column.field⟩

/--
What is selected: the groups of this level and then the value columns, aggregated over
all combinations if the request pivots. A request that pivots without grouping selects
its pivot columns as they are.
-/
def selectItems (context : Context) : Except CompileError (List SelectItem) :=
  let groups := context.drill.activeGroups.map SelectItem.column
  match context.pivot with
  | none => do
      let values ← context.request.valueColumns.mapM valueItem
      pure (groups ++ values)
  | some expansion =>
      if groups.isEmpty then
        .ok (context.request.pivotColumns.map fun column => .column column.field)
      else do
        let values ← expansion.selectItems context.request.valueColumns
        pure (groups ++ values)

/-- The condition on rows: the opened groups, and then the filters. -/
def condition (context : Context) : Traced CompileError (Option Predicate) := do
  let filters ← Filter.compileEach context.policy context.request.filters.entries
  pure (Predicate.all? (context.drill.predicates ++ filters))

/-- The statement of a checked request. -/
def statement (context : Context) : Traced CompileError Statement := do
  let items ← context.selectItems
  let condition ← context.condition
  pure {
    items := items
    source := context.source
    condition := condition
    groupBy := context.drill.activeGroups
    orderBy := context.drill.orderItems context.request.sort
    offset := .ofInt64 context.request.startRow
    fetch := .ofInt64 context.pageSize }

end Context

end RowQuery
