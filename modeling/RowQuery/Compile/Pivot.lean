import RowQuery.Compile.Error
import RowQuery.Log.Traced
import RowQuery.Request.Basic

/-!
# Pivoting

Every pivot column gives an axis with its distinct values. The points of the product
of the axes are the combinations; each value column is aggregated once for every
combination, over the rows that have the combination's values. The last axis varies
fastest, and if an axis has no values there are no combinations.

The select list and the names of the result columns both go through the combinations
and the value columns in the same order.
-/

namespace RowQuery

/-- A pivot column and its distinct values. -/
structure Axis where
  column : String
  values : List String
  deriving DecidableEq, Repr

/-- A value for each pivot column. -/
structure Combination where
  /-- The columns and their values, in the order of the axes. -/
  pairs : List (String × String)
  deriving DecidableEq, Repr

namespace Combination

/-- The values of a combination, as they begin the names of its columns. -/
def label (combination : Combination) : String :=
  String.intercalate "_" (combination.pairs.map Prod.snd)

/-- The condition that a row has a combination's values. -/
def predicate (combination : Combination) : Predicate :=
  match combination.pairs.map fun (column, value) => Predicate.equalTo column value with
  | [only] => only
  | several => .conj several

/-- The name of a value column's result for a combination. -/
def columnName (combination : Combination) (column : ColumnSpec) : String :=
  combination.label ++ "_" ++ column.field

/-- The aggregate of a value column over the rows of a combination. -/
def selectItem (combination : Combination) (column : ColumnSpec) (function : Aggregate) :
    SelectItem :=
  ⟨.aggregate function (.caseWhen combination.predicate (.column column.field) .null),
    some (combination.columnName column)⟩

end Combination

/-- The axes that a request pivots by. -/
structure Expansion where
  axes : List Axis
  deriving DecidableEq, Repr

/-- The record of a pivot column without values. -/
def missingValuesRecord (column : String) : LogRecord :=
  Event.record .pivotValuesMissing [("column", column)]

/-- The axis of a pivot column. A column without values is recorded. -/
def Axis.resolve (values : PivotValues) (column : ColumnSpec) : Traced CompileError Axis :=
  if column.field.isEmpty then throw (.emptyIdentifier .pivotColumn)
  else
    match (values.get? column.field).getD [] with
    | [] => do
        Traced.log (missingValuesRecord column.field)
        pure ⟨column.field, []⟩
    | found => pure ⟨column.field, found⟩

/-- The points of a product of axes, the last axis varying fastest. -/
def Axis.product : List Axis → List (List (String × String))
  | [] => [[]]
  | axis :: rest =>
      let points := Axis.product rest
      axis.values.flatMap fun value => points.map fun point => (axis.column, value) :: point

/-- The aggregate of a value column that is pivoted. There has to be one. -/
def pivotAggregate (column : ColumnSpec) : Except CompileError Aggregate :=
  match column.aggregateName? with
  | none => .error (.missingAggregate column.field)
  | some name =>
      match Aggregate.ofName? name with
      | none => .error (.unsupportedAggregate column.field name)
      | some function => .ok function

namespace Expansion

/-- The axes of pivot columns, in order. -/
def resolve (columns : List ColumnSpec) (values : PivotValues) :
    Traced CompileError Expansion := do
  let axes ← columns.mapM (Axis.resolve values)
  pure ⟨axes⟩

/-- All combinations; without an axis there are none. -/
def combinations (expansion : Expansion) : List Combination :=
  if expansion.axes.isEmpty then [] else (Axis.product expansion.axes).map Combination.mk

/-- The number of combinations. -/
def combinationCount (expansion : Expansion) : Nat := expansion.combinations.length

/-- The aggregates of all value columns over all combinations. -/
def selectItems (expansion : Expansion) (columns : List ColumnSpec) :
    Except CompileError (List SelectItem) := do
  let functions ← columns.mapM pivotAggregate
  pure (expansion.combinations.flatMap fun combination =>
    (columns.zip functions).map fun (column, function) => combination.selectItem column function)

/-- The names of the result columns of all combinations. -/
def secondaryColumns (expansion : Expansion) (columns : List ColumnSpec) : List String :=
  expansion.combinations.flatMap fun combination => columns.map combination.columnName

end Expansion

end RowQuery
