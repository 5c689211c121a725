import RowQuery.Compile.Error
import RowQuery.Request.Basic

/-!
# Drilling down

A grouped grid is opened one level at a time. With so many groups opened, the rows are
restricted to the groups chosen so far and grouped by one column more, as long as
there is one.
-/

namespace RowQuery

/-- The columns that rows are grouped by, and the groups that have been opened. -/
structure DrillPath where
  /-- The columns, outermost first. -/
  rowGroups : List String
  /-- The chosen group of each opened level. -/
  groupKeys : List String
  /-- No more levels are opened than there are. -/
  length_le : groupKeys.length ≤ rowGroups.length
  deriving DecidableEq, Repr

namespace DrillPath

/-- The path of a request, if its groups are named and its keys are not too many. -/
def resolve (request : RowsRequest) : Except CompileError DrillPath :=
  let rowGroups := request.rowGroups.map ColumnSpec.field
  if rowGroups.any String.isEmpty then .error (.emptyIdentifier .rowGroupColumn)
  else if fits : request.groupKeys.length ≤ rowGroups.length then
    .ok ⟨rowGroups, request.groupKeys, fits⟩
  else .error (.tooManyGroupKeys request.groupKeys.length rowGroups.length)

/-- The number of opened levels. -/
def depth (drill : DrillPath) : Nat := drill.groupKeys.length

/-- Whether a request groups its rows at all. -/
def isGrouping (drill : DrillPath) : Bool := !drill.rowGroups.isEmpty

/-- The columns that rows are grouped by at this level. -/
def activeGroups (drill : DrillPath) : List String := drill.rowGroups.take (drill.depth + 1)

/-- The restriction of rows to the opened groups. -/
def predicates (drill : DrillPath) : List Predicate :=
  (drill.rowGroups.zip drill.groupKeys).map fun (column, key) => .equalTo column key

/--
The columns that rows are sorted by at this level. While rows are grouped, only group
columns count, and of them one for each level that can be seen.
-/
def orderItems (drill : DrillPath) (sort : List SortSpec) : List OrderItem :=
  let relevant :=
    if drill.isGrouping then
      (sort.filter fun spec => drill.rowGroups.contains spec.column).take (drill.depth + 1)
    else sort
  relevant.map fun spec => ⟨spec.column, spec.direction⟩

end DrillPath

end RowQuery
