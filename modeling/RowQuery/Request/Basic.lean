import RowQuery.Collection.OrderedMap
import RowQuery.Request.Filter
import RowQuery.Sql.Syntax

/-!
# Row requests

A grid asks for one page of rows at a time. A `RowsRequest` says which page, which
columns are grouped, aggregated and pivoted, how far the groups have been opened, and
how rows are filtered and sorted. Row numbers are machine words of 64 bits; both ends
of a page belong to it.
-/

namespace RowQuery

/-- A column that is grouped by, aggregated or pivoted by. -/
structure ColumnSpec where
  /-- The grid's own name for the column. -/
  id : Option String
  /-- The title over the column. -/
  displayName : Option String
  field : String
  /-- The aggregate function as the grid names it. -/
  aggregate : Option String
  deriving DecidableEq, Repr

namespace ColumnSpec

/-- A column of the table with an optional aggregate. -/
def ofField (field : String) (aggregate : Option String) : ColumnSpec :=
  ⟨none, none, field, aggregate⟩

/-- The name of the aggregate function; an empty name is none. -/
def aggregateName? (column : ColumnSpec) : Option String :=
  column.aggregate.filter fun name => !name.isEmpty

end ColumnSpec

/-- A column that is sorted by. -/
structure SortSpec where
  column : String
  direction : SortDirection
  deriving DecidableEq, Repr

/-- The distinct values of each pivot column. -/
abbrev PivotValues := OrderedMap (List String)

/-- The filters of a request by column. -/
abbrev FilterMap := OrderedMap Filter

/-- A request for one page of rows. -/
structure RowsRequest where
  /-- The first row of the page. -/
  startRow : Int64
  /-- The last row of the page. -/
  endRow : Int64
  rowGroups : List ColumnSpec
  /-- The columns that are shown or aggregated. -/
  valueColumns : List ColumnSpec
  /-- The columns whose values become columns of the result. -/
  pivotColumns : List ColumnSpec
  pivotMode : Bool
  /-- The groups that have been opened, outermost first. -/
  groupKeys : List String
  filters : FilterMap
  sort : List SortSpec
  deriving DecidableEq, Repr

namespace RowsRequest

/-- A request for a page, with nothing else asked for. -/
def new (startRow endRow : Int64) : RowsRequest :=
  ⟨startRow, endRow, [], [], [], false, [], .empty, []⟩

/-- A request that groups by one column more, behind the others. -/
def addRowGroup (request : RowsRequest) (column : ColumnSpec) : RowsRequest :=
  { request with rowGroups := request.rowGroups ++ [column] }

/-- A request with one value column more, behind the others. -/
def addValue (request : RowsRequest) (column : ColumnSpec) : RowsRequest :=
  { request with valueColumns := request.valueColumns ++ [column] }

/-- Pivots by a further column, and switches pivoting on. -/
def addPivot (request : RowsRequest) (column : ColumnSpec) : RowsRequest :=
  { request with pivotColumns := request.pivotColumns ++ [column], pivotMode := true }

/-- A request with one group more opened. -/
def addGroupKey (request : RowsRequest) (key : String) : RowsRequest :=
  { request with groupKeys := request.groupKeys ++ [key] }

/-- Filters a column, replacing its filter if it has one. -/
def setFilter (request : RowsRequest) (column : String) (filter : Filter) : RowsRequest :=
  { request with filters := request.filters.insert column filter }

/-- A request with one sort entry more, behind the others. -/
def addSort (request : RowsRequest) (spec : SortSpec) : RowsRequest :=
  { request with sort := request.sort ++ [spec] }

/-- The number of rows of the page, held within the range of row numbers. -/
def pageSize (request : RowsRequest) : Int64 :=
  let distance := Int64.ofIntClamp (request.endRow.toInt - request.startRow.toInt)
  Int64.ofIntClamp (distance.toInt + 1)

/-- Whether pivoting is switched on and there is something to pivot by. -/
def pivots (request : RowsRequest) : Bool :=
  request.pivotMode && !request.pivotColumns.isEmpty

theorem pivots_iff (request : RowsRequest) :
    request.pivots = true ↔ request.pivotMode = true ∧ request.pivotColumns ≠ [] := by
  simp [pivots]

end RowsRequest

end RowQuery
