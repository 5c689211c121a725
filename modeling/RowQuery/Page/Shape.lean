import RowQuery.Compile.Pivot
import RowQuery.Config
import RowQuery.Page.Basic

/-!
# Shaping pages

The rows that a database returned are sent to the grid with the end of the result and,
if pivoting is on, with the names of the columns it added. These names come from the
combinations that the compiler selects by. A configuration may ask for the query to be
sent along, and for the error of a page that failed.
-/

namespace RowQuery

/-- The query that is sent along with a page. -/
def Config.provenance (config : Config) (query : Option Query) : Option Query :=
  if config.includeSql then query else none

/-- The record of a page that was shaped. -/
def shapedRecord (page : RowsPage) : LogRecord :=
  Event.record .responseShaped
    [("rows", natText page.rows.length), ("last_row", intText page.lastRow.toInt)]

namespace RowsRequest

/-- The names of the columns that pivoting adds to a request's result. -/
def secondaryColumns (request : RowsRequest) (values : PivotValues) :
    Traced CompileError (Option (List String)) :=
  if request.pivotMode then do
    let expansion ← Expansion.resolve request.pivotColumns values
    pure (some (expansion.secondaryColumns request.valueColumns))
  else pure none

/-- The page of the rows that were returned for a request. -/
def shape (request : RowsRequest) (config : Config) (rows : List Row) (values : PivotValues)
    (query : Option Query) : Traced CompileError RowsPage := do
  let columns ← request.secondaryColumns values
  let page : RowsPage := {
    rows := rows
    lastRow := lastRow request.startRow request.endRow rows.length
    secondaryColumns := columns
    fromSql := config.provenance query
    uxReportableError := none }
  Traced.log (shapedRecord page)
  pure page

end RowsRequest

/-- The page that is sent when there are no rows because of an error. -/
def Config.shapeError (config : Config) (error : String) (query : Option Query) : RowsPage where
  rows := []
  lastRow := RowsPage.unknownLastRow
  secondaryColumns := none
  fromSql := config.provenance query
  uxReportableError := if config.includeError then some error else none

end RowQuery
