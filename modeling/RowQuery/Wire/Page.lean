import RowQuery.Page.Basic
import RowQuery.Wire.Query

/-!
# Pages in documents

Rows are sent as they are. The other parts of a page are left out when there is
nothing in them.
-/

namespace RowQuery

namespace Row

/-- Reads a row, whose columns keep their order. -/
def decode : Decoder Row := Decoder.orderedMap Decoder.json

/-- A row as it is sent. -/
def json (row : Row) : Json := .object row.entries

end Row

/-- The fields of a page. -/
inductive PageField where
  | rows
  | lastRow
  | secondaryColumns
  | fromSql
  | uxReportableError
  deriving DecidableEq, Repr

namespace RowsPage

/-- How pages are sent. -/
def format : RecordFormat PageField where
  Content
    | .rows => List Row
    | .lastRow => Int64
    | .secondaryColumns => Option (List String)
    | .fromSql => Option Query
    | .uxReportableError => Option String
  fields := [.rows, .lastRow, .secondaryColumns, .fromSql, .uxReportableError]
  name
    | .rows => "rows"
    | .lastRow => "lastRow"
    | .secondaryColumns => "secondaryColumns"
    | .fromSql => "fromSql"
    | .uxReportableError => "uxReportableError"
  aliases _ := []
  required field := field = .rows || field = .lastRow
  closed := false
  surplus := .malformed
  content
    | .rows => Decoder.list Row.decode
    | .lastRow => Decoder.int64
    | .secondaryColumns => Decoder.optional (Decoder.list Decoder.text)
    | .fromSql => Decoder.optional Query.decode
    | .uxReportableError => Decoder.optional Decoder.text

/-- Reads a page. What may be missing of it is then none. -/
def decode : Decoder RowsPage :=
  format.decode fun slots => do
    let rows ← format.require slots .rows
    let lastRow ← format.require slots .lastRow
    pure ⟨rows, lastRow, (slots .secondaryColumns).getD none, (slots .fromSql).getD none,
      (slots .uxReportableError).getD none⟩

/-- A page as it is sent, without the fields that it does not have. -/
def json (page : RowsPage) : Json :=
  .object ([("rows", .list (page.rows.map Row.json)), ("lastRow", .ofInt page.lastRow.toInt)] ++
    Json.optional "secondaryColumns" (page.secondaryColumns.map Json.ofTexts) ++
    Json.optional "fromSql" (page.fromSql.map Query.json) ++
    Json.optional "uxReportableError" (page.uxReportableError.map .text))

end RowsPage

end RowQuery
