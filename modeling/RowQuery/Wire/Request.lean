import RowQuery.Request.Basic
import RowQuery.Wire.Record

/-!
# Requests in documents

Columns, sort entries, filters and requests as they are sent. The kind of a filter is
one of its own members and may stand anywhere among them, so a filter is read whole
before its fields are; it must be readable throughout, even where it is not used.
-/

namespace RowQuery

/-- The fields of a column. -/
inductive ColumnField where
  | id
  | displayName
  | field
  | aggregate
  deriving DecidableEq, Repr

namespace ColumnSpec

/-- How columns are sent. -/
def format : RecordFormat ColumnField where
  Content
    | .id => Option String
    | .displayName => Option String
    | .field => String
    | .aggregate => Option String
  fields := [.id, .displayName, .field, .aggregate]
  name
    | .id => "id"
    | .displayName => "displayName"
    | .field => "field"
    | .aggregate => "aggFunc"
  aliases _ := []
  required which := which = .field
  closed := false
  surplus := .malformed
  content
    | .id => Decoder.optional Decoder.text
    | .displayName => Decoder.optional Decoder.text
    | .field => Decoder.text
    | .aggregate => Decoder.optional Decoder.text

/-- Reads a column. Only its field is needed. -/
def decode : Decoder ColumnSpec :=
  format.decode fun slots => do
    let field ← format.require slots .field
    pure ⟨(slots .id).getD none, (slots .displayName).getD none, field,
      (slots .aggregate).getD none⟩

/-- A column as it is sent, without the fields that it does not have. -/
def json (column : ColumnSpec) : Json :=
  .object (Json.optional "id" (column.id.map .text) ++
    Json.optional "displayName" (column.displayName.map .text) ++
    [("field", .text column.field)] ++
    Json.optional "aggFunc" (column.aggregate.map .text))

end ColumnSpec

/-- The fields of a sort entry. -/
inductive SortField where
  | column
  | direction
  deriving DecidableEq, Repr

namespace SortSpec

/-- How sort entries are sent. -/
def format : RecordFormat SortField where
  Content
    | .column => String
    | .direction => SortDirection
  fields := [.column, .direction]
  name
    | .column => "colId"
    | .direction => "sort"
  aliases _ := []
  required _ := true
  closed := false
  surplus := .malformed
  content
    | .column => Decoder.text
    | .direction => Decoder.text.map SortDirection.ofText

/-- Reads a sort entry. -/
def decode : Decoder SortSpec :=
  format.decode fun slots => do
    let column ← format.require slots .column
    let direction ← format.require slots .direction
    pure ⟨column, direction⟩

/-- A sort entry as it is sent. -/
def json (spec : SortSpec) : Json :=
  .object [("colId", .text spec.column), ("sort", .text spec.direction.name)]

end SortSpec

/-- The kinds of filters. -/
inductive FilterKind where
  | text
  | number
  | set
  deriving DecidableEq, Repr

/-- The kinds of filters by their names. -/
def FilterKind.known : List (String × FilterKind) :=
  [("text", .text), ("number", .number), ("set", .set)]

/-- The fields of a text filter, apart from its kind. -/
inductive TextFilterField where
  | operator
  | value
  deriving DecidableEq, Repr

/-- The fields of a number filter, apart from its kind. -/
inductive NumberFilterField where
  | operator
  | value
  | upper
  deriving DecidableEq, Repr

/-- The fields of a set filter, apart from its kind. -/
inductive SetFilterField where
  | values
  deriving DecidableEq, Repr

namespace Filter

/-- The member that names the kind of a filter. -/
def kindName : String := "filterType"

/-- How text filters are sent, apart from their kind. -/
def textFormat : RecordFormat TextFilterField where
  Content
    | .operator => TextOperator
    | .value => Option String
  fields := [.operator, .value]
  name
    | .operator => "type"
    | .value => "filter"
  aliases _ := []
  required field := field = .operator
  closed := false
  surplus := .wrongLength
  content
    | .operator => Decoder.text.map TextOperator.ofName
    | .value => Decoder.optional Decoder.text

/-- How number filters are sent, apart from their kind. -/
def numberFormat : RecordFormat NumberFilterField where
  Content
    | .operator => NumberOperator
    | .value => Option Number
    | .upper => Option Number
  fields := [.operator, .value, .upper]
  name
    | .operator => "type"
    | .value => "filter"
    | .upper => "filterTo"
  aliases _ := []
  required field := field = .operator
  closed := false
  surplus := .wrongLength
  content
    | .operator => Decoder.text.map NumberOperator.ofName
    | .value => Decoder.optional Decoder.number
    | .upper => Decoder.optional Decoder.number

/-- How set filters are sent, apart from their kind. -/
def setFormat : RecordFormat SetFilterField where
  Content
    | .values => OrderedSet
  fields := [.values]
  name
    | .values => "values"
  aliases _ := []
  required _ := false
  closed := false
  surplus := .wrongLength
  content
    | .values => Decoder.textSet

/-- Reads the fields of a text filter. -/
def decodeText : Decoder Filter :=
  textFormat.decode fun slots => do
    let operator ← textFormat.require slots .operator
    pure (.text operator ((slots .value).getD none))

/-- Reads the fields of a number filter. -/
def decodeNumber : Decoder Filter :=
  numberFormat.decode fun slots => do
    let operator ← numberFormat.require slots .operator
    pure (.number operator ((slots .value).getD none) ((slots .upper).getD none))

/-- Reads the fields of a set filter. -/
def decodeSet : Decoder Filter :=
  setFormat.decode fun slots => pure (.set ((slots .values).getD .empty))

/-- Reads the fields of a filter of a kind. -/
def decodeFields : FilterKind → Decoder Filter
  | .text => decodeText
  | .number => decodeNumber
  | .set => decodeSet

/-- Reads the kind of a filter by its name. -/
def decodeKind : Decoder FilterKind := fun room document => do
  let name ← Decoder.text room document
  Decoder.named FilterKind.known name

/-- Refuses a document that is not readable throughout. -/
def requireReadable (room : Nat) (document : Document) : Except Fault Unit :=
  if (document.json? room).isSome then .ok () else .error .malformed

/-- Takes the kind out of the members of a filter, and checks that the others are readable. -/
def takeKind (room : Nat) (found : Option FilterKind) :
    List (Key × Document) → Except Fault (FilterKind × List (Key × Document))
  | [] =>
      match found with
      | some kind => .ok (kind, [])
      | none => .error (.missingField kindName)
  | (some name, document) :: rest =>
      if name = kindName then
        if found.isSome then .error (.duplicateField kindName)
        else do
          let kind ← decodeKind room document
          takeKind room (some kind) rest
      else do
        requireReadable room document
        let (kind, others) ← takeKind room found rest
        pure (kind, (some name, document) :: others)
  | _ :: _ => .error .malformed

/-- Reads a filter. Its kind may stand anywhere in an object, and comes first in a list. -/
def decode : Decoder Filter
  | 0, .object _ => .error .malformed
  | 0, .list _ => .error .malformed
  | room + 1, .object members => do
      let (kind, others) ← takeKind room none members
      decodeFields kind (room + 1) (.object others)
  | _ + 1, .list [] => .error (.missingField kindName)
  | room + 1, .list (first :: rest) => do
      let kind ← decodeKind room first
      rest.forM (requireReadable room)
      decodeFields kind (room + 1) (.list rest)
  | _, document => .error document.mismatch

/-- A filter as it is sent, with its kind before all else. -/
def json : Filter → Json
  | .text operator value =>
      .object ([(kindName, .text "text"), ("type", .text operator.name)] ++
        Json.optional "filter" (value.map .text))
  | .number operator value upper =>
      .object ([(kindName, .text "number"), ("type", .text operator.name)] ++
        Json.optional "filter" (value.map .number) ++
        Json.optional "filterTo" (upper.map .number))
  | .set values => .object [(kindName, .text "set"), ("values", Json.ofTexts values.values)]

/-- The filters of a request as they are sent. -/
def mapJson (filters : FilterMap) : Json :=
  .object (filters.entries.map fun (column, filter) => (column, filter.json))

end Filter

/-- Reads the filters of a request, whose columns keep their order. -/
def FilterMap.decode : Decoder FilterMap := Decoder.orderedMap Filter.decode

namespace PivotValues

/-- Reads the values of pivot columns. -/
def decode : Decoder PivotValues := Decoder.orderedMap (Decoder.list Decoder.text)

/-- The values of pivot columns as they are sent. -/
def json (values : PivotValues) : Json :=
  .object (values.entries.map fun (column, found) => (column, Json.ofTexts found))

end PivotValues

/-- The fields of a request. -/
inductive RequestField where
  | startRow
  | endRow
  | rowGroups
  | valueColumns
  | pivotColumns
  | pivotMode
  | groupKeys
  | filters
  | sort
  deriving DecidableEq, Repr

namespace RowsRequest

/-- How requests are sent. Filters and sort entries have a second name. -/
def format : RecordFormat RequestField where
  Content
    | .startRow => Int64
    | .endRow => Int64
    | .rowGroups => List ColumnSpec
    | .valueColumns => List ColumnSpec
    | .pivotColumns => List ColumnSpec
    | .pivotMode => Bool
    | .groupKeys => List String
    | .filters => FilterMap
    | .sort => List SortSpec
  fields := [.startRow, .endRow, .rowGroups, .valueColumns, .pivotColumns, .pivotMode, .groupKeys,
    .filters, .sort]
  name
    | .startRow => "startRow"
    | .endRow => "endRow"
    | .rowGroups => "rowGroupCols"
    | .valueColumns => "valueCols"
    | .pivotColumns => "pivotCols"
    | .pivotMode => "pivotMode"
    | .groupKeys => "groupKeys"
    | .filters => "filterModel"
    | .sort => "sortModel"
  aliases
    | .filters => ["filters"]
    | .sort => ["sort"]
    | _ => []
  required field := field = .startRow || field = .endRow
  closed := false
  surplus := .malformed
  content
    | .startRow => Decoder.int64
    | .endRow => Decoder.int64
    | .rowGroups => Decoder.list ColumnSpec.decode
    | .valueColumns => Decoder.list ColumnSpec.decode
    | .pivotColumns => Decoder.list ColumnSpec.decode
    | .pivotMode => Decoder.bool
    | .groupKeys => Decoder.list Decoder.text
    | .filters => FilterMap.decode
    | .sort => Decoder.list SortSpec.decode

/-- Reads a request. Only the rows that are asked for are needed. -/
def decode : Decoder RowsRequest :=
  format.decode fun slots => do
    let startRow ← format.require slots .startRow
    let endRow ← format.require slots .endRow
    pure {
      startRow := startRow
      endRow := endRow
      rowGroups := (slots .rowGroups).getD []
      valueColumns := (slots .valueColumns).getD []
      pivotColumns := (slots .pivotColumns).getD []
      pivotMode := (slots .pivotMode).getD false
      groupKeys := (slots .groupKeys).getD []
      filters := (slots .filters).getD .empty
      sort := (slots .sort).getD [] }

/-- A request as it is sent, with all of its fields. -/
def json (request : RowsRequest) : Json :=
  .object [
    ("startRow", .ofInt request.startRow.toInt),
    ("endRow", .ofInt request.endRow.toInt),
    ("rowGroupCols", .list (request.rowGroups.map ColumnSpec.json)),
    ("valueCols", .list (request.valueColumns.map ColumnSpec.json)),
    ("pivotCols", .list (request.pivotColumns.map ColumnSpec.json)),
    ("pivotMode", .bool request.pivotMode),
    ("groupKeys", Json.ofTexts request.groupKeys),
    ("filterModel", Filter.mapJson request.filters),
    ("sortModel", .list (request.sort.map SortSpec.json))]

end RowsRequest

end RowQuery
