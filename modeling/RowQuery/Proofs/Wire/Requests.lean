import RowQuery.Proofs.Wire.Records
import RowQuery.Wire.Request

/-!
# Requests that are sent and read

This file shows that a request is recovered from what is sent of it, with its columns, its
sort entries and its filters.

Columns and sort entries are recovered without exception. A filter is not: if its operator
were kept as unknown under the name of a known one, it would come back with the known one. No
filter that was read is of this kind, because a name is looked up before it is kept.
-/

namespace RowQuery

open Decoder

theorem getD_map_some {α : Type} (value : Option α) : (value.map some).getD none = value := by
  cases value with
  | none => rfl
  | some found => rfl

theorem text_sent (content : String) : (Json.text content).document ≠ .null := nofun

theorem texts_sent (texts : List String) : (Json.ofTexts texts).document ≠ .null := nofun

namespace ColumnSpec

/-- What is sent of each field of a column. -/
def sent (column : ColumnSpec) : ColumnField → Option Json
  | .id => column.id.map .text
  | .displayName => column.displayName.map .text
  | .field => some (.text column.field)
  | .aggregate => column.aggregate.map .text

/-- What the slots of a column hold when all its members have been read. -/
def contents (column : ColumnSpec) : format.Slots
  | .id => column.id.map some
  | .displayName => column.displayName.map some
  | .field => some column.field
  | .aggregate => column.aggregate.map some

theorem wellNamed : format.WellNamed where
  declared which := by cases which with | _ => decide
  distinct := by decide
  named which := by cases which with | _ => rfl

theorem json_eq (column : ColumnSpec) : column.json = .object (format.members column.sent) := by
  simp [json, RecordFormat.members, format, sent, Json.optional]

theorem delivers (column : ColumnSpec) (room : Nat) :
    format.Delivers room column.sent column.contents
  | .id => optional_sent text_sent fun content _ => text_recovers content
  | .displayName => optional_sent text_sent fun content _ => text_recovers content
  | .field => rfl
  | .aggregate => optional_sent text_sent fun content _ => text_recovers content

/-- A column is read as it was sent. -/
theorem recovers (column : ColumnSpec) (room : Nat) :
    decode.Recovers json (room + 1) column := by
  refine RecordFormat.decode_recovers wellNamed (column.delivers room) column.json_eq ?_
  change Except.ok (ColumnSpec.mk ((column.id.map some).getD none)
    ((column.displayName.map some).getD none) column.field
    ((column.aggregate.map some).getD none)) = .ok column
  simp only [getD_map_some]

end ColumnSpec

namespace SortSpec

/-- What is sent of a sort entry, field by field. -/
def sent (spec : SortSpec) : SortField → Option Json
  | .column => some (.text spec.column)
  | .direction => some (.text spec.direction.name)

/-- What the slots of a sort entry hold when all its members have been read. -/
def contents (spec : SortSpec) : format.Slots
  | .column => some spec.column
  | .direction => some spec.direction

theorem wellNamed : format.WellNamed where
  declared which := by cases which with | _ => decide
  distinct := by decide
  named which := by cases which with | _ => rfl

theorem ofText_name (direction : SortDirection) :
    SortDirection.ofText direction.name = direction := by
  cases direction with
  | _ => decide +kernel

/-- A sort entry is read as it was sent. -/
theorem recovers (spec : SortSpec) (room : Nat) : decode.Recovers json (room + 1) spec := by
  have delivers : format.Delivers room spec.sent spec.contents
    | .column => rfl
    | .direction => congrArg (fun found => some (Except.ok found)) (ofText_name spec.direction)
  exact RecordFormat.decode_recovers wellNamed delivers rfl rfl

end SortSpec

theorem lookup_eq_none_iff_not_mem {α : Type} (table : List (String × α)) (name : String) :
    table.lookup name = none ↔ name ∉ table.map Prod.fst := by
  rw [List.lookup_eq_none_iff, List.mem_map]
  constructor
  · rintro different ⟨entry, entryMem, rfl⟩
    exact absurd (different entry entryMem) (by simp)
  · intro absent entry entryMem
    rw [bne_iff_ne]
    exact fun same => absent ⟨entry, entryMem, same.symm⟩

theorem mem_of_lookup_eq_some {α : Type} {table : List (String × α)} {name : String} {value : α}
    (found : table.lookup name = some value) : (name, value) ∈ table := by
  rcases List.lookup_eq_some_iff.mp found with ⟨before, after, rfl, _⟩
  exact List.mem_append_right before List.mem_cons_self

/-- A name is kept as unknown only if the table of known ones does not have it. -/
theorem not_mem_of_getD_lookup {α : Type} {table : List (String × α)} {unknown : String → α}
    (injective : ∀ first second, unknown first = unknown second → first = second)
    (meant : ∀ entry ∈ table, ∀ name, entry.2 ≠ unknown name) {text name : String}
    (read : (table.lookup text).getD (unknown text) = unknown name) :
    name ∉ table.map Prod.fst := by
  cases found : table.lookup text with
  | some value =>
      rw [found] at read
      exact absurd read (meant _ (mem_of_lookup_eq_some found) name)
  | none =>
      rw [found] at read
      rw [← injective text name read]
      exact (lookup_eq_none_iff_not_mem table text).mp found

namespace TextOperator

/-- An operator is recovered from its name, unless it is unknown under the name of a known one. -/
theorem ofName_name {operator : TextOperator}
    (fresh : ∀ name, operator = .unknown name → name ∉ known.map Prod.fst) :
    ofName operator.name = operator := by
  cases operator with
  | unknown name =>
      rw [TextOperator.name, ofName, (lookup_eq_none_iff_not_mem known name).mpr (fresh name rfl)]
      rfl
  | _ => rfl

theorem not_mem_of_ofName {text name : String} (read : ofName text = .unknown name) :
    name ∉ known.map Prod.fst :=
  not_mem_of_getD_lookup (fun _ _ => unknown.inj) (by simp [known]) read

end TextOperator

namespace NumberOperator

theorem ofName_name {operator : NumberOperator}
    (fresh : ∀ name, operator = .unknown name → name ∉ known.map Prod.fst) :
    ofName operator.name = operator := by
  cases operator with
  | unknown name =>
      rw [NumberOperator.name, ofName, (lookup_eq_none_iff_not_mem known name).mpr (fresh name rfl)]
      rfl
  | _ => rfl

theorem not_mem_of_ofName {text name : String} (read : ofName text = .unknown name) :
    name ∉ known.map Prod.fst :=
  not_mem_of_getD_lookup (fun _ _ => unknown.inj) (by simp [known]) read

end NumberOperator

namespace Filter

/-- An operator is kept as unknown only under a name that no operator of its kind has. -/
def RightlyUnknown : Filter → Prop
  | .text operator _ =>
      ∀ name, operator = .unknown name → name ∉ TextOperator.known.map Prod.fst
  | .number operator _ _ =>
      ∀ name, operator = .unknown name → name ∉ NumberOperator.known.map Prod.fst
  | .set _ => True

/-- The members of a filter beside its kind may stand in any document. -/
structure Plain (room : Nat) (members : List (String × Json)) : Prop where
  named : ∀ member ∈ members, member.1 ≠ kindName
  fits : ∀ member ∈ members, member.2.Fits room

theorem requireReadable_document {room : Nat} {value : Json} (fits : value.Fits room) :
    requireReadable room value.document = .ok () := by
  rw [requireReadable, fits.json?_document]
  rfl

theorem takeKind_plain {room : Nat} {members : List (String × Json)} (plain : Plain room members)
    (kind : FilterKind) :
    takeKind room (some kind) (Json.documentMembers members) =
      .ok (kind, Json.documentMembers members) := by
  rcases plain with ⟨named, fits⟩
  induction members with
  | nil => rfl
  | cons first others ih =>
      rw [List.forall_mem_cons] at named fits
      rw [Json.documentMembers, takeKind, if_neg named.1, requireReadable_document fits.1,
        ih named.2 fits.2]
      rfl

/-- A filter that is sent as its kind and other members is read by the reader of its kind. -/
theorem decode_kind {room : Nat} {members : List (String × Json)} (plain : Plain room members)
    {kind : FilterKind} {name : String} (known : FilterKind.known.lookup name = some kind) :
    decode (room + 1) (Json.object ((kindName, .text name) :: members)).document =
      decodeFields kind (room + 1) (Json.object members).document := by
  have named : decodeKind room (Json.text name).document = .ok kind := by
    rw [Json.document, decodeKind]
    change Decoder.named FilterKind.known name = .ok kind
    rw [Decoder.named, known]
  have taken : takeKind room none (Json.documentMembers ((kindName, .text name) :: members)) =
      .ok (kind, Json.documentMembers members) := by
    rw [Json.documentMembers, takeKind, if_pos rfl, named]
    exact takeKind_plain plain kind
  rw [Json.document, decode, taken]
  rfl

/-- What is sent of a text filter, field by field and apart from its kind. -/
def sentText (operator : TextOperator) (value : Option String) : TextFilterField → Option Json
  | .operator => some (.text operator.name)
  | .value => value.map .text

/-- What the slots of a text filter hold when all its members have been read. -/
def textContents (operator : TextOperator) (value : Option String) : textFormat.Slots
  | .operator => some operator
  | .value => value.map some

/-- What is sent of a number filter, field by field and apart from its kind. -/
def sentNumber (operator : NumberOperator) (value upper : Option Number) :
    NumberFilterField → Option Json
  | .operator => some (.text operator.name)
  | .value => value.map .number
  | .upper => upper.map .number

/-- What the slots of a number filter hold when all its members have been read. -/
def numberContents (operator : NumberOperator) (value upper : Option Number) : numberFormat.Slots
  | .operator => some operator
  | .value => value.map some
  | .upper => upper.map some

/-- What is sent of a set filter, apart from its kind. -/
def sentSet (values : OrderedSet) : SetFilterField → Option Json
  | .values => some (Json.ofTexts values.values)

/-- What the slots of a set filter hold when all its members have been read. -/
def setContents (values : OrderedSet) : setFormat.Slots
  | .values => some values

theorem textFormat_wellNamed : textFormat.WellNamed where
  declared field := by cases field with | _ => decide
  distinct := by decide
  named field := by cases field with | _ => rfl

theorem numberFormat_wellNamed : numberFormat.WellNamed where
  declared field := by cases field with | _ => decide
  distinct := by decide
  named field := by cases field with | _ => rfl

theorem setFormat_wellNamed : setFormat.WellNamed where
  declared field := by cases field with | _ => decide
  distinct := by decide
  named field := by cases field with | _ => rfl

theorem number_sent (value : Number) : (Json.number value).document ≠ .null := nofun

/-- What is sent of the fields of a filter may stand beside its kind. -/
theorem plain_members {Field : Type} {format : RecordFormat Field} {send : Field → Option Json}
    {room : Nat} (named : ∀ field, format.name field ≠ kindName)
    (fits : ∀ field value, send field = some value → value.Fits room) :
    Plain room (format.members send) := by
  constructor
  · intro member memberMem
    rcases RecordFormat.exists_of_mem_members memberMem with ⟨field, name, _⟩
    rw [name]
    exact named field
  · intro member memberMem
    rcases RecordFormat.exists_of_mem_members memberMem with ⟨field, _, sent⟩
    exact fits field member.2 sent

/-- A text filter is read as it was sent, unless its operator is unknown and has a known name. -/
theorem text_recovered {operator : TextOperator} {value : Option String}
    (rightly : (Filter.text operator value).RightlyUnknown) (room : Nat) :
    decode.Recovers json (room + 1) (.text operator value) := by
  have delivers : textFormat.Delivers room (sentText operator value) (textContents operator value)
    | .operator => congrArg (fun found => some (Except.ok found))
        (TextOperator.ofName_name rightly)
    | .value => optional_sent text_sent fun content _ => text_recovers content
  have fits (field : TextFilterField) (content : Json)
      (found : sentText operator value field = some content) : content.Fits room := by
    cases field with
    | operator =>
        cases found
        exact .text operator.name
    | value =>
        rcases Option.map_eq_some_iff.mp found with ⟨written, _, rfl⟩
        exact .text written
  have plain : Plain room (textFormat.members (sentText operator value)) :=
    plain_members (fun field => by cases field with | _ => decide) fits
  have sent : (Filter.text operator value).json =
      .object ((kindName, .text "text") :: textFormat.members (sentText operator value)) := by
    simp [json, RecordFormat.members, textFormat, sentText, Json.optional]
  rw [Recovers, sent, decode_kind plain rfl, decodeFields, decodeText,
    RecordFormat.decode_members textFormat_wellNamed delivers]
  change Except.ok (Filter.text operator ((value.map some).getD none)) = _
  rw [getD_map_some]

theorem number_recovered {operator : NumberOperator} {value upper : Option Number}
    (rightly : (Filter.number operator value upper).RightlyUnknown) (room : Nat) :
    decode.Recovers json (room + 1) (.number operator value upper) := by
  have delivers : numberFormat.Delivers room (sentNumber operator value upper)
      (numberContents operator value upper)
    | .operator => congrArg (fun found => some (Except.ok found))
        (NumberOperator.ofName_name rightly)
    | .value => optional_sent number_sent fun number _ => number_recovers number
    | .upper => optional_sent number_sent fun number _ => number_recovers number
  have fits (field : NumberFilterField) (content : Json)
      (found : sentNumber operator value upper field = some content) : content.Fits room := by
    cases field with
    | operator =>
        cases found
        exact .text operator.name
    | value =>
        rcases Option.map_eq_some_iff.mp found with ⟨number, _, rfl⟩
        exact .number number
    | upper =>
        rcases Option.map_eq_some_iff.mp found with ⟨number, _, rfl⟩
        exact .number number
  have plain : Plain room (numberFormat.members (sentNumber operator value upper)) :=
    plain_members (fun field => by cases field with | _ => decide) fits
  have sent : (Filter.number operator value upper).json = .object
      ((kindName, .text "number") :: numberFormat.members (sentNumber operator value upper)) := by
    simp [json, RecordFormat.members, numberFormat, sentNumber, Json.optional]
  rw [Recovers, sent, decode_kind plain rfl, decodeFields, decodeNumber,
    RecordFormat.decode_members numberFormat_wellNamed delivers]
  change Except.ok (Filter.number operator ((value.map some).getD none)
    ((upper.map some).getD none)) = _
  rw [getD_map_some, getD_map_some]

theorem set_recovered (values : OrderedSet) (room : Nat) :
    decode.Recovers json (room + 2) (.set values) := by
  have delivers : setFormat.Delivers (room + 1) (sentSet values) (setContents values)
    | .values => congrArg some (textSet_recovers values)
  have fits (field : SetFilterField) (content : Json)
      (found : sentSet values field = some content) : content.Fits (room + 1) := by
    cases field with
    | values =>
        cases found
        refine .list fun item itemMem => ?_
        rcases List.mem_map.mp itemMem with ⟨text, _, rfl⟩
        exact .text text
  have plain : Plain (room + 1) (setFormat.members (sentSet values)) :=
    plain_members (fun field => by cases field with | _ => decide) fits
  have sent : (Filter.set values).json =
      .object ((kindName, .text "set") :: setFormat.members (sentSet values)) := rfl
  rw [Recovers, sent, decode_kind plain rfl, decodeFields, decodeSet,
    RecordFormat.decode_members setFormat_wellNamed delivers]
  rfl

/-- A filter is recovered unless its operator is unknown under the name of a known one. -/
theorem recovers {filter : Filter} (rightly : filter.RightlyUnknown) (room : Nat) :
    decode.Recovers json (room + 2) filter := by
  cases filter with
  | text operator value => exact text_recovered rightly (room + 1)
  | number operator value upper => exact number_recovered rightly (room + 1)
  | set values => exact set_recovered values room

theorem rightlyUnknown_of_decodeFields {kind : FilterKind} {room : Nat} {filter : Filter}
    (yields : (decodeFields kind).Yields room filter) : filter.RightlyUnknown := by
  cases kind with
  | text =>
      rcases RecordFormat.exists_of_decode yields with ⟨inner, slots, _, filled, built⟩
      rcases bind_eq_ok.mp built with ⟨operator, required, equal⟩
      cases equal
      rcases (filled .operator operator (RecordFormat.require_eq_ok.mp required)).of_map with
        ⟨text, rfl⟩
      exact fun name => TextOperator.not_mem_of_ofName
  | number =>
      rcases RecordFormat.exists_of_decode yields with ⟨inner, slots, _, filled, built⟩
      rcases bind_eq_ok.mp built with ⟨operator, required, equal⟩
      cases equal
      rcases (filled .operator operator (RecordFormat.require_eq_ok.mp required)).of_map with
        ⟨text, rfl⟩
      exact fun name => NumberOperator.not_mem_of_ofName
  | set =>
      rcases RecordFormat.exists_of_decode yields with ⟨inner, slots, _, filled, built⟩
      cases built
      trivial

/-- No filter that was read is unknown under the name of a known operator. -/
theorem rightlyUnknown_of_yields {room : Nat} {filter : Filter}
    (yields : decode.Yields room filter) : filter.RightlyUnknown := by
  rcases yields with ⟨document, read⟩
  unfold decode at read
  split at read
  · cases read
  · cases read
  · rcases bind_eq_ok.mp read with ⟨⟨kind, others⟩, _, found⟩
    exact rightlyUnknown_of_decodeFields ⟨_, found⟩
  · cases read
  · rcases bind_eq_ok.mp read with ⟨kind, _, further⟩
    rcases bind_eq_ok.mp further with ⟨_, _, found⟩
    exact rightlyUnknown_of_decodeFields ⟨_, found⟩
  · cases read

end Filter

namespace RowsRequest

/-- What is sent of a request, field by field. Something is sent of every field. -/
def sent (request : RowsRequest) : RequestField → Option Json
  | .startRow => some (.ofInt request.startRow.toInt)
  | .endRow => some (.ofInt request.endRow.toInt)
  | .rowGroups => some (.list (request.rowGroups.map ColumnSpec.json))
  | .valueColumns => some (.list (request.valueColumns.map ColumnSpec.json))
  | .pivotColumns => some (.list (request.pivotColumns.map ColumnSpec.json))
  | .pivotMode => some (.bool request.pivotMode)
  | .groupKeys => some (Json.ofTexts request.groupKeys)
  | .filters => some (Filter.mapJson request.filters)
  | .sort => some (.list (request.sort.map SortSpec.json))

/-- What the slots of a request hold when all its members have been read. -/
def contents (request : RowsRequest) : format.Slots
  | .startRow => some request.startRow
  | .endRow => some request.endRow
  | .rowGroups => some request.rowGroups
  | .valueColumns => some request.valueColumns
  | .pivotColumns => some request.pivotColumns
  | .pivotMode => some request.pivotMode
  | .groupKeys => some request.groupKeys
  | .filters => some request.filters
  | .sort => some request.sort

theorem wellNamed : format.WellNamed where
  declared field := by cases field with | _ => decide
  distinct := by decide
  named field := by cases field with | _ => rfl

/-- The operators of all filters of a request are unknown only if no known one has their name. -/
def RightlyUnknown (request : RowsRequest) : Prop :=
  ∀ entry ∈ request.filters.entries, entry.2.RightlyUnknown

/-- A request is read as it was sent, if its unknown operators are rightly unknown. -/
theorem recovers {request : RowsRequest} (rightly : request.RightlyUnknown) (room : Nat) :
    decode.Recovers json (room + 4) request := by
  have columns (found : List ColumnSpec) : (Decoder.list ColumnSpec.decode).Recovers
      (fun found => .list (found.map ColumnSpec.json)) (room + 3) found :=
    list_recovers fun column _ => column.recovers (room + 1)
  have filters : FilterMap.decode.Recovers Filter.mapJson (room + 3) request.filters :=
    orderedMap_recovers fun entry entryMem => Filter.recovers (rightly entry entryMem) room
  have sort : (Decoder.list SortSpec.decode).Recovers
      (fun found => .list (found.map SortSpec.json)) (room + 3) request.sort :=
    list_recovers fun spec _ => spec.recovers (room + 1)
  have delivers : format.Delivers (room + 3) request.sent request.contents
    | .startRow => congrArg some (int64_recovers request.startRow)
    | .endRow => congrArg some (int64_recovers request.endRow)
    | .rowGroups => congrArg some (columns request.rowGroups)
    | .valueColumns => congrArg some (columns request.valueColumns)
    | .pivotColumns => congrArg some (columns request.pivotColumns)
    | .pivotMode => rfl
    | .groupKeys => congrArg some (texts_recovers request.groupKeys)
    | .filters => congrArg some filters
    | .sort => congrArg some sort
  exact RecordFormat.decode_recovers wellNamed delivers rfl rfl

theorem rightlyUnknown_of_yields {room : Nat} {request : RowsRequest}
    (yields : decode.Yields room request) : request.RightlyUnknown := by
  rcases RecordFormat.exists_of_decode yields with ⟨inner, slots, _, filled, built⟩
  rcases bind_eq_ok.mp built with ⟨startRow, _, built⟩
  rcases bind_eq_ok.mp built with ⟨endRow, _, equal⟩
  cases equal
  intro entry entryMem
  cases found : slots .filters with
  | none =>
      rw [found] at entryMem
      cases entryMem
  | some filters =>
      rw [found] at entryMem
      rcases (filled .filters filters found).orderedMap_each with ⟨_, _, each⟩
      exact Filter.rightlyUnknown_of_yields (each entry entryMem)

end RowsRequest

end RowQuery
