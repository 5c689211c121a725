import RowQuery.Proofs.Compile.PivotColumns
import RowQuery.Proofs.Wire.Requests
import RowQuery.Wire.Input

/-!
# Round trips

This file shows that what the library sends is read as it was: requests, configurations,
queries, explanations and pages.

Configurations and queries are recovered without exception. An explanation is if its counts
are machine words, and a page if its rows can be sent at all: a row would be refused if it
nests too deep, and changed if one of its objects has a name twice. None of this can come out
of a document that was read, and a page is shaped of the rows that were given.
-/

namespace RowQuery

open Decoder

namespace Config

/-- What is sent of a configuration, setting by setting. -/
def sent (config : Config) : ConfigField → Option Json
  | .dialect => some (.text config.dialect.name)
  | .unknownOperator => some (.text config.unknownOperator.name)
  | .maxPageSize => some (.ofNat config.maxPageSize.toNat)
  | .includeSql => some (.bool config.includeSql)
  | .includeError => some (.bool config.includeError)
  | .logLevel => some (.text config.logLevel.name)

/-- What the slots of a configuration hold when all its members have been read. -/
def contents (config : Config) : format.Slots
  | .dialect => some config.dialect
  | .unknownOperator => some config.unknownOperator
  | .maxPageSize => some config.maxPageSize.toNat
  | .includeSql => some config.includeSql
  | .includeError => some config.includeError
  | .logLevel => some config.logLevel

theorem wellNamed : format.WellNamed where
  declared field := by cases field with | _ => decide
  distinct := by decide
  named field := by cases field with | _ => rfl

theorem dialect_known (dialect : Dialect) : Dialect.known.lookup dialect.name = some dialect := by
  cases dialect with
  | _ => rfl

theorem policy_known (policy : OperatorPolicy) :
    OperatorPolicy.known.lookup policy.name = some policy := by
  cases policy with
  | _ => rfl

theorem severity_known (severity : Severity) :
    Severity.known.lookup severity.name = some severity := by
  cases severity with
  | _ => rfl

/-- A configuration is read as it was sent. -/
theorem recovers (config : Config) (room : Nat) : decode.Recovers json (room + 1) config := by
  have delivers : format.Delivers room config.sent config.contents
    | .dialect => congrArg some (enumeration_recovers (dialect_known config.dialect) room)
    | .unknownOperator => congrArg some
        (enumeration_recovers (policy_known config.unknownOperator) room)
    | .maxPageSize => congrArg some (nat64_recovers config.maxPageSize.toNat_lt_size)
    | .includeSql => rfl
    | .includeError => rfl
    | .logLevel => congrArg some (enumeration_recovers (severity_known config.logLevel) room)
  refine RecordFormat.decode_recovers wellNamed delivers rfl ?_
  change Except.ok { config with maxPageSize := UInt64.ofNat config.maxPageSize.toNat } = .ok config
  rw [UInt64.ofNat_toNat]

end Config

theorem Bind.recovers (value : Bind) (room : Nat) : Bind.decode.Recovers Bind.json room value := by
  cases value with
  | _ => rfl

namespace Query

/-- What is sent of a query, field by field. -/
def sent (query : Query) : QueryField → Option Json
  | .sql => some (.text query.sql)
  | .binds => some (.list (query.binds.map Bind.json))

/-- What the slots of a query hold when all its members have been read. -/
def contents (query : Query) : format.Slots
  | .sql => some query.sql
  | .binds => some query.binds

theorem wellNamed : format.WellNamed where
  declared field := by cases field with | _ => decide
  distinct := by decide
  named field := by cases field with | _ => rfl

/-- A query is read as it was sent. -/
theorem recovers (query : Query) (room : Nat) : decode.Recovers json (room + 2) query := by
  have binds : (Decoder.list Bind.decode).Recovers (fun found => .list (found.map Bind.json))
      (room + 1) query.binds := list_recovers fun value _ => value.recovers room
  have delivers : format.Delivers (room + 1) query.sent query.contents
    | .sql => rfl
    | .binds => congrArg some binds
  exact RecordFormat.decode_recovers wellNamed delivers rfl rfl

end Query

namespace Explanation

/-- The counts of an explanation are machine words, as the lengths of all lists in memory are. -/
structure CountsFit (explanation : Explanation) : Prop where
  drillDepth_lt : explanation.drillDepth < UInt64.size
  pivotCombinations_lt : explanation.pivotCombinations < UInt64.size
  placeholderCount_lt : explanation.placeholderCount < UInt64.size
  bindCount_lt : explanation.bindCount < UInt64.size

/-- What is sent of an explanation, field by field. -/
def sent (explanation : Explanation) : ExplanationField → Option Json
  | .mode => some (.text explanation.mode.name)
  | .dialect => some (.text explanation.dialect.name)
  | .activeRowGroups => some (Json.ofTexts explanation.activeRowGroups)
  | .drillDepth => some (.ofNat explanation.drillDepth)
  | .pivotCombinations => some (.ofNat explanation.pivotCombinations)
  | .placeholderCount => some (.ofNat explanation.placeholderCount)
  | .bindCount => some (.ofNat explanation.bindCount)
  | .sql => some (.text explanation.sql)

/-- What the slots of an explanation hold when all its members have been read. -/
def contents (explanation : Explanation) : format.Slots
  | .mode => some explanation.mode
  | .dialect => some explanation.dialect
  | .activeRowGroups => some explanation.activeRowGroups
  | .drillDepth => some explanation.drillDepth
  | .pivotCombinations => some explanation.pivotCombinations
  | .placeholderCount => some explanation.placeholderCount
  | .bindCount => some explanation.bindCount
  | .sql => some explanation.sql

theorem wellNamed : format.WellNamed where
  declared field := by cases field with | _ => decide
  distinct := by decide
  named field := by cases field with | _ => rfl

theorem mode_known (mode : CompileMode) : CompileMode.known.lookup mode.name = some mode := by
  cases mode with
  | _ => rfl

/-- An explanation is read as it was sent, if its counts fit a machine word. -/
theorem recovers {explanation : Explanation} (fit : explanation.CountsFit) (room : Nat) :
    decode.Recovers json (room + 2) explanation := by
  have delivers : format.Delivers (room + 1) explanation.sent explanation.contents
    | .mode => congrArg some
        (enumeration_recovers (mode_known explanation.mode) (room + 1))
    | .dialect => congrArg some
        (enumeration_recovers (Config.dialect_known explanation.dialect) (room + 1))
    | .activeRowGroups => congrArg some (texts_recovers explanation.activeRowGroups)
    | .drillDepth => congrArg some (nat64_recovers fit.drillDepth_lt)
    | .pivotCombinations => congrArg some (nat64_recovers fit.pivotCombinations_lt)
    | .placeholderCount => congrArg some (nat64_recovers fit.placeholderCount_lt)
    | .bindCount => congrArg some (nat64_recovers fit.bindCount_lt)
    | .sql => rfl
  exact RecordFormat.decode_recovers wellNamed delivers rfl rfl

theorem countsFit_of_yields {room : Nat} {explanation : Explanation}
    (yields : decode.Yields room explanation) : explanation.CountsFit := by
  rcases RecordFormat.exists_of_decode yields with ⟨inner, slots, _, filled, built⟩
  have counted (field : ExplanationField) (content : format.Content field)
      (required : format.require slots field = .ok content) :
      (format.content field).Yields inner content :=
    filled field content (RecordFormat.require_eq_ok.mp required)
  rcases bind_eq_ok.mp built with ⟨mode, _, built⟩
  rcases bind_eq_ok.mp built with ⟨dialect, _, built⟩
  rcases bind_eq_ok.mp built with ⟨activeRowGroups, _, built⟩
  rcases bind_eq_ok.mp built with ⟨drillDepth, depth, built⟩
  rcases bind_eq_ok.mp built with ⟨pivotCombinations, combinations, built⟩
  rcases bind_eq_ok.mp built with ⟨placeholderCount, placeholders, built⟩
  rcases bind_eq_ok.mp built with ⟨bindCount, binds, built⟩
  rcases bind_eq_ok.mp built with ⟨sql, _, equal⟩
  cases equal
  exact ⟨(counted .drillDepth drillDepth depth).nat64_lt,
    (counted .pivotCombinations pivotCombinations combinations).nat64_lt,
    (counted .placeholderCount placeholderCount placeholders).nat64_lt,
    (counted .bindCount bindCount binds).nat64_lt⟩

end Explanation

namespace Row

/-- The values of a row nest at most so deep, and none of their objects has a name twice. -/
def Fits (room : Nat) (row : Row) : Prop := ∀ entry ∈ row.entries, entry.2.Fits room

/-- A row is read as it was sent, if there is room for its values. -/
theorem recovers {row : Row} {room : Nat} (fits : row.Fits room) :
    decode.Recovers json (room + 1) row := by
  have entries : (row.entries.map fun entry => (entry.1, id entry.2)) = row.entries :=
    List.map_id' row.entries
  have read := orderedMap_recovers fun entry entryMem => json_recovers (fits entry entryMem)
  rw [Recovers, entries] at read
  exact read

end Row

namespace RowsPage

/-- What is sent of a page, field by field. Its last three fields may be left out. -/
def sent (page : RowsPage) : PageField → Option Json
  | .rows => some (.list (page.rows.map Row.json))
  | .lastRow => some (.ofInt page.lastRow.toInt)
  | .secondaryColumns => page.secondaryColumns.map Json.ofTexts
  | .fromSql => page.fromSql.map Query.json
  | .uxReportableError => page.uxReportableError.map .text

/-- What the slots of a page hold when all its members have been read. -/
def contents (page : RowsPage) : format.Slots
  | .rows => some page.rows
  | .lastRow => some page.lastRow
  | .secondaryColumns => page.secondaryColumns.map some
  | .fromSql => page.fromSql.map some
  | .uxReportableError => page.uxReportableError.map some

theorem wellNamed : format.WellNamed where
  declared field := by cases field with | _ => decide
  distinct := by decide
  named field := by cases field with | _ => rfl

theorem json_eq (page : RowsPage) : page.json = .object (format.members page.sent) := by
  simp [json, RecordFormat.members, format, sent, Json.optional]

/-- A page is recovered if its rows can be sent. -/
theorem recovers {page : RowsPage} {room : Nat} (fits : ∀ row ∈ page.rows, row.Fits room) :
    decode.Recovers json (room + 3) page := by
  have rows : (Decoder.list Row.decode).Recovers (fun found => .list (found.map Row.json))
      (room + 2) page.rows := list_recovers fun row rowMem => Row.recovers (fits row rowMem)
  have delivers : format.Delivers (room + 2) page.sent page.contents
    | .rows => congrArg some rows
    | .lastRow => congrArg some (int64_recovers page.lastRow)
    | .secondaryColumns => optional_sent texts_sent fun names _ => texts_recovers names
    | .fromSql => optional_sent (fun _ => nofun) fun query _ => query.recovers room
    | .uxReportableError => optional_sent text_sent fun content _ => text_recovers content
  refine RecordFormat.decode_recovers wellNamed delivers page.json_eq ?_
  change Except.ok (RowsPage.mk page.rows page.lastRow ((page.secondaryColumns.map some).getD none)
    ((page.fromSql.map some).getD none) ((page.uxReportableError.map some).getD none)) = _
  rw [getD_map_some, getD_map_some, getD_map_some]

end RowsPage

/-- Rows fit beneath the object that holds them, their list and each row. -/
theorem rows_fit_of_yields {room : Nat} {rows : List Row}
    (yields : (Decoder.list Row.decode).Yields room rows) : ∀ row ∈ rows, row.Fits (room - 2) := by
  intro row rowMem entry entryMem
  rcases yields.list_each with ⟨listRoom, listNested, each⟩
  rcases (each row rowMem).orderedMap_each with ⟨rowRoom, rowNested, eachEntry⟩
  have deepest : room - 2 = rowRoom := by omega
  rw [deepest]
  exact (eachEntry entry entryMem).json_fits

theorem RowsPage.rows_fit {room : Nat} {page : RowsPage} (yields : decode.Yields room page) :
    ∀ row ∈ page.rows, row.Fits (room - 3) := by
  rcases RecordFormat.exists_of_decode yields with ⟨inner, slots, rfl, filled, built⟩
  rcases bind_eq_ok.mp built with ⟨rows, required, built⟩
  rcases bind_eq_ok.mp built with ⟨lastRow, _, equal⟩
  cases equal
  exact rows_fit_of_yields (filled .rows rows (RecordFormat.require_eq_ok.mp required))

namespace ShapeInput

theorem rows_fit {room : Nat} {input : ShapeInput} (yields : decode.Yields room input) :
    ∀ row ∈ input.rows, row.Fits (room - 3) := by
  rcases RecordFormat.exists_of_decode yields with ⟨inner, slots, rfl, filled, built⟩
  rcases bind_eq_ok.mp built with ⟨request, _, equal⟩
  cases equal
  dsimp only
  cases found : slots .rows with
  | none => exact List.forall_mem_nil _
  | some rows => exact rows_fit_of_yields (filled .rows rows found)

/-- A page is shaped of the rows that came, or of none after an error. -/
theorem mem_of_shape {input : ShapeInput} {config : Config} {page : RowsPage}
    (shaped : (input.shape config).result = .ok page) {row : Row} (rowMem : row ∈ page.rows) :
    row ∈ input.rows := by
  rw [shape] at shaped
  split at shaped
  · cases shaped
    cases rowMem
  · rw [RowsRequest.shape_result, map_eq_ok] at shaped
    rcases shaped with ⟨columns, _, rfl⟩
    exact rowMem

end ShapeInput

/-- How the library comes by an explanation: one was read, or a compile was explained. -/
inductive Explanation.Arises (room : Nat) (explanation : Explanation) : Prop where
  | read (yields : decode.Yields room explanation)
  | explained {request : RowsRequest} {config : Config} {table : String} {values : PivotValues}
      (explained : (request.explain config table values).result = .ok explanation)
      (fit : explanation.CountsFit)

/-- How the library comes by a page: one was read, or rows or an error were made into one. -/
inductive RowsPage.Arises (room : Nat) (page : RowsPage) : Prop where
  | read (yields : decode.Yields room page)
  | shaped {input : ShapeInput} {config : Config} (shaped : (input.shape config).result = .ok page)
      (fits : ∀ row ∈ input.rows, row.Fits (room - 3))
  /-- The rows were read, together with the request and the query. -/
  | answered {input : ShapeInput} {config : Config} (yields : ShapeInput.decode.Yields room input)
      (shaped : (input.shape config).result = .ok page)

theorem Explanation.Arises.countsFit {room : Nat} {explanation : Explanation}
    (arises : explanation.Arises room) : explanation.CountsFit := by
  cases arises with
  | read yields => exact countsFit_of_yields yields
  | explained _ fit => exact fit

theorem RowsPage.Arises.rows_fit {room : Nat} {page : RowsPage} (arises : page.Arises room) :
    ∀ row ∈ page.rows, row.Fits (room - 3) := by
  intro row rowMem
  cases arises with
  | read yields => exact RowsPage.rows_fit yields row rowMem
  | shaped shaped fits => exact fits row (ShapeInput.mem_of_shape shaped rowMem)
  | answered yields shaped =>
      exact ShapeInput.rows_fit yields row (ShapeInput.mem_of_shape shaped rowMem)

/--
What is sent is read as it was, with the room that there was or more. This holds of all
configurations and all queries, so of those that were read or compiled. A request takes four
levels of nesting, down to the values of a set, even if it came with fewer.
-/
theorem wire_round_trip {room larger : Nat} (wider : room ≤ larger) (enough : 4 ≤ larger) :
    (∀ request, RowsRequest.decode.Yields room request →
        request.RightlyUnknown ∧ RowsRequest.decode.Recovers RowsRequest.json larger request) ∧
      (∀ filter, Filter.decode.Yields room filter →
        filter.RightlyUnknown ∧ Filter.decode.Recovers Filter.json larger filter) ∧
      (∀ config, Config.decode.Recovers Config.json larger config) ∧
      (∀ query, Query.decode.Recovers Query.json larger query) ∧
      (∀ explanation, Explanation.Arises room explanation →
        Explanation.decode.Recovers Explanation.json larger explanation) ∧
      ∀ page, RowsPage.Arises room page →
        RowsPage.decode.Recovers RowsPage.json larger page := by
  obtain ⟨inner, rfl⟩ := Nat.exists_eq_add_of_le' enough
  refine ⟨?_, ?_, ?_, ?_, ?_, ?_⟩
  · intro request yields
    have rightly := RowsRequest.rightlyUnknown_of_yields yields
    exact ⟨rightly, RowsRequest.recovers rightly inner⟩
  · intro filter yields
    have rightly := Filter.rightlyUnknown_of_yields yields
    exact ⟨rightly, Filter.recovers rightly (inner + 2)⟩
  · intro config
    exact config.recovers (inner + 3)
  · intro query
    exact query.recovers (inner + 2)
  · intro explanation arises
    exact Explanation.recovers arises.countsFit (inner + 2)
  · intro page arises
    have fits : ∀ row ∈ page.rows, row.Fits (inner + 1) := fun row rowMem entry entryMem =>
      (arises.rows_fit row rowMem entry entryMem).mono (by omega)
    exact RowsPage.recovers fits

/-- A request that came with its members in another order, under another name for the filters. -/
theorem wire_round_trip_unknownOperator :
    3 ≤ 4 ∧ 4 ≤ 4 ∧ RowsRequest.decode.Recovers RowsRequest.json 4
      ((RowsRequest.new 0 9).setFilter "a" (.text (.unknown "fuzzy") none)) := by
  have read : RowsRequest.decode.Yields 3
      ((RowsRequest.new 0 9).setFilter "a" (.text (.unknown "fuzzy") none)) :=
    ⟨.object [(some "filters", .object [(some "a", .object [(some "type", .text (some "fuzzy")),
      (some "filterType", .text (some "text"))])]), (some "endRow", .number (some (.integer 9))),
      (some "startRow", .number (some (.integer 0)))], rfl⟩
  exact ⟨by decide, by decide, ((wire_round_trip (by decide) (by decide)).1 _ read).2⟩

end RowQuery
