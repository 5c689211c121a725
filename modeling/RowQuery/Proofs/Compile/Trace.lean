import RowQuery.Proofs.Compile.UnknownOperators
import RowQuery.Proofs.Log.Lines

/-!
# What a compile logs

This file says which records a compile logs, by looking at the request alone: the record of
its beginning, a warning for each pivot column without values and for each filter that is
passed over, and one record of its end. Warnings are given as far as the checks get, so
where they stop is told from the faults of the request.

Work in sequence logs what its first part logs and, where that part reports no fault, what
the rest logs. The threshold of the log is applied to the records afterwards; it changes
neither the outcome nor the records themselves.
-/

namespace RowQuery

namespace Traced

section Records

variable {ε α β : Type}

@[simp]
theorem records_liftM (work : Except ε α) : (liftM work : Traced ε α).records = [] := rfl

/-- Work that succeeds logs before the work behind it. -/
theorem records_bind_ok {first : Traced ε α} {value : α} (succeeded : first.result = .ok value)
    (next : α → Traced ε β) : (first >>= next).records = first.records ++ (next value).records := by
  rcases first with ⟨records, result⟩
  subst succeeded
  rfl

/-- Nothing is logged behind work that fails. -/
theorem records_bind_error {first : Traced ε α} {error : ε} (failed : first.result = .error error)
    (next : α → Traced ε β) : (first >>= next).records = first.records := by
  rcases first with ⟨records, result⟩
  subst failed
  rfl

/-- What is done with a value logs nothing. -/
theorem records_map (work : Traced ε α) (change : α → β) :
    (change <$> work).records = work.records := by
  rw [← bind_pure_comp]
  rcases work with ⟨records, result⟩
  cases result with
  | error error => rfl
  | ok value => exact List.append_nil records

end Records

end Traced

/-- Records that are logged only where there are no faults. -/
def recordsUnless (faults : List CompileError) (records : List LogRecord) : List LogRecord :=
  if faults = [] then records else []

/-- Records behind two checks are logged only where both find no faults. -/
theorem recordsUnless_append (faults others : List CompileError) (records : List LogRecord) :
    recordsUnless (faults ++ others) records =
      recordsUnless faults (recordsUnless others records) := by
  simp only [recordsUnless, List.append_eq_nil_iff]
  by_cases faultless : faults = []
  · simp [faultless]
  · simp [faultless]

/-- Work in sequence goes on to log where its first part reports no fault. -/
theorem Reports.records_bind {α β : Type} {first : Traced CompileError α}
    {next : α → Traced CompileError β} {faults : List CompileError} {records : List LogRecord}
    (reports : Reports first.result faults)
    (further : ∀ value, first.result = .ok value → (next value).records = records) :
    (first >>= next).records = first.records ++ recordsUnless faults records := by
  rw [recordsUnless]
  cases faults with
  | nil =>
      rcases reports with ⟨value, succeeded⟩
      rw [Traced.records_bind_ok succeeded, further value succeeded, if_pos rfl]
  | cons error others =>
      rw [Traced.records_bind_error reports, if_neg (List.cons_ne_nil error others),
        List.append_nil]

/-- A check logs nothing, and the work behind it only where the check reports no fault. -/
theorem Reports.records_liftM_bind {α β : Type} {work : Except CompileError α}
    {next : α → Traced CompileError β} {faults : List CompileError} {records : List LogRecord}
    (reports : Reports work faults)
    (further : ∀ value, work = .ok value → (next value).records = records) :
    ((liftM work : Traced CompileError α) >>= next).records = recordsUnless faults records := by
  have lifted : Reports (liftM work : Traced CompileError α).result faults := reports
  rw [lifted.records_bind further, Traced.records_liftM, List.nil_append]

/-- The record of a filter that is passed over, if its operator has no meaning. -/
def Filter.ignoredRecord? (column : String) : Filter → Option LogRecord
  | .text (.unknown operator) _ =>
      some ⟨"FILTER_IGNORED", .warn, [("column", column), ("kind", "text"), ("op", operator)]⟩
  | .number (.unknown operator) _ _ =>
      some ⟨"FILTER_IGNORED", .warn, [("column", column), ("kind", "number"), ("op", operator)]⟩
  | _ => none

/-- A warning for each pivot column without values, up to a column without a name. -/
def Expansion.missingValuesRecords (values : PivotValues) (columns : List ColumnSpec) :
    List LogRecord :=
  ((columns.takeWhile fun column => column.field ≠ "").filter fun column =>
    (values.get? column.field).getD [] = []).map fun column =>
      ⟨"PIVOT_VALUES_MISSING", .warn, [("column", column.field)]⟩

namespace RowsRequest

/-- What is wrong with a request before its pivot columns are looked at. -/
def earlyFaults (config : Config) (table : String) (request : RowsRequest) : List CompileError :=
  request.windowFaults config ++ faultIf (Table.Unnamed table) (.emptyIdentifier .tableName) ++
    request.columnFaults ++ request.groupFaults

/-- The warnings about pivot columns without values. -/
def missingValuesRecords (values : PivotValues) (request : RowsRequest) : List LogRecord :=
  if request.pivotMode ∧ request.pivotColumns ≠ [] then
    Expansion.missingValuesRecords values request.pivotColumns
  else []

/-- A warning for each filter that is passed over, up to a filter that is refused. -/
def ignoredRecords (config : Config) (request : RowsRequest) : List LogRecord :=
  if config.unknownOperator = .ignore then
    (request.filters.entries.takeWhile fun entry => entry.2.faults .ignore entry.1 = []).filterMap
      fun entry => entry.2.ignoredRecord? entry.1
  else []

/-- The warnings of a compile, as far as it gets. -/
def warnings (config : Config) (table : String) (values : PivotValues) (request : RowsRequest) :
    List LogRecord :=
  recordsUnless (request.earlyFaults config table) (request.missingValuesRecords values) ++
    recordsUnless (request.checkFaults config table ++ request.aggregateFaults)
      (request.ignoredRecords config)

/-- What kind of statement a request compiles to, if it does. -/
def mode (request : RowsRequest) : CompileMode :=
  if request.pivots then .pivot else if request.rowGroups = [] then .flat else .grouped

/-- The record of the beginning of a compile. -/
def openingRecord (table : String) (request : RowsRequest) : LogRecord :=
  ⟨"COMPILE_START", .trace, [("table", table), ("start_row", toString request.startRow.toInt),
    ("end_row", toString request.endRow.toInt)]⟩

/-- The word for the kind of statement that a request compiles to, if it does. -/
def modeWord (request : RowsRequest) : String :=
  if request.pivotMode ∧ request.pivotColumns ≠ [] then "pivot"
  else if request.rowGroups = [] then "flat"
  else "grouped"

/-- The record of the end of a compile. -/
def closingRecord {α : Type} (table : String) (request : RowsRequest) :
    Except CompileError α → LogRecord
  | .ok _ => ⟨"COMPILE_COMPLETE", .trace, [("table", table), ("mode", request.modeWord)]⟩
  | .error error =>
      ⟨"COMPILE_REJECTED", .warn,
        [("table", table), ("code", error.code), ("message", error.message)]⟩

/-- All that is logged of a compile with some outcome. -/
def trace {α : Type} (config : Config) (table : String) (values : PivotValues)
    (request : RowsRequest) (outcome : Except CompileError α) : List LogRecord :=
  request.openingRecord table :: request.warnings config table values ++
    [request.closingRecord table outcome]

end RowsRequest

/-- The severities that reach a threshold: the threshold itself, and those above it. -/
def Severity.reaching : Severity → List Severity
  | .trace => [.trace, .info, .warn, .error]
  | .info => [.info, .warn, .error]
  | .warn => [.warn, .error]
  | .error => [.error]

/-- The severities that reach a threshold are those at or above it. -/
theorem Severity.mem_reaching {minimum severity : Severity} :
    severity ∈ minimum.reaching ↔ minimum ≤ severity := by
  cases minimum with
  | _ =>
      cases severity with
      | _ => decide

/-- A pivot column with a name is recorded if it has no values. -/
theorem Axis.resolve_records (values : PivotValues) (column : ColumnSpec) :
    (Axis.resolve values column).records =
      if column.field ≠ "" ∧ (values.get? column.field).getD [] = [] then
        [⟨"PIVOT_VALUES_MISSING", .warn, [("column", column.field)]⟩]
      else [] := by
  rw [Axis.resolve]
  by_cases unnamed : column.field = ""
  · rw [if_pos (by simpa using unnamed), if_neg (fun both => both.1 unnamed)]
    rfl
  · rw [if_neg (by simpa using unnamed)]
    split
    · next missing =>
        rw [if_pos ⟨unnamed, missing⟩]
        rfl
    · next found =>
        rw [if_neg (fun both => found both.2)]
        rfl

/-- The axes are resolved one after the other, up to the first column without a name. -/
theorem Axis.mapM_resolve_records (columns : List ColumnSpec) (values : PivotValues) :
    (columns.mapM (resolve values)).records = Expansion.missingValuesRecords values columns := by
  unfold Expansion.missingValuesRecords
  induction columns with
  | nil => rfl
  | cons first others ih =>
      rw [List.mapM_cons]
      by_cases unnamed : first.field = ""
      · have failed : (resolve values first).result = .error (.emptyIdentifier .pivotColumn) := by
          rw [resolve_result, if_pos unnamed]
        rw [Traced.records_bind_error failed, resolve_records,
          if_neg (fun both => both.1 unnamed), List.takeWhile_cons_of_neg (by simpa using unnamed)]
        rfl
      · have found : (resolve values first).result = .ok (supplied values first) := by
          rw [resolve_result, if_neg unnamed]
        have remaining : (others.mapM (resolve values) >>= fun axes =>
            pure (supplied values first :: axes)).records =
              (others.mapM (resolve values)).records := by
          rw [bind_pure_comp, Traced.records_map]
        rw [Traced.records_bind_ok found, remaining, ih, resolve_records,
          List.takeWhile_cons_of_pos (by simpa using unnamed), List.filter_cons]
        by_cases missing : (values.get? first.field).getD [] = []
        · simp [missing, unnamed]
        · simp [missing]

/-- Pivot columns are recorded as far as they have names. -/
theorem Expansion.resolve_records (columns : List ColumnSpec) (values : PivotValues) :
    (Expansion.resolve columns values).records =
      Expansion.missingValuesRecords values columns := by
  have renamed : (columns.mapM (Axis.resolve values) >>= fun axes => pure (⟨axes⟩ : Expansion)) =
      Expansion.mk <$> columns.mapM (Axis.resolve values) := bind_pure_comp _ _
  rw [Expansion.resolve, renamed, Traced.records_map, Axis.mapM_resolve_records]

namespace Filter

variable (policy : OperatorPolicy) (column : String)

/--
A filter is passed over with a record, or it logs nothing. Only an operator without a meaning has a
record, and under a policy that passes it over it is no fault.
-/
theorem compile_records (filter : Filter) :
    (filter.compile policy column).records =
      if policy = .ignore ∧ filter.faults .ignore column = [] then
        (filter.ignoredRecord? column).toList
      else [] := by
  unfold compile
  by_cases unnamed : column = ""
  · have faulty : filter.faults .ignore column ≠ [] := by simp [faults, unnamed]
    rw [if_pos (by simpa using unnamed), if_neg (fun both => faulty both.2)]
    rfl
  · rw [if_neg (by simpa using unnamed)]
    have passedOver (kind operator : String) :
        (compileUnknown policy column kind operator).records =
          if policy = .ignore then
            [⟨"FILTER_IGNORED", .warn, [("column", column), ("kind", kind), ("op", operator)]⟩]
          else [] := by
      cases policy with
      | ignore => rfl
      | reject => rfl
    cases filter with
    | text operator value =>
        cases operator with
        | unknown name =>
            simp [compileText, passedOver, faults, TextOperator.faults, unnamed, ignoredRecord?]
        | blank => exact (ite_self _).symm
        | notBlank => exact (ite_self _).symm
        | _ =>
            cases value with
            | none => exact (ite_self _).symm
            | some content => exact (ite_self _).symm
    | number operator value upper =>
        cases operator with
        | unknown name =>
            simp [compileNumber, passedOver, faults, NumberOperator.faults, unnamed,
              ignoredRecord?]
        | _ =>
            cases value with
            | none => exact (ite_self _).symm
            | some low =>
                cases upper with
                | none => exact (ite_self _).symm
                | some high => exact (ite_self _).symm
    | set values => exact (ite_self _).symm

/-- Filters are passed over with a record each, up to the first one that is refused. -/
theorem compileEach_records (entries : List (String × Filter)) :
    (compileEach policy entries).records =
      if policy = .ignore then
        (entries.takeWhile fun entry => entry.2.faults .ignore entry.1 = []).filterMap
          fun entry => entry.2.ignoredRecord? entry.1
      else [] := by
  induction entries with
  | nil => exact (ite_self _).symm
  | cons entry rest ih =>
      rcases entry with ⟨column, filter⟩
      have further (predicate : Option Predicate) :
          (compileEach policy rest >>= fun predicates =>
            pure (predicate.toList ++ predicates)).records = (compileEach policy rest).records := by
        rw [bind_pure_comp, Traced.records_map]
      have reports := compile_reports policy column filter
      rw [compileEach, reports.records_bind fun predicate _ => (further predicate).trans ih,
        compile_records, recordsUnless]
      by_cases ignoring : policy = .ignore
      · subst ignoring
        by_cases faultless : filter.faults .ignore column = []
        · rw [List.takeWhile_cons_of_pos (by simpa using faultless), List.filterMap_cons]
          cases filter.ignoredRecord? column with
          | none => simp [faultless]
          | some record => simp [faultless]
        · rw [List.takeWhile_cons_of_neg (by simpa using faultless)]
          simp [faultless]
      · simp [ignoring]

end Filter

namespace Context

/-- Pivot columns are recorded if the request pivots. -/
theorem resolvePivot_records (request : RowsRequest) (values : PivotValues) :
    (resolvePivot request values).records = request.missingValuesRecords values := by
  simp only [resolvePivot, RowsRequest.missingValuesRecords, ← request.pivots_iff]
  split
  · rw [Traced.records_map, Expansion.resolve_records]
  · rfl

/-- The checks log only once they have come to the pivot columns. -/
theorem resolve_records (config : Config) (table : String) (request : RowsRequest)
    (values : PivotValues) :
    (resolve config table request values).records =
      recordsUnless (request.earlyFaults config table) (request.missingValuesRecords values) := by
  have pivoted (size : UInt64) (source : Table) (drill : DrillPath) :
      (resolvePivot request values >>= fun pivot =>
        pure (⟨request, source, drill, pivot, config.unknownOperator, size.toInt64⟩ :
          Context)).records = request.missingValuesRecords values := by
    rw [bind_pure_comp, Traced.records_map, resolvePivot_records]
  simp only [RowsRequest.earlyFaults, recordsUnless_append, resolve]
  refine (checkWindow_reports config request).records_liftM_bind fun size _ => ?_
  refine (checkTable_reports table).records_liftM_bind fun source _ => ?_
  refine (checkColumns_reports request).records_liftM_bind fun _ _ => ?_
  exact (drill_reports request).records_liftM_bind fun drill _ => pivoted size source drill

/-- A statement logs the filters that are passed over, once its select list is accepted. -/
theorem Reflects.statement_records {context : Context} {config : Config} {table : String}
    {request : RowsRequest} {values : PivotValues}
    (reflects : context.Reflects config table request values) :
    context.statement.records =
      recordsUnless request.aggregateFaults (request.ignoredRecords config) := by
  have conditioned : context.condition.records = request.ignoredRecords config := by
    have joined := bind_pure_comp
      (fun filters => Predicate.all? (context.drill.predicates ++ filters))
      (Filter.compileEach context.policy context.request.filters.entries)
    rw [condition, joined, Traced.records_map, Filter.compileEach_records, reflects.policy_eq,
      reflects.request_eq, RowsRequest.ignoredRecords]
  rw [statement]
  refine reflects.selectItems_reports.records_liftM_bind fun items _ => ?_
  rw [bind_pure_comp, Traced.records_map, conditioned]

/-- The kind of a statement is told by the request. -/
theorem Reflects.mode_eq {context : Context} {config : Config} {table : String}
    {request : RowsRequest} {values : PivotValues}
    (reflects : context.Reflects config table request values) : context.mode = request.mode := by
  rw [mode, RowsRequest.mode, reflects.pivot_eq, DrillPath.isGrouping, reflects.rowGroups_eq]
  by_cases pivots : request.pivots
  · simp [pivots]
  · by_cases ungrouped : request.rowGroups = []
    · simp [pivots, ungrouped]
    · simp [pivots, ungrouped]

end Context

namespace RowsRequest

variable (request : RowsRequest) (config : Config) (table : String) (values : PivotValues)

/-- Between its beginning and its end a compile logs its warnings. -/
theorem compileContext_records :
    (request.compileContext config table values).records =
      request.warnings config table values := by
  have stated (context : Context)
      (resolved : (Context.resolve config table request values).result = .ok context) :
      (context.statement >>= fun statement =>
          pure (context, statement.render config.dialect)).records =
        recordsUnless request.aggregateFaults (request.ignoredRecords config) := by
    rw [bind_pure_comp, Traced.records_map, (Context.resolve_ok resolved).statement_records]
  rw [compileContext, (Context.resolve_reports config request table values).records_bind stated,
    Context.resolve_records, warnings, recordsUnless_append]

end RowsRequest

namespace Traced

theorem startRecord_eq (table : String) (request : RowsRequest) :
    startRecord table request = request.openingRecord table := by
  simp only [startRecord, RowsRequest.openingRecord, intText_eq_toString]
  rfl

theorem name_mode (request : RowsRequest) : request.mode.name = request.modeWord := by
  simp only [RowsRequest.mode, RowsRequest.modeWord, ← request.pivots_iff]
  by_cases pivots : request.pivots
  · simp [pivots, CompileMode.name]
  · by_cases ungrouped : request.rowGroups = []
    · simp [pivots, ungrouped, CompileMode.name]
    · simp [pivots, ungrouped, CompileMode.name]

/-- The records around the work tell how it ended. -/
theorem logged_records {α : Type} {table : String} {request : RowsRequest}
    {work : Traced CompileError (α × CompileMode)}
    (moded : ∀ value mode, work.result = .ok (value, mode) → mode = request.mode) :
    (logged table request work).records = request.openingRecord table :: work.records ++
      [request.closingRecord table (logged table request work).result] := by
  rw [← startRecord_eq]
  rcases work with ⟨records, result⟩
  cases result with
  | error error => rfl
  | ok outcome =>
      rcases outcome with ⟨value, mode⟩
      have closing : completeRecord table mode = request.closingRecord table (.ok value) := by
        rw [moded value mode rfl, completeRecord, RowsRequest.closingRecord, ← name_mode]
        rfl
      simp only [logged, closing]

end Traced

namespace RowsRequest

variable (request : RowsRequest) (config : Config) (table : String) (values : PivotValues)

/-- Whatever is made of a checked request and its query, the same is logged. -/
theorem logged_trace {α : Type} (build : Context × Query → α) :
    let outcome := Traced.logged table request
      (request.compileContext config table values >>= fun found =>
        pure (build found, found.1.mode))
    outcome.records = request.trace config table values outcome.result := by
  intro outcome
  have moded (value : α) (mode : CompileMode)
      (found : (request.compileContext config table values >>= fun found =>
        (pure (build found, found.1.mode) : Traced CompileError _)).result = .ok (value, mode)) :
      mode = request.mode := by
    rw [Traced.result_bind, bind_eq_ok] at found
    rcases found with ⟨⟨context, query⟩, compiled, equal⟩
    cases equal
    rw [compileContext_result, bind_eq_ok] at compiled
    rcases compiled with ⟨resolvedContext, resolved, rendered⟩
    rw [map_eq_ok] at rendered
    rcases rendered with ⟨statement, _, equal⟩
    cases equal
    exact (Context.resolve_ok resolved).mode_eq
  have worked : (request.compileContext config table values >>= fun found =>
      (pure (build found, found.1.mode) : Traced CompileError _)).records =
        request.warnings config table values := by
    rw [bind_pure_comp, Traced.records_map, compileContext_records]
  rw [trace, Traced.logged_records moded, worked]

/-- A compile logs the trace that its request tells. -/
theorem compile_records :
    (request.compile config table values).records =
      request.trace config table values (request.compile config table values).result :=
  request.logged_trace config table values Prod.snd

/-- An explanation logs the same trace as a compile. -/
theorem explain_records :
    (request.explain config table values).records =
      request.trace config table values (request.explain config table values).result :=
  request.logged_trace config table values fun found =>
    Explanation.ofQuery found.1 found.2 config.dialect

end RowsRequest

/-- The lines of a log are those of the records that reach its threshold. -/
theorem LogRecord.written_eq (minimum : Severity) (records : List LogRecord) :
    written minimum records =
      (records.filter fun record => record.severity ∈ minimum.reaching).map line := by
  simp only [written, Severity.mem_reaching]

/--
Compiling and explaining log the beginning, the warnings and the end of their work, all of which
is written under the lowest threshold. Under any other one the outcome is the same, and of these
records those are written that reach it. Each record has a line of its own, from which it can be
read.
-/
theorem compile_trace (request : RowsRequest) (config : Config) (table : String)
    (values : PivotValues) :
    let compiled (minimum : Severity) :=
      request.compile { config with logLevel := minimum } table values
    let explained (minimum : Severity) :=
      request.explain { config with logLevel := minimum } table values
    let compileTrace := request.trace config table values (compiled .trace).result
    let explainTrace := request.trace config table values (explained .trace).result
    (LogRecord.written .trace (compiled .trace).records = compileTrace.map LogRecord.line ∧
      LogRecord.written .trace (explained .trace).records = explainTrace.map LogRecord.line) ∧
    (∀ minimum,
      ((compiled minimum).result = (compiled .trace).result ∧
        LogRecord.written minimum (compiled minimum).records =
          (compileTrace.filter fun record => record.severity ∈ minimum.reaching).map
            LogRecord.line) ∧
      (explained minimum).result = (explained .trace).result ∧
        LogRecord.written minimum (explained minimum).records =
          (explainTrace.filter fun record => record.severity ∈ minimum.reaching).map
            LogRecord.line) ∧
    ∀ record : LogRecord, record.ReadFrom record.line := by
  intro compiled explained compileTrace explainTrace
  have levelUnread (minimum : Severity) :
      compiled minimum = compiled .trace ∧ explained minimum = explained .trace := ⟨rfl, rfl⟩
  have compiledRecords : (compiled .trace).records = compileTrace :=
    request.compile_records config table values
  have explainedRecords : (explained .trace).records = explainTrace :=
    request.explain_records config table values
  have allReach (records : List LogRecord) :
      (records.filter fun record => record.severity ∈ Severity.trace.reaching) = records := by
    rw [List.filter_eq_self]
    intro record _
    exact decide_eq_true (Severity.mem_reaching.mpr (Nat.zero_le _))
  refine ⟨⟨?_, ?_⟩, ?_, LogRecord.readFrom_line⟩
  · rw [LogRecord.written_eq, compiledRecords, allReach]
  · rw [LogRecord.written_eq, explainedRecords, allReach]
  · intro minimum
    rcases levelUnread minimum with ⟨sameCompiled, sameExplained⟩
    rw [sameCompiled, sameExplained, LogRecord.written_eq, LogRecord.written_eq, compiledRecords,
      explainedRecords]
    exact ⟨⟨rfl, rfl⟩, rfl, rfl⟩

/-- A pivot column without values, a filter that is passed over, and one that is refused. -/
example :
    let column : ColumnSpec := .ofField "q" none
    let pivoted := ((RowsRequest.new 0 9).addRowGroup (.ofField "r" none)).addPivot column
    let request := ((pivoted.setFilter "a" (.text (.unknown "fuzzy") none)).setFilter
      "b" (.text .equals none)).setFilter "c" (.text (.unknown "near") none)
    (request.compile .default "t" .empty).records =
      [⟨"COMPILE_START", .trace, [("table", "t"), ("start_row", "0"), ("end_row", "9")]⟩,
        ⟨"PIVOT_VALUES_MISSING", .warn, [("column", "q")]⟩,
        ⟨"FILTER_IGNORED", .warn, [("column", "a"), ("kind", "text"), ("op", "fuzzy")]⟩,
        ⟨"COMPILE_REJECTED", .warn, [("table", "t"), ("code", "GRIDSQL_MISSING_FILTER_VALUE"),
          ("message", "Filter 'equals' on column 'b' requires a filter value")]⟩] := by
  decide

end RowQuery
