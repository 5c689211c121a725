import Mathlib.Data.List.TakeWhile
import RowQuery.Proofs.Compile.Resolved

/-!
# What is wrong with a request

This file says which requests are refused, and with which error. `RowsRequest.faults` lists
all that is wrong with a request, in the order in which it counts, by looking at the request
alone: at its window in unbounded integers, at its names, at its aggregate functions and at
its filters. An outcome `Reports` such a list if it is a success where the list is empty and
the first fault otherwise.

Reporting goes through work in sequence: if each part reports its own faults, the whole
reports them one after the other. So each check is compared with its faults by itself, and
the order of the checks is read off the order of the lists. Which checks a request meets
depends on how it pivots; the supplied pivot values never matter.
-/

namespace RowQuery

section Reporting

variable {ε α β : Type}

/-- The outcome is a success if there are no faults, and the first of them otherwise. -/
def Reports (outcome : Except ε α) : List ε → Prop
  | [] => ∃ value, outcome = .ok value
  | first :: _ => outcome = .error first

theorem reports_ok (value : α) : Reports (.ok value : Except ε α) [] := ⟨value, rfl⟩

/-- Only where there are no faults can the outcome be a success. -/
theorem Reports.eq_nil_of_ok {outcome : Except ε α} {faults : List ε} {value : α}
    (reports : Reports outcome faults) (succeeded : outcome = .ok value) : faults = [] := by
  cases faults with
  | nil => rfl
  | cons first others =>
      have failed : outcome = .error first := reports
      rw [succeeded] at failed
      cases failed

/-- The error of an outcome is its first fault. -/
theorem Reports.eq_cons_of_error {outcome : Except ε α} {faults : List ε} {error : ε}
    (reports : Reports outcome faults) (failed : outcome = .error error) :
    ∃ others, faults = error :: others := by
  cases faults with
  | nil =>
      rcases reports with ⟨value, succeeded⟩
      rw [failed] at succeeded
      cases succeeded
  | cons first others =>
      have reported : outcome = .error first := reports
      rw [failed] at reported
      cases reported
      exact ⟨others, rfl⟩

/-- Outcomes with the same faults agree on whether there is a value. -/
theorem Reports.agree {outcome : Except ε α} {other : Except ε β} {faults : List ε}
    (reports : Reports outcome faults) (otherReports : Reports other faults) :
    Agree (fun _ _ => True) outcome other := by
  cases faults with
  | nil =>
      rcases reports with ⟨value, succeeded⟩
      rcases otherReports with ⟨otherValue, otherSucceeded⟩
      rw [succeeded, otherSucceeded]
      exact .accepted trivial
  | cons first rest =>
      have failed : outcome = .error first := reports
      have otherFailed : other = .error first := otherReports
      rw [failed, otherFailed]
      exact .refused first

/-- Work in sequence meets the faults of its first part before those of the rest. -/
theorem Reports.bind {outcome : Except ε α} {next : α → Except ε β} {faults others : List ε}
    (reports : Reports outcome faults)
    (nextReports : ∀ value, outcome = .ok value → Reports (next value) others) :
    Reports (outcome >>= next) (faults ++ others) := by
  cases faults with
  | nil =>
      rcases reports with ⟨value, succeeded⟩
      subst succeeded
      exact nextReports value rfl
  | cons first rest =>
      have failed : outcome = .error first := reports
      subst failed
      exact rfl

/-- What is done with a value changes nothing about the faults. -/
theorem Reports.map {outcome : Except ε α} {faults : List ε} (reports : Reports outcome faults)
    (change : α → β) : Reports (outcome.map change) faults := by
  cases faults with
  | nil =>
      rcases reports with ⟨value, succeeded⟩
      subst succeeded
      exact reports_ok (change value)
  | cons first rest =>
      have failed : outcome = .error first := reports
      subst failed
      exact rfl

theorem Reports.bind_ok {outcome : Except ε α} {faults : List ε} (reports : Reports outcome faults)
    (build : α → β) : Reports (outcome >>= fun value => .ok (build value)) faults := by
  rw [bind_ok_eq_map]
  exact reports.map build

/-- Work on several inputs meets the faults of one input after the other. -/
theorem Reports.mapM {work : α → Except ε β} {faults : α → List ε}
    (each : ∀ input, Reports (work input) (faults input)) (inputs : List α) :
    Reports (inputs.mapM work) (inputs.flatMap faults) := by
  induction inputs with
  | nil => exact reports_ok []
  | cons first rest ih =>
      rw [List.mapM_cons, List.flatMap_cons]
      apply (each first).bind
      intro value _
      exact ih.bind_ok (value :: ·)

end Reporting

/-- The fault that there is if a condition holds. -/
def faultIf (condition : Prop) [Decidable condition] (fault : CompileError) : List CompileError :=
  if condition then [fault] else []

@[simp]
theorem faultIf_eq_nil {condition : Prop} [Decidable condition] {fault : CompileError} :
    faultIf condition fault = [] ↔ ¬condition := by
  rw [faultIf]
  split
  · next holds => simp [holds]
  · next fails => simp [fails]

@[simp]
theorem mem_faultIf {condition : Prop} [Decidable condition] {fault error : CompileError} :
    error ∈ faultIf condition fault ↔ condition ∧ error = fault := by
  rw [faultIf]
  split
  · next holds => simp [holds]
  · next fails => simp [fails]

/-- A check for one condition, and what comes after it. -/
theorem reports_ite {α : Type} {condition checked : Prop} [Decidable condition]
    [Decidable checked] {fault : CompileError} {outcome : Except CompileError α}
    {others : List CompileError} (same : checked ↔ condition)
    (reports : ¬condition → Reports outcome others) :
    Reports (if checked then .error fault else outcome) (faultIf condition fault ++ others) := by
  by_cases holds : condition
  · rw [if_pos (same.mpr holds), faultIf, if_pos holds]
    exact rfl
  · rw [if_neg (fun met => holds (same.mp met)), faultIf, if_neg holds]
    exact reports holds

/-- A single check reports what it checks for. -/
theorem reports_ite_ok {α : Type} {condition checked : Prop} [Decidable condition]
    [Decidable checked] (fault : CompileError) (value : α) (same : checked ↔ condition) :
    Reports (if checked then .error fault else .ok value) (faultIf condition fault) := by
  rw [← List.append_nil (faultIf condition fault)]
  exact reports_ite same fun _ => reports_ok value

/-- A table without a name, or with an empty part before or behind its first dot. -/
def Table.Unnamed (qualified : String) : Prop :=
  qualified = "" ∨ ∃ schema name, qualified.toList = schema ++ '.' :: name ∧ '.' ∉ schema ∧
    (schema = [] ∨ name = [])

/-- A table has no name where a part of it is empty. -/
theorem Table.ofQualified?_eq_none_iff (qualified : String) :
    ofQualified? qualified = none ↔ Unnamed qualified := by
  have noDot : '.' ∉ qualified.toList.takeWhile (· ≠ '.') := by
    intro dotMem
    simpa using List.mem_takeWhile_imp dotMem
  have whole := List.takeWhile_append_dropWhile (p := (· ≠ '.')) (l := qualified.toList)
  rw [ofQualified?, Unnamed]
  constructor
  · intro refused
    split at refused
    · next undotted =>
        left
        rw [undotted, List.append_nil] at whole
        rw [← String.toList_eq_nil_iff, ← whole]
        simpa using refused
    · next name dotted =>
        right
        have dot := List.head?_dropWhile_not (· ≠ '.') qualified.toList
        simp only [dotted, List.head?_cons, decide_eq_false_iff_not, not_not] at dot
        rw [dotted, dot] at whole
        split at refused
        · next incomplete =>
            refine ⟨_, name, whole.symm, noDot, ?_⟩
            simpa only [Bool.or_eq_true, List.isEmpty_iff] using incomplete
        · cases refused
  · rintro (rfl | ⟨schema, name, equal, undotted, empty⟩)
    · rfl
    · have plain : ∀ character ∈ schema, decide (character ≠ '.') = true := by
        intro character characterMem
        rw [decide_eq_true_iff]
        rintro rfl
        exact undotted characterMem
      rw [equal, List.takeWhile_append_of_pos plain, List.dropWhile_append_of_pos plain]
      rcases empty with rfl | rfl
      · simp
      · simp

instance (qualified : String) : Decidable (Table.Unnamed qualified) :=
  decidable_of_iff _ (Table.ofQualified?_eq_none_iff qualified)

/-- The names of the aggregate functions that are offered, in small letters. -/
def Aggregate.offered : List String := ["sum", "avg", "count", "min", "max"]

/-- What is wrong with the aggregate function of a column, which may have to have one. -/
def ColumnSpec.aggregateFaults (required : Bool) (column : ColumnSpec) : List CompileError :=
  let function := column.aggregate.getD ""
  if function = "" then faultIf required (.missingAggregate column.field)
  else faultIf (function.toLower ∉ Aggregate.offered) (.unsupportedAggregate column.field function)

/-- What is wrong with a text operator that was given a value or none. -/
def TextOperator.faults (policy : OperatorPolicy) (column : String) (value : Option String) :
    TextOperator → List CompileError
  | .unknown name => faultIf (policy = .reject) (.unknownOperator column "text" name)
  | operator =>
      faultIf (operator.takesValue ∧ value = none) (.missingFilterValue column operator.name .value)

/-- What is wrong with a number operator. Only a range needs an upper bound as well. -/
def NumberOperator.faults (policy : OperatorPolicy) (column : String)
    (value upper : Option Number) : NumberOperator → List CompileError
  | .unknown name => faultIf (policy = .reject) (.unknownOperator column "number" name)
  | operator =>
      faultIf (value = none) (.missingFilterValue column operator.name .value) ++
        faultIf (operator = .inRange ∧ upper = none)
          (.missingFilterValue column operator.name .upper)

/-- What is wrong with a filter on a column. -/
def Filter.faults (policy : OperatorPolicy) (column : String) (filter : Filter) :
    List CompileError :=
  faultIf (column = "") (.emptyIdentifier .filterColumn) ++
    match filter with
    | .text operator value => operator.faults policy column value
    | .number operator value upper => operator.faults policy column value upper
    | .set _ => []

namespace RowsRequest

/-- What is wrong with the window of a request. -/
def windowFaults (config : Config) (request : RowsRequest) : List CompileError :=
  let size := request.endRow.toInt - request.startRow.toInt + 1
  faultIf (request.startRow.toInt < 0 ∨ request.endRow.toInt < request.startRow.toInt)
      (.invalidWindow request.startRow request.endRow) ++
    faultIf (config.maxPageSize.toNat < size)
      (.pageTooLarge (.ofNat size.toNat) config.maxPageSize)

/-- What is wrong with the columns that are shown or sorted by. -/
def columnFaults (request : RowsRequest) : List CompileError :=
  faultIf (∃ column ∈ request.valueColumns, column.field = "") (.emptyIdentifier .valueColumn) ++
    faultIf (∃ spec ∈ request.sort, spec.column = "") (.emptyIdentifier .sortColumn)

/-- What is wrong with the groups of a request. -/
def groupFaults (request : RowsRequest) : List CompileError :=
  faultIf (∃ column ∈ request.rowGroups, column.field = "") (.emptyIdentifier .rowGroupColumn) ++
    faultIf (request.rowGroups.length < request.groupKeys.length)
      (.tooManyGroupKeys request.groupKeys.length request.rowGroups.length)

/-- What is wrong with the columns that a request pivots by. -/
def pivotFaults (request : RowsRequest) : List CompileError :=
  faultIf (request.pivots ∧ ∃ column ∈ request.pivotColumns, column.field = "")
    (.emptyIdentifier .pivotColumn)

/--
What is wrong with the aggregate functions of a request. Pivoting takes one from every
value column, except that without groups no value column is looked at.
-/
def aggregateFaults (request : RowsRequest) : List CompileError :=
  if request.pivots ∧ request.rowGroups = [] then []
  else request.valueColumns.flatMap (ColumnSpec.aggregateFaults request.pivots)

/-- What is wrong with the filters of a request. -/
def filterFaults (config : Config) (request : RowsRequest) : List CompileError :=
  request.filters.entries.flatMap fun entry => entry.2.faults config.unknownOperator entry.1

/-- What is wrong with a request for rows of a table, apart from its clauses. -/
def checkFaults (config : Config) (table : String) (request : RowsRequest) : List CompileError :=
  request.windowFaults config ++ faultIf (Table.Unnamed table) (.emptyIdentifier .tableName) ++
    request.columnFaults ++ request.groupFaults ++ request.pivotFaults

/-- All that is wrong with a request for rows of a table, in the order in which it counts. -/
def faults (config : Config) (table : String) (request : RowsRequest) : List CompileError :=
  request.checkFaults config table ++ request.aggregateFaults ++ request.filterFaults config

end RowsRequest

namespace Context

variable (config : Config) (request : RowsRequest)

/--
A window is refused for what is wrong with it. Its size is compared and reported as a machine word,
which holds it.
-/
theorem checkWindow_reports :
    Reports (checkWindow config request) (request.windowFaults config) := by
  have misplaced : request.startRow < 0 ∨ request.endRow < request.startRow ↔
      request.startRow.toInt < 0 ∨ request.endRow.toInt < request.startRow.toInt := by
    rw [Int64.lt_iff_toInt_lt, Int64.lt_iff_toInt_lt]
    rfl
  refine reports_ite misplaced ?_
  intro inOrder
  rw [← misplaced, not_or, Int64.not_lt, Int64.not_lt] at inOrder
  have size := windowSize_toNat inOrder.1 inOrder.2
  rw [← size, Int.toNat_natCast, UInt64.ofNat_toNat]
  apply reports_ite_ok
  rw [UInt64.lt_iff_toNat_lt, Int.ofNat_lt]

/-- A table is refused if it has no name. -/
theorem checkTable_reports (table : String) :
    Reports (checkTable table) (faultIf (Table.Unnamed table) (.emptyIdentifier .tableName)) := by
  rw [checkTable]
  split
  · next source found =>
      have named : ¬Table.Unnamed table := by
        rw [← Table.ofQualified?_eq_none_iff, found]
        exact Option.some_ne_none source
      rw [faultIf, if_neg named]
      exact reports_ok source
  · next missing =>
      rw [faultIf, if_pos ((Table.ofQualified?_eq_none_iff table).mp missing)]
      exact rfl

/-- Value columns and sort entries are refused if one of them has no name. -/
theorem checkColumns_reports : Reports (checkColumns request) request.columnFaults := by
  apply reports_ite (by simp)
  intro _
  exact reports_ite_ok _ _ (by simp)

/-- Groups are refused if one has no name, and then if there are more keys than groups. -/
theorem drill_reports : Reports (DrillPath.resolve request) request.groupFaults := by
  apply reports_ite (by simp)
  intro _
  by_cases fits : request.groupKeys.length ≤ request.rowGroups.length
  · rw [dif_pos (by simpa using fits), faultIf, if_neg (Nat.not_lt.mpr fits)]
    exact reports_ok _
  · rw [dif_neg (by simpa using fits), faultIf, if_pos (Nat.not_le.mp fits), List.length_map]
    exact rfl

/-- Pivot columns are refused if one has no name and the request pivots. -/
theorem resolvePivot_reports (values : PivotValues) :
    Reports (resolvePivot request values).result request.pivotFaults := by
  rw [resolvePivot, RowsRequest.pivotFaults]
  by_cases pivots : request.pivots
  · rw [if_pos pivots, Traced.result_map, Expansion.resolve_result]
    apply Reports.map
    exact reports_ite_ok _ _ (by simp [pivots])
  · rw [if_neg pivots, faultIf, if_neg (fun both => pivots both.1)]
    exact reports_ok none

/-- The checks are made in the order of the faults. -/
theorem resolve_reports (table : String) (values : PivotValues) :
    Reports (resolve config table request values).result (request.checkFaults config table) := by
  simp only [resolve, Traced.result_bind, Traced.result_liftM, Traced.result_pure,
    RowsRequest.checkFaults, List.append_assoc]
  refine (checkWindow_reports config request).bind fun size _ => ?_
  refine (checkTable_reports table).bind fun source _ => ?_
  refine (checkColumns_reports request).bind fun _ _ => ?_
  refine (drill_reports request).bind fun drill _ => ?_
  exact (resolvePivot_reports request values).bind_ok _

end Context

/-- A function is not offered if its name is none of the offered ones, in lower case. -/
theorem Aggregate.ofName?_eq_none_iff (name : String) :
    ofName? name = none ↔ name.toLower ∉ offered := by
  rw [ofName?, offered]
  split
  · next sum => simp [sum]
  · next avg => simp [avg]
  · next count => simp [count]
  · next min => simp [min]
  · next max => simp [max]
  · next noSum noAvg noCount noMin noMax =>
      simp only [List.mem_cons, List.not_mem_nil, or_false, not_or, true_iff]
      exact ⟨noSum, noAvg, noCount, noMin, noMax⟩

/-- A function that is not offered is refused, whatever it would be used for. -/
theorem aggregate_reports {α : Type} (column : ColumnSpec) (name : String)
    (build : Aggregate → α) :
    Reports
      (match Aggregate.ofName? name with
        | none => .error (.unsupportedAggregate column.field name)
        | some function => .ok (build function))
      (faultIf (name.toLower ∉ Aggregate.offered) (.unsupportedAggregate column.field name)) := by
  by_cases offered : name.toLower ∈ Aggregate.offered
  · have known : Aggregate.ofName? name ≠ none := by
      rw [Ne, Aggregate.ofName?_eq_none_iff]
      exact not_not_intro offered
    rcases Option.ne_none_iff_exists'.mp known with ⟨function, found⟩
    rw [found, faultIf, if_neg (not_not_intro offered)]
    exact reports_ok (build function)
  · rw [(Aggregate.ofName?_eq_none_iff name).mpr offered, faultIf, if_pos offered]
    exact rfl

namespace ColumnSpec

variable (column : ColumnSpec)

/-- An aggregate function without a name is no aggregate function. -/
theorem aggregateName?_eq :
    column.aggregateName? =
      if column.aggregate.getD "" = "" then none else some (column.aggregate.getD "") := by
  rw [aggregateName?]
  cases column.aggregate with
  | none => rfl
  | some name => simp [Option.filter]

/-- A value column is refused for a function that is not offered. -/
theorem valueItem_reports :
    Reports (Context.valueItem column) (column.aggregateFaults false) := by
  rw [Context.valueItem, aggregateName?_eq, aggregateFaults]
  by_cases unnamed : column.aggregate.getD "" = ""
  · simp only [if_pos unnamed]
    exact reports_ok _
  · simp only [if_neg unnamed]
    exact aggregate_reports column _ _

/-- In a pivot a value column is refused also for naming no function. -/
theorem pivotAggregate_reports :
    Reports (pivotAggregate column) (column.aggregateFaults true) := by
  rw [pivotAggregate, aggregateName?_eq, aggregateFaults]
  by_cases unnamed : column.aggregate.getD "" = ""
  · simp only [if_pos unnamed]
    exact rfl
  · simp only [if_neg unnamed]
    exact aggregate_reports column _ _

end ColumnSpec

namespace Filter

variable (policy : OperatorPolicy) (column : String)

/-- An operator without a meaning is a fault under one of the policies. -/
theorem compileUnknown_reports (kind operator : String) :
    Reports (compileUnknown policy column kind operator).result
      (faultIf (policy = .reject) (.unknownOperator column kind operator)) := by
  cases policy with
  | ignore => exact reports_ok none
  | reject => exact rfl

theorem requireValue_reports {α : Type} [DecidableEq α] (operator : String)
    (missing : FilterOperand) (supplied : Option α) :
    Reports (requireValue column operator missing supplied)
      (faultIf (supplied = none) (.missingFilterValue column operator missing)) := by
  cases supplied with
  | none => exact rfl
  | some value => exact reports_ok value

/-- A text filter is refused for what is wrong with it. -/
theorem compileText_reports (operator : TextOperator) (value : Option String) :
    Reports (compileText policy column operator value).result
      (operator.faults policy column value) := by
  cases operator with
  | unknown name => exact compileUnknown_reports policy column "text" name
  | blank => exact reports_ok _
  | notBlank => exact reports_ok _
  | _ =>
      simp only [compileText, Traced.result_bind, TextOperator.faults, TextOperator.takesValue,
        true_and]
      exact (requireValue_reports column _ _ value).bind_ok _

/-- A number filter is refused for what is wrong with it. Only a range looks at the upper bound. -/
theorem compileNumber_reports (operator : NumberOperator) (value upper : Option Number) :
    Reports (compileNumber policy column operator value upper).result
      (operator.faults policy column value upper) := by
  cases operator with
  | unknown name => exact compileUnknown_reports policy column "number" name
  | inRange =>
      simp only [compileNumber, Traced.result_bind, NumberOperator.faults, true_and]
      apply (requireValue_reports column _ _ value).bind
      intro low _
      exact (requireValue_reports column _ _ upper).bind_ok _
  | _ =>
      simp only [compileNumber, Traced.result_bind, NumberOperator.faults, reduceCtorEq, false_and]
      exact (requireValue_reports column _ _ value).bind fun number _ => reports_ok _

/-- A filter is refused for what is wrong with it. -/
theorem compile_reports (filter : Filter) :
    Reports (filter.compile policy column).result (filter.faults policy column) := by
  unfold compile
  rw [apply_ite Traced.result]
  apply reports_ite (by simp)
  intro _
  cases filter with
  | text operator value => exact compileText_reports policy column operator value
  | number operator value upper => exact compileNumber_reports policy column operator value upper
  | set values => exact reports_ok _

/-- Filters are refused for what is wrong with the first faulty one. -/
theorem compileEach_reports (entries : List (String × Filter)) :
    Reports (compileEach policy entries).result
      (entries.flatMap fun entry => entry.2.faults policy entry.1) := by
  induction entries with
  | nil => exact reports_ok []
  | cons entry rest ih =>
      rw [compileEach, Traced.result_bind, List.flatMap_cons]
      apply (compile_reports policy entry.1 entry.2).bind
      intro predicate _
      rw [Traced.result_bind]
      exact ih.bind_ok _

end Filter

namespace Context

/-- A select list is refused for the functions of its columns. -/
theorem Reflects.selectItems_reports {context : Context} {config : Config} {table : String}
    {request : RowsRequest} {values : PivotValues}
    (reflects : context.Reflects config table request values) :
    Reports context.selectItems request.aggregateFaults := by
  rw [reflects.selectItems_eq, RowsRequest.aggregateFaults]
  by_cases pivots : request.pivots
  · rw [if_pos pivots]
    by_cases ungrouped : request.rowGroups = []
    · rw [if_pos ungrouped, if_pos ⟨pivots, ungrouped⟩]
      exact reports_ok _
    · rw [if_neg ungrouped, if_neg (fun both => ungrouped both.2), pivots]
      have aggregated := Reports.mapM ColumnSpec.pivotAggregate_reports request.valueColumns
      exact (aggregated.bind_ok _).map _
  · rw [if_neg pivots, if_neg (fun both => pivots both.1)]
    rw [Bool.not_eq_true] at pivots
    rw [pivots]
    exact (Reports.mapM ColumnSpec.valueItem_reports request.valueColumns).map _

/-- A statement is refused for its functions, and then for its filters. -/
theorem Reflects.statement_reports {context : Context} {config : Config} {table : String}
    {request : RowsRequest} {values : PivotValues}
    (reflects : context.Reflects config table request values) :
    Reports context.statement.result (request.aggregateFaults ++ request.filterFaults config) := by
  unfold Context.statement condition
  simp only [Traced.result_bind, Traced.result_liftM, Traced.result_pure]
  refine reflects.selectItems_reports.bind fun items _ => ?_
  rw [reflects.policy_eq, reflects.request_eq]
  exact ((Filter.compileEach_reports config.unknownOperator request.filters.entries).bind_ok
    _).bind_ok _

end Context

namespace RowsRequest

variable (request : RowsRequest) (config : Config) (table : String) (values : PivotValues)

/-- A request has a statement if nothing is wrong with it. -/
theorem statement_reports :
    Reports (request.statement config table values) (request.faults config table) := by
  rw [statement, Traced.result_bind, faults, List.append_assoc]
  refine (Context.resolve_reports config request table values).bind fun context resolved => ?_
  exact (Context.resolve_ok resolved).statement_reports

/-- A compile reports the first fault of its request. -/
theorem compile_reports :
    Reports (request.compile config table values).result (request.faults config table) := by
  rw [compile_result]
  exact (request.statement_reports config table values).map _

/-- An explanation reports the first fault of its request. -/
theorem explain_reports :
    Reports (request.explain config table values).result (request.faults config table) := by
  rw [explain_result, faults, List.append_assoc]
  refine (Context.resolve_reports config request table values).bind fun context resolved => ?_
  exact (Context.resolve_ok resolved).statement_reports.map _

/-- All columns of a request are named, apart from pivot columns that it does not pivot by. -/
structure Named (request : RowsRequest) : Prop where
  values : ∀ column ∈ request.valueColumns, column.field ≠ ""
  sorts : ∀ spec ∈ request.sort, spec.column ≠ ""
  groups : ∀ column ∈ request.rowGroups, column.field ≠ ""
  pivots : request.pivots = true → ∀ column ∈ request.pivotColumns, column.field ≠ ""
  filters : ∀ entry ∈ request.filters.entries, entry.1 ≠ ""

/-- A name that is missing is a fault, so that no name is missing where there is a statement. -/
theorem named_of_statement {request : RowsRequest} {config : Config} {table : String}
    {values : PivotValues} {statement : Statement}
    (stated : request.statement config table values = .ok statement) : request.Named := by
  have faultless := (request.statement_reports config table values).eq_nil_of_ok stated
  simp only [faults, checkFaults, List.append_eq_nil_iff] at faultless
  rcases faultless with ⟨⟨⟨⟨⟨_, columned⟩, grouped⟩, pivoted⟩, _⟩, filtered⟩
  simp only [columnFaults, groupFaults, List.append_eq_nil_iff, faultIf_eq_nil, not_exists,
    not_and] at columned grouped
  simp only [pivotFaults, faultIf_eq_nil, not_exists, not_and] at pivoted
  simp only [filterFaults, List.flatMap_eq_nil_iff, Filter.faults, List.append_eq_nil_iff,
    faultIf_eq_nil] at filtered
  exact {
    values := columned.1
    sorts := columned.2
    groups := grouped.1
    pivots := pivoted
    filters := fun entry entryMem => (filtered entry entryMem).1 }

end RowsRequest

/-- Compiling and explaining succeed where nothing is wrong, and name the first fault otherwise. -/
theorem first_fault_reported (request : RowsRequest) (config : Config) (table : String)
    (values : PivotValues) :
    Reports (request.compile config table values).result (request.faults config table) ∧
      Reports (request.explain config table values).result (request.faults config table) :=
  ⟨request.compile_reports config table values, request.explain_reports config table values⟩

end RowQuery
