import RowQuery.Proofs.Compile.Outcome
import RowQuery.Wire.Config

/-!
# What a checked request is known to be

This file says what the checks of a request find out. A `Context` that comes out of them
reflects its request: the drill path has the request's groups and keys, the axes have the
values supplied for the pivot columns, and the page has the size of the window. Whatever
is proved about compiled requests starts from these facts, not from the checks.

The size of a page is worked out in machine words. The window's order keeps it from
wrapping around, and the limit of a valid configuration keeps it from turning negative
where it is taken for a row number.
-/

namespace RowQuery

/-- A configuration that was read has a limit that fits a row number. -/
theorem Config.maxPageSize_le {text : String} {config : Config}
    (accepted : Config.parse text = .ok config) :
    config.maxPageSize.toNat ≤ Config.pageSizeLimit := by
  have valid : config.invalid? = none := by
    rw [parse] at accepted
    split at accepted
    · cases accepted
    · split at accepted
      · cases accepted
      · next valid =>
          cases accepted
          exact valid
  rw [invalid?] at valid
  split at valid
  · cases valid
  · split at valid
    · cases valid
    · next within => exact Nat.not_lt.mp within

/-- The axis of a pivot column has the values that were supplied for it. -/
def Axis.supplied (values : PivotValues) (column : ColumnSpec) : Axis :=
  ⟨column.field, (values.get? column.field).getD []⟩

theorem Axis.resolve_result (values : PivotValues) (column : ColumnSpec) :
    (Axis.resolve values column).result =
      if column.field = "" then .error (.emptyIdentifier .pivotColumn)
      else .ok (Axis.supplied values column) := by
  rw [Axis.resolve]
  by_cases unnamed : column.field = ""
  · rw [if_pos unnamed, if_pos (by simpa using unnamed)]
    rfl
  · rw [if_neg unnamed, if_neg (by simpa using unnamed)]
    split
    · next missing =>
        rw [Axis.supplied, missing]
        rfl
    · rfl

/-- Resolving axes fails at an empty name, and at nothing else. -/
theorem Expansion.resolve_result (columns : List ColumnSpec) (values : PivotValues) :
    (Expansion.resolve columns values).result =
      if ∃ column ∈ columns, column.field = "" then .error (.emptyIdentifier .pivotColumn)
      else .ok ⟨columns.map (Axis.supplied values)⟩ := by
  rw [Expansion.resolve, Traced.result_bind, Traced.result_mapM]
  simp only [Axis.resolve_result, mapM_ite]
  split
  · rfl
  · rfl

/-- The axes of pivot columns are the values that were supplied for them. -/
theorem Expansion.resolve_ok {columns : List ColumnSpec} {values : PivotValues}
    {expansion : Expansion} (resolved : (Expansion.resolve columns values).result = .ok expansion) :
    expansion.axes = columns.map (Axis.supplied values) := by
  rw [Expansion.resolve_result] at resolved
  split at resolved
  · cases resolved
  · cases resolved
    rfl

/-- The aggregates over combinations go column by column, each with its function. -/
theorem Expansion.selectItems_ok {expansion : Expansion} {columns : List ColumnSpec}
    {items : List SelectItem} (selected : expansion.selectItems columns = .ok items) :
    ∃ aggregated : List (ColumnSpec × Aggregate), aggregated.map Prod.fst = columns ∧
      items = expansion.combinations.flatMap fun combination =>
        aggregated.map fun (column, function) => combination.selectItem column function := by
  rw [selectItems, bind_eq_ok] at selected
  rcases selected with ⟨functions, found, equal⟩
  cases equal
  have lengths := (mapM_eq_ok.mp found).length_eq
  exact ⟨columns.zip functions, List.map_fst_zip (Nat.le_of_eq lengths), rfl⟩

/-- The columns of the groups of a request, outermost first. -/
def RowsRequest.groupFields (request : RowsRequest) : List String :=
  request.rowGroups.map ColumnSpec.field

theorem DrillPath.resolve_ok {request : RowsRequest} {drill : DrillPath}
    (resolved : DrillPath.resolve request = .ok drill) :
    drill.rowGroups = request.rowGroups.map ColumnSpec.field ∧
      drill.groupKeys = request.groupKeys := by
  rw [DrillPath.resolve] at resolved
  split at resolved
  · cases resolved
  · split at resolved
    · cases resolved
      exact ⟨rfl, rfl⟩
    · cases resolved

namespace Context

/-- In a window that is in order, the size in machine words counts the rows. -/
theorem windowSize_toNat {request : RowsRequest} (started : 0 ≤ request.startRow)
    (ordered : request.startRow ≤ request.endRow) :
    (((request.endRow - request.startRow).toUInt64 + 1).toNat : Int) =
      request.endRow.toInt - request.startRow.toInt + 1 := by
  have distance : (request.endRow - request.startRow).toUInt64.toNat =
      (request.endRow.toInt - request.startRow.toInt).toNat := by
    rw [Int64.toNat_toUInt64_of_le (Int64.sub_nonneg_of_le started ordered),
      ← Int64.toNat_toInt, Int64.toInt_sub_of_le _ _ started ordered]
  have forward := Int64.le_iff_toInt_le.mp ordered
  have nonneg : 0 ≤ request.startRow.toInt := Int64.le_iff_toInt_le.mp started
  have last := request.endRow.toInt_lt
  rw [UInt64.toNat_add, distance]
  have one : (1 : UInt64).toNat = 1 := rfl
  omega

/-- The size of a page is that of its window, and no more than the limit. -/
theorem checkWindow_ok {config : Config} {request : RowsRequest} {size : UInt64}
    (checked : checkWindow config request = .ok size) :
    0 ≤ request.startRow ∧ request.startRow ≤ request.endRow ∧ size ≤ config.maxPageSize ∧
      (size.toNat : Int) = request.endRow.toInt - request.startRow.toInt + 1 := by
  rw [checkWindow] at checked
  split at checked
  · cases checked
  · next inOrder =>
      rw [not_or, Int64.not_lt, Int64.not_lt] at inOrder
      rcases inOrder with ⟨started, ordered⟩
      dsimp only at checked
      split at checked
      · cases checked
      · next fits =>
          cases checked
          exact ⟨started, ordered, UInt64.not_lt.mp fits, windowSize_toNat started ordered⟩

/-- What is known about a context that comes from a request. -/
structure Reflects (context : Context) (config : Config) (table : String)
    (request : RowsRequest) (values : PivotValues) : Prop where
  request_eq : context.request = request
  source_eq : Table.ofQualified? table = some context.source
  rowGroups_eq : context.drill.rowGroups = request.rowGroups.map ColumnSpec.field
  groupKeys_eq : context.drill.groupKeys = request.groupKeys
  /-- A request that pivots has an axis for each of its pivot columns. -/
  pivot_eq : context.pivot =
    if request.pivots then some ⟨request.pivotColumns.map (Axis.supplied values)⟩ else none
  policy_eq : context.policy = config.unknownOperator
  started : 0 ≤ request.startRow
  ordered : request.startRow ≤ request.endRow
  /-- The page has the size of the window, which is within the limit. -/
  pageSize_eq : ∃ size : UInt64, size ≤ config.maxPageSize ∧
    (size.toNat : Int) = request.endRow.toInt - request.startRow.toInt + 1 ∧
      context.pageSize = size.toInt64

/-- A request has axes only if it pivots. -/
theorem resolvePivot_ok {request : RowsRequest} {values : PivotValues}
    {pivot : Option Expansion} (resolved : (resolvePivot request values).result = .ok pivot) :
    pivot =
      if request.pivots then some ⟨request.pivotColumns.map (Axis.supplied values)⟩ else none := by
  rw [resolvePivot] at resolved
  split at resolved
  · next pivots =>
      rw [Traced.result_map, map_eq_ok] at resolved
      rcases resolved with ⟨⟨axes⟩, resolved, equal⟩
      have axesEq : axes = request.pivotColumns.map (Axis.supplied values) :=
        Expansion.resolve_ok resolved
      rw [← equal, axesEq, if_pos pivots]
  · next plain =>
      cases resolved
      rw [if_neg plain]

theorem checkTable_ok {table : String} {source : Table} (checked : checkTable table = .ok source) :
    Table.ofQualified? table = some source := by
  rw [checkTable] at checked
  split at checked
  · next found =>
      cases checked
      exact found
  · cases checked

/-- A request that passes all checks is reflected by its context. -/
theorem resolve_ok {config : Config} {table : String} {request : RowsRequest}
    {values : PivotValues} {context : Context}
    (resolved : (resolve config table request values).result = .ok context) :
    context.Reflects config table request values := by
  rw [resolve] at resolved
  simp only [Traced.result_bind, Traced.result_liftM, Traced.result_pure, bind_eq_ok]
    at resolved
  rcases resolved with ⟨size, windowed, source, tabled, _, _, drill, drilled, pivot, pivoted, equal⟩
  cases equal
  rcases checkWindow_ok windowed with ⟨started, ordered, within, sizeEq⟩
  rcases DrillPath.resolve_ok drilled with ⟨rowGroups_eq, groupKeys_eq⟩
  exact {
    request_eq := rfl
    source_eq := checkTable_ok tabled
    rowGroups_eq := rowGroups_eq
    groupKeys_eq := groupKeys_eq
    pivot_eq := resolvePivot_ok pivoted
    policy_eq := rfl
    started := started
    ordered := ordered
    pageSize_eq := ⟨size, within, sizeEq, rfl⟩ }

/-- There are groups at every level exactly if there are groups at all. -/
theorem activeGroups_isEmpty (drill : DrillPath) :
    drill.activeGroups.isEmpty = drill.rowGroups.isEmpty := by
  rw [DrillPath.activeGroups]
  cases drill.rowGroups with
  | nil => rfl
  | cons first others => rfl

/-- What is selected depends on how the request pivots and on whether it has groups. -/
theorem Reflects.selectItems_eq {context : Context} {config : Config} {table : String}
    {request : RowsRequest} {values : PivotValues}
    (reflects : context.Reflects config table request values) :
    context.selectItems =
      if request.pivots then
        if request.rowGroups = [] then
          .ok (request.pivotColumns.map fun column => .column column.field)
        else
          (Expansion.selectItems ⟨request.pivotColumns.map (Axis.supplied values)⟩
            request.valueColumns).map (context.drill.activeGroups.map SelectItem.column ++ ·)
      else
        (request.valueColumns.mapM valueItem).map
          (context.drill.activeGroups.map SelectItem.column ++ ·) := by
  have grouped : (context.drill.activeGroups.map SelectItem.column).isEmpty =
      request.rowGroups.isEmpty := by
    rw [List.isEmpty_map, activeGroups_isEmpty, reflects.rowGroups_eq, List.isEmpty_map]
  rw [selectItems, reflects.pivot_eq, reflects.request_eq]
  by_cases pivots : request.pivots
  · rw [if_pos pivots, if_pos pivots]
    simp only [grouped, List.isEmpty_iff]
    rfl
  · rw [if_neg pivots, if_neg pivots]
    exact bind_ok_eq_map _ _

theorem toInt64_eq_ofNat (size : UInt64) : size.toInt64 = Int64.ofNat size.toNat := by
  rw [← UInt64.toInt64_ofNat', UInt64.ofNat_toNat]

/-- Under a valid configuration the page size counts the rows of the window. -/
theorem Reflects.pageSize_toInt {context : Context} {config : Config} {table : String}
    {request : RowsRequest} {values : PivotValues}
    (reflects : context.Reflects config table request values) {text : String}
    (accepted : Config.parse text = .ok config) :
    context.pageSize.toInt = request.endRow.toInt - request.startRow.toInt + 1 := by
  rcases reflects.pageSize_eq with ⟨size, within, sizeEq, pageSize_eq⟩
  have limit : size.toNat ≤ Config.pageSizeLimit :=
    Nat.le_trans (UInt64.le_iff_toNat_le.mp within) (Config.maxPageSize_le accepted)
  have small : size.toNat < 2 ^ 63 := Nat.lt_of_le_of_lt limit (by decide)
  rw [pageSize_eq, ← sizeEq, toInt64_eq_ofNat, Int64.toInt_ofNat_of_lt small]

/-- A statement puts together what is selected, the condition and the page. -/
theorem statement_ok {context : Context} {statement : Statement}
    (stated : context.statement.result = .ok statement) :
    ∃ items predicates, context.selectItems = .ok items ∧
      (Filter.compileEach context.policy context.request.filters.entries).result =
        .ok predicates ∧
      statement = {
        items := items
        source := context.source
        condition := Predicate.all? (context.drill.predicates ++ predicates)
        groupBy := context.drill.activeGroups
        orderBy := context.drill.orderItems context.request.sort
        offset := .ofInt64 context.request.startRow
        fetch := .ofInt64 context.pageSize } := by
  unfold Context.statement condition at stated
  simp only [Traced.result_bind, Traced.result_liftM, Traced.result_pure, bind_eq_ok] at stated
  rcases stated with ⟨items, selected, condition, ⟨predicates, filtered, joined⟩, equal⟩
  cases joined
  cases equal
  exact ⟨items, predicates, selected, filtered, rfl⟩

end Context

/-- The statement of a request puts together what the checks have found out about it. -/
theorem RowsRequest.statement_ok {request : RowsRequest} {config : Config} {table : String}
    {values : PivotValues} {statement : Statement}
    (stated : request.statement config table values = .ok statement) :
    ∃ (context : Context) (items : List SelectItem) (predicates : List Predicate),
      context.Reflects config table request values ∧ context.selectItems = .ok items ∧
      (Filter.compileEach config.unknownOperator request.filters.entries).result =
        .ok predicates ∧
      statement = {
        items := items
        source := context.source
        condition := Predicate.all? (context.drill.predicates ++ predicates)
        groupBy := context.drill.activeGroups
        orderBy := context.drill.orderItems request.sort
        offset := .ofInt64 request.startRow
        fetch := .ofInt64 context.pageSize } := by
  rw [RowsRequest.statement, Traced.result_bind, bind_eq_ok] at stated
  rcases stated with ⟨context, resolved, stated⟩
  have reflects := Context.resolve_ok resolved
  rcases Context.statement_ok stated with ⟨items, predicates, selected, filtered, equal⟩
  rw [reflects.policy_eq, reflects.request_eq] at filtered
  rw [reflects.request_eq] at equal
  exact ⟨context, items, predicates, reflects, selected, filtered, equal⟩

end RowQuery
