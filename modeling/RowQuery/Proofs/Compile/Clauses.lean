import RowQuery.Proofs.Compile.PivotNames
import RowQuery.Proofs.Compile.Window

/-!
# The clauses of a statement

This file says which statement a request compiles to, and with which text, by looking at the
request alone. What is selected, grouped and sorted by depends on whether the request pivots and
on how many of its groups have been opened; each clause is written down here for all cases, and
the statement that compiling gives is shown to have just these clauses.

The clauses are compared one by one. For the select list the combinations of the pivot columns
are the points of the supplied values, taken together with the columns, and the aggregate
functions are those that the value columns name. For the condition no predicate of a group or of
a filter is itself a conjunction, so that a conjunction of several of them has them as its parts.
-/

namespace RowQuery

/-- The aggregate function that is called by a name, in capital or small letters. -/
def Aggregate.called? (name : String) : Option Aggregate :=
  [sum, avg, count, min, max].find? fun function => function.name = name.toLower

namespace ColumnSpec

/-- The field of a column and the function that it is aggregated with. -/
def aggregated? (column : ColumnSpec) : Option (String × Aggregate) :=
  (Aggregate.called? (column.aggregate.getD "")).map fun function => (column.field, function)

/-- A value column that is not pivoted: as it is, or its aggregate under its own name. -/
def shown? (column : ColumnSpec) : Option SelectItem :=
  if column.aggregate.getD "" = "" then some ⟨.column column.field, none⟩
  else column.aggregated?.map fun (field, function) =>
    ⟨.aggregate function (.column field), some field⟩

end ColumnSpec

namespace Predicate

/-- The predicates that columns have the values they are paired with. -/
def equalities (pairs : List (String × String)) : List Predicate :=
  pairs.map fun (column, value) => .compare column .equal (.text value)

/-- A predicate by itself, or the conjunction of several. -/
def joined : List Predicate → Predicate
  | [only] => only
  | several => .conj several

/-- What predicates amount to. Without a predicate there is no condition. -/
def joined? : List Predicate → Option Predicate
  | [] => none
  | predicates => some (joined predicates)

/-- The clause of predicates: none at all, a single one bare, or several between brackets. -/
def clause : List Predicate → List Token
  | [] => []
  | [only] => .word .condition :: only.tokens
  | several => .word .condition :: .word .opening ::
      List.intercalate [.word .and] (several.map tokens) ++ [.word .closing]

end Predicate

/-- The aggregate of a field over the rows that have the values of a point in some columns. -/
def pivotedItem (columns point : List String) (field : String) (function : Aggregate) :
    SelectItem where
  expression := .aggregate function
    (.caseWhen (.joined (Predicate.equalities (columns.zip point))) (.column field) .null)
  name := some (String.intercalate "_" point ++ "_" ++ field)

namespace RowsRequest

/-- The groups that can be seen: those that have been opened, and the next one. -/
def visibleGroups (request : RowsRequest) : List String :=
  request.groupFields.take (min (request.groupKeys.length + 1) request.rowGroups.length)

/-- What a request selects, if the aggregate functions it names are offered. -/
def specifiedItems? (request : RowsRequest) (values : PivotValues) : Option (List SelectItem) :=
  let groups : List SelectItem := request.visibleGroups.map fun column => ⟨.column column, none⟩
  if request.pivotMode ∧ request.pivotColumns ≠ [] then
    if request.rowGroups = [] then
      some (request.pivotColumns.map fun column => ⟨.column column.field, none⟩)
    else do
      let aggregates ← request.valueColumns.mapM ColumnSpec.aggregated?
      let supplied := request.pivotColumns.map fun column => (values.get? column.field).getD []
      pure (groups ++ (points supplied).flatMap fun point =>
        aggregates.map fun (field, function) =>
          pivotedItem (request.pivotColumns.map ColumnSpec.field) point field function)
  else do
    let shown ← request.valueColumns.mapM ColumnSpec.shown?
    pure (groups ++ shown)

/-- The predicates on rows: those of the opened groups, and then those of the filters. -/
def specifiedPredicates (request : RowsRequest) : List Predicate :=
  Predicate.equalities (request.groupFields.zip request.groupKeys) ++
    request.filters.entries.filterMap fun (column, filter) => filter.predicate? column

/-- All sort entries, or of a grouped request those on groups, one for each visible level. -/
def specifiedOrder (request : RowsRequest) : List OrderItem :=
  let entries :=
    if request.rowGroups = [] then request.sort
    else (request.sort.filter fun spec => spec.column ∈ request.groupFields).take
      (request.groupKeys.length + 1)
  entries.map fun spec => ⟨spec.column, spec.direction⟩

/-- The statement of a request that selects some items from a table. -/
def specifiedStatement (request : RowsRequest) (source : Table) (items : List SelectItem) :
    Statement where
  items := items
  source := source
  condition := Predicate.joined? request.specifiedPredicates
  groupBy := request.visibleGroups
  orderBy := request.specifiedOrder
  offset := .ofInt64 request.startRow
  fetch := .ofInt64 (request.endRow - request.startRow + 1)

end RowsRequest

/-- Work on each of several inputs has an outcome if each has one. -/
theorem mapM_eq_some {α β : Type} {work : α → Option β} {inputs : List α} {outcomes : List β}
    (each : List.Forall₂ (fun input outcome => work input = some outcome) inputs outcomes) :
    inputs.mapM work = some outcomes := by
  induction each with
  | nil => rfl
  | cons first _ ih =>
      rw [List.mapM_cons, first, ih]
      rfl

theorem Aggregate.called?_of_ofName? {name : String} {function : Aggregate}
    (found : ofName? name = some function) : called? name = some function := by
  rw [ofName?] at found
  split at found
  case h_6 => cases found
  all_goals
    next lowered =>
      cases found
      rw [called?, lowered]
      decide

namespace ColumnSpec

variable {column : ColumnSpec}

theorem aggregated?_of_ofName? {function : Aggregate}
    (found : Aggregate.ofName? (column.aggregate.getD "") = some function) :
    column.aggregated? = some (column.field, function) := by
  rw [aggregated?, Aggregate.called?_of_ofName? found]
  rfl

/-- A column that is aggregated in a pivot names the function that it is aggregated with. -/
theorem aggregated?_of_pivotAggregate {function : Aggregate}
    (found : pivotAggregate column = .ok function) :
    column.aggregated? = some (column.field, function) := by
  rw [pivotAggregate, aggregateName?_eq] at found
  by_cases unnamed : column.aggregate.getD "" = ""
  · rw [if_pos unnamed] at found
    cases found
  · rw [if_neg unnamed] at found
    dsimp only at found
    split at found
    · cases found
    · next known =>
        cases found
        exact aggregated?_of_ofName? known

/-- A column is selected as it should be shown. -/
theorem shown?_of_valueItem {item : SelectItem} (found : Context.valueItem column = .ok item) :
    column.shown? = some item := by
  rw [Context.valueItem, aggregateName?_eq] at found
  rw [shown?]
  by_cases unnamed : column.aggregate.getD "" = ""
  · rw [if_pos unnamed] at found
    cases found
    rw [if_pos unnamed]
    rfl
  · rw [if_neg unnamed] at found
    dsimp only at found
    split at found
    · cases found
    · next known =>
        cases found
        rw [if_neg unnamed, aggregated?_of_ofName? known]
        rfl

theorem mapM_aggregated? {columns : List ColumnSpec} {functions : List Aggregate}
    (found : columns.mapM pivotAggregate = .ok functions) :
    columns.mapM aggregated? = some ((columns.zip functions).map fun (column, function) =>
      (column.field, function)) := by
  apply mapM_eq_some
  have each := mapM_eq_ok.mp found
  clear found
  induction each with
  | nil => exact .nil
  | cons first _ ih => exact .cons (aggregated?_of_pivotAggregate first) ih

theorem mapM_shown? {columns : List ColumnSpec} {items : List SelectItem}
    (found : columns.mapM Context.valueItem = .ok items) : columns.mapM shown? = some items :=
  mapM_eq_some ((mapM_eq_ok.mp found).imp fun _ _ => shown?_of_valueItem)

end ColumnSpec

/-- The points of a product of axes are the points of their values, beside the columns. -/
theorem Axis.product_eq_zip (axes : List Axis) :
    Axis.product axes = (points (axes.map Axis.values)).map ((axes.map Axis.column).zip ·) := by
  induction axes with
  | nil => rfl
  | cons axis rest ih =>
      simp only [product, ih, List.map_cons, points, List.map_flatMap, List.map_map]
      rfl

/-- A row belongs to a combination if its columns have the values they are paired with. -/
theorem Combination.predicate_eq_joined (combination : Combination) :
    combination.predicate = .joined (Predicate.equalities combination.pairs) := rfl

/-- The item of a combination is that of its point. -/
theorem Combination.selectItem_eq_pivotedItem {columns point : List String}
    (fitting : point.length ≤ columns.length) (column : ColumnSpec) (function : Aggregate) :
    (Combination.mk (columns.zip point)).selectItem column function =
      pivotedItem columns point column.field function := by
  rw [selectItem, columnName, label, pivotedItem, predicate_eq_joined]
  dsimp only
  rw [List.map_snd_zip fitting]

/--
The items of an expansion are those of its points. A point has a value for every axis, so that none
is lost beside the columns.
-/
theorem Expansion.selectItems_eq_pivotedItems {expansion : Expansion} {columns : List ColumnSpec}
    {items : List SelectItem} (filled : expansion.axes ≠ [])
    (selected : expansion.selectItems columns = .ok items) :
    ∃ aggregates, columns.mapM ColumnSpec.aggregated? = some aggregates ∧
      items = (points (expansion.axes.map Axis.values)).flatMap fun point =>
        aggregates.map fun (field, function) =>
          pivotedItem (expansion.axes.map Axis.column) point field function := by
  rw [selectItems, bind_eq_ok] at selected
  rcases selected with ⟨functions, found, equal⟩
  cases equal
  refine ⟨_, ColumnSpec.mapM_aggregated? found, ?_⟩
  have unfilled : expansion.axes.isEmpty = false := by
    simpa using filled
  rw [combinations, unfilled, if_neg Bool.false_ne_true, Axis.product_eq_zip, List.map_map,
    List.flatMap_map]
  apply List.flatMap_congr
  intro point pointMem
  have fitting : point.length ≤ (expansion.axes.map Axis.column).length := by
    rw [length_of_mem_points pointMem, List.length_map, List.length_map]
  rw [List.map_map]
  apply List.map_congr_left
  rintro ⟨column, function⟩ _
  exact Combination.selectItem_eq_pivotedItem fitting column function

namespace Predicate

/-- Of predicates that are not conjunctions, the conjunction has just these for its parts. -/
theorem all?_eq_joined? {predicates : List Predicate}
    (single : ∀ predicate ∈ predicates, predicate.parts = [predicate]) :
    all? predicates = joined? predicates := by
  have parts_eq : predicates.flatMap parts = predicates := by
    rw [List.flatMap_congr single, List.flatMap_singleton']
  rw [all?, parts_eq]
  rcases predicates with _ | ⟨first, _ | ⟨second, others⟩⟩
  · rfl
  · rfl
  · rfl

theorem parts_of_mem_equalities {pairs : List (String × String)} {predicate : Predicate}
    (predicateMem : predicate ∈ equalities pairs) : predicate.parts = [predicate] := by
  rcases List.mem_map.mp predicateMem with ⟨pair, _, rfl⟩
  rfl

end Predicate

theorem Filter.parts_of_predicate? {column : String} {filter : Filter} {predicate : Predicate}
    (found : filter.predicate? column = some predicate) : predicate.parts = [predicate] := by
  unfold predicate? at found
  split at found
  all_goals cases found
  all_goals rfl

namespace Statement

variable {statement : Statement}

end Statement

namespace RowsRequest

variable {request : RowsRequest}

theorem visibleGroups_eq (request : RowsRequest) :
    request.visibleGroups = request.groupFields.take (request.groupKeys.length + 1) := by
  have fields_length : request.groupFields.length = request.rowGroups.length := List.length_map ..
  rw [visibleGroups, ← fields_length, ← List.take_eq_take_min]

theorem parts_of_mem_specifiedPredicates {predicate : Predicate}
    (predicateMem : predicate ∈ request.specifiedPredicates) : predicate.parts = [predicate] := by
  rcases List.mem_append.mp predicateMem with opened | filtered
  · exact Predicate.parts_of_mem_equalities opened
  · rcases List.mem_filterMap.mp filtered with ⟨entry, _, found⟩
    exact Filter.parts_of_predicate? found

end RowsRequest

namespace Context.Reflects

variable {request : RowsRequest} {config : Config} {table : String} {values : PivotValues}
  {context : Context} (reflects : context.Reflects config table request values)

include reflects

/-- The groups that a statement groups by are those that can be seen. -/
theorem activeGroups_eq : context.drill.activeGroups = request.visibleGroups := by
  rw [DrillPath.activeGroups, DrillPath.depth, reflects.rowGroups_eq, reflects.groupKeys_eq,
    RowsRequest.visibleGroups_eq, RowsRequest.groupFields]

/-- A statement is ordered as the request specifies. -/
theorem orderItems_eq : context.drill.orderItems request.sort = request.specifiedOrder := by
  have fields_eq : context.drill.rowGroups = request.groupFields := reflects.rowGroups_eq
  have grouping : context.drill.isGrouping = !request.rowGroups.isEmpty := by
    rw [DrillPath.isGrouping, reflects.rowGroups_eq, List.isEmpty_map]
  rw [DrillPath.orderItems, DrillPath.depth, grouping, fields_eq, reflects.groupKeys_eq,
    RowsRequest.specifiedOrder]
  by_cases grouped : request.rowGroups = []
  · simp [grouped]
  · simp [grouped]

/-- A statement selects what the request specifies. -/
theorem items_eq {items : List SelectItem} (selected : context.selectItems = .ok items) :
    request.specifiedItems? values = some items := by
  rw [reflects.selectItems_eq, reflects.activeGroups_eq] at selected
  rw [RowsRequest.specifiedItems?]
  dsimp only
  by_cases pivots : request.pivots
  · have pivoting : request.pivotMode ∧ request.pivotColumns ≠ [] :=
      request.pivots_iff.mp pivots
    rw [if_pos pivots] at selected
    rw [if_pos pivoting]
    by_cases ungrouped : request.rowGroups = []
    · rw [if_pos ungrouped] at selected
      cases selected
      rw [if_pos ungrouped]
      rfl
    · rw [if_neg ungrouped, map_eq_ok] at selected
      rcases selected with ⟨aggregated, expanded, rfl⟩
      have filled : request.pivotColumns.map (Axis.supplied values) ≠ [] := by
        simpa using pivoting.2
      rcases Expansion.selectItems_eq_pivotedItems filled expanded with ⟨aggregates, named, rfl⟩
      rw [if_neg ungrouped, named, List.map_map, List.map_map]
      rfl
  · have plain : ¬(request.pivotMode ∧ request.pivotColumns ≠ []) :=
      mt request.pivots_iff.mpr pivots
    rw [if_neg pivots, map_eq_ok] at selected
    rcases selected with ⟨shown, found, rfl⟩
    rw [if_neg plain, ColumnSpec.mapM_shown? found]
    rfl

/-- Each opened group has the key that was given for it. -/
theorem predicates_eq : context.drill.predicates =
    Predicate.equalities (request.groupFields.zip request.groupKeys) := by
  rw [DrillPath.predicates, reflects.rowGroups_eq, reflects.groupKeys_eq]
  rfl

/-- The size of the page is the same whichever words it is worked out in. -/
theorem pageSize_eq_difference : context.pageSize = request.endRow - request.startRow + 1 := by
  rcases reflects.pageSize_eq with ⟨size, _, counted, pageSize_eq⟩
  rw [pageSize_eq, toInt64_eq_ofNat, ← Int64.ofInt_eq_ofNat, counted, Int64.ofInt_add,
    Int64.ofInt_sub, Int64.ofInt_toInt, Int64.ofInt_toInt]
  rfl

end Context.Reflects

namespace RowsRequest

variable {request : RowsRequest} {config : Config} {table : String} {values : PivotValues}

/-- A request that compiles has the statement that it specifies. -/
theorem eq_specifiedStatement {statement : Statement}
    (stated : request.statement config table values = .ok statement) :
    ∃ source items, Table.ofQualified? table = some source ∧
      request.specifiedItems? values = some items ∧
      statement = request.specifiedStatement source items := by
  rcases statement_ok stated with ⟨context, items, predicates, reflects, selected, filtered, equal⟩
  refine ⟨context.source, items, reflects.source_eq, reflects.items_eq selected, ?_⟩
  have predicates_eq : context.drill.predicates ++ predicates = request.specifiedPredicates := by
    rw [reflects.predicates_eq, Filter.compileEach_ok filtered]
    rfl
  rw [equal, predicates_eq, Predicate.all?_eq_joined? fun _ => parts_of_mem_specifiedPredicates,
    reflects.activeGroups_eq, reflects.orderItems_eq, reflects.pageSize_eq_difference]
  rfl

end RowsRequest

end RowQuery
