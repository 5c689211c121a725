import Mathlib
import RowQuery.Proofs.Compile.FilterPredicates
import RowQuery.Proofs.Compile.Resolved
import RowQuery.Proofs.Sql.Parts

/-!
# The order of the values of a query

This file says which values a compiled query has, and in which order, in terms of the
request alone: the values of the pivot combinations, those of the opened groups, those
of the filters, and the window. The definitions here know nothing of predicates,
statements or text. That compiling comes to the same values is shown clause by clause,
from the values of the predicates that filters stand for up to those of the statement.
-/

namespace RowQuery

/-- The points of a product of lists of values, the first list varying slowest. -/
def points : List (List String) → List (List String)
  | [] => [[]]
  | values :: rest => values.flatMap fun value => (points rest).map (value :: ·)

/-- The values that a filter supplies. A value that its operator does not take is left out. -/
def Filter.suppliedBinds : Filter → List Bind
  | .text .contains (some value) => [.text ("%" ++ value ++ "%")]
  | .text .notContains (some value) => [.text ("%" ++ value ++ "%")]
  | .text .startsWith (some value) => [.text (value ++ "%")]
  | .text .endsWith (some value) => [.text ("%" ++ value)]
  | .text .equals (some value) => [.text value]
  | .text .notEqual (some value) => [.text value]
  | .text _ _ => []
  | .number .inRange (some low) (some high) => [.number low, .number high]
  | .number .inRange _ _ => []
  | .number (.unknown _) _ _ => []
  | .number _ value _ => value.toList.map .number
  | .set values => values.values.map .text

namespace RowsRequest

/-- The values of all combinations, once for each value column, if the request pivots groups. -/
def pivotBinds (request : RowsRequest) (values : PivotValues) : List Bind :=
  if request.pivots && !request.rowGroups.isEmpty then
    (points (request.pivotColumns.map fun column => (values.get? column.field).getD [])).flatMap
      fun point => request.valueColumns.flatMap fun _ => point.map .text
  else []

/-- The values that the query of a request has, in their order. -/
def expectedBinds (request : RowsRequest) (values : PivotValues) : List Bind :=
  request.pivotBinds values ++ request.groupKeys.map .text ++
    (request.filters.entries.flatMap fun entry => entry.2.suppliedBinds) ++
      [.number (.integer request.startRow.toInt),
        .number (.integer (request.endRow.toInt - request.startRow.toInt + 1))]

end RowsRequest

namespace Filter

/-- The predicate of a filter has the values that the filter supplies. -/
theorem predicate?_binds (column : String) (filter : Filter) :
    (filter.predicate? column).toList.flatMap Predicate.binds = filter.suppliedBinds := by
  cases filter with
  | text operator value =>
      cases operator with
      | unknown name => simp [predicate?, suppliedBinds]
      | _ => cases value <;> simp [predicate?, suppliedBinds]
  | number operator value upper =>
      cases operator with
      | unknown name => simp [predicate?, suppliedBinds]
      | inRange => cases value <;> cases upper <;> simp [predicate?, suppliedBinds]
      | _ => cases value <;> simp [predicate?, suppliedBinds]
  | set values => simp [predicate?, suppliedBinds]

/-- The predicates of filters have the values that the filters supply, in order. -/
theorem compileEach_binds {policy : OperatorPolicy} {entries : List (String × Filter)}
    {predicates : List Predicate}
    (compiled : (compileEach policy entries).result = .ok predicates) :
    predicates.flatMap Predicate.binds = entries.flatMap fun entry => entry.2.suppliedBinds := by
  rw [compileEach_ok compiled, List.filterMap_eq_flatMap_toList, List.flatMap_assoc]
  simp only [predicate?_binds]

end Filter

/-- Columns compared with texts have the texts as their values. -/
theorem Predicate.binds_equalTo (pairs : List (String × String)) :
    (pairs.map fun (column, content) => equalTo column content).flatMap binds =
      (pairs.map Prod.snd).map .text := by
  induction pairs with
  | nil => rfl
  | cons first others ih =>
      have single : (equalTo first.1 first.2).binds = [.text first.2] :=
        binds_compare first.1 .equal (.text first.2)
      rw [List.map_cons, List.flatMap_cons, ih, single]
      rfl

/-- A key restricts the column of its level, and no key is without a level. -/
theorem DrillPath.binds_predicates (drill : DrillPath) :
    drill.predicates.flatMap Predicate.binds = drill.groupKeys.map .text := by
  rw [predicates, Predicate.binds_equalTo, List.map_snd_zip drill.length_le]

/-- A combination's condition has the combination's values. -/
theorem Combination.binds_predicate (combination : Combination) :
    combination.predicate.binds = (combination.pairs.map Prod.snd).map .text := by
  rw [← Predicate.binds_equalTo, predicate]
  split
  · next only single => rw [single, List.flatMap_singleton]
  · rw [Predicate.binds_conj]

/-- The points of a product of axes have the points of their values as values. -/
theorem Axis.product_values (axes : List Axis) :
    (Axis.product axes).map (List.map Prod.snd) = points (axes.map Axis.values) := by
  induction axes with
  | nil => rfl
  | cons axis rest ih =>
      rw [product, List.map_flatMap, List.map_cons, points, ← ih]
      simp only [List.map_map]
      rfl

/-- The aggregates over combinations have the values of each combination, column by column. -/
theorem Expansion.selectItems_binds {expansion : Expansion} {columns : List ColumnSpec}
    {items : List SelectItem} (selected : expansion.selectItems columns = .ok items) :
    (items.flatMap fun item => item.expression.binds) =
      expansion.combinations.flatMap fun combination =>
        columns.flatMap fun _ => combination.predicate.binds := by
  rcases selectItems_ok selected with ⟨aggregated, each, equal⟩
  rw [equal, ← each, List.flatMap_assoc]
  congr 1
  funext combination
  rw [List.flatMap_map, List.flatMap_map]
  simp [Combination.selectItem, Expression.binds]

/-- The values of combinations are the points of the axes' values. -/
theorem Expansion.combinations_binds {expansion : Expansion}
    (filled : expansion.axes.isEmpty = false) (columns : List ColumnSpec) :
    (expansion.combinations.flatMap fun combination =>
        columns.flatMap fun _ => combination.predicate.binds) =
      (points (expansion.axes.map Axis.values)).flatMap fun point =>
        columns.flatMap fun _ => point.map .text := by
  rw [combinations, filled, ← Axis.product_values, List.flatMap_map]
  simp only [Bool.false_eq_true, if_false, List.flatMap_map, Combination.binds_predicate]

namespace Context

theorem valueItem_binds {column : ColumnSpec} {item : SelectItem}
    (selected : valueItem column = .ok item) : item.expression.binds = [] := by
  rw [valueItem] at selected
  split at selected
  · cases selected
    rfl
  · split at selected
    · cases selected
    · cases selected
      rfl

theorem valueItems_binds {columns : List ColumnSpec} {items : List SelectItem}
    (selected : columns.mapM valueItem = .ok items) :
    (items.flatMap fun item => item.expression.binds) = [] := by
  have each := mapM_eq_ok.mp selected
  clear selected
  induction each with
  | nil => rfl
  | cons first _ ih => rw [List.flatMap_cons, valueItem_binds first, ih, List.append_nil]

theorem columns_binds {α : Type} (columns : List α) (name : α → String) :
    ((columns.map fun column => SelectItem.column (name column)).flatMap fun item =>
      item.expression.binds) = [] := by
  induction columns with
  | nil => rfl
  | cons first others ih =>
      rw [List.map_cons, List.flatMap_cons, ih]
      rfl

/-- What is selected has the values of the pivot combinations, and no others. -/
theorem Reflects.selectItems_binds {context : Context} {config : Config} {table : String}
    {request : RowsRequest} {values : PivotValues}
    (reflects : context.Reflects config table request values) {items : List SelectItem}
    (selected : context.selectItems = .ok items) :
    (items.flatMap fun item => item.expression.binds) = request.pivotBinds values := by
  have groupsBinds : ((context.drill.activeGroups.map SelectItem.column).flatMap fun item =>
      item.expression.binds) = [] := columns_binds context.drill.activeGroups id
  rw [reflects.selectItems_eq] at selected
  rw [RowsRequest.pivotBinds]
  by_cases pivots : request.pivots
  · rw [if_pos pivots] at selected
    by_cases ungrouped : request.rowGroups = []
    · rw [if_pos ungrouped] at selected
      cases selected
      rw [ungrouped, pivots]
      exact columns_binds request.pivotColumns ColumnSpec.field
    · rw [if_neg ungrouped, map_eq_ok] at selected
      rcases selected with ⟨aggregated, expanded, equal⟩
      have pivoting : request.pivotColumns ≠ [] := (request.pivots_iff.mp pivots).2
      have axes : (request.pivotColumns.map (Axis.supplied values)).isEmpty = false := by
        simpa using pivoting
      have isGrouped : request.rowGroups.isEmpty = false := by
        simpa using ungrouped
      rw [← equal, List.flatMap_append, groupsBinds, Expansion.selectItems_binds expanded,
        Expansion.combinations_binds axes, isGrouped, pivots, List.map_map]
      rfl
  · rw [if_neg pivots, map_eq_ok] at selected
    rcases selected with ⟨shown, each, equal⟩
    rw [← equal, List.flatMap_append, groupsBinds, valueItems_binds each]
    simp [pivots]

end Context

/-- The values of a query are the expected ones, in the expected order. -/
theorem binds_in_order (text : String) (config : Config) (request : RowsRequest) (table : String)
    (values : PivotValues) (query : Query) (accepted : Config.parse text = .ok config)
    (compiled : (request.compile config table values).result = .ok query) :
    query.binds = request.expectedBinds values := by
  rw [RowsRequest.compile_result, map_eq_ok] at compiled
  rcases compiled with ⟨statement, stated, rendered⟩
  rw [RowsRequest.statement, Traced.result_bind, bind_eq_ok] at stated
  rcases stated with ⟨context, resolved, stated⟩
  have reflects := Context.resolve_ok resolved
  rcases Context.statement_ok stated with ⟨items, predicates, selected, filtered, equal⟩
  have filterBinds := Filter.compileEach_binds filtered
  rw [reflects.request_eq] at filterBinds
  rw [← rendered, Statement.render_binds, equal]
  dsimp only
  rw [reflects.selectItems_binds selected, Predicate.binds_all?, List.flatMap_append,
    DrillPath.binds_predicates, reflects.groupKeys_eq, filterBinds, reflects.request_eq,
    Bind.ofInt64, Bind.ofInt64, reflects.pageSize_toInt accepted, RowsRequest.expectedBinds,
    List.append_assoc, List.append_assoc, List.append_assoc, List.append_assoc]

theorem binds_in_order_pivoted :
    ∃ config query, Config.parse "\x7b\"dialect\":\"postgres\"\x7d" = .ok config ∧
      (RowsRequest.compile ⟨20, 29, [.ofField "g" none], [.ofField "v" (some "sum")],
        [.ofField "p" none], true, ["k"], OrderedMap.empty.insert "n"
          (.number .inRange (some (.integer 1)) (some (.integer 2))), []⟩
        config "t" (OrderedMap.empty.insert "p" ["x", "y"])).result = .ok query ∧
      query.binds = [.text "x", .text "y", .text "k", .number (.integer 1),
        .number (.integer 2), .number (.integer 20), .number (.integer 10)] := by
  have accepted : Config.parse "\x7b\"dialect\":\"postgres\"\x7d" =
      .ok { Config.default with dialect := .postgres } := by
    cbv
  have compiled : (RowsRequest.compile ⟨20, 29, [.ofField "g" none],
      [.ofField "v" (some "sum")], [.ofField "p" none], true, ["k"],
        OrderedMap.empty.insert "n"
          (.number .inRange (some (.integer 1)) (some (.integer 2))), []⟩
      { Config.default with dialect := .postgres } "t"
      (OrderedMap.empty.insert "p" ["x", "y"])).result = .ok
      ⟨"SELECT \"g\",sum(CASE WHEN \"p\" = $1 THEN \"v\" ELSE NULL END) AS \"x_v\"," ++
        "sum(CASE WHEN \"p\" = $2 THEN \"v\" ELSE NULL END) AS \"y_v\" FROM \"t\"" ++
        " WHERE (\"g\" = $3 AND \"n\" BETWEEN $4 AND $5)" ++
        " GROUP BY \"g\" OFFSET $6 ROWS FETCH NEXT $7 ROWS ONLY",
        [.text "x", .text "y", .text "k", .number (.integer 1), .number (.integer 2),
          .number (.integer 20), .number (.integer 10)]⟩ := by
    cbv
  have ordered := binds_in_order _ _ _ _ _ _ accepted compiled
  exact ⟨_, _, accepted, compiled, ordered.trans (by cbv)⟩

end RowQuery
