import Mathlib
import RowQuery.Page.Shape
import RowQuery.Proofs.Compile.Faults

/-!
# The columns that pivoting adds

A page that is sent to the grid says which columns pivoting added, and the statement that
the rows come from names its columns by itself. This file shows that both lists of names
are the same, entry by entry, so that no column of a result is mistaken for another one.

Both lists run through the combinations and, for each of them, through the value columns.
The select list has the columns of the groups before these, which go without a name.
-/

namespace RowQuery

/-- A product of axes has one point for each choice of a value on every axis. -/
theorem Axis.length_product (axes : List Axis) :
    (product axes).length = (axes.map fun axis => axis.values.length).prod := by
  induction axes with
  | nil => rfl
  | cons axis rest ih => simp [product, List.length_flatMap, ih]

namespace Expansion

theorem length_combinations {expansion : Expansion} (filled : expansion.axes ≠ []) :
    expansion.combinations.length =
      (expansion.axes.map fun axis => axis.values.length).prod := by
  rw [combinations, if_neg (by simpa using filled), List.length_map, Axis.length_product]

theorem length_secondaryColumns (expansion : Expansion) (columns : List ColumnSpec) :
    (expansion.secondaryColumns columns).length =
      expansion.combinations.length * columns.length := by
  simp [secondaryColumns, List.length_flatMap]

/-- The aggregates over combinations are named like the columns that pivoting adds. -/
theorem selectItems_names {expansion : Expansion} {columns : List ColumnSpec}
    {items : List SelectItem} (selected : expansion.selectItems columns = .ok items) :
    items.filterMap SelectItem.name = expansion.secondaryColumns columns := by
  rcases selectItems_ok selected with ⟨aggregated, each, equal⟩
  rw [equal, ← each, List.filterMap_flatMap, secondaryColumns]
  congr 1
  funext combination
  rw [List.filterMap_map, List.map_map, ← List.filterMap_eq_map]
  rfl

end Expansion

/-- Columns under their own names add no names. -/
theorem SelectItem.names_columns (columns : List String) :
    (columns.map column).filterMap SelectItem.name = [] := by
  simp [List.filterMap_map, column]

/-- Pivoting groups of rows, the names in a select list are those of the added columns. -/
theorem Context.Reflects.selectItems_names {context : Context} {config : Config}
    {table : String} {request : RowsRequest} {values : PivotValues}
    (reflects : context.Reflects config table request values) (pivots : request.pivots = true)
    (grouped : request.rowGroups ≠ []) {items : List SelectItem}
    (selected : context.selectItems = .ok items) :
    items.filterMap SelectItem.name =
      Expansion.secondaryColumns ⟨request.pivotColumns.map (Axis.supplied values)⟩
        request.valueColumns := by
  rw [reflects.selectItems_eq, if_pos pivots, if_neg grouped, map_eq_ok] at selected
  rcases selected with ⟨aggregated, expanded, equal⟩
  rw [← equal, List.filterMap_append, SelectItem.names_columns, List.nil_append]
  exact Expansion.selectItems_names expanded

namespace RowsRequest

/-- The axes of a request that compiles can be resolved once more. -/
theorem expansion_of_statement {request : RowsRequest} {config : Config} {table : String}
    {values : PivotValues} {statement : Statement} (pivots : request.pivots = true)
    (stated : request.statement config table values = .ok statement) :
    (Expansion.resolve request.pivotColumns values).result =
      .ok ⟨request.pivotColumns.map (Axis.supplied values)⟩ := by
  have named := named_of_statement stated
  rw [Expansion.resolve_result, if_neg]
  rintro ⟨column, columnMem, unnamed⟩
  exact named.pivots pivots column columnMem unnamed

/-- The names in a select list are those of the added columns. -/
theorem statement_names {request : RowsRequest} {config : Config} {table : String}
    {values : PivotValues} {statement : Statement} (pivots : request.pivots = true)
    (grouped : request.rowGroups ≠ [])
    (stated : request.statement config table values = .ok statement) :
    statement.items.filterMap SelectItem.name =
      Expansion.secondaryColumns ⟨request.pivotColumns.map (Axis.supplied values)⟩
        request.valueColumns := by
  rcases statement_ok stated with ⟨context, items, _, reflects, selected, _, equal⟩
  rw [equal]
  exact reflects.selectItems_names pivots grouped selected

theorem secondaryColumns_result {request : RowsRequest} (pivoting : request.pivotMode = true)
    (values : PivotValues) :
    (request.secondaryColumns values).result =
      (Expansion.resolve request.pivotColumns values).result.map fun expansion =>
        some (expansion.secondaryColumns request.valueColumns) := by
  rw [secondaryColumns, if_pos pivoting, Traced.result_bind]
  exact bind_ok_eq_map _ _

/-- The added columns of a request that compiles are known, also where it has none to pivot by. -/
theorem secondaryColumns_of_statement {request : RowsRequest} {config : Config} {table : String}
    {values : PivotValues} {statement : Statement}
    (stated : request.statement config table values = .ok statement) :
    ∃ columns, (request.secondaryColumns values).result = .ok columns := by
  by_cases pivoting : request.pivotMode = true
  · rw [secondaryColumns_result pivoting]
    by_cases pivots : request.pivots = true
    · rw [expansion_of_statement pivots stated]
      exact ⟨_, rfl⟩
    · have unpivoted : request.pivotColumns = [] := by
        simpa [request.pivots_iff, pivoting] using pivots
      rw [unpivoted, Expansion.resolve_result, if_neg (by simp)]
      exact ⟨_, rfl⟩
  · rw [secondaryColumns, if_neg pivoting]
    exact ⟨none, rfl⟩

/-- A page can be shaped if the added columns are known, whatever rows there are. -/
theorem shape_result (request : RowsRequest) (config : Config) (rows : List Row)
    (values : PivotValues) (query : Option Query) :
    (request.shape config rows values query).result =
      (request.secondaryColumns values).result.map fun columns => {
        rows := rows
        lastRow := lastRow request.startRow request.endRow rows.length
        secondaryColumns := columns
        fromSql := config.provenance query
        uxReportableError := none } := by
  rw [shape, Traced.result_bind]
  exact bind_ok_eq_map _ _

end RowsRequest

/-- The columns that a page says were added are the named columns of the statement. -/
theorem secondaryColumns_eq_names (request : RowsRequest) (config : Config) (table : String)
    (values : PivotValues) (query : Query) (pivoting : request.pivotMode = true)
    (pivoted : request.pivotColumns ≠ []) (grouped : request.rowGroups ≠ [])
    (compiled : (request.compile config table values).result = .ok query) :
    ∃ statement, request.statement config table values = .ok statement ∧
      statement.render config.dialect = query ∧
      (statement.items.filterMap SelectItem.name).length =
        (request.pivotColumns.map fun column =>
          ((values.get? column.field).getD []).length).prod * request.valueColumns.length ∧
      ∀ (shaping : Config) (rows : List Row) (sent : Option Query),
        ∃ page, (request.shape shaping rows values sent).result = .ok page ∧
          page.secondaryColumns = some (statement.items.filterMap SelectItem.name) := by
  have pivots : request.pivots = true := request.pivots_iff.mpr ⟨pivoting, pivoted⟩
  rw [RowsRequest.compile_result, map_eq_ok] at compiled
  rcases compiled with ⟨statement, stated, rendered⟩
  have resolved := RowsRequest.expansion_of_statement pivots stated
  have names := RowsRequest.statement_names pivots grouped stated
  refine ⟨statement, stated, rendered, ?_, ?_⟩
  · rw [names, Expansion.length_secondaryColumns,
      Expansion.length_combinations (by simpa using pivoted), List.map_map]
    rfl
  · intro shaping rows sent
    rw [names, RowsRequest.shape_result, RowsRequest.secondaryColumns_result pivoting, resolved]
    exact ⟨_, rfl, rfl⟩

theorem secondaryColumns_eq_names_twoAxes :
    ∃ (statement : Statement) (page : RowsPage), statement.render .ansi =
        ⟨"SELECT \"g\",sum(CASE WHEN (\"p\" = ? AND \"q\" = ?) THEN \"v\" ELSE NULL END)" ++
          " AS \"x_1_v\",sum(CASE WHEN (\"p\" = ? AND \"q\" = ?) THEN \"v\" ELSE NULL END)" ++
          " AS \"y_1_v\" FROM \"t\" GROUP BY \"g\" OFFSET ? ROWS FETCH NEXT ? ROWS ONLY",
          [.text "x", .text "1", .text "y", .text "1", .ofInt64 0, .ofInt64 10]⟩ ∧
      (RowsRequest.shape
        ⟨0, 9, [.ofField "g" none], [.ofField "v" (some "SUM")],
          [.ofField "p" none, .ofField "q" none], true, [], .empty, []⟩ Config.default []
        ((OrderedMap.empty.insert "q" ["1"]).insert "p" ["x", "y"]) none).result = .ok page ∧
      page.secondaryColumns = some (statement.items.filterMap SelectItem.name) ∧
      (statement.items.filterMap SelectItem.name).length = 2 := by
  have compiled : (RowsRequest.compile
      ⟨0, 9, [.ofField "g" none], [.ofField "v" (some "SUM")],
        [.ofField "p" none, .ofField "q" none], true, [], .empty, []⟩ Config.default "t"
      ((OrderedMap.empty.insert "q" ["1"]).insert "p" ["x", "y"])).result = .ok
      ⟨"SELECT \"g\",sum(CASE WHEN (\"p\" = ? AND \"q\" = ?) THEN \"v\" ELSE NULL END)" ++
        " AS \"x_1_v\",sum(CASE WHEN (\"p\" = ? AND \"q\" = ?) THEN \"v\" ELSE NULL END)" ++
        " AS \"y_1_v\" FROM \"t\" GROUP BY \"g\" OFFSET ? ROWS FETCH NEXT ? ROWS ONLY",
        [.text "x", .text "1", .text "y", .text "1", .ofInt64 0, .ofInt64 10]⟩ := by
    cbv
  rcases secondaryColumns_eq_names _ _ _ _ _ rfl (by simp) (by simp) compiled with
    ⟨statement, _, rendered, counted, shaped⟩
  rcases shaped Config.default [] none with ⟨page, pageShaped, names⟩
  exact ⟨statement, page, rendered, pageShaped, names, counted.trans rfl⟩

end RowQuery
