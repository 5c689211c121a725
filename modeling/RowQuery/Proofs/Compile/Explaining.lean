import RowQuery.Proofs.Compile.PivotPositions
import RowQuery.Proofs.Compile.Trace
import RowQuery.Proofs.Sql.BindCount

/-!
# What an explanation says about a query

An explanation is put together from two sides: its mode, its groups and its number of combinations
are those of the checked request, while its text and its counts of values and of placeholders are
those of the rendered statement. This file shows that the two sides fit, and that what is explained
is what compiling gives.

The equation between the counts is found along the clauses of the statement. The select list has
the values of all combinations, once for each value column, the condition has a value for each
opened group and those of the filters, and the page has two.
-/

namespace RowQuery

/-- The values that pivoting takes, counted by combinations, value columns and pivot columns. -/
theorem RowsRequest.length_pivotBinds (request : RowsRequest) (values : PivotValues) :
    (request.pivotBinds values).length =
      if request.pivots = true ∧ request.rowGroups ≠ [] then
        choices (request.pivotColumns.map fun column => (values.get? column.field).getD []) *
          request.valueColumns.length * request.pivotColumns.length
      else 0 := by
  rw [pivotBinds]
  by_cases pivoted : request.pivots = true ∧ request.rowGroups ≠ []
  · rw [if_pos (by simpa using pivoted), if_pos pivoted, List.length_flatMap]
    have each : ∀ point ∈ points (request.pivotColumns.map fun column =>
        (values.get? column.field).getD []),
        (request.valueColumns.flatMap fun _ => point.map Bind.text).length =
          request.valueColumns.length * request.pivotColumns.length := by
      intro point pointMem
      simp [List.length_flatMap, length_of_mem_points pointMem]
    rw [List.map_congr_left each, List.map_const', List.sum_replicate, length_points, smul_eq_mul,
      Nat.mul_assoc]
  · rw [if_neg (by simpa using pivoted), if_neg pivoted, List.length_nil]

/-- What an explanation says about a request and the query that it compiles to. -/
structure Explanation.Describes (explanation : Explanation) (request : RowsRequest)
    (config : Config) (table : String) (values : PivotValues) (query : Query) : Prop where
  mode_eq : explanation.mode = request.mode
  dialect_eq : explanation.dialect = config.dialect
  sql_eq : explanation.sql = query.sql
  placeholderCount_eq : explanation.placeholderCount = query.binds.length
  bindCount_eq : explanation.bindCount = query.binds.length
  drillDepth_eq : explanation.drillDepth = request.groupKeys.length
  /-- The groups are those that the statement groups by. -/
  groups_eq : ∃ statement, request.statement config table values = .ok statement ∧
    statement.render config.dialect = query ∧ explanation.activeRowGroups = statement.groupBy
  /-- There are combinations only if the request pivots. -/
  pivotCombinations_eq : explanation.pivotCombinations =
    if request.pivots then
      choices (request.pivotColumns.map fun column => (values.get? column.field).getD [])
    else 0
  /-- The values are those of the combinations, of the opened groups, the filters and the page. -/
  bindCount_parts : ∃ predicates,
    (Filter.compileEach config.unknownOperator request.filters.entries).result = .ok predicates ∧
      explanation.bindCount =
        (if explanation.mode = .pivot ∧ explanation.activeRowGroups ≠ [] then
            explanation.pivotCombinations * request.valueColumns.length *
              request.pivotColumns.length
          else 0) +
        explanation.drillDepth + (predicates.map Predicate.bindCount).sum + 2

namespace Context

variable {context : Context} {config : Config} {table : String} {request : RowsRequest}
  {values : PivotValues} (reflects : context.Reflects config table request values)

include reflects

theorem Reflects.pivotCombinations_eq (query : Query) (dialect : Dialect) :
    (Explanation.ofQuery context query dialect).pivotCombinations =
      if request.pivots then
        choices (request.pivotColumns.map fun column => (values.get? column.field).getD [])
      else 0 := by
  rw [Explanation.ofQuery, reflects.pivot_eq]
  by_cases pivots : request.pivots
  · have filled : request.pivotColumns ≠ [] := (request.pivots_iff.mp pivots).2
    rw [if_pos pivots, if_pos pivots]
    exact (Expansion.combinationCount_eq rfl).trans (if_neg filled)
  · rw [if_neg pivots, if_neg pivots]

/-- A request has the values of its combinations, its opened groups, its filters and its page. -/
theorem Reflects.length_binds {statement : Statement}
    (stated : context.statement.result = .ok statement) :
    ∃ predicates,
      (Filter.compileEach config.unknownOperator request.filters.entries).result = .ok predicates ∧
        (statement.render config.dialect).binds.length =
          (request.pivotBinds values).length + request.groupKeys.length +
            (predicates.map Predicate.bindCount).sum + 2 := by
  rcases Context.statement_ok stated with ⟨items, predicates, selected, filtered, rfl⟩
  rw [reflects.policy_eq, reflects.request_eq] at filtered
  refine ⟨predicates, filtered, ?_⟩
  rw [Statement.render_binds]
  dsimp only
  rw [reflects.selectItems_binds selected, Predicate.binds_all?, List.flatMap_append,
    DrillPath.binds_predicates, reflects.groupKeys_eq, List.length_append, List.length_append,
    List.length_append, List.length_map, Predicate.length_flatMap_binds]
  simp only [List.length_cons, List.length_nil, Nat.add_assoc]

/-- A request has active groups exactly if it has groups, and this is when pivoting has values. -/
theorem Reflects.pivots_groups_iff :
    context.mode = .pivot ∧ context.drill.activeGroups ≠ [] ↔
      request.pivots = true ∧ request.rowGroups ≠ [] := by
  have pivoted : context.mode = .pivot ↔ request.pivots = true := by
    rw [reflects.mode_eq, RowsRequest.mode]
    split
    · next pivots => simp [pivots]
    · next plain => split <;> simp [plain]
  have grouped : context.drill.activeGroups = [] ↔ request.rowGroups = [] := by
    rw [← List.isEmpty_iff, activeGroups_isEmpty, reflects.rowGroups_eq, List.isEmpty_map,
      List.isEmpty_iff]
  rw [pivoted, Ne, grouped]

/-- What is made of a checked request describes it. -/
theorem Reflects.describes
    (resolved : (Context.resolve config table request values).result = .ok context)
    {statement : Statement} (stated : context.statement.result = .ok statement) :
    (Explanation.ofQuery context (statement.render config.dialect) config.dialect).Describes
      request config table values (statement.render config.dialect) := by
  have depth : context.drill.depth = request.groupKeys.length := by
    rw [DrillPath.depth, reflects.groupKeys_eq]
  have found : request.statement config table values = .ok statement := by
    rw [RowsRequest.statement, Traced.result_bind, resolved]
    exact stated
  have grouped : context.drill.activeGroups = statement.groupBy := by
    rcases Context.statement_ok stated with ⟨items, predicates, _, _, rfl⟩
    rfl
  refine {
    mode_eq := reflects.mode_eq
    dialect_eq := rfl
    sql_eq := rfl
    placeholderCount_eq := statement.countPlaceholders_render config.dialect
    bindCount_eq := rfl
    drillDepth_eq := depth
    groups_eq := ⟨statement, found, rfl, grouped⟩
    pivotCombinations_eq := reflects.pivotCombinations_eq _ _
    bindCount_parts := ?_ }
  rcases reflects.length_binds stated with ⟨predicates, filtered, counted⟩
  refine ⟨predicates, filtered, ?_⟩
  rw [reflects.pivotCombinations_eq]
  change (statement.render config.dialect).binds.length =
    (if context.mode = .pivot ∧ context.drill.activeGroups ≠ [] then _ else 0) +
      context.drill.depth + _ + 2
  rw [counted, depth, RowsRequest.length_pivotBinds]
  simp only [reflects.pivots_groups_iff]
  by_cases pivoted : request.pivots = true ∧ request.rowGroups ≠ []
  · rw [if_pos pivoted, if_pos pivoted, if_pos pivoted.1]
  · rw [if_neg pivoted, if_neg pivoted]

end Context

/-- Explaining is refused like compiling, and otherwise describes the query that compiling gives. -/
theorem explanation_describes (request : RowsRequest) (config : Config) (table : String)
    (values : PivotValues) :
    Agree (fun explanation query => explanation.Describes request config table values query)
      (request.explain config table values).result
      (request.compile config table values).result := by
  rw [RowsRequest.explain_result, RowsRequest.compile_result, RowsRequest.statement,
    Traced.result_bind, map_bind_eq]
  cases resolved : (Context.resolve config table request values).result with
  | error error => exact .refused error
  | ok context =>
      cases stated : context.statement.result with
      | error error =>
          simp only [bind, Except.bind, stated]
          exact .refused error
      | ok statement =>
          simp only [bind, Except.bind, stated]
          exact .accepted ((Context.resolve_ok resolved).describes resolved stated)

end RowQuery
