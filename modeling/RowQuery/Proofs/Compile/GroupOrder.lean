import RowQuery.Proofs.Compile.Clauses
import RowQuery.Proofs.Compile.DrillDown

/-!
# Sorting groups

A statement that groups its rows can be sorted by the columns it groups by, and by no others.
This file says which sort entries keep to that.

A statement sorts by the first group columns among the sort entries, one for each level that can
be seen, and it groups by the first columns of the request, one for each such level too. Both
lists are cut at the same level, but they are ordered independently: a request may be sorted by
an inner group before an outer one. Its statement then sorts by a column that is not grouped by
until the level of that column is reached. At all levels below a request nothing of the kind
happens exactly if no sort entry comes earlier than the level of its column.
-/

namespace RowQuery

/-- Whether every column that a statement sorts by is one that it groups by. -/
def Statement.SortsGroups (statement : Statement) : Prop :=
  ∀ item ∈ statement.orderBy, item.column ∈ statement.groupBy

theorem Statement.sortsGroups_iff (statement : Statement) :
    statement.SortsGroups ↔
      ∀ column ∈ statement.orderBy.map OrderItem.column, column ∈ statement.groupBy := by
  rw [SortsGroups]
  constructor
  · intro sorted column columnMem
    rcases List.mem_map.mp columnMem with ⟨item, itemMem, rfl⟩
    exact sorted item itemMem
  · intro sorted item itemMem
    exact sorted item.column (List.mem_map_of_mem itemMem)

/--
Of two lists that are cut at the same level, the first one stays within the second at every
level exactly if no element comes earlier in the first list than in the second.
-/
theorem take_subset_take_iff {sorted groups : List String} {top : Nat}
    (known : ∀ column ∈ sorted, column ∈ groups) (reached : top ≤ groups.length) :
    (∀ level, top ≤ level → level ≤ groups.length →
      ∀ column ∈ sorted.take (level + 1), column ∈ groups.take (level + 1)) ↔
    ∀ (position : Nat) (column : String), sorted[position]? = some column →
      column ∈ groups.take (max top position + 1) := by
  constructor
  · intro within position column found
    by_cases inside : position ≤ groups.length
    · apply within (max top position) (by omega) (by omega)
      rcases List.getElem?_eq_some_iff.mp found with ⟨shown, rfl⟩
      exact List.mem_take_iff_getElem.mpr ⟨position, by omega, rfl⟩
    · rw [List.take_of_length_le (by omega)]
      exact known column (List.mem_of_getElem? found)
  · intro early level reachedLevel _ column columnMem
    rcases List.mem_take_iff_getElem.mp columnMem with ⟨position, shown, rfl⟩
    have visible := early position _ (List.getElem?_eq_getElem (by omega))
    exact (List.take_subset_take_left groups (by omega)) visible

namespace RowsRequest

/-- The group columns among the sort entries of a request, in the order of the entries. -/
def sortedGroups (request : RowsRequest) : List String :=
  (request.sort.map SortSpec.column).filter (· ∈ request.groupFields)

variable {request : RowsRequest} {config : Config} {table : String} {values : PivotValues}
  {statement : Statement}

theorem sort_openGroups (request : RowsRequest) (keys : List String) :
    (request.openGroups keys).sort = request.sort := by
  induction keys generalizing request with
  | nil => rfl
  | cons key rest ih => exact ih (request.addGroupKey key)

theorem groupFields_openGroups (request : RowsRequest) (keys : List String) :
    (request.openGroups keys).groupFields = request.groupFields := by
  rw [groupFields, rowGroups_openGroups, groupFields]

theorem sortedGroups_openGroups (request : RowsRequest) (keys : List String) :
    (request.openGroups keys).sortedGroups = request.sortedGroups := by
  rw [sortedGroups, sort_openGroups, groupFields_openGroups, sortedGroups]

/-- What a statement groups and sorts by are two lists, cut at the level of the request. -/
theorem columns_of_statement (grouped : request.rowGroups ≠ [])
    (stated : request.statement config table values = .ok statement) :
    statement.groupBy = request.groupFields.take (request.groupKeys.length + 1) ∧
      statement.orderBy.map OrderItem.column =
        request.sortedGroups.take (request.groupKeys.length + 1) := by
  rcases eq_specifiedStatement stated with ⟨source, items, _, _, rfl⟩
  refine ⟨request.visibleGroups_eq, ?_⟩
  simp only [specifiedStatement, specifiedOrder, if_neg grouped, sortedGroups, List.filter_map,
    ← List.map_take, List.map_map]
  rfl

/-- A statement sorts by groups if the entries that count at its level do. -/
theorem sortsGroups_of_statement (grouped : request.rowGroups ≠ [])
    (stated : request.statement config table values = .ok statement) :
    statement.SortsGroups ↔
      ∀ column ∈ request.sortedGroups.take (request.groupKeys.length + 1),
        column ∈ request.groupFields.take (request.groupKeys.length + 1) := by
  rcases columns_of_statement grouped stated with ⟨groupBy_eq, columns_eq⟩
  rw [Statement.sortsGroups_iff, groupBy_eq, columns_eq]

/-- Whether the statements of a request and of all levels below it sort by what they group by. -/
def SortsGroupsBelow (request : RowsRequest) (config : Config) (table : String)
    (values : PivotValues) : Prop :=
  ∀ keys, request.groupKeys.length + keys.length ≤ request.rowGroups.length →
    ∃ statement, (request.openGroups keys).CompilesTo config table values statement ∧
      statement.SortsGroups

/--
A request with more groups opened compiles, and sorts by groups if the entries at its level do.
-/
theorem sortsGroups_openGroups (grouped : request.rowGroups ≠ [])
    (faultless : request.faults config table = []) {keys : List String}
    (fitting : request.groupKeys.length + keys.length ≤ request.rowGroups.length) :
    ∃ statement, (request.openGroups keys).CompilesTo config table values statement ∧
      (statement.SortsGroups ↔
        ∀ column ∈ request.sortedGroups.take (request.groupKeys.length + keys.length + 1),
          column ∈ request.groupFields.take (request.groupKeys.length + keys.length + 1)) := by
  have reports := (request.openGroups keys).statement_reports config table values
  rw [faults_openGroups faultless fitting] at reports
  rcases reports with ⟨statement, stated⟩
  have sorts := sortsGroups_of_statement (by rwa [rowGroups_openGroups]) stated
  rw [sortedGroups_openGroups, groupFields_openGroups, groupKeys_openGroups,
    List.length_append] at sorts
  exact ⟨statement, compilesTo_of_statement stated, sorts⟩

/--
Requests sort by groups at every level if the entries do. Any keys will do to get to a level, since
statements are not sorted by keys.
-/
theorem sortsGroupsBelow_iff (grouped : request.rowGroups ≠ [])
    (faultless : request.faults config table = []) :
    request.SortsGroupsBelow config table values ↔
      ∀ level, request.groupKeys.length ≤ level → level ≤ request.groupFields.length →
        ∀ column ∈ request.sortedGroups.take (level + 1),
          column ∈ request.groupFields.take (level + 1) := by
  have fields_length : request.groupFields.length = request.rowGroups.length := List.length_map ..
  constructor
  · intro below level reached inside
    let keys := List.replicate (level - request.groupKeys.length) ""
    have keys_length : keys.length = level - request.groupKeys.length := List.length_replicate
    have fitting : request.groupKeys.length + keys.length ≤ request.rowGroups.length := by
      omega
    rcases below keys fitting with ⟨statement, compiled, sorts⟩
    rcases sortsGroups_openGroups grouped faultless fitting with ⟨other, otherCompiled, iff⟩
    have same : statement = other := Except.ok.inj (compiled.stated.symm.trans otherCompiled.stated)
    rw [same, iff, keys_length, Nat.add_sub_cancel' reached] at sorts
    exact sorts
  · intro within keys fitting
    rcases sortsGroups_openGroups grouped faultless fitting with ⟨statement, compiled, iff⟩
    refine ⟨statement, compiled, iff.mpr ?_⟩
    apply within
    · omega
    · omega

end RowsRequest

/--
A grouped statement sorts by columns of groups, at most one for each visible level. They are
columns that it groups by, as long as no group is sorted by before its level is reached.
-/
theorem sorting_within_groups_iff (request : RowsRequest) (config : Config) (table : String)
    (values : PivotValues) (query : Query) (grouped : request.rowGroups ≠ [])
    (compiled : (request.compile config table values).result = .ok query) :
    ∃ statement, request.CompilesTo config table values statement ∧
      statement.render config.dialect = query ∧
      (∀ item ∈ statement.orderBy, item.column ∈ request.groupFields) ∧
      statement.orderBy.length ≤ request.groupKeys.length + 1 ∧
      (statement.SortsGroups ↔
        ∀ column ∈ request.sortedGroups.take (request.groupKeys.length + 1),
          column ∈ request.groupFields.take (request.groupKeys.length + 1)) ∧
      (request.SortsGroupsBelow config table values ↔
        ∀ (position : Nat) (column : String), request.sortedGroups[position]? = some column →
          column ∈ request.groupFields.take (max request.groupKeys.length position + 1)) := by
  have faultless := (request.compile_reports config table values).eq_nil_of_ok compiled
  rcases RowsRequest.CompilesTo.of_compile compiled with ⟨statement, compilesTo, rendered⟩
  rcases RowsRequest.columns_of_statement grouped compilesTo.stated with ⟨_, columns_eq⟩
  have known : ∀ column ∈ request.sortedGroups, column ∈ request.groupFields := by
    intro column columnMem
    simpa using (List.mem_filter.mp columnMem).2
  refine ⟨statement, compilesTo, rendered, ?_, ?_,
    RowsRequest.sortsGroups_of_statement grouped compilesTo.stated, ?_⟩
  · intro item itemMem
    have columnMem : item.column ∈ statement.orderBy.map OrderItem.column :=
      List.mem_map_of_mem itemMem
    rw [columns_eq] at columnMem
    exact known _ (List.mem_of_mem_take columnMem)
  · rw [← List.length_map OrderItem.column, columns_eq, List.length_take]
    exact Nat.min_le_left ..
  · have reached : request.groupKeys.length ≤ request.groupFields.length := by
      have fitting := faultless
      simp only [RowsRequest.faults, RowsRequest.checkFaults, RowsRequest.groupFaults,
        List.append_eq_nil_iff, faultIf_eq_nil, Nat.not_lt] at fitting
      rw [RowsRequest.groupFields, List.length_map]
      exact fitting.1.1.1.2.2
    rw [RowsRequest.sortsGroupsBelow_iff grouped faultless]
    exact take_subset_take_iff known reached

theorem sorting_within_groups_iff_outerFirst :
    let request := ((((RowsRequest.new 0 9).addRowGroup (.ofField "a" none)).addRowGroup
      (.ofField "b" none)).addSort ⟨"a", .descending⟩).addSort ⟨"b", .ascending⟩
    request.rowGroups ≠ [] ∧
      (∃ statement, request.CompilesTo .default "t" .empty statement ∧ statement.SortsGroups) ∧
      request.SortsGroupsBelow .default "t" .empty := by
  intro request
  have grouped : request.rowGroups ≠ [] := by
    decide
  have compiled : (request.compile .default "t" .empty).result = .ok
      ⟨"SELECT \"a\" FROM \"t\" GROUP BY \"a\" ORDER BY \"a\" DESC" ++
        " OFFSET ? ROWS FETCH NEXT ? ROWS ONLY", [.ofInt64 0, .ofInt64 10]⟩ := by
    cbv
  rcases sorting_within_groups_iff request .default "t" .empty _ grouped compiled with
    ⟨statement, compilesTo, _, _, _, sorts, below⟩
  refine ⟨grouped, ⟨statement, compilesTo, sorts.mpr (by decide)⟩, below.mpr ?_⟩
  intro position column found
  have sorted : request.sortedGroups = ["a", "b"] := by
    decide
  rw [sorted] at found
  rcases position with _ | _ | further
  · cases found
    decide
  · cases found
    decide
  · cases found

/-- An inner group is sorted by while rows are grouped by an outer one only. -/
theorem sorting_outside_groups :
    let request := (((RowsRequest.new 0 9).addRowGroup (.ofField "a" none)).addRowGroup
      (.ofField "b" none)).addSort ⟨"b", .ascending⟩
    request.rowGroups ≠ [] ∧ ∃ statement, request.CompilesTo .default "t" .empty statement ∧
      statement.render .ansi = ⟨"SELECT \"a\" FROM \"t\" GROUP BY \"a\" ORDER BY \"b\" ASC" ++
        " OFFSET ? ROWS FETCH NEXT ? ROWS ONLY", [.ofInt64 0, .ofInt64 10]⟩ ∧
      ∃ item ∈ statement.orderBy, item.column ∉ statement.groupBy := by
  intro request
  have stated : request.statement .default "t" .empty = .ok
      ⟨[.column "a"], ⟨none, "t"⟩, none, ["a"], [⟨"b", .ascending⟩], .ofInt64 0, .ofInt64 10⟩ := by
    cbv
  refine ⟨by decide, _, RowsRequest.compilesTo_of_statement stated, by cbv, ?_⟩
  exact ⟨⟨"b", .ascending⟩, by simp, by decide⟩

end RowQuery
