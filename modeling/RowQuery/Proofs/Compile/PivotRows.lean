import Mathlib
import RowQuery.Proofs.Compile.Resolved
import RowQuery.Proofs.Sql.Truth

/-!
# The rows of the combinations

Each combination of pivot values aggregates the rows that satisfy its predicate. This file
shows that the combinations share the rows out: a row whose values were all supplied goes
to one combination, and any other row goes to none.

The number of combinations that a row satisfies is worked out over the product of the axes.
It is the product of the numbers of values that the row matches on each axis, and these are
one or zero where no value is supplied twice. That a column is listed twice does no harm:
of its pairs of values, a row satisfies only the one in which both are equal.
-/

namespace RowQuery

/-- A combination holds of a row if each of its columns has its value there. -/
theorem Combination.holds_predicate (truth : Predicate → Bool) (combination : Combination) :
    combination.predicate.holds truth =
      combination.pairs.all fun pair => truth (.equalTo pair.1 pair.2) := by
  have pairwise : (combination.pairs.all fun pair => truth (.equalTo pair.1 pair.2)) =
      (combination.pairs.map fun pair => Predicate.equalTo pair.1 pair.2).all
        (Predicate.holds truth) := by
    simp [List.all_map, Function.comp_def]
  rw [pairwise, predicate]
  split
  · next only single =>
      have alone : (combination.pairs.map fun pair => Predicate.equalTo pair.1 pair.2) = [only] :=
        single
      simp [alone]
  · exact Predicate.holds_conj truth _

/-- Of values that are all different, a row has one or none. -/
theorem countP_value {values : List String} (distinct : values.Nodup) (found : Option String) :
    values.countP (fun value => decide (found = some value)) =
      if ∃ value ∈ values, found = some value then 1 else 0 := by
  cases found with
  | none => simp
  | some content =>
      have counted : values.countP (fun value => decide (some content = some value)) =
          values.count content := by
        rw [List.count_eq_countP]
        congr 1
        funext value
        rw [beq_eq_decide, decide_eq_decide, Option.some_inj, eq_comm]
      rw [counted, distinct.count]
      simp

namespace Axis

/-- The points with a value come from the points of the other axes, if the value matches. -/
theorem countP_cons (matching : String × String → Bool) (pair : String × String)
    (points : List (List (String × String))) :
    (points.map (pair :: ·)).countP (fun point => point.all matching) =
      if matching pair then points.countP fun point => point.all matching else 0 := by
  rw [List.countP_map]
  cases matched : matching pair with
  | true => simp [Function.comp_def, matched]
  | false => simp [Function.comp_def, matched]

/--
A row matches one point of a product, if each axis has its value, and none otherwise: of the values
of an axis only those that match contribute, each with all points of the others.
-/
theorem countP_product (row : String → Option String) {axes : List Axis}
    (distinct : ∀ axis ∈ axes, axis.values.Nodup) :
    (product axes).countP (fun point => point.all fun pair => decide (row pair.1 = some pair.2)) =
      if ∀ axis ∈ axes, ∃ value ∈ axis.values, row axis.column = some value then 1 else 0 := by
  induction axes with
  | nil => simp [product]
  | cons axis rest ih =>
      have one := countP_value (distinct axis List.mem_cons_self) (row axis.column)
      have others := ih fun other otherMem => distinct other (List.mem_cons_of_mem axis otherMem)
      have counted : (product (axis :: rest)).countP
            (fun point => point.all fun pair => decide (row pair.1 = some pair.2)) =
          axis.values.countP (fun value => decide (row axis.column = some value)) *
            (product rest).countP
              fun point => point.all fun pair => decide (row pair.1 = some pair.2) := by
        simp only [product, List.countP_flatMap, Function.comp_def, countP_cons]
        rw [List.sum_map_ite]
        simp [← List.countP_eq_length_filter]
      rw [counted, one, others]
      by_cases supplied : ∃ value ∈ axis.values, row axis.column = some value
      · simp [supplied]
      · simp [supplied]

end Axis

/--
The combinations share the rows out: one combination for a row whose values were supplied for
all pivot columns, none for any other row. Columns without a name have no combinations.
-/
theorem combinations_partition_rows (columns : List ColumnSpec) (values : PivotValues)
    (row : String → Option String) (others : Predicate → Bool)
    (distinct : ∀ column ∈ columns, ((values.get? column.field).getD []).Nodup) :
    (Expansion.resolve columns values).result = .error (.emptyIdentifier .pivotColumn) ∧
        (∃ column ∈ columns, column.field = "") ∨
      ∃ expansion, (Expansion.resolve columns values).result = .ok expansion ∧
        expansion.combinations.countP (fun combination =>
            combination.predicate.holds (Predicate.rowTruth row others)) =
          if columns ≠ [] ∧ ∀ column ∈ columns,
              ∃ value ∈ (values.get? column.field).getD [], row column.field = some value
            then 1 else 0 := by
  rw [Expansion.resolve_result]
  by_cases unnamed : ∃ column ∈ columns, column.field = ""
  · exact .inl ⟨if_pos unnamed, unnamed⟩
  refine .inr ⟨_, if_neg unnamed, ?_⟩
  cases columns with
  | nil => simp [Expansion.combinations]
  | cons first rest =>
      have axesDistinct : ∀ axis ∈ (first :: rest).map (Axis.supplied values),
          axis.values.Nodup := by
        simpa [Axis.supplied] using distinct
      have matched := Axis.countP_product row axesDistinct
      rw [Expansion.combinations, if_neg (by simp), List.countP_map]
      simp only [Function.comp_def, Combination.holds_predicate, Predicate.rowTruth_equalTo]
      rw [matched]
      simp [Axis.supplied]

theorem combinations_partition_rows_repeatedColumn :
    ∃ expansion, (Expansion.resolve [.ofField "q" none, .ofField "r" none, .ofField "q" none]
        ((OrderedMap.empty.insert "r" ["x", "y"]).insert "q" ["a", "b"])).result = .ok expansion ∧
      expansion.combinations.countP (fun combination => combination.predicate.holds
        (Predicate.rowTruth (fun column => if column = "q" then some "b" else some "x")
          fun _ => false)) = 1 := by
  have partitioned := combinations_partition_rows
    [.ofField "q" none, .ofField "r" none, .ofField "q" none]
    ((OrderedMap.empty.insert "r" ["x", "y"]).insert "q" ["a", "b"])
    (fun column => if column = "q" then some "b" else some "x") (fun _ => false) (by decide)
  rcases partitioned with ⟨_, unnamed⟩ | ⟨expansion, resolved, counted⟩
  · exact absurd unnamed (by decide)
  · exact ⟨expansion, resolved, counted.trans (if_pos (by decide))⟩

end RowQuery
