import RowQuery.Proofs.Sql.Conjunctions
import RowQuery.Proofs.Sql.QuotedRuns
import RowQuery.Proofs.Sql.Placeholders

/-!
# Counting values ahead of writing

How many values a statement comes with can be said without writing it. This file compares three
ways to find out: counting in the tree of the statement, counting the values that come out of the
writer, and counting the placeholders in the text. The values come from the predicates in the
statement, which are those of its `CASE` expressions and its condition, and the page adds two. Of
a predicate it is the leaves that have the values, so nesting does not change their order.
-/

namespace RowQuery

/-- The values that a predicate has itself, and not in a part of it. -/
def Predicate.ownValues : Predicate → List Bind
  | .compare _ _ value => [value]
  | .like _ pattern _ => [pattern]
  | .isNull _ _ => []
  | .inList _ values => values
  | .between _ low high => [low, high]
  | .conj _ => []

/-- The values of a predicate are those of its leaves. -/
theorem Predicate.binds_eq_leaves (predicate : Predicate) :
    predicate.binds = predicate.leaves.flatMap ownValues := by
  induction predicate using inductionOnParts with
  | conj parts each =>
      rw [binds_conj, leaves_conj, List.flatMap_assoc]
      exact List.flatMap_congr each
  | _ => simp [leaves, ownValues]

/-- The predicates that an expression distinguishes cases by, at any depth. -/
def Expression.conditions : Expression → List Predicate
  | .column _ => []
  | .null => []
  | .aggregate _ argument => argument.conditions
  | .caseWhen condition result otherwise =>
      condition :: result.conditions ++ otherwise.conditions

/-- The values of an expression are those of its conditions. -/
theorem Expression.binds_eq_conditions (expression : Expression) :
    expression.binds = expression.conditions.flatMap Predicate.binds := by
  induction expression with
  | column name => rfl
  | null => rfl
  | aggregate function argument ih => exact ih
  | caseWhen condition result otherwise resultIH otherwiseIH =>
      simp [binds, conditions, resultIH, otherwiseIH]

namespace Statement

/-- The predicates in a statement: those of its `CASE` expressions, and its condition. -/
def predicates (statement : Statement) : List Predicate :=
  (statement.items.flatMap fun item => item.expression.conditions) ++ statement.condition.toList

/-- The number of values of a statement: those of the predicates in it, and two for the page. -/
def bindCount (statement : Statement) : Nat :=
  ((statement.items.flatMap fun item => item.expression.conditions).map Predicate.bindCount).sum +
    (statement.condition.map Predicate.bindCount).getD 0 + 2

theorem sum_bindCount_predicates (statement : Statement) :
    (statement.predicates.map Predicate.bindCount).sum + 2 = statement.bindCount := by
  have ofCondition : (statement.condition.toList.map Predicate.bindCount).sum =
      (statement.condition.map Predicate.bindCount).getD 0 := by
    cases statement.condition with
    | none => rfl
    | some predicate => simp
  rw [predicates, bindCount, List.map_append, List.sum_append, ofCondition]

theorem render_binds_eq (statement : Statement) (dialect : Dialect) :
    (statement.render dialect).binds =
      statement.predicates.flatMap Predicate.binds ++ [statement.offset, statement.fetch] := by
  rw [render_binds, predicates, List.flatMap_append, List.flatMap_assoc]
  simp only [Expression.binds_eq_conditions]

/-- A rendered statement has as many values as were counted. -/
theorem length_render_binds (statement : Statement) (dialect : Dialect) :
    (statement.render dialect).binds.length = statement.bindCount := by
  rw [render_binds_eq, List.length_append, Predicate.length_flatMap_binds,
    ← sum_bindCount_predicates]
  rfl

/-- A rendered statement has a placeholder for each of its values. -/
theorem countPlaceholders_render (statement : Statement) (dialect : Dialect) :
    dialect.countPlaceholders (statement.render dialect).sql =
      (statement.render dialect).binds.length := by
  rw [Dialect.countPlaceholders, render_sql, Dialect.scan_write]
  simp [render, Writer.finish, Writer.pushStatement, Writer.push, Writer.new]

end Statement

/--
A rendered statement has as many values, and as many placeholders, as were counted. The values are
those of the predicates in it and then those of the page; each predicate adds the values of its
leaves, from left to right, to what has been written before.
-/
theorem bindCount_predicts (dialect : Dialect) :
    (∀ statement : Statement,
      (statement.render dialect).binds.length = statement.bindCount ∧
        dialect.countPlaceholders (statement.render dialect).sql = statement.bindCount ∧
        (statement.render dialect).binds =
          (statement.predicates.flatMap fun predicate =>
            predicate.leaves.flatMap Predicate.ownValues) ++
              [statement.offset, statement.fetch]) ∧
    ∀ (writer : Writer) (predicate : Predicate),
      (writer.push predicate.tokens).binds =
          writer.binds ++ predicate.leaves.flatMap Predicate.ownValues ∧
        (predicate.leaves.flatMap Predicate.ownValues).length = predicate.bindCount := by
  refine ⟨?_, ?_⟩
  · intro statement
    have counted := statement.length_render_binds dialect
    refine ⟨counted, ?_, ?_⟩
    · rw [statement.countPlaceholders_render, counted]
    · have each : statement.predicates.flatMap Predicate.binds =
          statement.predicates.flatMap fun predicate =>
            predicate.leaves.flatMap Predicate.ownValues :=
        List.flatMap_congr fun predicate _ => predicate.binds_eq_leaves
      rw [statement.render_binds_eq, each]
  · intro writer predicate
    rw [← predicate.binds_eq_leaves]
    exact ⟨rfl, predicate.length_binds⟩

end RowQuery
