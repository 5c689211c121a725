import Mathlib.Data.List.Basic
import RowQuery.Proofs.Sql.Parts

/-!
# The names in a statement

This file lists the names that a statement holds, its columns, aliases, schema and table,
in the order in which they are written. The lists are taken from the tree of a statement
without writing it. That the tokens of the statement hold the same names in the same order
is shown part by part, as for the values.
-/

namespace RowQuery

namespace Token

/-- The name of a token that is one. -/
def name? : Token → Option String
  | .name content => some content
  | _ => none

/-- The names among tokens, in order. -/
def names (tokens : List Token) : List String := tokens.filterMap name?

@[simp]
theorem names_nil : names [] = [] := rfl

@[simp]
theorem names_word (word : Word) (rest : List Token) :
    names (.word word :: rest) = names rest := rfl

@[simp]
theorem names_name (content : String) (rest : List Token) :
    names (.name content :: rest) = content :: names rest := rfl

@[simp]
theorem names_slot (value : Bind) (rest : List Token) : names (.slot value :: rest) = names rest :=
  rfl

@[simp]
theorem names_append (first second : List Token) :
    names (first ++ second) = names first ++ names second := by
  simp [names]

theorem names_intercalate (separator : Word) (groups : List (List Token)) :
    names (List.intercalate [.word separator] groups) = groups.flatMap names :=
  filterMap_intercalate rfl groups

theorem names_commas (groups : List (List Token)) : names (commas groups) = groups.flatMap names :=
  names_intercalate .comma groups

end Token

namespace Predicate

mutual

/-- The names in a predicate. -/
def names : Predicate → List String
  | .compare column _ _ => [column]
  | .like column _ _ => [column]
  | .isNull column _ => [column]
  | .inList column _ => [column]
  | .between column _ _ => [column]
  | .conj parts => namesOfEach parts

/-- The names of several predicates, in order. -/
def namesOfEach : List Predicate → List String
  | [] => []
  | part :: rest => part.names ++ namesOfEach rest

end

theorem namesOfEach_eq_flatMap (parts : List Predicate) :
    namesOfEach parts = parts.flatMap names := by
  induction parts with
  | nil => simp [namesOfEach]
  | cons first others ih => simp [namesOfEach, ih]

theorem names_tokens (predicate : Predicate) : Token.names predicate.tokens = predicate.names := by
  induction predicate using inductionOnParts with
  | compare column comparison value => simp [tokens, names]
  | like column pattern negated => simp [tokens, names]
  | isNull column negated => simp [tokens, names]
  | between column low high => simp [tokens, names]
  | inList column values =>
      cases values with
      | nil => simp [tokens, names]
      | cons first others =>
          rw [tokens_inList column (List.cons_ne_nil first others), names]
          simp [Token.names_commas]
  | conj parts each =>
      have same : parts.flatMap (fun part => Token.names part.tokens) = parts.flatMap names :=
        List.flatMap_congr each
      rw [tokens_conj, names, namesOfEach_eq_flatMap, ← same]
      simp [Token.names_intercalate, List.flatMap_map]

end Predicate

/-- The names of an expression, in the order of its text. -/
def Expression.names : Expression → List String
  | .column name => [name]
  | .null => []
  | .aggregate _ argument => argument.names
  | .caseWhen condition result otherwise => condition.names ++ result.names ++ otherwise.names

theorem Expression.names_tokens (expression : Expression) :
    Token.names expression.tokens = expression.names := by
  induction expression with
  | column name => rfl
  | null => rfl
  | aggregate function argument ih => simp [tokens, names, ih]
  | caseWhen condition result otherwise resultIH otherwiseIH =>
      simp [tokens, names, Predicate.names_tokens, resultIH, otherwiseIH]

/-- The names in an entry of the select list: those of its expression, and its own. -/
def SelectItem.names (item : SelectItem) : List String := item.expression.names ++ item.name.toList

theorem SelectItem.names_tokens (item : SelectItem) : Token.names item.tokens = item.names := by
  rcases item with ⟨expression, name⟩
  cases name with
  | none => simp [tokens, names, Expression.names_tokens]
  | some content => simp [tokens, names, Expression.names_tokens]

/-- The names of a table: the schema, if there is one, and its own. -/
def Table.names (table : Table) : List String := table.schema.toList ++ [table.name]

theorem Table.names_tokens (table : Table) : Token.names table.tokens = table.names := by
  rcases table with ⟨schema, name⟩
  cases schema with
  | none => rfl
  | some content => rfl

namespace Statement

variable (statement : Statement)

/-- The names in a statement. -/
def names : List String :=
  statement.items.flatMap SelectItem.names ++ statement.source.names ++
    statement.condition.toList.flatMap Predicate.names ++ statement.groupBy ++
      statement.orderBy.map OrderItem.column

theorem names_itemTokens :
    Token.names statement.itemTokens = statement.items.flatMap SelectItem.names := by
  rw [itemTokens]
  split
  · next noneSelected => simp [noneSelected]
  · simp [Token.names_commas, List.flatMap_map, SelectItem.names_tokens]

theorem names_conditionTokens :
    Token.names statement.conditionTokens =
      statement.condition.toList.flatMap Predicate.names := by
  rw [conditionTokens]
  split
  · next unconditional => simp [unconditional]
  · next predicate conditional => simp [conditional, Predicate.names_tokens]

theorem names_groupTokens : Token.names statement.groupTokens = statement.groupBy := by
  rw [groupTokens]
  split
  · next ungrouped => simp [ungrouped]
  · simp [Token.names_commas, List.flatMap_map]

theorem names_orderTokens :
    Token.names statement.orderTokens = statement.orderBy.map OrderItem.column := by
  rw [orderTokens]
  split
  · next unordered => simp [unordered]
  · simp [Token.names_commas, List.flatMap_map, OrderItem.tokens, ← List.map_eq_flatMap]

/-- The tokens of a statement hold its names, in the order in which they are written. -/
theorem names_tokens : Token.names statement.tokens = statement.names := by
  simp [tokens, names, pageTokens, names_itemTokens, Table.names_tokens, names_conditionTokens,
    names_groupTokens, names_orderTokens]

end Statement

end RowQuery
