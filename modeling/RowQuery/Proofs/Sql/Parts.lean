import RowQuery.Sql.Render

/-!
# The parts of a statement

This file says what the tokens and the values of a statement are in terms of its parts.
The tokens of a list come with separators and brackets between them, which hold no
values; so the values of a whole are the values of its parts, one part after the other.
For a statement these are the values of its select list, those of its condition, and
the two values of the page.
-/

namespace RowQuery

/-- Separators hold nothing, so what is read off groups is read off one group after the other. -/
theorem Token.filterMap_intercalate {α : Type} {read : Token → Option α} {separator : Word}
    (silent : read (.word separator) = none) (groups : List (List Token)) :
    (List.intercalate [.word separator] groups).filterMap read =
      groups.flatMap (List.filterMap read) := by
  induction groups with
  | nil => rfl
  | cons first others ih =>
      cases others with
      | nil => simp [List.intercalate_singleton]
      | cons second rest =>
          rw [List.intercalate_cons_cons, List.filterMap_append, List.filterMap_append, ih,
            List.flatMap_cons]
          simp [silent]

/-- The values of groups with a separator between them are the values of the groups. -/
theorem Token.binds_intercalate (separator : Word) (groups : List (List Token)) :
    binds (List.intercalate [.word separator] groups) = groups.flatMap binds :=
  filterMap_intercalate rfl groups

namespace Predicate

/-- What holds of a conjunction if it holds of its parts, and of all else, holds of all. -/
theorem inductionOnParts {motive : Predicate → Prop}
    (compare : ∀ column comparison value, motive (.compare column comparison value))
    (like : ∀ column pattern negated, motive (.like column pattern negated))
    (isNull : ∀ column negated, motive (.isNull column negated))
    (inList : ∀ column values, motive (.inList column values))
    (between : ∀ column low high, motive (.between column low high))
    (conj : ∀ parts, (∀ part ∈ parts, motive part) → motive (.conj parts))
    (predicate : Predicate) : motive predicate := by
  apply @Predicate.rec motive (fun parts => ∀ part ∈ parts, motive part)
  · exact compare
  · exact like
  · exact isNull
  · exact inList
  · exact between
  · exact conj
  · simp
  · intro first others firstHolds othersHold part partMem
    rcases List.mem_cons.mp partMem with rfl | otherMem
    · exact firstHolds
    · exact othersHold part otherMem

theorem tokensOfEach_eq_map (parts : List Predicate) : tokensOfEach parts = parts.map tokens := by
  induction parts with
  | nil => simp [tokensOfEach]
  | cons first others ih => simp [tokensOfEach, ih]

theorem tokens_inList (column : String) {values : List Bind} (nonempty : values ≠ []) :
    (inList column values).tokens =
      .name column :: .word .inValues ::
        Token.commas (values.map fun value => [.slot value]) ++ [.word .closing] := by
  cases values with
  | nil => exact absurd rfl nonempty
  | cons value others => simp [tokens]

theorem tokens_conj (parts : List Predicate) :
    (conj parts).tokens =
      .word .opening :: List.intercalate [.word .and] (parts.map tokens) ++ [.word .closing] := by
  rw [tokens, tokensOfEach_eq_map]

/-- The values of a predicate, in the order of their placeholders. -/
def binds (predicate : Predicate) : List Bind := Token.binds predicate.tokens

@[simp]
theorem binds_compare (column : String) (comparison : Comparison) (value : Bind) :
    (compare column comparison value).binds = [value] := by
  simp [binds, tokens]

@[simp]
theorem binds_like (column : String) (pattern : Bind) (negated : Bool) :
    (like column pattern negated).binds = [pattern] := by
  simp [binds, tokens]

@[simp]
theorem binds_isNull (column : String) (negated : Bool) :
    (isNull column negated).binds = [] := by
  simp [binds, tokens]

@[simp]
theorem binds_inList (column : String) (values : List Bind) :
    (inList column values).binds = values := by
  cases values with
  | nil => simp [binds, tokens]
  | cons first others =>
      have nonempty : first :: others ≠ [] := List.cons_ne_nil first others
      simp [binds, tokens_inList column nonempty, Token.commas, Token.binds_intercalate,
        List.flatMap_map]

@[simp]
theorem binds_between (column : String) (low high : Bind) :
    (between column low high).binds = [low, high] := by
  simp [binds, tokens]

@[simp]
theorem binds_conj (parts : List Predicate) : (conj parts).binds = parts.flatMap binds := by
  simp [binds, tokens_conj, Token.binds_intercalate, List.flatMap_map]
  rfl

/-- What is read off a conjunction part by part is read off joined predicates one by one. -/
theorem flatMap_all? {α : Type} {read : Predicate → List α}
    (conjoined : ∀ parts, read (conj parts) = parts.flatMap read) (predicates : List Predicate) :
    (all? predicates).toList.flatMap read = predicates.flatMap read := by
  have opened (predicate : Predicate) : predicate.parts.flatMap read = read predicate := by
    cases predicate with
    | conj inner => exact (conjoined inner).symm
    | _ => simp [parts]
  have flattened : (predicates.flatMap parts).flatMap read = predicates.flatMap read := by
    rw [List.flatMap_assoc]
    simp only [opened]
  rw [← flattened, all?]
  cases predicates.flatMap parts with
  | nil => rfl
  | cons first others =>
      cases others with
      | nil => rfl
      | cons second rest => simp [conjoined]

/-- The conjunction of predicates has the values of all of them, in their order. -/
theorem binds_all? (predicates : List Predicate) :
    (all? predicates).toList.flatMap binds = predicates.flatMap binds :=
  flatMap_all? binds_conj predicates

end Predicate

/-- The values of an expression, in the order of their placeholders. -/
def Expression.binds : Expression → List Bind
  | .column _ => []
  | .null => []
  | .aggregate _ argument => argument.binds
  | .caseWhen condition result otherwise => condition.binds ++ result.binds ++ otherwise.binds

theorem Expression.binds_tokens (expression : Expression) :
    Token.binds expression.tokens = expression.binds := by
  induction expression with
  | column name => rfl
  | null => rfl
  | aggregate function argument ih => simp [tokens, binds, ih]
  | caseWhen condition result otherwise resultIH otherwiseIH =>
      simp [tokens, binds, resultIH, otherwiseIH, Predicate.binds]

/-- The values of an entry of the select list. Its name holds none. -/
theorem SelectItem.binds_tokens (item : SelectItem) :
    Token.binds item.tokens = item.expression.binds := by
  rcases item with ⟨expression, name⟩
  cases name with
  | none => simp [tokens, Expression.binds_tokens]
  | some content => simp [tokens, Expression.binds_tokens]

namespace Statement

variable (statement : Statement)

theorem binds_itemTokens :
    Token.binds statement.itemTokens =
      statement.items.flatMap fun item => item.expression.binds := by
  rw [itemTokens]
  split
  · next noneSelected => simp [noneSelected]
  · simp [Token.commas, Token.binds_intercalate, List.flatMap_map, SelectItem.binds_tokens]

theorem binds_source : Token.binds statement.source.tokens = [] := by
  rw [Table.tokens]
  split
  · rfl
  · rfl

theorem binds_conditionTokens :
    Token.binds statement.conditionTokens = statement.condition.toList.flatMap Predicate.binds := by
  rw [conditionTokens]
  split
  · next unconditional => simp [unconditional]
  · next predicate conditional => simp [conditional, Predicate.binds]

theorem binds_groupTokens : Token.binds statement.groupTokens = [] := by
  rw [groupTokens]
  split
  · rfl
  · simp [Token.commas, Token.binds_intercalate]

theorem binds_orderTokens : Token.binds statement.orderTokens = [] := by
  rw [orderTokens]
  split
  · rfl
  · simp [Token.commas, Token.binds_intercalate, OrderItem.tokens]

/-- The values of a statement, clause by clause. -/
theorem binds_tokens :
    Token.binds statement.tokens =
      (statement.items.flatMap fun item => item.expression.binds) ++
        statement.condition.toList.flatMap Predicate.binds ++
          [statement.offset, statement.fetch] := by
  simp [tokens, pageTokens, binds_itemTokens, binds_source, binds_conditionTokens,
    binds_groupTokens, binds_orderTokens]

/-- The values that a rendered statement comes with do not depend on the dialect. -/
theorem render_binds (dialect : Dialect) :
    (statement.render dialect).binds =
      (statement.items.flatMap fun item => item.expression.binds) ++
        statement.condition.toList.flatMap Predicate.binds ++
          [statement.offset, statement.fetch] := by
  rw [← binds_tokens]
  simp [render, Writer.finish, Writer.pushStatement, Writer.push, Writer.new]

end Statement

end RowQuery
