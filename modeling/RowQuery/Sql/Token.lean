import RowQuery.Sql.Syntax

/-!
# Statements as tokens

A statement is first written as a list of tokens, which is the same for every dialect.
A token is a word of the language, a name or a slot for a value; the words are a fixed
list, and they carry the blanks around them. Only names and values come from outside,
and each stays whole in a token of its own.

`binds` reads the values off the slots, so the order of the values is the order of the
slots by definition.
-/

namespace RowQuery

/-- A word of the language, with the blanks that belong to it. -/
inductive Word where
  | select
  | everything
  | comma
  | source
  | dot
  | named
  | condition
  | groupBy
  | orderBy
  | ascending
  | descending
  | offset
  | fetch
  | rowsOnly
  | null
  | aggregate (function : Aggregate)
  | opening
  | closing
  | caseWhen
  | caseThen
  | caseElse
  | caseEnd
  | comparison (operator : Comparison)
  | like
  | notLike
  | isNull
  | isNotNull
  | inValues
  | inNothing
  | between
  | and
  deriving DecidableEq, Repr

/-- The text of a word, with the blanks around it. -/
def Word.text : Word → String
  | .select => "SELECT "
  | .everything => "*"
  | .comma => ","
  | .source => " FROM "
  | .dot => "."
  | .named => " AS "
  | .condition => " WHERE "
  | .groupBy => " GROUP BY "
  | .orderBy => " ORDER BY "
  | .ascending => " ASC"
  | .descending => " DESC"
  | .offset => " OFFSET "
  | .fetch => " ROWS FETCH NEXT "
  | .rowsOnly => " ROWS ONLY"
  | .null => "NULL"
  | .aggregate function => function.name
  | .opening => "("
  | .closing => ")"
  | .caseWhen => "CASE WHEN "
  | .caseThen => " THEN "
  | .caseElse => " ELSE "
  | .caseEnd => " END"
  | .comparison operator => " " ++ operator.symbol ++ " "
  | .like => " LIKE "
  | .notLike => " NOT LIKE "
  | .isNull => " IS NULL"
  | .isNotNull => " IS NOT NULL"
  | .inValues => " IN ("
  | .inNothing => " IN ('')"
  | .between => " BETWEEN "
  | .and => " AND "

/-- The smallest part of a statement. -/
inductive Token where
  | word (word : Word)
  | name (name : String)
  | slot (value : Bind)
  deriving DecidableEq, Repr

namespace Token

/-- The value of a slot. -/
def bind? : Token → Option Bind
  | .slot value => some value
  | _ => none

/-- The values of the slots, in order. -/
def binds (tokens : List Token) : List Bind := tokens.filterMap bind?

/-- Groups of tokens with commas between them. -/
def commas (groups : List (List Token)) : List Token :=
  List.intercalate [.word .comma] groups

@[simp]
theorem binds_nil : binds [] = [] := rfl

@[simp]
theorem binds_word (word : Word) (rest : List Token) :
    binds (.word word :: rest) = binds rest := rfl

@[simp]
theorem binds_name (name : String) (rest : List Token) : binds (.name name :: rest) = binds rest :=
  rfl

@[simp]
theorem binds_slot (value : Bind) (rest : List Token) :
    binds (.slot value :: rest) = value :: binds rest := rfl

@[simp]
theorem binds_append (first second : List Token) :
    binds (first ++ second) = binds first ++ binds second := by
  simp [binds]

end Token

namespace Predicate

mutual

/-- The tokens of a predicate. A conjunction stands between brackets. -/
def tokens : Predicate → List Token
  | .compare column comparison value =>
      [.name column, .word (.comparison comparison), .slot value]
  | .like column pattern negated =>
      [.name column, .word (if negated then .notLike else .like), .slot pattern]
  | .isNull column negated => [.name column, .word (if negated then .isNotNull else .isNull)]
  | .inList column [] => [.name column, .word .inNothing]
  | .inList column values =>
      .name column :: .word .inValues :: Token.commas (values.map fun value => [.slot value]) ++
        [.word .closing]
  | .between column low high =>
      [.name column, .word .between, .slot low, .word .and, .slot high]
  | .conj parts =>
      .word .opening :: List.intercalate [.word .and] (tokensOfEach parts) ++ [.word .closing]

/-- The tokens of each of several predicates. -/
def tokensOfEach : List Predicate → List (List Token)
  | [] => []
  | part :: rest => part.tokens :: tokensOfEach rest

end

end Predicate

/-- The tokens of an expression. -/
def Expression.tokens : Expression → List Token
  | .column name => [.name name]
  | .null => [.word .null]
  | .aggregate function argument =>
      .word (.aggregate function) :: .word .opening :: argument.tokens ++ [.word .closing]
  | .caseWhen condition result otherwise =>
      .word .caseWhen :: condition.tokens ++ .word .caseThen :: result.tokens ++
        .word .caseElse :: otherwise.tokens ++ [.word .caseEnd]

/-- The tokens of an entry of a select list, with its name behind it. -/
def SelectItem.tokens (item : SelectItem) : List Token :=
  item.expression.tokens ++
    match item.name with
    | none => []
    | some name => [.word .named, .name name]

/-- The tokens of an entry of an order. -/
def OrderItem.tokens (item : OrderItem) : List Token :=
  [.name item.column,
    .word (match item.direction with
      | .ascending => .ascending
      | .descending => .descending)]

/-- The tokens of a table, with its schema before it. -/
def Table.tokens (table : Table) : List Token :=
  match table.schema with
  | none => [.name table.name]
  | some schema => [.name schema, .word .dot, .name table.name]

namespace Statement

/-- The tokens of the select list, or a star if it is empty. -/
def itemTokens (statement : Statement) : List Token :=
  match statement.items with
  | [] => [.word .everything]
  | items => Token.commas (items.map SelectItem.tokens)

/-- The tokens of the condition, if there is one. -/
def conditionTokens (statement : Statement) : List Token :=
  match statement.condition with
  | none => []
  | some predicate => .word .condition :: predicate.tokens

/-- The tokens of the grouping, if there is one. -/
def groupTokens (statement : Statement) : List Token :=
  match statement.groupBy with
  | [] => []
  | columns => .word .groupBy :: Token.commas (columns.map fun column => [.name column])

/-- The tokens of the order, if there is one. -/
def orderTokens (statement : Statement) : List Token :=
  match statement.orderBy with
  | [] => []
  | items => .word .orderBy :: Token.commas (items.map OrderItem.tokens)

/-- The tokens of the page, whose bounds are values. -/
def pageTokens (statement : Statement) : List Token :=
  [.word .offset, .slot statement.offset, .word .fetch, .slot statement.fetch, .word .rowsOnly]

/-- The tokens of a statement, clause by clause. -/
def tokens (statement : Statement) : List Token :=
  .word .select :: statement.itemTokens ++ .word .source :: statement.source.tokens ++
    statement.conditionTokens ++ statement.groupTokens ++ statement.orderTokens ++
    statement.pageTokens

end Statement

end RowQuery
