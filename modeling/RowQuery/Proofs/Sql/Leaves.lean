import RowQuery.Proofs.Sql.Parts

/-!
# Names and values as leaves

The only parts of a statement that come from outside are its names and its values. This
file exchanges them, each for another one, and leaves the rest of the statement as it is.
`Statement.mapLeaves` does so in the tree of a statement and `Token.mapLeaves` in a list
of tokens, and the tokens of a changed statement are the changed tokens.

The text of a slot does not depend on its value. So a statement with other values is
rendered as the same text with other values: no value reaches the text.
-/

namespace RowQuery

section Leaves

variable (rename : String → String) (revalue : Bind → Bind)

/-- A token with its name or its value exchanged. -/
def Token.mapLeaves : Token → Token
  | .word content => .word content
  | .name content => .name (rename content)
  | .slot value => .slot (revalue value)

namespace Predicate

mutual

/-- A predicate with other names and other values, made of the same nodes. -/
def mapLeaves : Predicate → Predicate
  | .compare column comparison value => .compare (rename column) comparison (revalue value)
  | .like column pattern negated => .like (rename column) (revalue pattern) negated
  | .isNull column negated => .isNull (rename column) negated
  | .inList column values => .inList (rename column) (values.map revalue)
  | .between column low high => .between (rename column) (revalue low) (revalue high)
  | .conj parts => .conj (mapLeavesOfEach parts)

/-- Several predicates with other names and other values. -/
def mapLeavesOfEach : List Predicate → List Predicate
  | [] => []
  | part :: rest => part.mapLeaves :: mapLeavesOfEach rest

end

end Predicate

/-- An expression with other names and other values, made of the same nodes. -/
def Expression.mapLeaves : Expression → Expression
  | .column name => .column (rename name)
  | .null => .null
  | .aggregate function argument => .aggregate function argument.mapLeaves
  | .caseWhen condition result otherwise =>
      .caseWhen (condition.mapLeaves rename revalue) result.mapLeaves otherwise.mapLeaves

/-- An entry of the select list with its names and values exchanged. -/
def SelectItem.mapLeaves (item : SelectItem) : SelectItem :=
  ⟨item.expression.mapLeaves rename revalue, item.name.map rename⟩

/-- An entry of the order list with its name exchanged. -/
def OrderItem.mapNames (item : OrderItem) : OrderItem := ⟨rename item.column, item.direction⟩

/-- A table with other names. -/
def Table.mapNames (table : Table) : Table := ⟨table.schema.map rename, rename table.name⟩

/-- A statement with other names and other values in all of its clauses. -/
def Statement.mapLeaves (statement : Statement) : Statement where
  items := statement.items.map (SelectItem.mapLeaves rename revalue)
  source := statement.source.mapNames rename
  condition := statement.condition.map (Predicate.mapLeaves rename revalue)
  groupBy := statement.groupBy.map rename
  orderBy := statement.orderBy.map (OrderItem.mapNames rename)
  offset := revalue statement.offset
  fetch := revalue statement.fetch

/-- Other values for the leaves are other values for the slots. -/
theorem Token.binds_mapLeaves (tokens : List Token) :
    binds (tokens.map (mapLeaves rename revalue)) = (binds tokens).map revalue := by
  induction tokens with
  | nil => rfl
  | cons token rest ih =>
      cases token with
      | word content => simpa [mapLeaves] using ih
      | name content => simpa [mapLeaves] using ih
      | slot value => simpa [mapLeaves] using ih

/-- Separators are left as they are. -/
theorem Token.map_intercalate (separator : Word) (groups : List (List Token)) :
    (List.intercalate [.word separator] groups).map (mapLeaves rename revalue) =
      List.intercalate [.word separator] (groups.map (List.map (mapLeaves rename revalue))) := by
  induction groups with
  | nil => rfl
  | cons first others ih =>
      cases others with
      | nil => simp [List.intercalate_singleton]
      | cons second rest =>
          simp only [List.map_cons] at ih ⊢
          rw [List.intercalate_cons_cons, List.intercalate_cons_cons, List.map_append,
            List.map_append, ih]
          rfl

theorem Token.map_commas (groups : List (List Token)) :
    (commas groups).map (mapLeaves rename revalue) =
      commas (groups.map (List.map (mapLeaves rename revalue))) :=
  map_intercalate rename revalue .comma groups

namespace Predicate

theorem mapLeavesOfEach_eq_map (parts : List Predicate) :
    mapLeavesOfEach rename revalue parts = parts.map (mapLeaves rename revalue) := by
  induction parts with
  | nil => simp [mapLeavesOfEach]
  | cons first others ih => simp [mapLeavesOfEach, ih]

@[simp]
theorem mapLeaves_conj (parts : List Predicate) :
    (conj parts).mapLeaves rename revalue = conj (parts.map (mapLeaves rename revalue)) := by
  rw [mapLeaves, mapLeavesOfEach_eq_map]

/-- A predicate with other leaves has the same tokens with other names and values. -/
theorem tokens_mapLeaves (predicate : Predicate) :
    (predicate.mapLeaves rename revalue).tokens =
      predicate.tokens.map (Token.mapLeaves rename revalue) := by
  induction predicate using inductionOnParts with
  | compare column comparison value => simp [mapLeaves, tokens, Token.mapLeaves]
  | like column pattern negated => simp [mapLeaves, tokens, Token.mapLeaves]
  | isNull column negated => simp [mapLeaves, tokens, Token.mapLeaves]
  | between column low high => simp [mapLeaves, tokens, Token.mapLeaves]
  | inList column values =>
      cases values with
      | nil => simp [mapLeaves, tokens, Token.mapLeaves]
      | cons first others =>
          rw [mapLeaves, tokens_inList _ (by simp), tokens_inList _ (by simp)]
          simp [Token.map_commas, Token.mapLeaves, Function.comp_def]
  | conj parts each =>
      have same : parts.map (fun part => (part.mapLeaves rename revalue).tokens) =
          parts.map fun part => part.tokens.map (Token.mapLeaves rename revalue) :=
        List.map_congr_left each
      rw [mapLeaves_conj, tokens_conj, tokens_conj]
      simp [Token.map_intercalate, Token.mapLeaves, Function.comp_def, same]

theorem parts_mapLeaves (predicate : Predicate) :
    (predicate.mapLeaves rename revalue).parts =
      predicate.parts.map (mapLeaves rename revalue) := by
  cases predicate with
  | conj inner => simp [parts]
  | _ => simp [mapLeaves, parts]

/-- Conjunctions are formed alike whatever the leaves are. -/
theorem all?_mapLeaves (predicates : List Predicate) :
    all? (predicates.map (mapLeaves rename revalue)) =
      (all? predicates).map (mapLeaves rename revalue) := by
  have flattened : (predicates.map (mapLeaves rename revalue)).flatMap parts =
      (predicates.flatMap parts).map (mapLeaves rename revalue) := by
    rw [List.flatMap_map, List.map_flatMap]
    simp only [parts_mapLeaves]
  rw [all?, all?, flattened]
  cases predicates.flatMap parts with
  | nil => rfl
  | cons first others =>
      cases others with
      | nil => rfl
      | cons second rest => simp

end Predicate

/-- An expression with other leaves has the same tokens with other names and values. -/
theorem Expression.tokens_mapLeaves (expression : Expression) :
    (expression.mapLeaves rename revalue).tokens =
      expression.tokens.map (Token.mapLeaves rename revalue) := by
  induction expression with
  | column name => rfl
  | null => rfl
  | aggregate function argument ih => simp [mapLeaves, tokens, Token.mapLeaves, ih]
  | caseWhen condition result otherwise resultIH otherwiseIH =>
      simp [mapLeaves, tokens, Token.mapLeaves, Predicate.tokens_mapLeaves, resultIH, otherwiseIH]

theorem SelectItem.tokens_mapLeaves (item : SelectItem) :
    (item.mapLeaves rename revalue).tokens =
      item.tokens.map (Token.mapLeaves rename revalue) := by
  rcases item with ⟨expression, name⟩
  cases name with
  | none => simp [mapLeaves, tokens, Expression.tokens_mapLeaves]
  | some content => simp [mapLeaves, tokens, Expression.tokens_mapLeaves, Token.mapLeaves]

theorem OrderItem.tokens_mapNames (item : OrderItem) :
    (item.mapNames rename).tokens = item.tokens.map (Token.mapLeaves rename revalue) := by
  cases item
  rfl

theorem Table.tokens_mapNames (table : Table) :
    (table.mapNames rename).tokens = table.tokens.map (Token.mapLeaves rename revalue) := by
  rcases table with ⟨schema, name⟩
  cases schema with
  | none => rfl
  | some content => rfl

namespace Statement

variable (statement : Statement)

theorem itemTokens_mapLeaves :
    (statement.mapLeaves rename revalue).itemTokens =
      statement.itemTokens.map (Token.mapLeaves rename revalue) := by
  rw [itemTokens, itemTokens, mapLeaves]
  cases statement.items with
  | nil => rfl
  | cons first others =>
      simp [Token.map_commas, Function.comp_def, SelectItem.tokens_mapLeaves]

theorem conditionTokens_mapLeaves :
    (statement.mapLeaves rename revalue).conditionTokens =
      statement.conditionTokens.map (Token.mapLeaves rename revalue) := by
  rw [conditionTokens, conditionTokens, mapLeaves]
  cases statement.condition with
  | none => rfl
  | some predicate => simp [Predicate.tokens_mapLeaves, Token.mapLeaves]

theorem groupTokens_mapLeaves :
    (statement.mapLeaves rename revalue).groupTokens =
      statement.groupTokens.map (Token.mapLeaves rename revalue) := by
  rw [groupTokens, groupTokens, mapLeaves]
  cases statement.groupBy with
  | nil => rfl
  | cons first others => simp [Token.map_commas, Function.comp_def, Token.mapLeaves]

theorem orderTokens_mapLeaves :
    (statement.mapLeaves rename revalue).orderTokens =
      statement.orderTokens.map (Token.mapLeaves rename revalue) := by
  rw [orderTokens, orderTokens, mapLeaves]
  cases statement.orderBy with
  | nil => rfl
  | cons first others =>
      simp [Token.map_commas, Function.comp_def, Token.mapLeaves,
        OrderItem.tokens_mapNames rename revalue]

/-- The tokens of a statement with other leaves are its tokens with other leaves. -/
theorem tokens_mapLeaves :
    (statement.mapLeaves rename revalue).tokens =
      statement.tokens.map (Token.mapLeaves rename revalue) := by
  have source : (statement.mapLeaves rename revalue).source.tokens =
      statement.source.tokens.map (Token.mapLeaves rename revalue) :=
    statement.source.tokens_mapNames rename revalue
  have page : (statement.mapLeaves rename revalue).pageTokens =
      statement.pageTokens.map (Token.mapLeaves rename revalue) := rfl
  rw [tokens, tokens, itemTokens_mapLeaves, source, conditionTokens_mapLeaves,
    groupTokens_mapLeaves, orderTokens_mapLeaves, page]
  simp [Token.mapLeaves]

end Statement

end Leaves

/-- The text of tokens does not depend on the values in their slots. -/
theorem Dialect.write_revalue (dialect : Dialect) (written : Nat) (revalue : Bind → Bind)
    (tokens : List Token) :
    dialect.write written (tokens.map (Token.mapLeaves id revalue)) =
      dialect.write written tokens := by
  induction tokens generalizing written with
  | nil => rfl
  | cons token rest ih =>
      cases token with
      | word content => simp [Token.mapLeaves, write, ih]
      | name content => simp [Token.mapLeaves, write, ih]
      | slot value => simp [Token.mapLeaves, write, ih]

/-- A statement with other values is the same text with other values. -/
theorem Statement.render_revalue (statement : Statement) (dialect : Dialect)
    (revalue : Bind → Bind) :
    (statement.mapLeaves id revalue).render dialect =
      ⟨(statement.render dialect).sql, (statement.render dialect).binds.map revalue⟩ := by
  simp [render, Writer.finish, Writer.pushStatement, Writer.push, Writer.new, tokens_mapLeaves,
    Dialect.write_revalue, Token.binds_mapLeaves]

end RowQuery
