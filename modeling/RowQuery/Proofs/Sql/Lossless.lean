import RowQuery.Proofs.Sql.Reading

/-!
# Rendering loses nothing

This file joins the reader of tokens and the reader of statements: a statement can be
recovered from its text and its values, in either dialect and whatever its names hold.
So two different statements never have the same text with the same values.

What is left to show for this is that no two names touch in the tokens of a statement.
A part of a statement may begin or end with a name, but it never ends with a name where
the next part begins with one: the two are always kept apart by a word. `Appendable`
states this of a part, and it is preserved by every way of putting parts together.
-/

namespace RowQuery

namespace Token

/-- Tokens in which no two names touch, and which keep it so before any other word. -/
def Appendable (part : List Token) : Prop :=
  ∀ rest, Spaced rest → startsWithName rest = false → Spaced (part ++ rest)

theorem Appendable.spaced {part : List Token} (appendable : Appendable part) : Spaced part := by
  simpa using appendable [] trivial rfl

theorem appendable_nil : Appendable [] := by
  intro rest spaced _
  exact spaced

theorem appendable_name (content : String) : Appendable [.name content] := by
  intro rest spaced unnamed
  exact ⟨unnamed, spaced⟩

theorem Appendable.word_cons {part : List Token} (appendable : Appendable part) (word : Word) :
    Appendable (.word word :: part) := by
  intro rest spaced unnamed
  exact appendable rest spaced unnamed

theorem Appendable.slot_cons {part : List Token} (appendable : Appendable part) (value : Bind) :
    Appendable (.slot value :: part) := by
  intro rest spaced unnamed
  exact appendable rest spaced unnamed

/-- Two lists can be read one after the other unless the second begins with a name. -/
theorem Appendable.append {first second : List Token} (appendable : Appendable first)
    (appendableSecond : Appendable second) (apart : startsWithName second = false) :
    Appendable (first ++ second) := by
  intro rest spaced unnamed
  rw [List.append_assoc]
  apply appendable
  · exact appendableSecond rest spaced unnamed
  · cases second with
    | nil => exact unnamed
    | cons token others => exact apart

theorem Appendable.append_word {first second : List Token} (appendable : Appendable first)
    (word : Word) (appendableSecond : Appendable second) :
    Appendable (first ++ .word word :: second) :=
  appendable.append (appendableSecond.word_cons word) rfl

theorem appendable_intercalate {α : Type} (separator : Word) (write : α → List Token)
    {values : List α} (each : ∀ value ∈ values, Appendable (write value)) :
    Appendable (List.intercalate [.word separator] (values.map write)) := by
  induction values with
  | nil => exact appendable_nil
  | cons first others ih =>
      cases others with
      | nil =>
          rw [List.map_singleton, List.intercalate_singleton]
          exact each first (by simp)
      | cons second others =>
          rw [List.map_cons, List.map_cons, List.intercalate_cons_cons, List.append_assoc]
          apply (each first (by simp)).append_word
          exact ih (fun value valueMem => each value (by simp [valueMem]))

end Token

open Token

/-- The tokens of a predicate can be told apart in its text. -/
theorem Predicate.appendable_tokens (predicate : Predicate) : Appendable predicate.tokens := by
  induction predicate using inductionOnParts with
  | compare column comparison value =>
      rw [tokens]
      exact (appendable_name column).append_word _ (appendable_nil.slot_cons value)
  | like column pattern negated =>
      rw [tokens]
      exact (appendable_name column).append_word _ (appendable_nil.slot_cons pattern)
  | isNull column negated =>
      rw [tokens]
      exact (appendable_name column).append_word _ appendable_nil
  | inList column values =>
      by_cases empty : values = []
      · subst empty
        rw [tokens]
        exact (appendable_name column).append_word _ appendable_nil
      · rw [tokens_inList column empty]
        apply (appendable_name column).append_word
        apply Appendable.append_word _ _ appendable_nil
        apply appendable_intercalate
        intro value _
        exact appendable_nil.slot_cons value
  | between column low high =>
      rw [tokens]
      apply (appendable_name column).append_word
      exact ((appendable_nil.slot_cons high).word_cons .and).slot_cons low
  | conj parts ih =>
      rw [tokens_conj]
      apply Appendable.append_word _ _ appendable_nil
      apply Appendable.word_cons
      exact appendable_intercalate .and Predicate.tokens ih

/-- The tokens of an expression can be told apart in its text. -/
theorem Expression.appendable_tokens (expression : Expression) :
    Appendable expression.tokens := by
  induction expression with
  | column name => exact appendable_name name
  | null => exact appendable_nil.word_cons .null
  | aggregate function argument ih =>
      rw [tokens]
      exact ((ih.word_cons .opening).word_cons _).append_word .closing appendable_nil
  | caseWhen condition result otherwise resultIH otherwiseIH =>
      rw [tokens]
      exact (((condition.appendable_tokens.word_cons .caseWhen).append_word .caseThen
        resultIH).append_word .caseElse otherwiseIH).append_word .caseEnd appendable_nil

theorem SelectItem.appendable_tokens (selected : SelectItem) : Appendable selected.tokens := by
  rcases selected with ⟨expression, _ | chosen⟩
  · exact expression.appendable_tokens.append appendable_nil rfl
  · exact expression.appendable_tokens.append_word .named (appendable_name chosen)

theorem Table.appendable_tokens (source : Table) : Appendable source.tokens := by
  rcases source with ⟨_ | schema, content⟩
  · exact appendable_name content
  · exact (appendable_name schema).append_word .dot (appendable_name content)

theorem OrderItem.appendable_tokens (sorted : OrderItem) : Appendable sorted.tokens :=
  (appendable_name sorted.column).append_word _ appendable_nil

namespace Statement

theorem StartsWithin.unnamed {words : List Word} {tokens : List Token}
    (starts : StartsWithin words tokens) : startsWithName tokens = false := by
  rcases starts with ⟨word, _, head⟩
  simp [startsWithName, head, isName]

variable (statement : Statement)

theorem appendable_itemTokens : Appendable statement.itemTokens := by
  rw [itemTokens]
  split
  · exact appendable_nil.word_cons .everything
  · apply appendable_intercalate
    intro selected _
    exact selected.appendable_tokens

theorem appendable_conditionTokens : Appendable statement.conditionTokens := by
  rw [conditionTokens]
  split
  · exact appendable_nil
  · exact (Predicate.appendable_tokens _).word_cons .condition

theorem appendable_groupTokens : Appendable statement.groupTokens := by
  rw [groupTokens]
  split
  · exact appendable_nil
  · apply Appendable.word_cons
    apply appendable_intercalate
    intro column _
    exact appendable_name column

theorem appendable_orderTokens : Appendable statement.orderTokens := by
  rw [orderTokens]
  split
  · exact appendable_nil
  · apply Appendable.word_cons
    apply appendable_intercalate
    intro sorted _
    exact sorted.appendable_tokens

theorem appendable_pageTokens : Appendable statement.pageTokens :=
  (((((appendable_nil.word_cons .rowsOnly).slot_cons _).word_cons .fetch).slot_cons
    _).word_cons .offset)

/-- The tokens of a statement can be told apart in its text. -/
theorem appendable_tokens : Appendable statement.tokens := by
  have orderAndPage : Appendable statement.orderAndPage :=
    statement.appendable_orderTokens.append statement.appendable_pageTokens rfl
  have afterCondition : Appendable statement.afterCondition :=
    statement.appendable_groupTokens.append orderAndPage statement.orderAndPage_starts.unnamed
  have afterSource : Appendable statement.afterSource :=
    statement.appendable_conditionTokens.append afterCondition
      statement.afterCondition_starts.unnamed
  rw [tokens_eq]
  apply Appendable.word_cons
  apply statement.appendable_itemTokens.append_word
  exact statement.source.appendable_tokens.append afterSource statement.afterSource_starts.unnamed

/--
Rendering loses nothing: the reader finds the statement again, and statements with the
same text and the same values are the same.
-/
theorem render_lossless (dialect : Dialect) :
    (∀ statement : Statement, (statement.render dialect).statement? dialect = some statement) ∧
      ∀ first second : Statement,
        first.render dialect = second.render dialect ↔ first = second := by
  have recovered : ∀ statement : Statement,
      (statement.render dialect).statement? dialect = some statement := by
    intro statement
    have tokensRead := dialect.readTokens?_write 0 statement.appendable_tokens.spaced
    simp [Query.statement?, render, Writer.pushStatement, Writer.push, Writer.new, Writer.finish,
      tokensRead, read?_tokens]
  refine ⟨recovered, ?_⟩
  intro first second
  constructor
  · intro same
    have read := recovered first
    rw [same, recovered second] at read
    exact (Option.some.inj read).symm
  · rintro rfl
    rfl

end Statement

end RowQuery
