import RowQuery.Proofs.Sql.Lexing
import RowQuery.Proofs.Sql.Parts

/-!
# Reading statements back

This file gives a reader of rendered statements, `Query.statement?`, and proves that it
recovers every statement from its text and its values.

The reader is the usual descent along the grammar: each part of a statement is read
from the front of the tokens, and what it leaves is read by the next part. A reader that
goes on with itself does so only if the rest has become shorter, which it always has.
The main lemmas say that the reader of a part undoes the writing of that part whatever
tokens follow, or whatever tokens may follow where the part has an optional end.
-/

namespace RowQuery

variable {α : Type}

/-- Reads a part of a statement from the front of tokens, and hands back the rest. -/
abbrev Reader (α : Type) := List Token → Option (α × List Token)

namespace Reader

/-- The tokens behind a word that has to come next. -/
def expect (word : Word) (tokens : List Token) : Option (List Token) :=
  if tokens.head? = some (.word word) then some tokens.tail else none

/-- Reads a name. -/
def name : Reader String
  | .name content :: rest => some (content, rest)
  | _ => none

/-- Reads the value of a slot. -/
def slot : Reader Bind
  | .slot value :: rest => some (value, rest)
  | _ => none

/-- A part behind a word, if the word comes next. -/
def behind (word : Word) (part : Reader α) : Reader (Option α) := fun tokens =>
  if tokens.head? = some (.word word) then do
    let (value, rest) ← part tokens.tail
    pure (some value, rest)
  else some (none, tokens)

/-- What stands behind a separator is shorter than what was read before it. -/
theorem length_tail_lt {separator : Word} {tokens rest : List Token}
    (more : rest.head? = some (.word separator)) (shorter : rest.length ≤ tokens.length) :
    rest.tail.length < tokens.length := by
  cases rest with
  | nil => simp at more
  | cons first others =>
      rw [List.length_cons] at shorter
      exact shorter

/-- One part or more, with a word between any two. -/
def separated (separator : Word) (part : Reader α) (tokens : List Token) :
    Option (List α × List Token) := do
  let (first, rest) ← part tokens
  if _more : rest.head? = some (.word separator) ∧ rest.length ≤ tokens.length then
    let (others, rest) ← separated separator part rest.tail
    pure (first :: others, rest)
  else pure ([first], rest)
termination_by tokens.length
decreasing_by exact length_tail_lt _more.1 _more.2

end Reader

mutual

/--
Reads a predicate and hands back the tokens behind it. What follows a name tells which predicate it
is, and an opening bracket begins a conjunction.
-/
def Predicate.read? (tokens : List Token) : Option (Predicate × List Token) :=
  match tokens with
  | .name column :: .word (.comparison comparison) :: .slot value :: rest =>
      some (.compare column comparison value, rest)
  | .name column :: .word .like :: .slot pattern :: rest =>
      some (.like column pattern false, rest)
  | .name column :: .word .notLike :: .slot pattern :: rest =>
      some (.like column pattern true, rest)
  | .name column :: .word .isNull :: rest => some (.isNull column false, rest)
  | .name column :: .word .isNotNull :: rest => some (.isNull column true, rest)
  | .name column :: .word .inNothing :: rest => some (.inList column [], rest)
  | .name column :: .word .inValues :: rest => do
      let (values, rest) ← Reader.separated .comma Reader.slot rest
      let rest ← Reader.expect .closing rest
      pure (.inList column values, rest)
  | .name column :: .word .between :: .slot low :: .word .and :: .slot high :: rest =>
      some (.between column low high, rest)
  | .word .opening :: .word .closing :: rest => some (.conj [], rest)
  | .word .opening :: rest => do
      let (parts, rest) ← Predicate.readParts? rest
      let rest ← Reader.expect .closing rest
      pure (.conj parts, rest)
  | _ => none
termination_by (tokens.length, 0)

/-- Reads the parts of a conjunction, of which there is at least one. -/
def Predicate.readParts? (tokens : List Token) : Option (List Predicate × List Token) := do
  let (first, rest) ← Predicate.read? tokens
  if _more : rest.head? = some (.word .and) ∧ rest.length ≤ tokens.length then
    let (others, rest) ← Predicate.readParts? rest.tail
    pure (first :: others, rest)
  else pure ([first], rest)
termination_by (tokens.length, 1)
decreasing_by
  · exact Prod.Lex.right _ Nat.zero_lt_one
  · exact Prod.Lex.left _ _ (Reader.length_tail_lt _more.1 _more.2)

end

/--
Reads an expression and hands back the tokens behind it. The first token tells which expression it
is.
-/
def Expression.read? (tokens : List Token) : Option (Expression × List Token) :=
  match tokens with
  | .name field :: rest => some (.column field, rest)
  | .word .null :: rest => some (.null, rest)
  | .word (.aggregate function) :: .word .opening :: rest => do
      let (argument, rest) ← Expression.read? rest
      let rest ← Reader.expect .closing rest
      pure (.aggregate function argument, rest)
  | .word .caseWhen :: behind => do
      let (condition, rest) ← Predicate.read? behind
      let rest ← Reader.expect .caseThen rest
      if _shorter : rest.length ≤ behind.length then
        let (result, rest) ← Expression.read? rest
        let rest ← Reader.expect .caseElse rest
        if _shorter : rest.length ≤ behind.length then
          let (otherwise, rest) ← Expression.read? rest
          let rest ← Reader.expect .caseEnd rest
          pure (.caseWhen condition result otherwise, rest)
        else none
      else none
  | _ => none
termination_by tokens.length
decreasing_by
  · exact Nat.lt_succ_of_le (Nat.le_succ rest.length)
  · exact Nat.lt_succ_of_le _shorter
  · exact Nat.lt_succ_of_le _shorter

namespace Reader

/-- Reads an entry of a select list, with its name if it has one. -/
def item : Reader SelectItem := fun tokens => do
  let (expression, rest) ← Expression.read? tokens
  let (name, rest) ← behind .named name rest
  pure (⟨expression, name⟩, rest)

/-- The select list, which is a star if it is empty. -/
def items : Reader (List SelectItem) := fun tokens =>
  if tokens.head? = some (.word .everything) then some ([], tokens.tail)
  else separated .comma item tokens

/-- Reads a table. What stands before a dot is its schema. -/
def table : Reader Table := fun tokens => do
  let (first, rest) ← name tokens
  let (second, rest) ← behind .dot name rest
  match second with
  | none => pure (⟨none, first⟩, rest)
  | some second => pure (⟨some first, second⟩, rest)

/-- Reads an entry of an order, with its direction. -/
def orderItem : Reader OrderItem
  | .name column :: .word .ascending :: rest => some (⟨column, .ascending⟩, rest)
  | .name column :: .word .descending :: rest => some (⟨column, .descending⟩, rest)
  | _ => none

/-- The list behind a word; without the word it is empty. -/
def clause (word : Word) (part : Reader α) : Reader (List α) := fun tokens => do
  let (parts, rest) ← behind word (separated .comma part) tokens
  pure (parts.getD [], rest)

/-- The page, behind which nothing may stand. -/
def page : List Token → Option (Bind × Bind)
  | [.word .offset, .slot offset, .word .fetch, .slot fetch, .word .rowsOnly] =>
      some (offset, fetch)
  | _ => none

end Reader

/-- Reads the clauses of a statement in their order, up to the last token. -/
def Statement.read? (tokens : List Token) : Option Statement := do
  let rest ← Reader.expect .select tokens
  let (items, rest) ← Reader.items rest
  let rest ← Reader.expect .source rest
  let (source, rest) ← Reader.table rest
  let (condition, rest) ← Reader.behind .condition Predicate.read? rest
  let (groupBy, rest) ← Reader.clause .groupBy Reader.name rest
  let (orderBy, rest) ← Reader.clause .orderBy Reader.orderItem rest
  let (offset, fetch) ← Reader.page rest
  pure ⟨items, source, condition, groupBy, orderBy, offset, fetch⟩

/-- The statement that a query was rendered from for a dialect. -/
def Query.statement? (query : Query) (dialect : Dialect) : Option Statement := do
  let tokens ← dialect.readTokens? 0 query.binds query.sql.toList
  Statement.read? tokens

namespace Reader

@[simp]
theorem expect_cons (word : Word) (rest : List Token) :
    expect word (.word word :: rest) = some rest := by
  simp [expect]

theorem behind_cons (word : Word) {part : Reader α} {tokens rest : List Token} {value : α}
    (reads : part tokens = some (value, rest)) :
    behind word part (.word word :: tokens) = some (some value, rest) := by
  simp [behind, reads]

theorem behind_of_ne {word : Word} (part : Reader α) {tokens : List Token}
    (absent : tokens.head? ≠ some (.word word)) :
    behind word part tokens = some (none, tokens) := by
  simp [behind, absent]

/-- A reader goes on behind its first part exactly if a separator comes next. -/
def Repeats (separator : Word) (part : Reader α) (list : Reader (List α)) : Prop :=
  ∀ tokens, list tokens = do
    let (first, rest) ← part tokens
    if rest.head? = some (.word separator) ∧ rest.length ≤ tokens.length then
      let (others, rest) ← list rest.tail
      pure (first :: others, rest)
    else pure ([first], rest)

theorem repeats_separated (separator : Word) (part : Reader α) :
    Repeats separator part (separated separator part) := by
  intro tokens
  rw [separated]
  rfl

/--
A list is read back if each of its entries is, both before a separator and before what
follows the list, and the list does not seem to go on there.
-/
theorem Repeats.intercalate {separator : Word} {part : Reader α} {list : Reader (List α)}
    (repeats : Repeats separator part list) (write : α → List Token) {values : List α}
    {rest : List Token} (nonempty : values ≠ [])
    (ended : rest.head? ≠ some (.word separator))
    (reads : ∀ value ∈ values, ∀ after : List Token,
      after.head? = some (.word separator) ∨ after = rest →
        part (write value ++ after) = some (value, after)) :
    list (List.intercalate [.word separator] (values.map write) ++ rest) =
      some (values, rest) := by
  induction values with
  | nil => exact absurd rfl nonempty
  | cons first others ih =>
      rw [repeats]
      cases others with
      | nil =>
          have single := reads first (by simp) rest (Or.inr rfl)
          simp [List.intercalate_singleton, single, ended]
      | cons second others =>
          have head := reads first (by simp)
            (.word separator :: (List.intercalate [.word separator]
              ((second :: others).map write) ++ rest)) (Or.inl rfl)
          have tail := ih (by simp) (fun value valueMem => reads value (by simp [valueMem]))
          simp only [List.map_cons, List.intercalate_cons_cons, List.append_assoc,
            List.cons_append, List.nil_append] at head tail ⊢
          simp [head, tail]

theorem exists_append_of_intercalate_cons (separator first : List Token)
    (others : List (List Token)) :
    ∃ tail, List.intercalate separator (first :: others) = first ++ tail := by
  cases others with
  | nil => exact ⟨[], by simp [List.intercalate_singleton]⟩
  | cons second others =>
      exact ⟨_, by rw [List.intercalate_cons_cons, List.append_assoc]⟩

theorem separated_slots {values : List Bind} (nonempty : values ≠ []) (rest : List Token) :
    separated .comma slot
      (Token.commas (values.map fun value => [.slot value]) ++ .word .closing :: rest) =
        some (values, .word .closing :: rest) := by
  apply (repeats_separated .comma slot).intercalate (fun value => [.slot value]) nonempty
  · simp
  · intro value _ after _
    rfl

end Reader

namespace Predicate

/-- No predicate begins like the end of a conjunction. -/
theorem head?_tokens_ne_closing (predicate : Predicate) (rest : List Token) :
    (predicate.tokens ++ rest).head? ≠ some (.word .closing) := by
  cases predicate with
  | inList column values => cases values <;> simp [tokens]
  | _ => simp [tokens]

theorem head?_intercalate_ne_closing {parts : List Predicate} (nonempty : parts ≠ [])
    (rest : List Token) :
    (List.intercalate [.word .and] (parts.map tokens) ++ rest).head? ≠
      some (.word .closing) := by
  rcases List.exists_cons_of_ne_nil nonempty with ⟨first, others, rfl⟩
  rcases Reader.exists_append_of_intercalate_cons [.word .and] first.tokens
    (others.map tokens) with ⟨tail, equal⟩
  rw [List.map_cons, equal, List.append_assoc]
  exact first.head?_tokens_ne_closing _

theorem repeats_readParts? : Reader.Repeats .and read? readParts? := by
  intro tokens
  rw [readParts?]
  rfl

/-- An opening bracket is that of a conjunction with parts unless it is closed at once. -/
theorem read?_opening {parts : List Predicate} {tokens rest : List Token}
    (filled : tokens.head? ≠ some (.word .closing))
    (reads : readParts? tokens = some (parts, .word .closing :: rest)) :
    read? (.word .opening :: tokens) = some (.conj parts, rest) := by
  cases tokens with
  | nil => simp [read?, reads]
  | cons first others =>
      have different : first ≠ .word .closing := by simpa using filled
      simp [read?, reads, different]

/-- A predicate is read back whatever follows it. -/
theorem read?_tokens (predicate : Predicate) (rest : List Token) :
    read? (predicate.tokens ++ rest) = some (predicate, rest) := by
  induction predicate using inductionOnParts generalizing rest with
  | compare column comparison value => simp [tokens, read?]
  | like column pattern negated => cases negated <;> simp [tokens, read?]
  | isNull column negated => cases negated <;> simp [tokens, read?]
  | inList column values =>
      by_cases empty : values = []
      · subst empty
        simp [tokens, read?]
      · have list := Reader.separated_slots empty rest
        simp [tokens_inList column empty, read?, list]
  | between column low high => simp [tokens, read?]
  | conj parts ih =>
      by_cases empty : parts = []
      · subst empty
        simp [tokens_conj, read?]
      · have ended : (.word .closing :: rest).head? ≠ some (Token.word .and) := by simp
        have list := repeats_readParts?.intercalate tokens empty ended
          (fun part partMem after _ => ih part partMem after)
        have whole := read?_opening (head?_intercalate_ne_closing empty _) list
        simpa [tokens_conj] using whole

end Predicate

/--
An expression is read back whatever follows it. Each of its inner expressions stands in what is left
of the whole.
-/
theorem Expression.read?_tokens (expression : Expression) (rest : List Token) :
    read? (expression.tokens ++ rest) = some (expression, rest) := by
  induction expression generalizing rest with
  | column name => simp [tokens, read?]
  | null => simp [tokens, read?]
  | aggregate function argument ih => simp [tokens, read?, ih]
  | caseWhen condition result otherwise resultIH otherwiseIH =>
      simp [tokens, read?, Predicate.read?_tokens, resultIH, otherwiseIH]
      omega

namespace Reader

/-- No entry of a select list is taken for the star of an empty one. -/
theorem head?_item_ne_everything (selected : SelectItem) (rest : List Token) :
    (selected.tokens ++ rest).head? ≠ some (.word .everything) := by
  rcases selected with ⟨expression, name⟩
  cases expression <;> simp [SelectItem.tokens, Expression.tokens]

theorem item_tokens (selected : SelectItem) {rest : List Token}
    (unnamed : rest.head? ≠ some (.word .named)) :
    item (selected.tokens ++ rest) = some (selected, rest) := by
  rcases selected with ⟨expression, _ | chosen⟩
  · have absent := behind_of_ne name unnamed
    simp [SelectItem.tokens, item, Expression.read?_tokens, absent]
  · have present : behind .named name (.word .named :: .name chosen :: rest) =
        some (some chosen, rest) := behind_cons .named rfl
    simp [SelectItem.tokens, item, Expression.read?_tokens, present]

theorem table_tokens (source : Table) {rest : List Token}
    (unqualified : rest.head? ≠ some (.word .dot)) :
    table (source.tokens ++ rest) = some (source, rest) := by
  rcases source with ⟨_ | schema, content⟩
  · have absent := behind_of_ne name unqualified
    simp [Table.tokens, table, name, absent]
  · have present : behind .dot name (.word .dot :: .name content :: rest) =
        some (some content, rest) := behind_cons .dot rfl
    simp [Table.tokens, table, name, present]

theorem name_cons (content : String) (rest : List Token) :
    name (.name content :: rest) = some (content, rest) := rfl

theorem orderItem_tokens (sorted : OrderItem) (rest : List Token) :
    orderItem (sorted.tokens ++ rest) = some (sorted, rest) := by
  rcases sorted with ⟨column, direction⟩
  cases direction <;> rfl

theorem clause_empty {word : Word} (part : Reader α) {rest : List Token}
    (absent : rest.head? ≠ some (.word word)) :
    clause word part rest = some ([], rest) := by
  simp [clause, behind_of_ne _ absent]

theorem clause_cons (word : Word) {part : Reader α} (write : α → List Token) {values : List α}
    {rest : List Token} (nonempty : values ≠ []) (ended : rest.head? ≠ some (.word .comma))
    (reads : ∀ value after, part (write value ++ after) = some (value, after)) :
    clause word part (.word word :: Token.commas (values.map write) ++ rest) =
      some (values, rest) := by
  have list := (repeats_separated .comma part).intercalate write nonempty ended
    (fun value _ after _ => reads value after)
  have present := behind_cons word list
  simp [clause, Token.commas, present]

end Reader

namespace Statement

/-- Tokens start with one of the given words. -/
def StartsWithin (words : List Word) (tokens : List Token) : Prop :=
  ∃ word ∈ words, tokens.head? = some (.word word)

theorem StartsWithin.head?_ne {words : List Word} {tokens : List Token}
    (starts : StartsWithin words tokens) (word : Word) (outside : word ∉ words) :
    tokens.head? ≠ some (.word word) := by
  rcases starts with ⟨first, firstMem, head⟩
  intro same
  have equal : first = word := by simpa [head] using same
  exact outside (equal ▸ firstMem)

variable (statement : Statement)

/-- The order list and the page. -/
def orderAndPage : List Token := statement.orderTokens ++ statement.pageTokens

/-- All that follows the condition. -/
def afterCondition : List Token := statement.groupTokens ++ statement.orderAndPage

/-- All that follows the table. -/
def afterSource : List Token := statement.conditionTokens ++ statement.afterCondition

theorem tokens_eq :
    statement.tokens = .word .select :: (statement.itemTokens ++
      .word .source :: (statement.source.tokens ++ statement.afterSource)) := by
  simp [tokens, afterSource, afterCondition, orderAndPage]

theorem orderAndPage_starts : StartsWithin [.orderBy, .offset] statement.orderAndPage := by
  rcases equal : statement.orderBy with _ | ⟨first, others⟩
  · exact ⟨.offset, by decide, by simp [orderAndPage, orderTokens, pageTokens, equal]⟩
  · exact ⟨.orderBy, by decide, by simp [orderAndPage, orderTokens, equal]⟩

theorem afterCondition_starts :
    StartsWithin [.groupBy, .orderBy, .offset] statement.afterCondition := by
  rcases equal : statement.groupBy with _ | ⟨first, others⟩
  · rcases statement.orderAndPage_starts with ⟨word, wordMem, head⟩
    exact ⟨word, List.mem_cons_of_mem _ wordMem,
      by simpa [afterCondition, groupTokens, equal] using head⟩
  · exact ⟨.groupBy, by decide, by simp [afterCondition, groupTokens, equal]⟩

theorem afterSource_starts :
    StartsWithin [.condition, .groupBy, .orderBy, .offset] statement.afterSource := by
  rcases equal : statement.condition with _ | predicate
  · rcases statement.afterCondition_starts with ⟨word, wordMem, head⟩
    exact ⟨word, List.mem_cons_of_mem _ wordMem,
      by simpa [afterSource, conditionTokens, equal] using head⟩
  · exact ⟨.condition, by decide, by simp [afterSource, conditionTokens, equal]⟩

theorem items_itemTokens (rest : List Token) :
    Reader.items (statement.itemTokens ++ .word .source :: rest) =
      some (statement.items, .word .source :: rest) := by
  rcases equal : statement.items with _ | ⟨first, others⟩
  · simp [itemTokens, equal, Reader.items]
  · have list : Reader.separated .comma Reader.item (List.intercalate [.word .comma]
        ((first :: others).map SelectItem.tokens) ++ .word .source :: rest) =
          some (first :: others, .word .source :: rest) := by
      apply (Reader.repeats_separated .comma Reader.item).intercalate SelectItem.tokens
      · simp
      · simp
      · intro selected _ after follows
        apply Reader.item_tokens
        rcases follows with separator | rfl
        · simp [separator]
        · simp
    rcases Reader.exists_append_of_intercalate_cons [.word .comma] first.tokens
      (others.map SelectItem.tokens) with ⟨tail, written⟩
    have filled := Reader.head?_item_ne_everything first (tail ++ .word .source :: rest)
    rw [List.map_cons, written, List.append_assoc] at list
    simp only [itemTokens, equal, Token.commas, List.map_cons, written, List.append_assoc]
    rw [Reader.items, if_neg filled]
    exact list

theorem read_condition :
    Reader.behind .condition Predicate.read? statement.afterSource =
      some (statement.condition, statement.afterCondition) := by
  rcases equal : statement.condition with _ | predicate
  · have absent := statement.afterCondition_starts.head?_ne .condition (by decide)
    simpa [afterSource, conditionTokens, equal] using Reader.behind_of_ne Predicate.read? absent
  · have present := Reader.behind_cons .condition
      (predicate.read?_tokens statement.afterCondition)
    simpa [afterSource, conditionTokens, equal] using present

theorem read_groupBy :
    Reader.clause .groupBy Reader.name statement.afterCondition =
      some (statement.groupBy, statement.orderAndPage) := by
  rcases equal : statement.groupBy with _ | ⟨first, others⟩
  · have absent := statement.orderAndPage_starts.head?_ne .groupBy (by decide)
    simpa [afterCondition, groupTokens, equal] using Reader.clause_empty Reader.name absent
  · have ended := statement.orderAndPage_starts.head?_ne .comma (by decide)
    have list := Reader.clause_cons .groupBy (fun column => [.name column])
      (List.cons_ne_nil first others) ended (fun _ _ => Reader.name_cons _ _)
    simpa [afterCondition, groupTokens, equal] using list

theorem read_orderBy :
    Reader.clause .orderBy Reader.orderItem statement.orderAndPage =
      some (statement.orderBy, statement.pageTokens) := by
  rcases equal : statement.orderBy with _ | ⟨first, others⟩
  · have absent : statement.pageTokens.head? ≠ some (.word .orderBy) := by simp [pageTokens]
    simpa [orderAndPage, orderTokens, equal] using Reader.clause_empty Reader.orderItem absent
  · have ended : statement.pageTokens.head? ≠ some (.word .comma) := by simp [pageTokens]
    have list := Reader.clause_cons .orderBy OrderItem.tokens (List.cons_ne_nil first others)
      ended Reader.orderItem_tokens
    simpa [orderAndPage, orderTokens, equal] using list

/-- A statement is read back from its tokens. -/
theorem read?_tokens : read? statement.tokens = some statement := by
  have source := Reader.table_tokens statement.source
    (statement.afterSource_starts.head?_ne .dot (by decide))
  simp [tokens_eq, read?, items_itemTokens, source, read_condition, read_groupBy, read_orderBy,
    pageTokens, Reader.page]

end Statement

end RowQuery
