import Mathlib.Data.List.Chain
import RowQuery.Proofs.Sql.BindCount

/-!
# Brackets in a statement

In the text of a statement brackets enclose the argument of a function, the values of a list or
the parts of a conjunction. This file says which tokens may stand between brackets, if there is to
be no pair of brackets without anything in it, around a single predicate or directly within
another conjunction: `Token.Bracketed`. The tokens of a statement are of this form if all
conjunctions in it are in normal form.

A bracket is then never closed directly behind its opening. As brackets are parts of words, and no
word or placeholder has such a pair in it, the same holds of the characters of the text outside of
its quoted names.
-/

namespace RowQuery

namespace Predicate

mutual

/-- A predicate and all predicates that it is made of. -/
def nodes : Predicate → List Predicate
  | .conj parts => .conj parts :: nodesOfEach parts
  | leaf => [leaf]

/-- The nodes of several predicates, in order. -/
def nodesOfEach : List Predicate → List Predicate
  | [] => []
  | part :: rest => part.nodes ++ nodesOfEach rest

end

theorem nodesOfEach_eq_flatMap (parts : List Predicate) :
    nodesOfEach parts = parts.flatMap nodes := by
  induction parts with
  | nil => simp [nodesOfEach]
  | cons first others ih => simp [nodesOfEach, ih]

@[simp]
theorem nodes_conj (parts : List Predicate) :
    (conj parts).nodes = .conj parts :: parts.flatMap nodes := by
  rw [nodes, nodesOfEach_eq_flatMap]

/-- All conjunctions in a predicate are in normal form. -/
def NormalThroughout (predicate : Predicate) : Prop :=
  ∀ node ∈ predicate.nodes, node.IsNormal

/-- Every predicate but a conjunction is its only node. -/
theorem nodes_of_isConj {predicate : Predicate} (single : predicate.isConj = false) :
    predicate.nodes = [predicate] := by
  cases predicate with
  | conj parts => simp [isConj] at single
  | _ => simp [nodes]

/-- In a predicate in normal form there are no other conjunctions. -/
theorem IsNormal.throughout {predicate : Predicate} (normal : predicate.IsNormal) :
    predicate.NormalThroughout := by
  cases predicate with
  | conj parts =>
      intro node nodeMem
      rw [nodes_conj, List.mem_cons] at nodeMem
      rcases nodeMem with rfl | within
      · exact normal
      · rcases List.mem_flatMap.mp within with ⟨part, partMem, within⟩
        have single := normal.2 part partMem
        rw [nodes_of_isConj single, List.mem_singleton] at within
        rw [within]
        exact isNormal_of_isConj single
  | _ => simp [NormalThroughout, nodes, IsNormal]

theorem tokens_ne_nil (predicate : Predicate) : predicate.tokens ≠ [] := by
  cases predicate with
  | inList column values => cases values <;> simp [tokens]
  | _ => simp [tokens]

end Predicate

theorem Expression.tokens_ne_nil (expression : Expression) : expression.tokens ≠ [] := by
  cases expression <;> simp [tokens]

namespace Token

/-- A token whose text ends with an opening bracket that a later token closes. -/
def opens : Token → Bool
  | .word .opening => true
  | .word .inValues => true
  | _ => false

/-- A token whose text is the closing bracket of an earlier one. -/
def closes : Token → Bool
  | .word .closing => true
  | _ => false

/-- A token that opens or closes a group. -/
def isBracket (token : Token) : Bool := token.opens || token.closes

/-- What a word that opens a bracket may have behind it, up to where the bracket is closed. -/
inductive Encloses : Word → List Token → Prop
  | argument (expression : Expression) : Encloses .opening expression.tokens
  | conjunction {parts : List Predicate} (several : 2 ≤ parts.length)
      (single : ∀ part ∈ parts, part.isConj = false) :
      Encloses .opening (List.intercalate [.word .and] (parts.map Predicate.tokens))
  | values {values : List Bind} (filled : values ≠ []) :
      Encloses .inValues (commas (values.map fun value => [.slot value]))

/-- Tokens in which brackets come in pairs, with what may stand between them. -/
inductive Bracketed : List Token → Prop
  | nil : Bracketed []
  | single {token : Token} (plain : token.isBracket = false) : Bracketed [token]
  | append {first second : List Token} (bracketed : Bracketed first)
      (secondBracketed : Bracketed second) : Bracketed (first ++ second)
  | enclose {word : Word} {inside : List Token} (encloses : Encloses word inside)
      (bracketed : Bracketed inside) : Bracketed (.word word :: inside ++ [.word .closing])

theorem intercalate_ne_nil {separator first : List Token} (filled : first ≠ [])
    (others : List (List Token)) : List.intercalate separator (first :: others) ≠ [] := by
  rcases Reader.exists_append_of_intercalate_cons separator first others with ⟨tail, equal⟩
  rw [equal]
  exact List.append_ne_nil_of_left_ne_nil filled tail

theorem Encloses.ne_nil {word : Word} {inside : List Token} (encloses : Encloses word inside) :
    inside ≠ [] := by
  cases encloses with
  | argument expression => exact expression.tokens_ne_nil
  | @conjunction parts several single =>
      rcases parts with _ | ⟨first, others⟩
      · simp at several
      · exact intercalate_ne_nil first.tokens_ne_nil _
  | @values values filled =>
      rcases List.exists_cons_of_ne_nil filled with ⟨first, others, rfl⟩
      exact intercalate_ne_nil (List.cons_ne_nil _ _) _

namespace Bracketed

theorem cons {token : Token} {rest : List Token} (plain : token.isBracket = false)
    (bracketed : Bracketed rest) : Bracketed (token :: rest) :=
  append (single plain) bracketed

theorem of_forall {tokens : List Token} (plain : ∀ token ∈ tokens, token.isBracket = false) :
    Bracketed tokens := by
  induction tokens with
  | nil => exact .nil
  | cons token rest ih =>
      rw [List.forall_mem_cons] at plain
      exact .cons plain.1 (ih plain.2)

/-- Bracketed lists that are separated by a plain word are bracketed together. -/
theorem intercalate {α : Type} {separator : Word}
    (plain : (Token.word separator).isBracket = false) (write : α → List Token) {values : List α}
    (each : ∀ value ∈ values, Bracketed (write value)) :
    Bracketed (List.intercalate [.word separator] (values.map write)) := by
  induction values with
  | nil => exact .nil
  | cons first others ih =>
      rw [List.forall_mem_cons] at each
      cases others with
      | nil =>
          rw [List.map_singleton, List.intercalate_singleton]
          exact each.1
      | cons second rest =>
          rw [List.map_cons, List.map_cons, List.intercalate_cons_cons, List.append_assoc]
          exact each.1.append (.cons plain (ih each.2))

end Bracketed

end Token

open Token

/-- The brackets of a predicate belong together, and there is something inside each pair. -/
theorem Predicate.bracketed_tokens {predicate : Predicate}
    (normal : predicate.NormalThroughout) : Bracketed predicate.tokens := by
  induction predicate using inductionOnParts with
  | compare column comparison value =>
      apply Bracketed.of_forall
      simp [tokens, isBracket, opens, closes]
  | like column pattern negated =>
      apply Bracketed.of_forall
      cases negated <;> simp [tokens, isBracket, opens, closes]
  | isNull column negated =>
      apply Bracketed.of_forall
      cases negated <;> simp [tokens, isBracket, opens, closes]
  | between column low high =>
      apply Bracketed.of_forall
      simp [tokens, isBracket, opens, closes]
  | inList column values =>
      by_cases empty : values = []
      · subst empty
        apply Bracketed.of_forall
        simp [tokens, isBracket, opens, closes]
      · rw [tokens_inList column empty]
        apply Bracketed.cons rfl
        apply Bracketed.enclose (.values empty)
        apply Bracketed.intercalate rfl
        intro value _
        exact .single rfl
  | conj parts ih =>
      rw [NormalThroughout, nodes_conj, List.forall_mem_cons] at normal
      rcases normal with ⟨whole, within⟩
      rw [tokens_conj]
      apply Bracketed.enclose (.conjunction whole.1 whole.2)
      apply Bracketed.intercalate rfl
      intro part partMem
      apply ih part partMem
      intro node nodeMem
      exact within node (List.mem_flatMap.mpr ⟨part, partMem, nodeMem⟩)

/-- The brackets of an expression belong together. -/
theorem Expression.bracketed_tokens {expression : Expression}
    (normal : ∀ condition ∈ expression.conditions, condition.NormalThroughout) :
    Bracketed expression.tokens := by
  induction expression with
  | column name => exact .single rfl
  | null => exact .single rfl
  | aggregate function argument ih =>
      rw [tokens]
      apply Bracketed.cons rfl
      exact Bracketed.enclose (.argument argument) (ih normal)
  | caseWhen condition result otherwise resultIH otherwiseIH =>
      simp only [conditions, List.cons_append, List.forall_mem_cons, List.forall_mem_append]
        at normal
      rcases normal with ⟨conditionNormal, resultNormal, otherwiseNormal⟩
      rw [tokens]
      have whenHolds : Bracketed (.word .caseWhen :: condition.tokens) :=
        .cons rfl (Predicate.bracketed_tokens conditionNormal)
      have thenResult : Bracketed (.word .caseThen :: result.tokens) :=
        .cons rfl (resultIH resultNormal)
      have elseOtherwise : Bracketed (.word .caseElse :: otherwise.tokens) :=
        .cons rfl (otherwiseIH otherwiseNormal)
      exact ((whenHolds.append thenResult).append elseOtherwise).append (.single rfl)

theorem Table.bracketed_tokens (table : Table) : Bracketed table.tokens := by
  rcases table with ⟨_ | schema, content⟩
  · exact .single rfl
  · exact .cons rfl (.cons rfl (.single rfl))

theorem OrderItem.bracketed_tokens (item : OrderItem) : Bracketed item.tokens := by
  rcases item with ⟨column, _ | _⟩
  · exact .cons rfl (.single rfl)
  · exact .cons rfl (.single rfl)

theorem SelectItem.bracketed_tokens {item : SelectItem}
    (normal : ∀ condition ∈ item.expression.conditions, condition.NormalThroughout) :
    Bracketed item.tokens := by
  have bracketed := Expression.bracketed_tokens normal
  rcases item with ⟨expression, _ | chosen⟩
  · exact bracketed.append .nil
  · exact bracketed.append (.cons rfl (.single rfl))

namespace Statement

/-- A statement without empty names, in which all conjunctions are in normal form. -/
structure WellFormed (statement : Statement) : Prop where
  named : "" ∉ statement.names
  normal : ∀ predicate ∈ statement.predicates, predicate.NormalThroughout

section Bracketed

variable {statement : Statement}
  (normal : ∀ predicate ∈ statement.predicates, predicate.NormalThroughout)

theorem bracketed_groupTokens (statement : Statement) : Bracketed statement.groupTokens := by
  rw [groupTokens]
  split
  · exact .nil
  · apply Bracketed.cons rfl
    apply Bracketed.intercalate rfl
    intro column _
    exact .single rfl

theorem bracketed_orderTokens (statement : Statement) : Bracketed statement.orderTokens := by
  rw [orderTokens]
  split
  · exact .nil
  · apply Bracketed.cons rfl
    apply Bracketed.intercalate rfl
    intro item _
    exact item.bracketed_tokens

theorem bracketed_pageTokens (statement : Statement) : Bracketed statement.pageTokens := by
  apply Bracketed.of_forall
  simp [pageTokens, isBracket, opens, closes]

include normal

theorem bracketed_itemTokens : Bracketed statement.itemTokens := by
  rw [itemTokens]
  split
  · exact .single rfl
  · apply Bracketed.intercalate rfl
    intro item itemMem
    apply SelectItem.bracketed_tokens
    intro condition conditionMem
    apply normal
    exact List.mem_append_left _ (List.mem_flatMap.mpr ⟨item, itemMem, conditionMem⟩)

theorem bracketed_conditionTokens : Bracketed statement.conditionTokens := by
  rw [conditionTokens]
  split
  · exact .nil
  · next predicate conditional =>
      apply Bracketed.cons rfl
      apply Predicate.bracketed_tokens
      apply normal
      rw [predicates, conditional]
      exact List.mem_append_right _ (List.mem_singleton_self predicate)

/-- The brackets of a statement belong together, clause by clause. -/
theorem bracketed_tokens : Bracketed statement.tokens := by
  have selects : Bracketed (.word .select :: statement.itemTokens) :=
    .cons rfl (bracketed_itemTokens normal)
  have source : Bracketed (.word .source :: statement.source.tokens) :=
    .cons rfl statement.source.bracketed_tokens
  have conditioned := (selects.append source).append (bracketed_conditionTokens normal)
  exact ((conditioned.append statement.bracketed_groupTokens).append
    statement.bracketed_orderTokens).append statement.bracketed_pageTokens

end Bracketed

end Statement

namespace Token

/-- Tokens in which no bracket is closed as soon as it is opened, also before and behind others. -/
structure Filled (tokens : List Token) : Prop where
  chain : tokens.IsChain fun left right => ¬(left.opens = true ∧ right.closes = true)
  opensNot : ∀ token ∈ tokens.getLast?, token.opens = false
  closesNot : ∀ token ∈ tokens.head?, token.closes = false

theorem filled_nil : Filled [] := ⟨.nil, by simp, by simp⟩

theorem filled_single {token : Token} (plain : token.isBracket = false) : Filled [token] := by
  rw [isBracket, Bool.or_eq_false_iff] at plain
  exact ⟨.singleton token, by simpa using plain.1, by simpa using plain.2⟩

theorem Filled.append {first second : List Token} (filled : Filled first)
    (secondFilled : Filled second) : Filled (first ++ second) where
  chain := by
    refine List.isChain_append.mpr ⟨filled.chain, secondFilled.chain, ?_⟩
    rintro last lastMem _ _ ⟨opensLast, _⟩
    rw [filled.opensNot last lastMem] at opensLast
    cases opensLast
  opensNot := by
    intro token tokenMem
    cases second with
    | nil =>
        rw [List.append_nil] at tokenMem
        exact filled.opensNot token tokenMem
    | cons next others =>
        apply secondFilled.opensNot
        simpa using tokenMem
  closesNot := by
    intro token tokenMem
    cases first with
    | nil => exact secondFilled.closesNot token tokenMem
    | cons next others => exact filled.closesNot token tokenMem

/-- A pair of brackets around a filled list is filled. -/
theorem Filled.enclose {word : Word} {inside : List Token} (filled : Filled inside)
    (encloses : Encloses word inside) : Filled (.word word :: inside ++ [.word .closing]) where
  chain := by
    rw [List.cons_append, List.isChain_cons, List.isChain_append]
    rcases List.exists_cons_of_ne_nil encloses.ne_nil with ⟨first, others, rfl⟩
    refine ⟨?_, filled.chain, .singleton _, ?_⟩
    · rintro next nextMem ⟨_, closesNext⟩
      rw [filled.closesNot next nextMem] at closesNext
      cases closesNext
    · rintro last lastMem _ _ ⟨opensLast, _⟩
      rw [filled.opensNot last lastMem] at opensLast
      cases opensLast
  opensNot := by
    intro token tokenMem
    rw [List.getLast?_concat, Option.mem_some_iff] at tokenMem
    rw [← tokenMem]
    rfl
  closesNot := by
    intro token tokenMem
    rw [List.cons_append, List.head?_cons, Option.mem_some_iff] at tokenMem
    rw [← tokenMem]
    cases encloses <;> rfl

/-- Between brackets that belong together there is always something. -/
theorem Bracketed.filled {tokens : List Token} (bracketed : Bracketed tokens) : Filled tokens := by
  induction bracketed with
  | nil => exact filled_nil
  | single plain => exact filled_single plain
  | append _ _ ih secondIH => exact ih.append secondIH
  | enclose encloses _ ih => exact ih.enclose encloses

end Token

/-- The two pieces are not a bracket that is closed as soon as it is opened. -/
def Piece.Apart (left right : Piece) : Prop := ¬(left = .plain '(' ∧ right = .plain ')')

theorem Piece.isChain_of_not_mem {pieces : List Piece} (unopened : .plain '(' ∉ pieces) :
    pieces.IsChain Apart := by
  induction pieces with
  | nil => exact .nil
  | cons first others ih =>
      rw [List.mem_cons, not_or] at unopened
      refine List.isChain_cons.mpr ⟨?_, ih unopened.2⟩
      rintro _ _ ⟨opened, _⟩
      exact unopened.1 opened.symm

/-- Brackets are not closed within a word, and other words neither end nor begin with them. -/
theorem Word.text_brackets (word : Word) :
    (word.text.toList.map Piece.plain).IsChain Piece.Apart ∧
      (word.text.toList.getLast? = some '(' → (Token.word word).opens = true) ∧
        (word.text.toList.head? = some ')' → (Token.word word).closes = true) := by
  unfold Piece.Apart
  cases word with
  | aggregate function => cases function <;> decide
  | comparison operator => cases operator <;> decide
  | _ => decide

namespace Token

theorem textPieces_ne_nil (dialect : Dialect) (written : Nat) (token : Token) :
    token.textPieces dialect written ≠ [] := by
  cases token with
  | word content =>
      rcases content.text_cons with ⟨first, others, equal, _⟩
      simp [textPieces, equal]
  | name content => simp [textPieces]
  | slot value => simp [textPieces, Dialect.placeholder_eq]

/--
The text of a token has no brackets of a group inside, and it begins or ends with one only if the
token closes or opens a group. A placeholder has no brackets at all.
-/
theorem textPieces_brackets (dialect : Dialect) (written : Nat) (token : Token) :
    (token.textPieces dialect written).IsChain Piece.Apart ∧
      ((token.textPieces dialect written).getLast? = some (.plain '(') → token.opens = true) ∧
        ((token.textPieces dialect written).head? = some (.plain ')') → token.closes = true) := by
  cases token with
  | word content =>
      rcases content.text_brackets with ⟨chain, opensLast, closesFirst⟩
      refine ⟨chain, ?_, ?_⟩
      · simpa [textPieces, List.getLast?_map] using opensLast
      · simpa [textPieces, List.head?_map] using closesFirst
  | name content => simp [textPieces]
  | slot value =>
      have absent {bracket : Char} (unmarked : bracket ∉ ['?', '$'])
          (noDigit : bracket.isDigit = false) :
          .plain bracket ∉ (slot value).textPieces dialect written := by
        simpa [textPieces] using
          Dialect.not_mem_placeholder unmarked noDigit dialect (written + 1)
      have unopened : .plain '(' ∉ (slot value).textPieces dialect written :=
        absent (by decide) (by decide)
      have unclosed : .plain ')' ∉ (slot value).textPieces dialect written :=
        absent (by decide) (by decide)
      refine ⟨Piece.isChain_of_not_mem unopened, ?_, ?_⟩
      · intro opened
        exact absurd (List.mem_of_getLast? opened) unopened
      · intro closed
        exact absurd (List.mem_of_head? closed) unclosed

/-- If no bracket is closed directly behind its opening in tokens, none is in their text. -/
theorem Spaced.isChain_pieces {tokens : List Token} (spaced : Spaced tokens)
    (chain : tokens.IsChain fun left right => ¬(left.opens = true ∧ right.closes = true))
    (dialect : Dialect) (written : Nat) :
    (pieces none (dialect.write written tokens)).IsChain Piece.Apart := by
  induction tokens generalizing written with
  | nil => exact .nil
  | cons token rest ih =>
      rcases token.textPieces_brackets dialect written with ⟨tokenChain, opensLast, _⟩
      rw [List.isChain_cons] at chain
      rw [spaced.pieces_write, List.isChain_append]
      refine ⟨tokenChain, ih spaced.tail chain.2 _, ?_⟩
      rintro _ lastMem _ nextMem ⟨rfl, rfl⟩
      cases rest with
      | nil => simp [Dialect.write, pieces] at nextMem
      | cons next others =>
          rw [spaced.tail.pieces_write,
            List.head?_append_of_ne_nil _ (next.textPieces_ne_nil dialect _)] at nextMem
          apply chain.1 next rfl
          exact ⟨opensLast lastMem, (next.textPieces_brackets dialect _).2.2 nextMem⟩

end Token

/-- A text without empty names, in which brackets have in them what they may have. -/
structure Query.WellFormed (query : Query) (dialect : Dialect) : Prop where
  named : "" ∉ quotedRuns query.sql
  filled : ¬[.plain '(', .plain ')'] <:+: pieces none query.sql.toList
  /-- The query is what has been written of tokens with the right brackets. -/
  bracketed : ∃ tokens, query = ((Writer.new dialect).push tokens).finish ∧ Bracketed tokens

/-- What is well formed is rendered to a text that is. -/
theorem Statement.WellFormed.render {statement : Statement} (wellFormed : statement.WellFormed)
    (dialect : Dialect) : (statement.render dialect).WellFormed dialect where
  named := by
    rw [quotedRuns, render_sql, statement.appendable_tokens.spaced.quoted?_write, names_tokens]
    exact wellFormed.named
  filled := by
    intro within
    have chain := statement.appendable_tokens.spaced.isChain_pieces
      (bracketed_tokens wellFormed.normal).filled.chain dialect 0
    rw [render_sql] at within
    have pair := List.IsChain.infix chain within
    exact List.isChain_pair.mp pair ⟨rfl, rfl⟩
  bracketed := ⟨statement.tokens, rfl, bracketed_tokens wellFormed.normal⟩

end RowQuery
