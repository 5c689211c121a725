import RowQuery.Proofs.Sql.Leaves
import RowQuery.Proofs.Sql.Lossless
import RowQuery.Proofs.Sql.Names

/-!
# Names stay between their quotes

This file takes a text apart into quoted runs and the characters outside of them, without
knowing where the text comes from, and shows that in a rendered statement the runs are the
names and nothing else is. A name therefore cannot end its run early, and what it holds
cannot become a part of the text around it: statements that differ in their names and values
only have the same text once each run is replaced by the same mark.

A doubled quote is a quote within a run. So a run would go on where another one begins
directly behind it; that no two names touch in a statement, `Token.Spaced`, excludes this.
-/

namespace RowQuery

/-- A piece of a text. -/
inductive Piece where
  /-- A character outside of runs. -/
  | plain (character : Char)
  /-- A whole run between double quotes, with what it quotes. -/
  | run (content : String)
  /-- A run that the text does not close, with what it quotes. -/
  | unclosed (content : String)
  deriving DecidableEq, Repr

/-- The pieces of a text, within a run of which so much has been read or outside of runs. -/
def pieces : Option (List Char) → List Char → List Piece
  | none, [] => []
  | none, character :: rest =>
      if character = '"' then pieces (some []) rest else .plain character :: pieces none rest
  | some content, [] => [.unclosed (String.ofList content)]
  | some content, '"' :: '"' :: rest => pieces (some (content ++ ['"'])) rest
  | some content, '"' :: rest => .run (String.ofList content) :: pieces none rest
  | some content, character :: rest => pieces (some (content ++ [character])) rest

/-- What a piece quotes, if it is a whole run. -/
def Piece.quoted? : Piece → Option String
  | .run content => some content
  | _ => none

/-- A piece as text, with a mark in the place of a whole run. -/
def Piece.masked (mark : List Char) : Piece → List Char
  | .plain character => [character]
  | .run _ => mark
  | .unclosed content => '"' :: content.toList

/-- What the whole runs of a text quote, from left to right. -/
def quotedRuns (text : String) : List String := (pieces none text.toList).filterMap Piece.quoted?

/-- A text with a mark in the place of each whole run. -/
def masked (mark text : String) : String :=
  String.ofList ((pieces none text.toList).flatMap (Piece.masked mark.toList))

theorem pieces_plain {text : List Char} (unquoted : '"' ∉ text) (rest : List Char) :
    pieces none (text ++ rest) = text.map .plain ++ pieces none rest := by
  induction text with
  | nil => rfl
  | cons first others ih =>
      rw [List.mem_cons, not_or] at unquoted
      rcases unquoted with ⟨firstPlain, othersPlain⟩
      rw [List.cons_append, pieces, if_neg (Ne.symm firstPlain), ih othersPlain]
      rfl

/-- An escaped name is one run. The quote behind it is not doubled, since no quote follows it. -/
theorem pieces_escaped (content name : List Char) {rest : List Char}
    (closed : rest.head? ≠ some '"') :
    pieces (some content) (escaped name ++ '"' :: rest) =
      .run (String.ofList (content ++ name)) :: pieces none rest := by
  induction name generalizing content with
  | nil =>
      cases rest with
      | nil => simp [pieces]
      | cons first others =>
          have different : first ≠ '"' := by simpa using closed
          simp [pieces, different]
  | cons first others ih =>
      by_cases quote : first = '"'
      · subst quote
        simp [pieces, ih]
      · simp [escaped_cons quote, pieces, quote, ih]

/-- A quoted name is one run, unless a quote comes next. -/
theorem pieces_quotedName (name : String) {rest : List Char} (closed : rest.head? ≠ some '"') :
    pieces none (quotedName name ++ rest) = .run name :: pieces none rest := by
  have whole := pieces_escaped [] name.toList closed
  rw [quotedName_eq, List.cons_append, List.cons_append, List.append_assoc, pieces, if_pos rfl]
  simpa using whole

theorem Word.quote_not_mem_text (word : Word) : '"' ∉ word.text.toList := by
  cases word with
  | aggregate function => cases function <;> decide
  | comparison operator => cases operator <;> decide
  | _ => decide

namespace Token

/-- The pieces of a token's text: a name is a run, and all else is plain. -/
def textPieces (dialect : Dialect) (written : Nat) : Token → List Piece
  | .word content => content.text.toList.map .plain
  | .name content => [.run content]
  | .slot _ => (dialect.placeholder (written + 1)).map .plain

theorem pieces_chars (dialect : Dialect) (written : Nat) (token : Token) {rest : List Char}
    (closed : token.isName = true → rest.head? ≠ some '"') :
    pieces none (token.chars dialect written ++ rest) =
      token.textPieces dialect written ++ pieces none rest := by
  cases token with
  | word content => exact pieces_plain content.quote_not_mem_text rest
  | name content => exact pieces_quotedName content (closed rfl)
  | slot value =>
      have unquoted : '"' ∉ dialect.placeholder (written + 1) :=
        Dialect.not_mem_placeholder (by decide) (by decide) dialect (written + 1)
      exact pieces_plain unquoted rest

theorem Spaced.pieces_write {token : Token} {rest : List Token} (spaced : Spaced (token :: rest))
    (dialect : Dialect) (written : Nat) :
    pieces none (dialect.write written (token :: rest)) =
      token.textPieces dialect written ++
        pieces none (dialect.write (written + token.slotCount) rest) := by
  rw [Dialect.write_cons]
  apply pieces_chars
  intro named
  exact spaced.head?_write_ne_quote dialect _ named

theorem quoted?_textPieces (dialect : Dialect) (written : Nat) (token : Token) :
    (token.textPieces dialect written).filterMap Piece.quoted? = names [token] := by
  cases token with
  | word content => simp [textPieces, List.filterMap_map, Function.comp_def, Piece.quoted?]
  | name content => rfl
  | slot value => simp [textPieces, List.filterMap_map, Function.comp_def, Piece.quoted?]

/-- The runs of a written text are the names that were written. -/
theorem Spaced.quoted?_write {tokens : List Token} (spaced : Spaced tokens) (dialect : Dialect)
    (written : Nat) :
    (pieces none (dialect.write written tokens)).filterMap Piece.quoted? =
      names tokens := by
  induction tokens generalizing written with
  | nil => rfl
  | cons token rest ih =>
      rw [spaced.pieces_write, List.filterMap_append, quoted?_textPieces, ih spaced.tail,
        ← names_append]
      rfl

section Leaves

variable (rename : String → String) (revalue : Bind → Bind)

theorem startsWithName_mapLeaves (tokens : List Token) :
    startsWithName (tokens.map (Token.mapLeaves rename revalue)) = startsWithName tokens := by
  cases tokens with
  | nil => rfl
  | cons first others => cases first <;> rfl

theorem Spaced.mapLeaves {tokens : List Token} (spaced : Spaced tokens) :
    Spaced (tokens.map (Token.mapLeaves rename revalue)) := by
  induction tokens with
  | nil => trivial
  | cons token rest ih =>
      have spacedRest := ih spaced.tail
      cases token with
      | word content => exact spacedRest
      | name content =>
          refine ⟨?_, spacedRest⟩
          rw [startsWithName_mapLeaves]
          exact spaced.1
      | slot value => exact spacedRest

/-- Where runs are masked, the text of a token does not depend on its name or its value. -/
theorem masked_textPieces_mapLeaves (mark : List Char) (dialect : Dialect) (written : Nat)
    (token : Token) :
    ((token.mapLeaves rename revalue).textPieces dialect written).flatMap (Piece.masked mark) =
      (token.textPieces dialect written).flatMap (Piece.masked mark) := by
  cases token with
  | word content => rfl
  | name content => rfl
  | slot value => rfl

theorem slotCount_mapLeaves (token : Token) :
    (token.mapLeaves rename revalue).slotCount = token.slotCount := by
  cases token with
  | word content => rfl
  | name content => rfl
  | slot value => rfl

theorem Spaced.masked_write_mapLeaves {tokens : List Token} (spaced : Spaced tokens)
    (mark : List Char) (dialect : Dialect) (written : Nat) :
    (pieces none
        (dialect.write written (tokens.map (Token.mapLeaves rename revalue)))).flatMap
          (Piece.masked mark) =
      (pieces none (dialect.write written tokens)).flatMap (Piece.masked mark) := by
  induction tokens generalizing written with
  | nil => rfl
  | cons token rest ih =>
      have renamed := spaced.mapLeaves rename revalue
      rw [List.map_cons] at renamed ⊢
      rw [renamed.pieces_write, spaced.pieces_write, List.flatMap_append, List.flatMap_append,
        masked_textPieces_mapLeaves, slotCount_mapLeaves, ih spaced.tail]

end Leaves

end Token

namespace Statement

/-- What is left of a statement without its names and values. -/
def shape (statement : Statement) : Statement :=
  statement.mapLeaves (fun _ => "") (fun _ => .text "")

theorem render_sql (statement : Statement) (dialect : Dialect) :
    (statement.render dialect).sql.toList = dialect.write 0 statement.tokens := by
  simp [render, Writer.finish, Writer.pushStatement, Writer.push, Writer.new]

theorem masked_render_shape (mark : String) (statement : Statement) (dialect : Dialect) :
    masked mark (statement.shape.render dialect).sql =
      masked mark (statement.render dialect).sql := by
  rw [masked, masked, render_sql, render_sql, shape, tokens_mapLeaves,
    statement.appendable_tokens.spaced.masked_write_mapLeaves]

/--
Names cannot escape their quotes: the runs of a rendered statement are its names, and
statements of one shape have the same text around their runs.
-/
theorem names_stay_quoted (dialect : Dialect) :
    (∀ statement : Statement, quotedRuns (statement.render dialect).sql = statement.names) ∧
      ∀ (mark : String) (first second : Statement), first.shape = second.shape →
        masked mark (first.render dialect).sql = masked mark (second.render dialect).sql := by
  constructor
  · intro statement
    rw [quotedRuns, render_sql, statement.appendable_tokens.spaced.quoted?_write, names_tokens]
  · intro mark first second sameShape
    rw [← masked_render_shape, sameShape, masked_render_shape]

theorem names_stay_quoted_hostile :
    ∃ first second : Statement, first.shape = second.shape ∧
      quotedRuns (second.render .postgres).sql =
        ["\"", "\" FROM \"u\" --", "", "a\"\"b", "$1 \" OR \"1", "?", "\",\""] ∧
      masked "#" (first.render .postgres).sql = masked "#" (second.render .postgres).sql ∧
      masked "#" (second.render .postgres).sql =
        "SELECT sum(#) AS # FROM #.# WHERE # = $1 GROUP BY # ORDER BY # DESC" ++
          " OFFSET $2 ROWS FETCH NEXT $3 ROWS ONLY" := by
  have sameShape :
      Statement.shape ⟨[⟨.aggregate .sum (.column "v"), some "n"⟩], ⟨some "s", "t"⟩,
        some (.compare "c" .equal (.text "x")), ["g"], [⟨"o", .descending⟩],
          .ofInt64 0, .ofInt64 10⟩ =
      Statement.shape ⟨[⟨.aggregate .sum (.column "\""), some "\" FROM \"u\" --"⟩],
        ⟨some "", "a\"\"b"⟩, some (.compare "$1 \" OR \"1" .equal (.number (.integer 7))), ["?"],
          [⟨"\",\"", .descending⟩], .ofInt64 30, .ofInt64 5⟩ := rfl
  have sameText := (names_stay_quoted .postgres).2 "#" _ _ sameShape
  have text : masked "#" (Statement.render ⟨[⟨.aggregate .sum (.column "v"), some "n"⟩],
      ⟨some "s", "t"⟩, some (.compare "c" .equal (.text "x")), ["g"], [⟨"o", .descending⟩],
        .ofInt64 0, .ofInt64 10⟩ .postgres).sql =
      "SELECT sum(#) AS # FROM #.# WHERE # = $1 GROUP BY # ORDER BY # DESC" ++
        " OFFSET $2 ROWS FETCH NEXT $3 ROWS ONLY" := by
    cbv
  exact ⟨_, _, sameShape, (names_stay_quoted .postgres).1 _, sameText, sameText.symm.trans text⟩

end Statement

end RowQuery
