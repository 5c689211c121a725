import Mathlib
import RowQuery.Proofs.Compile.Outcome
import RowQuery.Proofs.Sql.Placeholders

/-!
# Placeholders and values are aligned

This file shows that a query's text can be trusted to have a place for each of its
values. Everything that a writer has written is the text of a list of tokens, and each
statement that is pushed only makes this list longer, so what holds of written tokens
holds after every push, over any number of statements.
-/

namespace RowQuery

/-- The text of a query is closed, and its placeholders are the ones that its values need. -/
structure Query.Aligned (query : Query) (dialect : Dialect) : Prop where
  /-- There are as many placeholders as values. -/
  counted : dialect.countPlaceholders query.sql = query.binds.length
  /-- The text does not end inside quotes. -/
  closed : openQuote none query.sql.toList = none
  /-- The placeholders are question marks, or they are numbered from one, in their order. -/
  numbered : dialect.placeholders query.sql.toList =
    (List.range' 1 query.binds.length).map fun number =>
      match dialect with
      | .ansi => ['?']
      | .postgres => '$' :: Nat.toDigits 10 number

/-- A query passes for aligned exactly if its text has a placeholder for each of its values. -/
theorem Query.isAligned_iff (query : Query) (dialect : Dialect) :
    query.isAligned dialect = true ↔
      (dialect.placeholders query.sql.toList).length = query.binds.length := by
  rw [Dialect.length_placeholders]
  exact decide_eq_true_iff

namespace Writer

/-- A writer that has written tokens, and nothing else. -/
def HasWritten (writer : Writer) (dialect : Dialect) (tokens : List Token) : Prop :=
  writer = (new dialect).push tokens

theorem hasWritten_new (dialect : Dialect) : (new dialect).HasWritten dialect [] := rfl

/-- A push makes the list of tokens longer. -/
theorem HasWritten.pushStatement {writer : Writer} {dialect : Dialect} {tokens : List Token}
    (written : writer.HasWritten dialect tokens) (statement : Statement) :
    (writer.pushStatement statement).HasWritten dialect (tokens ++ statement.tokens) := by
  rw [HasWritten] at written ⊢
  rw [Writer.pushStatement, written, push_push]

/-- A run of pushes writes the tokens of all statements. -/
theorem HasWritten.foldl {writer : Writer} {dialect : Dialect} {tokens : List Token}
    (written : writer.HasWritten dialect tokens) (statements : List Statement) :
    (statements.foldl Writer.pushStatement writer).HasWritten dialect
      (tokens ++ statements.flatMap Statement.tokens) := by
  induction statements generalizing writer tokens with
  | nil => simpa using written
  | cons statement rest ih =>
      have next := ih (written.pushStatement statement)
      rw [List.append_assoc] at next
      rw [List.flatMap_cons, List.foldl_cons]
      exact next

/-- What has been written as tokens is aligned. -/
theorem HasWritten.aligned {writer : Writer} {dialect : Dialect} {tokens : List Token}
    (written : writer.HasWritten dialect tokens) : writer.finish.Aligned dialect := by
  rw [HasWritten] at written
  subst written
  refine ⟨?_, ?_, ?_⟩
  · simpa [finish, push, new, Dialect.countPlaceholders] using dialect.scan_write 0 tokens
  · simpa [finish, push, new] using dialect.openQuote_write 0 tokens
  · have placed : dialect.placeholders ((new dialect).push tokens).finish.sql.toList =
        (List.range' 1 ((new dialect).push tokens).finish.binds.length).map
          dialect.placeholder := by
      simpa [finish, push, new] using dialect.placeholders_write 0 tokens
    rw [placed]
    cases dialect with
    | ansi => rfl
    | postgres => rfl

end Writer

/--
Every run of a writer leaves an aligned query, and so does every compile, which is a run with a
single push.
-/
theorem queries_aligned :
    (∀ (dialect : Dialect) (statements : List Statement),
      (statements.foldl Writer.pushStatement (Writer.new dialect)).finish.Aligned dialect) ∧
    ∀ (request : RowsRequest) (config : Config) (table : String) (values : PivotValues)
      (query : Query), (request.compile config table values).result = .ok query →
        query.isAligned config.dialect = true := by
  have run (dialect : Dialect) (statements : List Statement) :
      (statements.foldl Writer.pushStatement (Writer.new dialect)).finish.Aligned dialect :=
    ((Writer.hasWritten_new dialect).foldl statements).aligned
  refine ⟨run, ?_⟩
  intro request config table values query compiled
  rw [RowsRequest.compile_result] at compiled
  rcases map_eq_ok.mp compiled with ⟨statement, _, rendered⟩
  subst rendered
  have aligned : (statement.render config.dialect).Aligned config.dialect :=
    run config.dialect [statement]
  rw [Query.isAligned_iff, aligned.numbered, List.length_map, List.length_range']

theorem queries_aligned_pivoted :
    ∃ query,
      ((((RowsRequest.new 0 9).addRowGroup (.ofField "g?" none)).addValue
        (.ofField "v" (some "sum"))).addPivot (.ofField "p" none) |>.compile
          { Config.default with dialect := .postgres } "t"
          (OrderedMap.empty.insert "p" ["$1"])).result = .ok query ∧
      query.isAligned .postgres = true ∧
      query.binds = [.text "$1", .ofInt64 0, .ofInt64 10] := by
  have compiled : ((((RowsRequest.new 0 9).addRowGroup (.ofField "g?" none)).addValue
      (.ofField "v" (some "sum"))).addPivot (.ofField "p" none) |>.compile
        { Config.default with dialect := .postgres } "t"
        (OrderedMap.empty.insert "p" ["$1"])).result = .ok
      ⟨"SELECT \"g?\",sum(CASE WHEN \"p\" = $1 THEN \"v\" ELSE NULL END) AS \"$1_v\"" ++
        " FROM \"t\" GROUP BY \"g?\" OFFSET $2 ROWS FETCH NEXT $3 ROWS ONLY",
        [.text "$1", .ofInt64 0, .ofInt64 10]⟩ := by
    cbv
  have aligned := queries_aligned.2 _ _ _ _ _ compiled
  exact ⟨_, compiled, aligned, rfl⟩

end RowQuery
