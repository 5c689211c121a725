import RowQuery.Proofs.Compile.Outcome
import RowQuery.Proofs.Sql.Scanner

/-!
# Numbering placeholders

A text with bare question marks is turned into one with numbered placeholders by putting
its number in the place of each question mark that stands outside of quoted runs. This
file shows that the text written for one dialect becomes the text written for the other
in this way, so that the choice of a dialect decides about nothing else. Question marks
and dollar signs in names are left as they are.
-/

namespace RowQuery

/-- The scanner that numbers question marks on from a count and copies all else. -/
def numberer : Scanner (Nat → List Char) where
  finish _ _ := []
  quoted character behind count := character :: behind count
  plain character _ behind count :=
    if character = '?' then '$' :: Nat.toDigits 10 (count + 1) ++ behind (count + 1)
    else character :: behind count

/-- A query whose bare question marks have been numbered from one. -/
def Query.numbered (query : Query) : Query :=
  { query with sql := String.ofList (numberer.run none query.sql.toList 0) }

namespace Scanner

theorem even_numberer : numberer.Even := by
  intro character rest behind noQuestion noDollar
  simp [numberer, noQuestion]

theorem foldr_numberer_quoted (text : List Char) (behind : Nat → List Char) (count : Nat) :
    text.foldr numberer.quoted behind count = text ++ behind count := by
  induction text with
  | nil => rfl
  | cons first others ih =>
      rw [List.foldr_cons, List.cons_append, ← ih]
      rfl

/--
The text with question marks becomes the text with numbers, from any count on. The two texts differ
at the slots alone, and only there does the count go up.
-/
theorem numberer_write (written : Nat) (tokens : List Token) :
    numberer.run none (Dialect.ansi.write written tokens) written =
      Dialect.postgres.write written tokens := by
  induction tokens generalizing written with
  | nil => rfl
  | cons token rest ih =>
      cases token with
      | word content =>
          rw [Dialect.write, run_word even_numberer, foldr_numberer_quoted, ih]
          rfl
      | name content =>
          rw [Dialect.write, run_quotedName, foldr_numberer_quoted, ih]
          rfl
      | slot value =>
          have numbered : numberer.run none
              (Dialect.ansi.placeholder (written + 1) ++ Dialect.ansi.write (written + 1) rest)
                written =
              Dialect.postgres.placeholder (written + 1) ++
                numberer.run none (Dialect.ansi.write (written + 1) rest) (written + 1) := by
            rw [run_placeholder even_numberer]
            rfl
          rw [Dialect.write, numbered, ih]
          rfl

end Scanner

/-- A statement's values are the same in both dialects, and so is its text up to numbers. -/
theorem Statement.numbered_render (statement : Statement) :
    (statement.render .ansi).numbered = statement.render .postgres := by
  have text := Scanner.numberer_write 0 statement.tokens
  simp [render, Query.numbered, Writer.finish, Writer.pushStatement, Writer.push, Writer.new, text]

/-- Compiling for either dialect gives the same error, or the same query up to numbers. -/
theorem dialects_agree :
    (∀ statement : Statement,
      statement.render .postgres = (statement.render .ansi).numbered) ∧
    ∀ (request : RowsRequest) (config : Config) (table : String) (values : PivotValues),
      (request.compile { config with dialect := .postgres } table values).result =
        (request.compile { config with dialect := .ansi } table values).result.map
          Query.numbered := by
  refine ⟨fun statement => statement.numbered_render.symm, ?_⟩
  intro request config table values
  have same : request.statement { config with dialect := .postgres } table values =
      request.statement { config with dialect := .ansi } table values :=
    request.statement_dialect { config with dialect := .ansi } .postgres table values
  rw [RowsRequest.compile_result, RowsRequest.compile_result, same]
  cases request.statement { config with dialect := .ansi } table values with
  | error error => rfl
  | ok statement =>
      simp only [Except.map]
      rw [statement.numbered_render]

end RowQuery
