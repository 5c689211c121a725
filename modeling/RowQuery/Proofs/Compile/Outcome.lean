import Mathlib.Data.List.Forall2
import RowQuery.Compile.Explanation

/-!
# What a compile comes to

This file separates what comes out of compiling from what is logged on the way. The
result of work in sequence is the sequence of the results, so all questions about
outcomes are questions about plain results.

The outcome of a compile is found in two steps: a request has a statement or an error,
and the statement is rendered. The dialect is used in the second step only.

To compare two compiles, `Agree` says of two results that they are the same error or
related values. Like success, agreement is found part by part.
-/

namespace RowQuery

section Results

variable {ε α β γ : Type}

/-- Work in sequence succeeds where both parts do. -/
theorem bind_eq_ok {first : Except ε α} {next : α → Except ε β} {outcome : β} :
    first >>= next = .ok outcome ↔ ∃ value, first = .ok value ∧ next value = .ok outcome := by
  cases first with
  | error error => simp [bind, Except.bind]
  | ok value => simp [bind, Except.bind]

theorem map_eq_ok {work : Except ε α} {change : α → β} {outcome : β} :
    work.map change = .ok outcome ↔ ∃ value, work = .ok value ∧ change value = outcome := by
  cases work with
  | error error => simp [Except.map]
  | ok value => simp [Except.map]

theorem bind_ok_eq_map (work : Except ε α) (change : α → β) :
    (work >>= fun value => .ok (change value)) = work.map change := by
  cases work with
  | error error => rfl
  | ok value => rfl

theorem map_map_eq (work : Except ε α) (change : α → β) (further : β → γ) :
    (work.map change).map further = work.map fun value => further (change value) := by
  cases work with
  | error error => rfl
  | ok value => rfl

theorem map_bind_eq (first : Except ε α) (next : α → Except ε β) (change : β → γ) :
    (first >>= next).map change = first >>= fun value => (next value).map change := by
  cases first with
  | error error => rfl
  | ok value => rfl

/-- Two outcomes are the same error, or related values. -/
inductive Agree {β : Type} (related : α → β → Prop) : Except ε α → Except ε β → Prop where
  | refused (error : ε) : Agree related (.error error) (.error error)
  | accepted {value : α} {other : β} (similar : related value other) :
      Agree related (.ok value) (.ok other)

/-- An outcome agrees with itself. -/
theorem Agree.refl {related : α → α → Prop} (reflexive : ∀ value, related value value)
    (outcome : Except ε α) : Agree related outcome outcome := by
  cases outcome with
  | error error => exact .refused error
  | ok value => exact .accepted (reflexive value)

/-- Two pieces of work agree if their parts do. -/
theorem Agree.bind {δ : Type} {related : α → β → Prop} {finallyRelated : γ → δ → Prop}
    {outcome : Except ε α} {other : Except ε β} {next : α → Except ε γ} {otherNext : β → Except ε δ}
    (agree : Agree related outcome other)
    (nextAgree : ∀ value otherValue, outcome = .ok value → other = .ok otherValue →
      related value otherValue → Agree finallyRelated (next value) (otherNext otherValue)) :
    Agree finallyRelated (outcome >>= next) (other >>= otherNext) := by
  cases agree with
  | refused error => exact .refused error
  | accepted similar => exact nextAgree _ _ rfl rfl similar

/-- What is done alike with values that agree keeps the outcomes in agreement. -/
theorem Agree.map {δ : Type} {related : α → β → Prop} {finallyRelated : γ → δ → Prop}
    {outcome : Except ε α} {other : Except ε β} {change : α → γ} {otherChange : β → δ}
    (agree : Agree related outcome other)
    (changed : ∀ value otherValue, related value otherValue →
      finallyRelated (change value) (otherChange otherValue)) :
    Agree finallyRelated (outcome.map change) (other.map otherChange) := by
  cases agree with
  | refused error => exact .refused error
  | accepted similar => exact .accepted (changed _ _ similar)

/-- Work on each of several inputs succeeds where it does for each of them. -/
theorem mapM_eq_ok {work : α → Except ε β} {inputs : List α} {outcomes : List β} :
    inputs.mapM work = .ok outcomes ↔
      List.Forall₂ (fun input outcome => work input = .ok outcome) inputs outcomes := by
  induction inputs generalizing outcomes with
  | nil =>
      cases outcomes with
      | nil => simp [pure, Except.pure]
      | cons outcome others => simp [pure, Except.pure]
  | cons input rest ih =>
      simp only [List.mapM_cons, bind_eq_ok, ih]
      constructor
      · rintro ⟨outcome, first, others, remaining, equal⟩
        cases equal
        exact .cons first remaining
      · intro each
        cases each with
        | cons first remaining => exact ⟨_, first, _, remaining, rfl⟩

/-- Work that fails in one way only, on each of several inputs. -/
theorem mapM_ite (unfit : α → Prop) [DecidablePred unfit] (error : ε) (value : α → β)
    (inputs : List α) :
    (inputs.mapM fun input => if unfit input then .error error else .ok (value input)) =
      if ∃ input ∈ inputs, unfit input then .error error
      else (.ok (inputs.map value) : Except ε (List β)) := by
  induction inputs with
  | nil => simp [pure, Except.pure]
  | cons first rest ih =>
      rw [List.mapM_cons, ih]
      by_cases firstUnfit : unfit first
      · simp [firstUnfit, bind, Except.bind]
      · by_cases restUnfit : ∃ input ∈ rest, unfit input
        · simp [firstUnfit, restUnfit, bind, Except.bind]
        · simp [firstUnfit, restUnfit, bind, Except.bind, pure, Except.pure]

namespace Traced

@[simp]
theorem result_pure (value : α) : (pure value : Traced ε α).result = .ok value := rfl

@[simp]
theorem result_liftM (work : Except ε α) : (liftM work : Traced ε α).result = work := rfl

/-- Work in sequence has the result that its parts have in sequence, whatever they log. -/
@[simp]
theorem result_bind (first : Traced ε α) (next : α → Traced ε β) :
    (first >>= next).result = first.result >>= fun value => (next value).result := by
  rcases first with ⟨records, result⟩
  cases result with
  | error error => rfl
  | ok value => rfl

@[simp]
theorem result_map (work : Traced ε α) (change : α → β) :
    (change <$> work).result = work.result.map change := by
  rw [← bind_pure_comp, result_bind]
  cases work.result with
  | error error => rfl
  | ok value => rfl

/-- What comes out of one thing after the other does not depend on what is logged. -/
theorem result_mapM (work : α → Traced ε β) (inputs : List α) :
    (inputs.mapM work).result = inputs.mapM fun input => (work input).result := by
  induction inputs with
  | nil => rfl
  | cons input rest ih =>
      simp only [List.mapM_cons, result_bind, result_pure, ih]
      rfl

/-- The records around the work do not change what comes out of it. -/
theorem result_logged (table : String) (request : RowsRequest)
    (work : Traced CompileError (α × CompileMode)) :
    (logged table request work).result = work.result.map Prod.fst := by
  rw [logged]
  cases work.result with
  | error error => rfl
  | ok value => rfl

end Traced

end Results

namespace RowsRequest

/-- The statement that a request compiles to, before it is rendered. -/
def statement (request : RowsRequest) (config : Config) (table : String) (values : PivotValues) :
    Except CompileError Statement :=
  (Context.resolve config table request values >>= Context.statement).result

/-- A compile checks its request, makes the statement and renders it. -/
theorem compileContext_result (request : RowsRequest) (config : Config) (table : String)
    (values : PivotValues) :
    (request.compileContext config table values).result =
      (Context.resolve config table request values).result >>= fun context =>
        context.statement.result.map fun statement =>
          (context, statement.render config.dialect) := by
  simp only [compileContext, Traced.result_bind, Traced.result_pure, bind_ok_eq_map]

/-- Compiling finds the statement of a request and renders it. -/
theorem compile_result (request : RowsRequest) (config : Config) (table : String)
    (values : PivotValues) :
    (request.compile config table values).result =
      (request.statement config table values).map fun statement =>
        statement.render config.dialect := by
  rw [compile, Traced.result_logged, statement]
  simp only [Traced.result_bind, Traced.result_pure, compileContext_result, bind_ok_eq_map,
    map_bind_eq, map_map_eq]

/-- Compiling gives the query of a statement. -/
structure CompilesTo (request : RowsRequest) (config : Config) (table : String)
    (values : PivotValues) (statement : Statement) : Prop where
  stated : request.statement config table values = .ok statement
  compiled : (request.compile config table values).result = .ok (statement.render config.dialect)

theorem compilesTo_of_statement {request : RowsRequest} {config : Config} {table : String}
    {values : PivotValues} {statement : Statement}
    (stated : request.statement config table values = .ok statement) :
    request.CompilesTo config table values statement := by
  refine ⟨stated, ?_⟩
  rw [compile_result, stated]
  rfl

/-- The query of a compile is the rendered statement of its request. -/
theorem CompilesTo.of_compile {request : RowsRequest} {config : Config} {table : String}
    {values : PivotValues} {query : Query}
    (compiled : (request.compile config table values).result = .ok query) :
    ∃ statement, request.CompilesTo config table values statement ∧
      statement.render config.dialect = query := by
  rw [compile_result, map_eq_ok] at compiled
  rcases compiled with ⟨statement, stated, rendered⟩
  exact ⟨statement, compilesTo_of_statement stated, rendered⟩

/-- Explaining sums up a checked request and its rendered statement. -/
theorem explain_result (request : RowsRequest) (config : Config) (table : String)
    (values : PivotValues) :
    (request.explain config table values).result =
      (Context.resolve config table request values).result >>= fun context =>
        context.statement.result.map fun statement =>
          Explanation.ofQuery context (statement.render config.dialect) config.dialect := by
  rw [explain, Traced.result_logged]
  simp only [Traced.result_bind, Traced.result_pure, compileContext_result, bind_ok_eq_map,
    map_bind_eq, map_map_eq]

/-- The dialect does not matter to the statement of a request. -/
theorem statement_dialect (request : RowsRequest) (config : Config) (dialect : Dialect)
    (table : String) (values : PivotValues) :
    request.statement { config with dialect := dialect } table values =
      request.statement config table values :=
  rfl

end RowsRequest

end RowQuery
