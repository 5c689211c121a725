import Mathlib
import RowQuery.Proofs.Compile.Faults

/-!
# Ignoring and rejecting unknown operators

A filter whose operator has no meaning is either passed over or a reason to refuse the
request. This file compares the two policies with each other, and with a request that does
not have such filters in the first place.

What is wrong with a request under the policy that passes over unknown operators is what is
wrong with it under the other one, less the faults about operators. So a request that is
refused for another reason is refused for the same reason under both. For requests that are
not refused the statements are compared as well: the filters enter a statement only through
the predicates they compile to, so the statement stays the same as long as these do.
-/

namespace RowQuery

/-- Whether an error is about an operator without a meaning. -/
def CompileError.isUnknownOperator : CompileError → Bool
  | .unknownOperator _ _ _ => true
  | _ => false

/-- A configuration with another policy about unknown operators. -/
def Config.withPolicy (config : Config) (policy : OperatorPolicy) : Config :=
  { config with unknownOperator := policy }

/-- A request without the filters whose operators have no meaning. -/
def RowsRequest.dropUnknown (request : RowsRequest) : RowsRequest :=
  { request with filters := request.filters.filter fun _ filter => filter.isKnown }

namespace Filter

/-- The operator of a filter, if it has no meaning. -/
def unknownOperator? : Filter → Option String
  | .text (.unknown name) _ => some name
  | .number (.unknown name) _ _ => some name
  | _ => none

/--
The first of several filters whose operator has no meaning stands on this column and is of
this kind, and every filter before it compiles under either policy.
-/
def FirstUnknown (entries : List (String × Filter)) (column kind operator : String) : Prop :=
  ∃ before filter after, entries = before ++ (column, filter) :: after ∧
    filter.unknownOperator? = some operator ∧ filter.kind = kind ∧
      ∀ entry ∈ before, entry.2.isKnown = true ∧
        ∀ policy, ∃ predicate, (entry.2.compile policy entry.1).result = .ok predicate

/-- The policy does not matter to a filter whose operator has a meaning. -/
theorem compile_of_isKnown {filter : Filter} (known : filter.isKnown = true) (column : String)
    (policy other : OperatorPolicy) :
    filter.compile policy column = filter.compile other column := by
  unfold compile
  split
  · rfl
  · cases filter with
    | text operator value =>
        cases operator with
        | unknown name => cases known
        | _ => rfl
    | number operator value upper =>
        cases operator with
        | unknown name => cases known
        | _ => rfl
    | set values => rfl

/-- A filter whose operator has no meaning is passed over, if it stands on a column. -/
theorem compile_ignore_of_unknown {filter : Filter} {column : String}
    (unknown : filter.isKnown = false) (named : column ≠ "") :
    (filter.compile .ignore column).result = .ok none := by
  unfold compile
  rw [if_neg (by simpa using named)]
  cases filter with
  | text operator value =>
      cases operator with
      | unknown name => rfl
      | _ => cases unknown
  | number operator value upper =>
      cases operator with
      | unknown name => rfl
      | _ => cases unknown
  | set values => cases unknown

theorem compileEach_of_isKnown {entries : List (String × Filter)}
    (known : ∀ entry ∈ entries, entry.2.isKnown = true) (policy other : OperatorPolicy) :
    compileEach policy entries = compileEach other entries := by
  induction entries with
  | nil => rfl
  | cons entry rest ih =>
      rcases entry with ⟨column, filter⟩
      have firstKnown : filter.isKnown = true := known _ List.mem_cons_self
      have restSame := ih (fun entry entryMem => known entry (List.mem_cons_of_mem _ entryMem))
      rw [compileEach, compileEach, compile_of_isKnown firstKnown column policy other, restSame]

/-- Passing over unknown operators comes to the same as leaving their filters out. -/
theorem compileEach_filter_isKnown {entries : List (String × Filter)}
    (named : ∀ entry ∈ entries, entry.2.isKnown = false → entry.1 ≠ "") :
    (compileEach .ignore (entries.filter fun entry => entry.2.isKnown)).result =
      (compileEach .ignore entries).result := by
  induction entries with
  | nil => rfl
  | cons entry rest ih =>
      rcases entry with ⟨column, filter⟩
      have restSame := ih (fun entry entryMem => named entry (List.mem_cons_of_mem _ entryMem))
      cases known : filter.isKnown with
      | true =>
          rw [List.filter_cons_of_pos (by exact known)]
          simp only [compileEach, Traced.result_bind, restSame]
      | false =>
          have passedOver := compile_ignore_of_unknown known (named _ List.mem_cons_self known)
          rw [List.filter_cons_of_neg (by simp [known]), restSame]
          simp only [compileEach, Traced.result_bind, Traced.result_pure, passedOver]
          cases (compileEach .ignore rest).result with
          | error error => rfl
          | ok predicates => rfl

theorem filter_faultIf {condition : Prop} [Decidable condition] {fault : CompileError}
    (keep : CompileError → Bool) :
    (faultIf condition fault).filter keep =
      if keep fault then faultIf condition fault else [] := by
  rw [faultIf]
  split
  · rw [List.filter_singleton, Bool.cond_eq_ite]
  · simp

/-- Passing over unknown operators takes the faults about them away, and no others. -/
theorem faults_ignore (filter : Filter) (column : String) :
    filter.faults .ignore column =
      (filter.faults .reject column).filter fun fault => !fault.isUnknownOperator := by
  unfold faults
  rw [List.filter_append, filter_faultIf]
  cases filter with
  | text operator value =>
      cases operator <;> simp [TextOperator.faults, filter_faultIf, CompileError.isUnknownOperator]
  | number operator value upper =>
      cases operator <;>
        simp [NumberOperator.faults, filter_faultIf, CompileError.isUnknownOperator]
  | set values => simp [CompileError.isUnknownOperator]

/-- Rejecting unknown operators, a filter without faults has an operator with a meaning. -/
theorem isKnown_of_faults_eq_nil {filter : Filter} {column : String}
    (faultless : filter.faults .reject column = []) : filter.isKnown = true := by
  unfold faults at faultless
  rw [List.append_eq_nil_iff] at faultless
  cases filter with
  | text operator value =>
      cases operator with
      | unknown name => simp [TextOperator.faults] at faultless
      | _ => rfl
  | number operator value upper =>
      cases operator with
      | unknown name => simp [NumberOperator.faults] at faultless
      | _ => rfl
  | set values => rfl

/-- A fault about an operator tells the column, the kind and the operator of the filter. -/
theorem unknownOperator_of_mem_faults {filter : Filter} {policy : OperatorPolicy}
    {place column kind operator : String}
    (faulty : .unknownOperator column kind operator ∈ filter.faults policy place) :
    column = place ∧ filter.unknownOperator? = some operator ∧ filter.kind = kind := by
  unfold faults at faulty
  rw [List.mem_append, mem_faultIf] at faulty
  cases filter with
  | text name value => cases name <;> simp_all [TextOperator.faults, unknownOperator?, Filter.kind]
  | number name value upper =>
      cases name <;> simp_all [NumberOperator.faults, unknownOperator?, Filter.kind]
  | set values => simp at faulty

/-- The first fault of several filters, if it is about an operator, is that of the first such. -/
theorem firstUnknown_of_faults {entries : List (String × Filter)}
    {column kind operator : String} {others : List CompileError}
    (faulty : (entries.flatMap fun entry => entry.2.faults .reject entry.1) =
      .unknownOperator column kind operator :: others) :
    FirstUnknown entries column kind operator := by
  induction entries with
  | nil => cases faulty
  | cons entry rest ih =>
      rcases entry with ⟨place, filter⟩
      rw [List.flatMap_cons] at faulty
      rcases faultless : filter.faults .reject place with _ | ⟨first, more⟩
      · rw [faultless, List.nil_append] at faulty
        rcases ih faulty with ⟨before, unknown, after, equal, unknownOperator, isKind, compiled⟩
        refine ⟨(place, filter) :: before, unknown, after, ?_, unknownOperator, isKind, ?_⟩
        · rw [equal, List.cons_append]
        · intro entry entryMem
          rcases List.mem_cons.mp entryMem with rfl | otherMem
          · have known := isKnown_of_faults_eq_nil faultless
            refine ⟨known, ?_⟩
            intro policy
            have reports := compile_reports .reject place filter
            rw [faultless, compile_of_isKnown known place .reject policy] at reports
            exact reports
          · exact compiled entry otherMem
      · rw [faultless, List.cons_append, List.cons.injEq] at faulty
        have faultMem : .unknownOperator column kind operator ∈ filter.faults .reject place := by
          rw [faultless, faulty.1]
          exact List.mem_cons_self
        rcases unknownOperator_of_mem_faults faultMem with ⟨rfl, unknownOperator, isKind⟩
        exact ⟨[], filter, rest, rfl, unknownOperator, isKind, by simp⟩

end Filter

namespace Context

/-- A context with other filters and another policy about them. -/
def refilter (policy : OperatorPolicy) (filters : FilterMap) (context : Context) : Context :=
  { context with request := { context.request with filters := filters }, policy := policy }

/-- The checks of a request look neither at the filters nor at the policy about them. -/
theorem resolve_refilter (config : Config) (policy : OperatorPolicy) (table : String)
    (request : RowsRequest) (filters : FilterMap) (values : PivotValues) :
    (resolve (config.withPolicy policy) table { request with filters := filters } values).result =
      (resolve config table request values).result.map (refilter policy filters) := by
  simp only [resolve, Traced.result_bind, Traced.result_liftM, Traced.result_pure, map_bind_eq]
  rfl

/-- The filters enter a statement only through the predicates that they compile to. -/
theorem statement_refilter {policy : OperatorPolicy} {filters : FilterMap} {context : Context}
    (same : (Filter.compileEach policy filters.entries).result =
      (Filter.compileEach context.policy context.request.filters.entries).result) :
    (context.refilter policy filters).statement.result = context.statement.result := by
  unfold statement condition
  simp only [Traced.result_bind, Traced.result_liftM, Traced.result_pure, refilter, same]
  rfl

end Context

namespace RowsRequest

variable (request : RowsRequest) (config : Config) (table : String) (values : PivotValues)

theorem statement_of_compileEach_eq {policy : OperatorPolicy} {filters : FilterMap}
    (same : (Filter.compileEach policy filters.entries).result =
      (Filter.compileEach config.unknownOperator request.filters.entries).result) :
    { request with filters := filters }.statement (config.withPolicy policy) table values =
      request.statement config table values := by
  rw [statement, statement, Traced.result_bind, Traced.result_bind, Context.resolve_refilter]
  rcases resolved : (Context.resolve config table request values).result with error | context
  · rfl
  · have reflects := Context.resolve_ok resolved
    rw [← reflects.policy_eq, ← reflects.request_eq] at same
    exact Context.statement_refilter same

/-- Only filters are at fault for unknown operators. -/
theorem isUnknownOperator_of_mem_clauseFaults {error : CompileError}
    (faulty : error ∈ request.checkFaults config table ++ request.aggregateFaults) :
    error.isUnknownOperator = false := by
  rw [List.mem_append] at faulty
  rcases faulty with checked | aggregated
  · simp only [checkFaults, windowFaults, columnFaults, groupFaults, pivotFaults, List.mem_append,
      mem_faultIf] at checked
    rcases checked with ((((⟨_, rfl⟩ | ⟨_, rfl⟩) | ⟨_, rfl⟩) | ⟨_, rfl⟩ | ⟨_, rfl⟩) | ⟨_, rfl⟩ |
      ⟨_, rfl⟩) | ⟨_, rfl⟩ <;> rfl
  · rw [aggregateFaults] at aggregated
    split at aggregated
    · cases aggregated
    · rcases List.mem_flatMap.mp aggregated with ⟨column, _, columnFaulty⟩
      rw [ColumnSpec.aggregateFaults] at columnFaulty
      split at columnFaulty
      · rw [(mem_faultIf.mp columnFaulty).2]
        rfl
      · rw [(mem_faultIf.mp columnFaulty).2]
        rfl

theorem faults_ignore :
    request.faults (config.withPolicy .ignore) table =
      (request.faults (config.withPolicy .reject) table).filter fun fault =>
        !fault.isUnknownOperator := by
  have kept : (request.checkFaults config table ++ request.aggregateFaults).filter
      (fun fault => !fault.isUnknownOperator) =
        request.checkFaults config table ++ request.aggregateFaults := by
    rw [List.filter_eq_self]
    intro fault faultMem
    rw [request.isUnknownOperator_of_mem_clauseFaults config table faultMem]
    rfl
  have dropped : request.filterFaults (config.withPolicy .ignore) =
      (request.filterFaults (config.withPolicy .reject)).filter
        fun fault => !fault.isUnknownOperator := by
    rw [filterFaults, filterFaults, List.filter_flatMap]
    simp only [Config.withPolicy, Filter.faults_ignore]
  calc
    _ = (request.checkFaults config table ++ request.aggregateFaults) ++
        request.filterFaults (config.withPolicy .ignore) := rfl
    _ = _ := by
      rw [dropped, ← kept, ← List.filter_append]
      rfl

/-- Where rejecting unknown operators refuses nothing, there are none. -/
theorem statement_ignore_of_ok {statement : Statement}
    (stated : request.statement (config.withPolicy .reject) table values = .ok statement) :
    request.statement (config.withPolicy .ignore) table values = .ok statement := by
  have faultless := (request.statement_reports _ table values).eq_nil_of_ok stated
  have filtersFaultless : request.filterFaults (config.withPolicy .reject) = [] :=
    (List.append_eq_nil_iff.mp faultless).2
  have known : ∀ entry ∈ request.filters.entries, entry.2.isKnown = true := by
    intro entry entryMem
    have entryFaultless := List.flatMap_eq_nil_iff.mp filtersFaultless entry entryMem
    exact Filter.isKnown_of_faults_eq_nil entryFaultless
  have same := congrArg Traced.result (Filter.compileEach_of_isKnown known .ignore .reject)
  rw [← stated]
  exact request.statement_of_compileEach_eq (config.withPolicy .reject) table values same

/-- A request that is refused for an operator is refused for the first unknown one. -/
theorem firstUnknown_of_error {column kind operator : String}
    (refused : (request.compile (config.withPolicy .reject) table values).result =
      .error (.unknownOperator column kind operator)) :
    Filter.FirstUnknown request.filters.entries column kind operator := by
  have reports := request.compile_reports (config.withPolicy .reject) table values
  rcases reports.eq_cons_of_error refused with ⟨others, first⟩
  rw [faults] at first
  rcases clausesFaultless : request.checkFaults (config.withPolicy .reject) table ++
    request.aggregateFaults with _ | ⟨fault, more⟩
  · rw [clausesFaultless, List.nil_append] at first
    exact Filter.firstUnknown_of_faults first
  · have other := request.isUnknownOperator_of_mem_clauseFaults (config.withPolicy .reject) table
      (clausesFaultless ▸ List.mem_cons_self)
    rw [clausesFaultless, List.cons_append, List.cons.injEq] at first
    rw [first.1] at other
    cases other

end RowsRequest

/--
Passing over unknown operators is compiling without their filters, and rejecting them is the
same where there are none to reject.
-/
theorem ignoring_drops_unknown (request : RowsRequest) (config : Config) (table : String)
    (values : PivotValues) :
    (∀ query, (request.compile (config.withPolicy .reject) table values).result = .ok query →
      (request.compile (config.withPolicy .ignore) table values).result = .ok query) ∧
    (∀ error, (request.compile (config.withPolicy .reject) table values).result = .error error →
      error.isUnknownOperator = false →
        (request.compile (config.withPolicy .ignore) table values).result = .error error) ∧
    (∀ column kind operator,
      (request.compile (config.withPolicy .reject) table values).result =
          .error (.unknownOperator column kind operator) →
        Filter.FirstUnknown request.filters.entries column kind operator) ∧
    ((∀ entry ∈ request.filters.entries, entry.2.isKnown = false → entry.1 ≠ "") →
      (request.compile (config.withPolicy .ignore) table values).result =
        (request.dropUnknown.compile (config.withPolicy .ignore) table values).result) := by
  refine ⟨?_, ?_, ?_, ?_⟩
  · intro query compiled
    rw [RowsRequest.compile_result, map_eq_ok] at compiled
    rcases compiled with ⟨statement, stated, rendered⟩
    rw [RowsRequest.compile_result, request.statement_ignore_of_ok config table values stated]
    exact congrArg Except.ok rendered
  · intro error refused other
    have reports := request.compile_reports (config.withPolicy .reject) table values
    have ignoring := request.compile_reports (config.withPolicy .ignore) table values
    rcases reports.eq_cons_of_error refused with ⟨others, first⟩
    rw [request.faults_ignore, first, List.filter_cons_of_pos (by rw [other]; rfl)] at ignoring
    exact ignoring
  · intro column kind operator refused
    exact request.firstUnknown_of_error config table values refused
  · intro named
    have same := Filter.compileEach_filter_isKnown named
    rw [RowsRequest.compile_result, RowsRequest.compile_result]
    congr 1
    exact (request.statement_of_compileEach_eq (config.withPolicy .ignore) table values same).symm

theorem ignoring_drops_unknown_mixed :
    let rejecting := Config.default.withPolicy .reject
    let ignoring := Config.default.withPolicy .ignore
    let plain := (RowsRequest.new 0 9).setFilter "a" (.text .equals (some "x"))
    let faulty := ((RowsRequest.new 0 9).setFilter "a" (.text .equals none)).setFilter "b"
      (.text (.unknown "fuzzy") (some "y"))
    let mixed := (plain.setFilter "b" (.number (.unknown "near") none none)).setFilter "c"
      (.text (.unknown "fuzzy") none)
    let query : Query :=
      ⟨"SELECT * FROM \"t\" WHERE \"a\" = ? OFFSET ? ROWS FETCH NEXT ? ROWS ONLY",
        [.text "x", .ofInt64 0, .ofInt64 10]⟩
    ((plain.compile rejecting "t" .empty).result = .ok query ∧
        (plain.compile ignoring "t" .empty).result = .ok query) ∧
      ((faulty.compile rejecting "t" .empty).result =
          .error (.missingFilterValue "a" "equals" .value) ∧
        (faulty.compile ignoring "t" .empty).result =
          .error (.missingFilterValue "a" "equals" .value)) ∧
      ((mixed.compile rejecting "t" .empty).result = .error (.unknownOperator "b" "number" "near") ∧
        Filter.FirstUnknown mixed.filters.entries "b" "number" "near") ∧
      ((∀ entry ∈ mixed.filters.entries, entry.2.isKnown = false → entry.1 ≠ "") ∧
        mixed.dropUnknown = plain ∧
        (mixed.compile ignoring "t" .empty).result =
          (plain.compile ignoring "t" .empty).result) := by
  intro rejecting ignoring plain faulty mixed query
  have compiled : (plain.compile rejecting "t" .empty).result = .ok query := by
    cbv
  have missing : (faulty.compile rejecting "t" .empty).result =
      .error (.missingFilterValue "a" "equals" .value) := by
    rw [RowsRequest.compile_result]
    cbv
  have refused : (mixed.compile rejecting "t" .empty).result =
      .error (.unknownOperator "b" "number" "near") := by
    rw [RowsRequest.compile_result]
    cbv
  have named : ∀ entry ∈ mixed.filters.entries, entry.2.isKnown = false → entry.1 ≠ "" := by
    decide
  refine ⟨⟨compiled, ?_⟩, ⟨missing, ?_⟩, ⟨refused, ?_⟩, ⟨named, rfl, ?_⟩⟩
  · exact (ignoring_drops_unknown plain .default "t" .empty).1 _ compiled
  · exact (ignoring_drops_unknown faulty .default "t" .empty).2.1 _ missing rfl
  · exact (ignoring_drops_unknown mixed .default "t" .empty).2.2.1 _ _ _ refused
  · exact (ignoring_drops_unknown mixed .default "t" .empty).2.2.2 named

end RowQuery
