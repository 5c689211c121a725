import Mathlib
import RowQuery.Proofs.Compile.Faults
import RowQuery.Proofs.Sql.Leaves

/-!
# Values of a request and the text of its query

This file compares two requests that differ in their values only: in the opened groups, in
what the filters compare with, and in the window. Both are refused for the same reason, or
both compile to the same text, so nothing about these values can be told from the text.

The two compiles are followed side by side. The checks come to the same faults, because
faults look at the number of values and not at the values. From then on predicates and
statements are compared with their values erased: filters with the same operator become
the same erased predicate, the opened groups restrict the same columns, and no other clause
has values from these sources. A statement's values do not reach its text, so statements
that are equal once their values are erased are rendered alike.
-/

namespace RowQuery

/-- Filters that differ in their values only, with values in the same places. -/
inductive Filter.Alike : Filter → Filter → Prop where
  | text (operator : TextOperator) {value other : Option String}
      (valued : value.isSome = other.isSome) : Alike (.text operator value) (.text operator other)
  | number (operator : NumberOperator) {value upper other otherUpper : Option Number}
      (valued : value.isSome = other.isSome) (bounded : upper.isSome = otherUpper.isSome) :
      Alike (.number operator value upper) (.number operator other otherUpper)
  | set {values others : OrderedSet} (sized : values.size = others.size) :
      Alike (.set values) (.set others)

/-- Requests that differ in their values only, with as many values in the same places. -/
structure RowsRequest.Alike (first second : RowsRequest) : Prop where
  rowGroups_eq : first.rowGroups = second.rowGroups
  valueColumns_eq : first.valueColumns = second.valueColumns
  pivotColumns_eq : first.pivotColumns = second.pivotColumns
  pivotMode_eq : first.pivotMode = second.pivotMode
  sort_eq : first.sort = second.sort
  groupKeys_length : first.groupKeys.length = second.groupKeys.length
  filters_alike : List.Forall₂ (fun entry other => entry.1 = other.1 ∧ entry.2.Alike other.2)
    first.filters.entries second.filters.entries

/-- The value that stands for any other. -/
def Bind.erase (_ : Bind) : Bind := .text ""

/-- A predicate with its values erased and its names kept. -/
def Predicate.erase (predicate : Predicate) : Predicate := predicate.mapLeaves id Bind.erase

/-- Optional predicates that differ in their values only. -/
def Predicate.SameShape (predicate other : Option Predicate) : Prop :=
  predicate.map erase = other.map erase

theorem Predicate.SameShape.refl (predicate : Option Predicate) : SameShape predicate predicate :=
  rfl

/-- A statement with its values erased and its names kept. -/
def Statement.erase (statement : Statement) : Statement := statement.mapLeaves id Bind.erase

/-- Only the number of values is left once they are erased. -/
theorem Bind.erase_map_text {values others : List String} (sized : values.length = others.length) :
    (values.map Bind.text).map erase = (others.map Bind.text).map erase := by
  have erased (contents : List String) :
      (contents.map Bind.text).map erase = List.replicate contents.length (.text "") := by
    rw [List.map_map]
    exact List.map_const'
  rw [erased, erased, sized]

namespace Filter

variable {policy : OperatorPolicy} {column : String}

theorem requireValue_agree {α : Type} {value other : Option α}
    (valued : value.isSome = other.isSome) (operator : String) (missing : FilterOperand) :
    Agree (fun _ _ => True) (requireValue column operator missing value)
      (requireValue column operator missing other) := by
  cases value with
  | none =>
      cases other with
      | none => exact .refused _
      | some content => cases valued
  | some content =>
      cases other with
      | none => cases valued
      | some otherContent => exact .accepted trivial

/-- An operator makes a predicate of the same shape with any value that there is. -/
theorem compileText_agree (operator : TextOperator) {value other : Option String}
    (valued : value.isSome = other.isSome) :
    Agree Predicate.SameShape (compileText policy column operator value).result
      (compileText policy column operator other).result := by
  cases operator with
  | unknown name =>
      exact Agree.refl Predicate.SameShape.refl (compileUnknown policy column "text" name).result
  | blank => exact .accepted rfl
  | notBlank => exact .accepted rfl
  | _ =>
      simp only [compileText, Traced.result_bind]
      apply (requireValue_agree valued _ _).bind
      intro content otherContent _ _ _
      exact .accepted rfl

/--
Which numbers a filter has does not matter to the shape of its predicate, only which it lacks.
-/
theorem compileNumber_agree (operator : NumberOperator)
    {value upper other otherUpper : Option Number} (valued : value.isSome = other.isSome)
    (bounded : upper.isSome = otherUpper.isSome) :
    Agree Predicate.SameShape (compileNumber policy column operator value upper).result
      (compileNumber policy column operator other otherUpper).result := by
  cases operator with
  | unknown name =>
      exact Agree.refl Predicate.SameShape.refl (compileUnknown policy column "number" name).result
  | inRange =>
      simp only [compileNumber, Traced.result_bind]
      apply (requireValue_agree valued _ _).bind
      intro low otherLow _ _ _
      apply (requireValue_agree bounded _ _).bind
      intro high otherHigh _ _ _
      exact .accepted rfl
  | _ =>
      simp only [compileNumber, Traced.result_bind]
      apply (requireValue_agree valued _ _).bind
      intro number otherNumber _ _ _
      exact .accepted rfl

/-- Filters that are alike become predicates that differ in their values only. -/
theorem compile_agree {first second : Filter} (alike : first.Alike second) :
    Agree Predicate.SameShape (first.compile policy column).result
      (second.compile policy column).result := by
  unfold compile
  split
  · exact .refused _
  · cases alike with
    | text operator valued => exact compileText_agree operator valued
    | number operator valued bounded => exact compileNumber_agree operator valued bounded
    | set sized =>
        apply Agree.accepted
        simp only [Predicate.SameShape, Option.map_some, Predicate.erase, Predicate.mapLeaves,
          Bind.erase_map_text sized]

theorem compileEach_agree {entries others : List (String × Filter)}
    (alike : List.Forall₂ (fun entry other => entry.1 = other.1 ∧ entry.2.Alike other.2)
      entries others) :
    Agree (fun predicates others => predicates.map Predicate.erase = others.map Predicate.erase)
      (compileEach policy entries).result (compileEach policy others).result := by
  induction alike with
  | nil => exact .accepted rfl
  | @cons entry other rest otherRest headAlike _ ih =>
      rcases entry with ⟨column, filter⟩
      rcases other with ⟨otherColumn, otherFilter⟩
      rcases headAlike with ⟨sameColumn, filterAlike⟩
      dsimp only at sameColumn filterAlike
      subst sameColumn
      simp only [compileEach, Traced.result_bind, Traced.result_pure]
      apply (compile_agree filterAlike).bind
      intro predicate otherPredicate _ _ same
      apply ih.bind
      intro predicates otherPredicates _ _ sameRest
      apply Agree.accepted
      rw [Predicate.SameShape] at same
      rw [List.map_append, List.map_append, sameRest, ← Option.toList_map, ← Option.toList_map,
        same]

end Filter

/-- Without their values, the predicates of a drill path tell the opened columns only. -/
theorem DrillPath.predicates_erase (drill : DrillPath) :
    drill.predicates.map Predicate.erase =
      (drill.rowGroups.take drill.depth).map fun column => .equalTo column "" := by
  have columns : (drill.rowGroups.zip drill.groupKeys).map Prod.fst =
      drill.rowGroups.take drill.depth := by
    rw [List.zip_eq_zip_take_min, Nat.min_eq_right drill.length_le, depth,
      List.map_fst_zip (by simp)]
  rw [← columns, predicates, List.map_map, List.map_map]
  rfl

namespace RowsRequest.Alike

variable {first second : RowsRequest}

theorem pivots_eq (alike : first.Alike second) : first.pivots = second.pivots := by
  rw [pivots, pivots, alike.pivotMode_eq, alike.pivotColumns_eq]

/-- Apart from the window, what is wrong with a request does not depend on its values. -/
theorem checkFaults_eq (alike : first.Alike second) (config : Config) (table : String)
    (sameWindow : first.windowFaults config = second.windowFaults config) :
    first.checkFaults config table = second.checkFaults config table := by
  simp only [checkFaults, sameWindow, columnFaults, groupFaults, pivotFaults, alike.pivots_eq,
    alike.rowGroups_eq, alike.valueColumns_eq, alike.pivotColumns_eq, alike.sort_eq,
    alike.groupKeys_length]

end RowsRequest.Alike

namespace Context.Reflects

variable {first second : RowsRequest} {context other : Context} {config : Config} {table : String}
  {values : PivotValues}

variable (reflects : context.Reflects config table first values)
  (otherReflects : other.Reflects config table second values) (alike : first.Alike second)

include reflects otherReflects

theorem source_agree : context.source = other.source := by
  rw [← Option.some_inj, ← reflects.source_eq, otherReflects.source_eq]

include alike

theorem rowGroups_agree : context.drill.rowGroups = other.drill.rowGroups := by
  rw [reflects.rowGroups_eq, otherReflects.rowGroups_eq, alike.rowGroups_eq]

theorem depth_agree : context.drill.depth = other.drill.depth := by
  rw [DrillPath.depth, DrillPath.depth, reflects.groupKeys_eq, otherReflects.groupKeys_eq,
    alike.groupKeys_length]

theorem activeGroups_agree : context.drill.activeGroups = other.drill.activeGroups := by
  rw [DrillPath.activeGroups, DrillPath.activeGroups, reflects.rowGroups_agree otherReflects alike,
    reflects.depth_agree otherReflects alike]

theorem orderItems_agree :
    context.drill.orderItems context.request.sort = other.drill.orderItems other.request.sort := by
  simp only [DrillPath.orderItems, DrillPath.isGrouping, reflects.request_eq,
    otherReflects.request_eq, alike.sort_eq, reflects.rowGroups_agree otherReflects alike,
    reflects.depth_agree otherReflects alike]

/-- What is selected does not depend on these values at all. -/
theorem selectItems_agree : context.selectItems = other.selectItems := by
  rw [reflects.selectItems_eq, otherReflects.selectItems_eq, alike.pivots_eq,
    alike.rowGroups_eq, alike.pivotColumns_eq, alike.valueColumns_eq,
    reflects.activeGroups_agree otherReflects alike]

/-- The conditions of the opened groups differ in their values only. -/
theorem predicates_agree :
    context.drill.predicates.map Predicate.erase = other.drill.predicates.map Predicate.erase := by
  rw [DrillPath.predicates_erase, DrillPath.predicates_erase,
    reflects.rowGroups_agree otherReflects alike, reflects.depth_agree otherReflects alike]

theorem condition_agree :
    Agree Predicate.SameShape context.condition.result other.condition.result := by
  simp only [condition, Traced.result_bind, Traced.result_pure, reflects.policy_eq,
    otherReflects.policy_eq, reflects.request_eq, otherReflects.request_eq]
  apply (Filter.compileEach_agree alike.filters_alike).bind
  intro predicates otherPredicates _ _ same
  apply Agree.accepted
  have joined : (context.drill.predicates ++ predicates).map Predicate.erase =
      (other.drill.predicates ++ otherPredicates).map Predicate.erase := by
    rw [List.map_append, List.map_append, same, reflects.predicates_agree otherReflects alike]
  calc
    _ = Predicate.all? ((context.drill.predicates ++ predicates).map Predicate.erase) :=
      (Predicate.all?_mapLeaves id Bind.erase _).symm
    _ = Predicate.all? ((other.drill.predicates ++ otherPredicates).map Predicate.erase) := by
      rw [joined]
    _ = _ := Predicate.all?_mapLeaves id Bind.erase _

theorem statement_agree :
    Agree (fun statement other => statement.erase = other.erase) context.statement.result
      other.statement.result := by
  unfold Context.statement
  simp only [Traced.result_bind, Traced.result_liftM, Traced.result_pure,
    reflects.selectItems_agree otherReflects alike]
  apply (Agree.refl (fun _ => rfl) other.selectItems).bind
  intro items otherItems _ _ sameItems
  apply (reflects.condition_agree otherReflects alike).bind
  intro condition otherCondition _ _ same
  apply Agree.accepted
  have sameCondition : condition.map (Predicate.mapLeaves id Bind.erase) =
      otherCondition.map (Predicate.mapLeaves id Bind.erase) := same
  simp only [Statement.erase, Statement.mapLeaves, sameItems, sameCondition, Bind.erase,
    reflects.source_agree otherReflects, reflects.activeGroups_agree otherReflects alike,
    reflects.orderItems_agree otherReflects alike]

end Context.Reflects

/-- Requests that are alike have statements that differ in their values only. -/
theorem RowsRequest.Alike.statement_agree {first second : RowsRequest} (alike : first.Alike second)
    (config : Config) (table : String) (values : PivotValues)
    (sameWindow : first.windowFaults config = second.windowFaults config) :
    Agree (fun statement other => statement.erase = other.erase)
      (first.statement config table values) (second.statement config table values) := by
  rw [statement, statement, Traced.result_bind, Traced.result_bind]
  have reports := Context.resolve_reports config first table values
  have otherReports := Context.resolve_reports config second table values
  rw [alike.checkFaults_eq config table sameWindow] at reports
  apply (reports.agree otherReports).bind
  intro context other resolved otherResolved _
  exact (Context.resolve_ok resolved).statement_agree (Context.resolve_ok otherResolved) alike

/-- Statements that differ in their values only have the same text and as many values. -/
theorem Statement.render_of_erase_eq {statement other : Statement}
    (same : statement.erase = other.erase) (dialect : Dialect) :
    (statement.render dialect).sql = (other.render dialect).sql ∧
      (statement.render dialect).binds.length = (other.render dialect).binds.length := by
  have rendered := congrArg (fun erased => erased.render dialect) same
  rw [erase, erase, render_revalue, render_revalue, Query.mk.injEq] at rendered
  rcases rendered with ⟨sameText, sameBinds⟩
  refine ⟨sameText, ?_⟩
  simpa using congrArg List.length sameBinds

/--
Two requests with accepted windows that differ in their values only are refused with the
same error, or compile to the same text with as many values.
-/
theorem text_independent_of_values (first second : RowsRequest) (config : Config) (table : String)
    (values : PivotValues) (alike : first.Alike second)
    (accepted : first.windowFaults config = []) (otherAccepted : second.windowFaults config = []) :
    Agree (fun query other => query.sql = other.sql ∧ query.binds.length = other.binds.length)
      (first.compile config table values).result (second.compile config table values).result := by
  rw [RowsRequest.compile_result, RowsRequest.compile_result]
  apply (alike.statement_agree config table values (accepted.trans otherAccepted.symm)).map
  intro statement other same
  exact Statement.render_of_erase_eq same config.dialect

theorem text_independent_of_values_hostile :
    ∃ query other,
      (RowsRequest.compile ⟨0, 9, [.ofField "g" none], [.ofField "v" (some "sum")], [], false,
        ["k"], (OrderedMap.empty.insert "t" (.text .equals (some "x"))).insert "n"
          (.number .inRange (some (.integer 1)) (some (.integer 2))), []⟩
        .default "t" .empty).result = .ok query ∧
      (RowsRequest.compile ⟨30, 34, [.ofField "g" none], [.ofField "v" (some "sum")], [], false,
        ["\" OR \"1\" = ?"], (OrderedMap.empty.insert "t" (.text .equals (some ""))).insert "n"
          (.number .inRange (some (.integer 7)) (some (.integer 7))), []⟩
        .default "t" .empty).result = .ok other ∧
      query.sql = other.sql ∧ query.binds.length = other.binds.length := by
  have alike : RowsRequest.Alike
      ⟨0, 9, [.ofField "g" none], [.ofField "v" (some "sum")], [], false,
        ["k"], (OrderedMap.empty.insert "t" (.text .equals (some "x"))).insert "n"
          (.number .inRange (some (.integer 1)) (some (.integer 2))), []⟩
      ⟨30, 34, [.ofField "g" none], [.ofField "v" (some "sum")], [], false,
        ["\" OR \"1\" = ?"], (OrderedMap.empty.insert "t" (.text .equals (some ""))).insert "n"
          (.number .inRange (some (.integer 7)) (some (.integer 7))), []⟩ :=
    ⟨rfl, rfl, rfl, rfl, rfl, rfl,
      .cons ⟨rfl, .text .equals rfl⟩ (.cons ⟨rfl, .number .inRange rfl rfl⟩ .nil)⟩
  have agree := text_independent_of_values _ _ .default "t" .empty alike (by decide) (by decide)
  have compiled : (RowsRequest.compile ⟨0, 9, [.ofField "g" none], [.ofField "v" (some "sum")],
      [], false, ["k"], (OrderedMap.empty.insert "t" (.text .equals (some "x"))).insert "n"
        (.number .inRange (some (.integer 1)) (some (.integer 2))), []⟩
      .default "t" .empty).result = .ok
      ⟨"SELECT \"g\",sum(\"v\") AS \"v\" FROM \"t\" WHERE (\"g\" = ? AND \"t\" = ? AND" ++
        " \"n\" BETWEEN ? AND ?) GROUP BY \"g\" OFFSET ? ROWS FETCH NEXT ? ROWS ONLY",
        [.text "k", .text "x", .number (.integer 1), .number (.integer 2),
          .number (.integer 0), .number (.integer 10)]⟩ := by
    cbv
  rw [compiled] at agree ⊢
  generalize (RowsRequest.compile _ _ _ _).result = outcome at agree ⊢
  cases agree with
  | accepted similar => exact ⟨_, _, rfl, rfl, similar⟩

end RowQuery
