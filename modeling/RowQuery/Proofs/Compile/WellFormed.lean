import RowQuery.Proofs.Compile.Clauses
import RowQuery.Proofs.Sql.Brackets

/-!
# Compiled statements are well formed

This file shows that nothing reaches a statement unchecked. The names in a statement are those of
the columns of its request, and these are checked in several places: value, sort and group columns
always, pivot columns only where the request pivots, and the column of a filter when the filter is
compiled. What is not checked does not reach the statement.

Conjunctions come about in two places. The condition joins predicates of which none is a
conjunction, and the case of a combination has one equality for each pivot column, of which there
is at least one.
-/

namespace RowQuery

namespace Predicate

@[simp]
theorem names_conj (parts : List Predicate) : (conj parts).names = parts.flatMap names := by
  rw [names, namesOfEach_eq_flatMap]

/-- Joined predicates have the names of all of them. -/
theorem names_joined (predicates : List Predicate) :
    (joined predicates).names = predicates.flatMap names := by
  rcases predicates with _ | ⟨first, _ | ⟨second, others⟩⟩
  · simp [joined]
  · simp [joined]
  · simp [joined]

theorem names_joined? (predicates : List Predicate) :
    (joined? predicates).toList.flatMap names = predicates.flatMap names := by
  cases predicates with
  | nil => rfl
  | cons first others => simp [joined?, names_joined]

theorem names_equalities (pairs : List (String × String)) :
    (equalities pairs).flatMap names = pairs.map Prod.fst := by
  rw [equalities, List.flatMap_map, List.map_eq_flatMap]
  simp only [names]

/-- What is its own only part is no conjunction, since a conjunction is larger than its parts. -/
theorem isConj_of_parts {predicate : Predicate} (single : predicate.parts = [predicate]) :
    predicate.isConj = false := by
  cases predicate with
  | conj inner =>
      have size := congrArg sizeOf single
      simp only [parts, List.cons.sizeOf_spec, conj.sizeOf_spec, List.nil.sizeOf_spec] at size
      omega
  | _ => rfl

section Normal

variable {predicates : List Predicate}
  (single : ∀ predicate ∈ predicates, predicate.parts = [predicate])

include single

/-- What predicates amount to is normal, since none of them is a conjunction. -/
theorem isNormal_of_joined? {predicate : Predicate} (found : joined? predicates = some predicate) :
    predicate.IsNormal := by
  rw [← all?_eq_joined? single] at found
  apply isNormal_of_all? _ found
  intro part partMem
  exact isNormal_of_isConj (isConj_of_parts (single part partMem))

theorem isNormal_joined (filled : predicates ≠ []) : (joined predicates).IsNormal := by
  apply isNormal_of_joined? single
  cases predicates with
  | nil => exact absurd rfl filled
  | cons first others => rfl

end Normal

end Predicate

/-- The predicate of a filter names the column of the filter and no other. -/
theorem Filter.names_predicate? {column : String} {filter : Filter} {predicate : Predicate}
    (found : filter.predicate? column = some predicate) : predicate.names = [column] := by
  unfold predicate? at found
  split at found
  all_goals cases found
  all_goals simp [Predicate.names]

/-- A table has no empty name. -/
theorem Table.named_of_ofQualified? {qualified : String} {source : Table}
    (found : ofQualified? qualified = some source) : "" ∉ source.names := by
  unfold ofQualified? at found
  dsimp only at found
  split at found
  · split at found
    · cases found
    · next filled =>
        cases found
        have named : qualified ≠ "" := by
          rintro rfl
          exact filled rfl
        simpa [names] using named.symm
  · split at found
    · cases found
    · next filled =>
        cases found
        simp only [Bool.or_eq_true, List.isEmpty_iff, not_or] at filled
        simpa [names, eq_comm (a := "")] using filled

/-- An entry of the select list without empty names, and with conjunctions in normal form. -/
structure SelectItem.WellFormed (item : SelectItem) : Prop where
  named : "" ∉ item.names
  normal : ∀ condition ∈ item.expression.conditions, condition.NormalThroughout

theorem exists_of_mem_mapM {α β : Type} {work : α → Option β} {inputs : List α}
    {outcomes : List β} {outcome : β} (found : inputs.mapM work = some outcomes)
    (outcomeMem : outcome ∈ outcomes) : ∃ input ∈ inputs, work input = some outcome := by
  induction inputs generalizing outcomes with
  | nil =>
      cases found
      cases outcomeMem
  | cons first rest ih =>
      simp only [List.mapM_cons, Option.bind_eq_bind, Option.bind_eq_some_iff, Option.pure_def,
        Option.some.injEq] at found
      rcases found with ⟨firstOutcome, firstFound, others, restFound, rfl⟩
      rcases List.mem_cons.mp outcomeMem with rfl | otherMem
      · exact ⟨first, List.mem_cons_self, firstFound⟩
      · rcases ih restFound otherMem with ⟨input, inputMem, inputFound⟩
        exact ⟨input, List.mem_cons_of_mem first inputMem, inputFound⟩

namespace SelectItem

theorem wellFormed_column {column : String} (named : column ≠ "") :
    WellFormed ⟨.column column, none⟩ where
  named := by simpa [names, Expression.names] using named.symm
  normal := by simp [Expression.conditions]

/-- A column that is shown has a name, so that its item is well-formed. -/
theorem wellFormed_shown {column : ColumnSpec} {item : SelectItem} (named : column.field ≠ "")
    (shown : column.shown? = some item) : item.WellFormed := by
  rw [ColumnSpec.shown?] at shown
  split at shown
  · cases shown
    exact wellFormed_column named
  · rw [ColumnSpec.aggregated?, Option.map_map, Option.map_eq_some_iff] at shown
    rcases shown with ⟨function, _, rfl⟩
    exact {
      named := by simpa [names, Expression.names] using named.symm
      normal := by simp [Expression.conditions] }

/--
The item of a point is well-formed: it has names only of columns, and its condition is normal.
-/
theorem wellFormed_pivotedItem {columns point : List String} {field : String}
    (function : Aggregate) (filled : columns ≠ []) (fitting : point.length = columns.length)
    (columnsNamed : "" ∉ columns) (named : field ≠ "") :
    (pivotedItem columns point field function).WellFormed where
  named := by
    have condition_names : (Predicate.joined (Predicate.equalities (columns.zip point))).names =
        columns := by
      rw [Predicate.names_joined, Predicate.names_equalities, List.map_fst_zip fitting.ge]
    simp [names, pivotedItem, Expression.names, condition_names, columnsNamed, named.symm]
  normal := by
    have equalities_ne_nil : Predicate.equalities (columns.zip point) ≠ [] := by
      have paired : (columns.zip point).length = columns.length := by
        rw [List.length_zip, fitting, min_self]
      intro empty
      apply filled
      rw [Predicate.equalities, List.map_eq_nil_iff] at empty
      rw [← List.length_eq_zero_iff, ← paired, empty, List.length_nil]
    simp only [pivotedItem, Expression.conditions, List.append_nil, List.mem_singleton,
      forall_eq]
    apply Predicate.IsNormal.throughout
    exact Predicate.isNormal_joined (fun _ => Predicate.parts_of_mem_equalities) equalities_ne_nil

end SelectItem

namespace RowsRequest

variable {request : RowsRequest} {values : PivotValues} {items : List SelectItem}
  (named : request.Named)

include named

theorem Named.groupFields : "" ∉ request.groupFields := by
  intro fieldMem
  rcases List.mem_map.mp fieldMem with ⟨column, columnMem, unnamed⟩
  exact named.groups column columnMem unnamed

theorem Named.visibleGroups : "" ∉ request.visibleGroups :=
  fun columnMem => named.groupFields (List.mem_of_mem_take columnMem)

theorem Named.wellFormed_visibleGroups :
    ∀ item ∈ request.visibleGroups.map fun column => (⟨.column column, none⟩ : SelectItem),
      item.WellFormed := by
  intro item itemMem
  rcases List.mem_map.mp itemMem with ⟨column, columnMem, rfl⟩
  apply SelectItem.wellFormed_column
  rintro rfl
  exact named.visibleGroups columnMem

/-- The items of all points are well-formed. -/
theorem Named.wellFormed_pivotedItems {lists : List (List String)}
    {aggregates : List (String × Aggregate)} (pivots : request.pivots = true)
    (fitting : lists.length = request.pivotColumns.length)
    (aggregated : request.valueColumns.mapM ColumnSpec.aggregated? = some aggregates) :
    ∀ item ∈ (points lists).flatMap fun point => aggregates.map fun (field, function) =>
        pivotedItem (request.pivotColumns.map ColumnSpec.field) point field function,
      item.WellFormed := by
  intro item itemMem
  rcases List.mem_flatMap.mp itemMem with ⟨point, pointMem, itemMem⟩
  rcases List.mem_map.mp itemMem with ⟨⟨field, function⟩, aggregateMem, rfl⟩
  apply SelectItem.wellFormed_pivotedItem
  · have pivoting : request.pivotMode = true ∧ request.pivotColumns ≠ [] :=
      request.pivots_iff.mp pivots
    simpa using pivoting.2
  · rw [length_of_mem_points pointMem, fitting, List.length_map]
  · intro fieldMem
    rcases List.mem_map.mp fieldMem with ⟨column, columnMem, unnamed⟩
    exact named.pivots pivots column columnMem unnamed
  · rcases exists_of_mem_mapM aggregated aggregateMem with ⟨column, columnMem, found⟩
    rw [ColumnSpec.aggregated?, Option.map_eq_some_iff] at found
    rcases found with ⟨_, _, pair⟩
    cases pair
    exact named.values column columnMem

/-- What a request with named columns selects is well-formed. -/
theorem Named.wellFormed_specifiedItems (found : request.specifiedItems? values = some items) :
    ∀ item ∈ items, item.WellFormed := by
  have groups := named.wellFormed_visibleGroups
  rw [specifiedItems?] at found
  dsimp only at found
  split at found
  · next pivoting =>
      have pivots : request.pivots = true := request.pivots_iff.mpr pivoting
      split at found
      · cases found
        intro item itemMem
        rcases List.mem_map.mp itemMem with ⟨column, columnMem, rfl⟩
        exact SelectItem.wellFormed_column (named.pivots pivots column columnMem)
      · rcases Option.bind_eq_some_iff.mp found with ⟨aggregates, aggregated, equal⟩
        cases equal
        rw [List.forall_mem_append]
        exact ⟨groups, named.wellFormed_pivotedItems pivots (List.length_map _) aggregated⟩
  · rcases Option.bind_eq_some_iff.mp found with ⟨shown, each, equal⟩
    cases equal
    rw [List.forall_mem_append]
    refine ⟨groups, ?_⟩
    intro item itemMem
    rcases exists_of_mem_mapM each itemMem with ⟨column, columnMem, shownAs⟩
    exact SelectItem.wellFormed_shown (named.values column columnMem) shownAs

/-- No predicate of a request with named columns has an empty name. -/
theorem Named.specifiedPredicates :
    "" ∉ request.specifiedPredicates.flatMap Predicate.names := by
  rw [RowsRequest.specifiedPredicates, List.flatMap_append, Predicate.names_equalities,
    List.mem_append, not_or]
  constructor
  · intro columnMem
    rcases List.mem_map.mp columnMem with ⟨⟨column, key⟩, pairMem, rfl⟩
    exact named.groupFields (List.of_mem_zip pairMem).1
  · intro columnMem
    simp only [List.mem_flatMap, List.mem_filterMap] at columnMem
    rcases columnMem with ⟨predicate, ⟨entry, entryMem, found⟩, columnMem⟩
    rw [Filter.names_predicate? found, List.mem_singleton] at columnMem
    exact named.filters entry entryMem columnMem.symm

theorem Named.specifiedOrder : "" ∉ request.specifiedOrder.map OrderItem.column := by
  intro columnMem
  rcases List.mem_map.mp columnMem with ⟨item, itemMem, unnamed⟩
  rcases List.mem_map.mp itemMem with ⟨spec, specMem, rfl⟩
  have specMem : spec ∈ request.sort := by
    split at specMem
    · exact specMem
    · exact (List.mem_filter.mp (List.mem_of_mem_take specMem)).1
  exact named.sorts spec specMem unnamed

/-- The statement of a request with named columns is well-formed. -/
theorem Named.wellFormed_specifiedStatement {table : String} {source : Table}
    (source_eq : Table.ofQualified? table = some source)
    (items_eq : request.specifiedItems? values = some items) :
    (request.specifiedStatement source items).WellFormed where
  named := by
    simp only [Statement.names, specifiedStatement, Predicate.names_joined?, List.mem_append,
      not_or]
    refine ⟨⟨⟨⟨?_, Table.named_of_ofQualified? source_eq⟩, named.specifiedPredicates⟩,
      named.visibleGroups⟩, named.specifiedOrder⟩
    intro nameMem
    rcases List.mem_flatMap.mp nameMem with ⟨item, itemMem, nameMem⟩
    exact (named.wellFormed_specifiedItems items_eq item itemMem).named nameMem
  normal := by
    rw [Statement.predicates, List.forall_mem_append]
    constructor
    · intro condition conditionMem
      rcases List.mem_flatMap.mp conditionMem with ⟨item, itemMem, conditionMem⟩
      exact (named.wellFormed_specifiedItems items_eq item itemMem).normal condition conditionMem
    · intro predicate predicateMem
      apply Predicate.IsNormal.throughout
      apply Predicate.isNormal_of_joined? fun _ => parts_of_mem_specifiedPredicates
      exact Option.mem_toList.mp predicateMem

end RowsRequest

/-- What a request compiles to is well formed, the statement and the text it is rendered to. -/
theorem compiled_wellFormed (request : RowsRequest) (config : Config) (table : String)
    (values : PivotValues) (query : Query)
    (compiled : (request.compile config table values).result = .ok query) :
    ∃ statement, request.CompilesTo config table values statement ∧ statement.WellFormed ∧
      query = statement.render config.dialect ∧ query.WellFormed config.dialect := by
  rcases RowsRequest.CompilesTo.of_compile compiled with ⟨statement, compilesTo, rfl⟩
  have named := RowsRequest.named_of_statement compilesTo.stated
  rcases RowsRequest.eq_specifiedStatement compilesTo.stated with
    ⟨source, items, source_eq, items_eq, rfl⟩
  have wellFormed := named.wellFormed_specifiedStatement source_eq items_eq
  exact ⟨_, compilesTo, wellFormed, rfl, wellFormed.render config.dialect⟩

theorem compiled_wellFormed_pivoted :
    let request : RowsRequest := ⟨0, 9, [.ofField "g" none], [.ofField "v" (some "avg")],
      [.ofField "p" none, .ofField "q" none], true, ["k"],
      OrderedMap.empty.insert "n" (.set .empty), [⟨"g", .ascending⟩]⟩
    let values : PivotValues := (OrderedMap.empty.insert "p" [""]).insert "q" [""]
    ∃ query statement, (request.compile .default "s.t" values).result = .ok query ∧
      request.CompilesTo .default "s.t" values statement ∧ statement.WellFormed ∧
        query.WellFormed .ansi := by
  intro request values
  have compiled : (request.compile .default "s.t" values).result = .ok ⟨"SELECT \"g\"," ++
      "avg(CASE WHEN (\"p\" = ? AND \"q\" = ?) THEN \"v\" ELSE NULL END) AS \"__v\"" ++
      " FROM \"s\".\"t\" WHERE (\"g\" = ? AND \"n\" IN ('')) GROUP BY \"g\"" ++
      " ORDER BY \"g\" ASC OFFSET ? ROWS FETCH NEXT ? ROWS ONLY",
      [.text "", .text "", .text "k", .number (.integer 0), .number (.integer 10)]⟩ := by
    cbv
  rcases compiled_wellFormed request .default "s.t" values _ compiled with
    ⟨statement, compilesTo, wellFormed, _, textWellFormed⟩
  exact ⟨_, statement, compiled, compilesTo, wellFormed, textWellFormed⟩

end RowQuery
