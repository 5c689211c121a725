import RowQuery.Page.Shape
import RowQuery.Proofs.Compile.Resolved

/-!
# Which pivot values are looked at

The values of pivot columns are supplied as a map, which may have more entries than a request
asks for. This file compares two such maps. As long as they supply the same values for the columns
that a request pivots by, it makes no difference which of them is used, neither to what comes out
nor to what is logged: the axes are found by looking up one column after the other, and nothing
else ever sees the map. A missing entry is looked up as an empty one.

With pivoting switched off, the map is not looked at, and the pivot columns are not either. They
stay part of the checked request, but no clause of its statement reads them.
-/

namespace RowQuery

/-- Two maps supply the same values for some columns, where a missing entry supplies none. -/
def PivotValues.AgreeOn (columns : List ColumnSpec) (values others : PivotValues) : Prop :=
  ∀ column ∈ columns, (values.get? column.field).getD [] = (others.get? column.field).getD []

/-- A request that would pivot by other columns. -/
def RowsRequest.withPivotColumns (request : RowsRequest) (columns : List ColumnSpec) :
    RowsRequest :=
  { request with pivotColumns := columns }

/-- What is known about a request that would pivot by other columns. -/
def Context.withPivotColumns (context : Context) (columns : List ColumnSpec) : Context :=
  { context with request := context.request.withPivotColumns columns }

/-- Work in sequence goes on with what came out of its first part, and with nothing else. -/
theorem Traced.bind_congr {ε α β : Type} {first : Traced ε α} {next other : α → Traced ε β}
    (same : ∀ value, first.result = .ok value → next value = other value) :
    first >>= next = first >>= other := by
  rcases first with ⟨records, result⟩
  cases result with
  | error error => rfl
  | ok value => rw [bind_ok, bind_ok, same value rfl]

section Agreeing

variable {columns : List ColumnSpec} {values others : PivotValues}

theorem Axis.resolve_congr {column : ColumnSpec}
    (same : (values.get? column.field).getD [] = (others.get? column.field).getD []) :
    resolve values column = resolve others column := by
  rw [resolve, resolve, same]

/-- The axes are the same, and so are the warnings about columns without values. -/
theorem Expansion.resolve_congr (agree : PivotValues.AgreeOn columns values others) :
    resolve columns values = resolve columns others := by
  have axes : columns.mapM (Axis.resolve values) = columns.mapM (Axis.resolve others) := by
    induction columns with
    | nil => rfl
    | cons first rest ih =>
        have here := agree first List.mem_cons_self
        have behind := ih fun column columnMem =>
          agree column (List.mem_cons_of_mem first columnMem)
        rw [List.mapM_cons, List.mapM_cons, Axis.resolve_congr here, behind]
  rw [resolve, resolve, axes]

end Agreeing

namespace RowsRequest

variable {request : RowsRequest} {values others : PivotValues}

section Agreeing

variable (agree : PivotValues.AgreeOn request.pivotColumns values others)

include agree

theorem resolve_congr (config : Config) (table : String) :
    Context.resolve config table request values = Context.resolve config table request others := by
  have pivot : Context.resolvePivot request values = Context.resolvePivot request others := by
    rw [Context.resolvePivot, Context.resolvePivot, Expansion.resolve_congr agree]
  rw [Context.resolve, Context.resolve, pivot]

/-- A compile and its log depend only on the values of the pivot columns. -/
theorem compile_congr (config : Config) (table : String) :
    request.compile config table values = request.compile config table others := by
  rw [compile, compile, compileContext, compileContext, resolve_congr agree]

/-- An explanation and its log depend only on the values of the pivot columns. -/
theorem explain_congr (config : Config) (table : String) :
    request.explain config table values = request.explain config table others := by
  rw [explain, explain, compileContext, compileContext, resolve_congr agree]

/-- A page and its log depend only on the values of the pivot columns. -/
theorem shape_congr (config : Config) (rows : List Row) (query : Option Query) :
    request.shape config rows values query = request.shape config rows others query := by
  have columns : request.secondaryColumns values = request.secondaryColumns others := by
    rw [secondaryColumns, secondaryColumns, Expansion.resolve_congr agree]
  rw [shape, shape, columns]

end Agreeing

end RowsRequest

/-- Without axes a statement does not read the pivot columns. -/
theorem Context.statement_withPivotColumns {context : Context} (unpivoted : context.pivot = none)
    (columns : List ColumnSpec) :
    (context.withPivotColumns columns).statement = context.statement := by
  have items : (context.withPivotColumns columns).selectItems = context.selectItems := by
    rw [selectItems, selectItems, withPivotColumns, unpivoted]
    rfl
  rw [statement, statement, items]
  rfl

namespace RowsRequest

section Unpivoted

variable {request : RowsRequest} (unpivoted : request.pivotMode = false)
  (values others : PivotValues) (columns : List ColumnSpec)

include unpivoted

/-- The checks find out the same things about a request, whatever it would pivot by. -/
theorem resolve_withPivotColumns (config : Config) (table : String) :
    Context.resolve config table (request.withPivotColumns columns) others =
      (·.withPivotColumns columns) <$> Context.resolve config table request values := by
  have noPivot : Context.resolvePivot request values = pure none := by
    rw [Context.resolvePivot, pivots, unpivoted]
    rfl
  have otherNoPivot :
      Context.resolvePivot (request.withPivotColumns columns) others = pure none := by
    have otherUnpivoted : (request.withPivotColumns columns).pivotMode = false := unpivoted
    rw [Context.resolvePivot, pivots, otherUnpivoted]
    rfl
  rw [Context.resolve, Context.resolve, noPivot, otherNoPivot]
  simp only [map_bind, pure_bind, map_pure]
  rfl

theorem compileContext_withPivotColumns (config : Config) (table : String) :
    (request.withPivotColumns columns).compileContext config table others =
      (fun found => (found.1.withPivotColumns columns, found.2)) <$>
        request.compileContext config table values := by
  rw [compileContext, compileContext, resolve_withPivotColumns unpivoted values, bind_map_left,
    map_bind]
  apply Traced.bind_congr
  intro context resolved
  have noAxes : context.pivot = none := by
    rw [(Context.resolve_ok resolved).pivot_eq, pivots, unpivoted]
    rfl
  rw [Context.statement_withPivotColumns noAxes]
  simp only [map_bind, map_pure]

theorem compile_withPivotColumns (config : Config) (table : String) :
    (request.withPivotColumns columns).compile config table others =
      request.compile config table values := by
  rw [compile, compile, compileContext_withPivotColumns unpivoted values, bind_map_left]
  rfl

theorem explain_withPivotColumns (config : Config) (table : String) :
    (request.withPivotColumns columns).explain config table others =
      request.explain config table values := by
  rw [explain, explain, compileContext_withPivotColumns unpivoted values, bind_map_left]
  rfl

theorem shape_withPivotColumns (config : Config) (rows : List Row) (query : Option Query) :
    (request.withPivotColumns columns).shape config rows others query =
      request.shape config rows values query := by
  have added : (request.withPivotColumns columns).secondaryColumns others =
      request.secondaryColumns values := by
    have otherUnpivoted : (request.withPivotColumns columns).pivotMode = false := unpivoted
    rw [secondaryColumns, secondaryColumns, unpivoted, otherUnpivoted]
    rfl
  rw [shape, shape, added]
  rfl

end Unpivoted

end RowsRequest

/--
Compiling, explaining and shaping come to the same and log the same with two maps that supply the
same values for the pivot columns of a request. If pivoting is switched off, they also do with any
other map and any other pivot columns.
-/
theorem only_asked_values_matter (request : RowsRequest) (config : Config) (table : String)
    (values others : PivotValues) (rows : List Row) (query : Option Query) :
    (PivotValues.AgreeOn request.pivotColumns values others →
      request.compile config table values = request.compile config table others ∧
        request.explain config table values = request.explain config table others ∧
        request.shape config rows values query = request.shape config rows others query) ∧
    (request.pivotMode = false → ∀ columns : List ColumnSpec,
      (request.withPivotColumns columns).compile config table others =
          request.compile config table values ∧
        (request.withPivotColumns columns).explain config table others =
          request.explain config table values ∧
        (request.withPivotColumns columns).shape config rows others query =
          request.shape config rows values query) := by
  refine ⟨?_, ?_⟩
  · intro agree
    exact ⟨RowsRequest.compile_congr agree config table,
      RowsRequest.explain_congr agree config table,
      RowsRequest.shape_congr agree config rows query⟩
  · intro unpivoted columns
    exact ⟨RowsRequest.compile_withPivotColumns unpivoted values others columns config table,
      RowsRequest.explain_withPivotColumns unpivoted values others columns config table,
      RowsRequest.shape_withPivotColumns unpivoted values others columns config rows query⟩

/-- Maps in another order, with a further entry and an empty one, and a column without a name. -/
theorem only_asked_values_matter_reordered :
    let request : RowsRequest := ⟨0, 9, [.ofField "g" none], [.ofField "v" (some "sum")],
      [.ofField "p" none, .ofField "q" none, .ofField "p" none], true, [], .empty, []⟩
    let values : PivotValues := (OrderedMap.empty.insert "q" []).insert "p" ["x", "y"]
    let others : PivotValues := (OrderedMap.empty.insert "p" ["x", "y"]).insert "r" ["z"]
    (PivotValues.AgreeOn request.pivotColumns values others ∧
      request.compile .default "t" values = request.compile .default "t" others ∧
      request.explain .default "t" values = request.explain .default "t" others ∧
      request.shape .default [] values none = request.shape .default [] others none) ∧
    (RowsRequest.new 0 9).pivotMode = false ∧
      ((RowsRequest.new 0 9).withPivotColumns [.ofField "" none]).compile .default "t" others =
        (RowsRequest.new 0 9).compile .default "t" values := by
  intro request values others
  have agree : PivotValues.AgreeOn request.pivotColumns values others := by
    rw [PivotValues.AgreeOn]
    decide
  refine ⟨⟨agree, (only_asked_values_matter request .default "t" values others [] none).1 agree⟩,
    rfl, ?_⟩
  exact ((only_asked_values_matter (RowsRequest.new 0 9) .default "t" values others [] none).2
    rfl [.ofField "" none]).1

end RowQuery
