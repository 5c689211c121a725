import RowQuery.Proofs.Compile.PivotColumns
import RowQuery.Proofs.Sql.Parts

/-!
# Paging through a result

This file shows that a grid which asks for one window of rows after the other gets each row of
the result once and in order, and learns where the result ends from the first page that
reaches it.

The database is a parameter. All that is known about it is that it takes the last two values
of a query for the number of rows to skip and the number of rows to return. The size of a page
that the compiler sends as the second of them counts both ends of the window, and the shaper
tells from the same window whether the page was filled up; the proof is that the two agree.
What a page shows is stated as `RowsPage.Shows`, from which a page before the end and the page
at the end are worked out in turn, and a run of pages follows by induction.
-/

namespace RowQuery

/-- Windows without gaps between them, the first of them from a position on. -/
def Consecutive : Int → List RowsRequest → Prop
  | _, [] => True
  | start, request :: rest =>
      request.startRow.toInt = start ∧ Consecutive (request.endRow.toInt + 1) rest

/-- The database answers a query with the part of the rows that its last two values ask for. -/
def Serves (database : Query → List Row) (rows : List Row) (query : Query) : Prop :=
  ∀ (others : List Bind) (offset fetch : Nat),
    query.binds = others ++ [.number (.integer offset), .number (.integer fetch)] →
      database query = (rows.drop offset).take fetch

/-- The page of a request, with the rows that a database has for its query. -/
def RowsRequest.page (request : RowsRequest) (config : Config) (table : String)
    (values : PivotValues) (database : Query → List Row) : Traced CompileError RowsPage := do
  let query ← request.compile config table values
  request.shape config (database query) values (some query)

/-- A page shows the rows of a request's window, and tells the end from their number. -/
structure RowsPage.Shows (page : RowsPage) (request : RowsRequest) (rows : List Row) : Prop where
  started : 0 ≤ request.startRow.toInt
  ordered : request.startRow.toInt ≤ request.endRow.toInt
  rows_eq : page.rows = (rows.drop request.startRow.toInt.toNat).take
    (request.endRow.toInt - request.startRow.toInt + 1).toNat
  lastRow_eq : page.lastRow = RowQuery.lastRow request.startRow request.endRow page.rows.length

namespace RowsPage.Shows

variable {page : RowsPage} {request : RowsRequest} {rows : List Row}

/-- Before the end a page is filled up, so that the next one goes on where it stops. -/
theorem unfinished (shown : page.Shows request rows)
    (short : request.endRow.toInt < rows.length) :
    page.lastRow = -1 ∧
      page.rows ++ rows.drop (request.endRow.toInt + 1).toNat =
        rows.drop request.startRow.toInt.toNat := by
  rcases shown with ⟨started, ordered, rows_eq, lastRow_eq⟩
  have full : (page.rows.length : Int) = request.endRow.toInt - request.startRow.toInt + 1 := by
    rw [rows_eq, List.length_take, List.length_drop]
    omega
  refine ⟨?_, ?_⟩
  · rw [lastRow_eq]
    apply lastRow_eq_unknown
    omega
  · have next : (request.endRow.toInt + 1).toNat = request.startRow.toInt.toNat +
        (request.endRow.toInt - request.startRow.toInt + 1).toNat := by
      omega
    rw [rows_eq, next, ← List.drop_drop, List.take_append_drop]

/-- The page that reaches the end has all the rows that are left, and counts them. -/
theorem finished (shown : page.Shows request rows)
    (reached : request.startRow.toInt ≤ rows.length)
    (covered : rows.length ≤ request.endRow.toInt) :
    page.lastRow.toInt = rows.length ∧ page.rows = rows.drop request.startRow.toInt.toNat := by
  rcases shown with ⟨started, ordered, rows_eq, lastRow_eq⟩
  have remaining : page.rows = rows.drop request.startRow.toInt.toNat := by
    rw [rows_eq]
    apply List.take_of_length_le
    rw [List.length_drop]
    omega
  have counted : request.startRow.toInt + page.rows.length = rows.length := by
    rw [remaining, List.length_drop]
    omega
  refine ⟨?_, remaining⟩
  rw [lastRow_eq, toInt_lastRow started (by omega), counted]

end RowsPage.Shows

section Paging

variable {text : String} {config : Config} {table : String} {values : PivotValues}
  {database : Query → List Row} {rows : List Row}

/-- The query of a compiled request asks for the rows of its window. -/
theorem Serves.window_eq {request : RowsRequest} {statement : Statement}
    (accepted : Config.parse text = .ok config)
    (stated : request.statement config table values = .ok statement)
    (served : Serves database rows (statement.render config.dialect)) :
    0 ≤ request.startRow.toInt ∧ request.startRow.toInt ≤ request.endRow.toInt ∧
      database (statement.render config.dialect) =
        (rows.drop request.startRow.toInt.toNat).take
          (request.endRow.toInt - request.startRow.toInt + 1).toNat := by
  rcases RowsRequest.statement_ok stated with ⟨context, _, _, reflects, _, _, equal⟩
  have started : 0 ≤ request.startRow.toInt := Int64.le_iff_toInt_le.mp reflects.started
  have ordered := Int64.le_iff_toInt_le.mp reflects.ordered
  have offset_eq : statement.offset =
      .number (.integer (request.startRow.toInt.toNat : Int)) := by
    rw [Int.toNat_of_nonneg started, equal]
    rfl
  have fetch_eq : statement.fetch =
      .number (.integer ((request.endRow.toInt - request.startRow.toInt + 1).toNat : Int)) := by
    rw [Int.toNat_of_nonneg (by omega), ← reflects.pageSize_toInt accepted, equal]
    rfl
  have binds := statement.render_binds config.dialect
  rw [offset_eq, fetch_eq] at binds
  exact ⟨started, ordered, served _ _ _ binds⟩

/-- A request that compiles gets a page, which shows its window. -/
theorem RowsRequest.page_shows {request : RowsRequest} {query : Query}
    (accepted : Config.parse text = .ok config)
    (compiled : (request.compile config table values).result = .ok query)
    (served : Serves database rows query) :
    ∃ page, (request.page config table values database).result = .ok page ∧
      page.Shows request rows := by
  rcases CompilesTo.of_compile compiled with ⟨statement, ⟨stated, _⟩, rfl⟩
  rcases secondaryColumns_of_statement stated with ⟨columns, added⟩
  rcases served.window_eq accepted stated with ⟨started, ordered, window⟩
  rw [RowsRequest.page, Traced.result_bind, compiled]
  refine ⟨_, (shape_result ..).trans (congrArg _ added), ?_⟩
  exact ⟨started, ordered, window, rfl⟩

/--
The pages before the end have the rows up to where the next page goes on. What a page leaves of the
rows is what the pages behind it start from.
-/
theorem pages_before {start : Int} {before after : List RowsRequest} {last : RowsRequest}
    (consecutive : Consecutive start (before ++ last :: after)) (reached : start ≤ rows.length)
    (shown : ∀ request ∈ before, ∃ page,
      (request.page config table values database).result = .ok page ∧ page.Shows request rows)
    (unfinished : ∀ request ∈ before, request.endRow.toInt < rows.length) :
    last.startRow.toInt ≤ rows.length ∧
      ∃ pages, before.mapM (fun request =>
          (request.page config table values database).result) = .ok pages ∧
        pages.flatMap RowsPage.rows ++ rows.drop last.startRow.toInt.toNat =
          rows.drop start.toNat := by
  induction before generalizing start with
  | nil =>
      rcases consecutive with ⟨rfl, _⟩
      exact ⟨reached, [], rfl, rfl⟩
  | cons request rest ih =>
      rcases consecutive with ⟨rfl, consecutive⟩
      rw [List.forall_mem_cons] at shown unfinished
      rcases shown with ⟨⟨page, answered, pageShown⟩, restShown⟩
      rcases unfinished with ⟨short, restUnfinished⟩
      rcases ih consecutive short restShown restUnfinished with
        ⟨lastReached, pages, answers, continued⟩
      refine ⟨lastReached, page :: pages, ?_, ?_⟩
      · rw [List.mapM_cons, answered, answers]
        rfl
      · rw [List.flatMap_cons, List.append_assoc, continued]
        exact (pageShown.unfinished short).2

end Paging

/--
Paging through a result from its beginning shows each row once, in order, and no page but the
one that reaches the end tells where that is.
-/
theorem pages_show_each_row (text : String) (config : Config) (table : String)
    (values : PivotValues) (requests : List RowsRequest) (database : Query → List Row)
    (rows : List Row) (accepted : Config.parse text = .ok config)
    (consecutive : Consecutive 0 requests)
    (compiled : ∀ request ∈ requests, ∃ query,
      (request.compile config table values).result = .ok query ∧ Serves database rows query) :
    (∀ request ∈ requests, request.endRow.toInt < rows.length → ∃ page,
      (request.page config table values database).result = .ok page ∧
        page.lastRow = -1 ∧ page.isComplete = false) ∧
    ∀ (before after : List RowsRequest) (last : RowsRequest), requests = before ++ last :: after →
      (∀ request ∈ before, request.endRow.toInt < rows.length) →
      rows.length ≤ last.endRow.toInt → ∃ pages page,
        before.mapM (fun request => (request.page config table values database).result) =
            .ok pages ∧
          (last.page config table values database).result = .ok page ∧
          page.lastRow.toInt = rows.length ∧ page.isComplete = true ∧
          (pages ++ [page]).flatMap RowsPage.rows = rows := by
  have shown : ∀ request ∈ requests, ∃ page,
      (request.page config table values database).result = .ok page ∧
        page.Shows request rows := by
    intro request requestMem
    rcases compiled request requestMem with ⟨query, compiled, served⟩
    exact RowsRequest.page_shows accepted compiled served
  refine ⟨?_, ?_⟩
  · intro request requestMem short
    rcases shown request requestMem with ⟨page, answered, pageShown⟩
    have unknown := (pageShown.unfinished short).1
    refine ⟨page, answered, unknown, ?_⟩
    rw [RowsPage.isComplete, unknown]
    rfl
  · rintro before after last rfl unfinished covered
    rw [List.forall_mem_append, List.forall_mem_cons] at shown
    rcases shown with ⟨beforeShown, ⟨page, answered, pageShown⟩, _⟩
    have nonneg : (0 : Int) ≤ rows.length := Int.natCast_nonneg _
    rcases pages_before consecutive nonneg beforeShown unfinished with
      ⟨reached, pages, answers, continued⟩
    rcases pageShown.finished reached covered with ⟨counted, remaining⟩
    refine ⟨pages, page, answers, answered, counted, ?_, ?_⟩
    · rw [RowsPage.isComplete, decide_eq_true_iff]
      intro unknown
      rw [← counted, unknown] at nonneg
      exact absurd nonneg (by decide)
    · rw [List.flatMap_append, List.flatMap_singleton, remaining, continued]
      exact List.drop_zero

/-- The rows that the last two values of a query ask for. -/
def rowsAsked (rows : List Row) (query : Query) : List Row :=
  match query.binds.reverse with
  | .number (.integer fetch) :: .number (.integer offset) :: _ =>
      (rows.drop offset.toNat).take fetch.toNat
  | _ => []

theorem serves_rowsAsked (rows : List Row) (query : Query) :
    Serves (rowsAsked rows) rows query := by
  intro others offset fetch asked
  rw [rowsAsked, asked, List.reverse_append]
  rfl

theorem pages_show_each_row_emptyLastPage :
    let row (content : String) : Row := OrderedMap.empty.insert "i" (.text content)
    let rows := [row "a", row "b", row "c", row "d"]
    let config := { Config.default with dialect := .postgres }
    let answer (request : RowsRequest) :=
      (request.page config "t" .empty (rowsAsked rows)).result
    Config.parse "\x7b\"dialect\":\"postgres\"\x7d" = .ok config ∧
      Consecutive 0 [.new 0 2, .new 3 3, .new 4 5] ∧
      (∃ page, answer (.new 3 3) = .ok page ∧ page.lastRow = -1 ∧ page.isComplete = false) ∧
      ∃ pages page, [RowsRequest.new 0 2, .new 3 3].mapM answer = .ok pages ∧
        answer (.new 4 5) = .ok page ∧ page.lastRow.toInt = 4 ∧ page.isComplete = true ∧
        (pages ++ [page]).flatMap RowsPage.rows = rows := by
  intro row rows config answer
  have accepted : Config.parse "\x7b\"dialect\":\"postgres\"\x7d" = .ok config := by
    cbv
  have consecutive : Consecutive 0 [.new 0 2, .new 3 3, .new 4 5] := ⟨rfl, rfl, rfl, trivial⟩
  have compiled : ∀ request ∈ [RowsRequest.new 0 2, .new 3 3, .new 4 5], ∃ query,
      (request.compile config "t" .empty).result = .ok query ∧
        Serves (rowsAsked rows) rows query := by
    let asking (offset fetch : Int64) : Query :=
      ⟨"SELECT * FROM \"t\" OFFSET $1 ROWS FETCH NEXT $2 ROWS ONLY",
        [.ofInt64 offset, .ofInt64 fetch]⟩
    intro request requestMem
    simp only [List.mem_cons, List.not_mem_nil, or_false] at requestMem
    rcases requestMem with rfl | rfl | rfl
    · exact ⟨asking 0 3, by cbv, serves_rowsAsked rows _⟩
    · exact ⟨asking 3 1, by cbv, serves_rowsAsked rows _⟩
    · exact ⟨asking 4 2, by cbv, serves_rowsAsked rows _⟩
  have paged := pages_show_each_row _ config "t" .empty _ (rowsAsked rows) rows accepted consecutive
    compiled
  refine ⟨accepted, consecutive, ?_, ?_⟩
  · exact paged.1 (.new 3 3) (by simp) (by decide)
  · exact paged.2 [.new 0 2, .new 3 3] [] (.new 4 5) rfl (by decide) (by decide)

end RowQuery
