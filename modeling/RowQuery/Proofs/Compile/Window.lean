import Mathlib
import RowQuery.Page.Basic
import RowQuery.Proofs.Compile.Faults

/-!
# The arithmetic of windows

This file shows that the arithmetic on row numbers is exact, up to the largest of them. A
window passes its checks if it does so in unbounded integers; the size of the page is then the
number of rows from the first to the last, wherever it is worked out; and the end of the result
is told from it without an overflow.

Row numbers are signed words and the size of a page is compared as an unsigned one. In a window
that is in order no step between the two wraps around. That the size is a row number again, as
the value of the query needs it, is due to the limit of the configuration.
-/

namespace RowQuery

theorem toInt_ofIntClamp {number : Int} (low : Int64.minValue.toInt ≤ number)
    (high : number ≤ Int64.maxValue.toInt) : (Int64.ofIntClamp number).toInt = number := by
  rw [Int64.ofIntClamp, dif_pos low, dif_pos high, Int64.toInt_ofIntLE]

/-- Whether an error is about the window of a request. -/
def CompileError.isAboutWindow : CompileError → Bool
  | .invalidWindow _ _ => true
  | .pageTooLarge _ _ => true
  | _ => false

namespace RowsRequest

/-- The number of rows from the first of a window to the last, which may be less than one. -/
def windowSize (request : RowsRequest) : Int :=
  request.endRow.toInt - request.startRow.toInt + 1

/-- A window that is in order, of a size within the limit. -/
structure InBounds (config : Config) (request : RowsRequest) : Prop where
  started : 0 ≤ request.startRow.toInt
  ordered : request.startRow.toInt ≤ request.endRow.toInt
  within : request.windowSize ≤ config.maxPageSize.toNat

/-- The words that the size of a window goes through when it is checked are all exact. -/
structure SizeFitsWords (request : RowsRequest) : Prop where
  /-- The difference of two row numbers, as a signed word. -/
  distance_eq : (request.endRow - request.startRow).toInt =
    request.endRow.toInt - request.startRow.toInt
  /-- The same, as an unsigned word. -/
  unsigned_eq : ((request.endRow - request.startRow).toUInt64.toNat : Int) =
    request.endRow.toInt - request.startRow.toInt
  size_eq : (((request.endRow - request.startRow).toUInt64 + 1).toNat : Int) = request.windowSize

theorem windowFaults_eq_nil (config : Config) (request : RowsRequest) :
    request.windowFaults config = [] ↔ request.InBounds config := by
  rw [windowFaults, List.append_eq_nil_iff, faultIf_eq_nil, faultIf_eq_nil]
  constructor
  · rintro ⟨inOrder, within⟩
    refine ⟨?_, ?_, ?_⟩
    · omega
    · omega
    · exact Int.not_lt.mp within
  · rintro ⟨started, ordered, within⟩
    refine ⟨?_, ?_⟩
    · omega
    · exact Int.not_lt.mpr within

/-- Only the check of the window is about the window. -/
theorem mem_windowFaults_of_isAboutWindow {config : Config} {table : String}
    {request : RowsRequest} {error : CompileError}
    (errorMem : error ∈ request.checkFaults config table) (about : error.isAboutWindow = true) :
    error ∈ request.windowFaults config := by
  simp only [checkFaults, columnFaults, groupFaults, pivotFaults, List.mem_append, mem_faultIf]
    at errorMem
  rcases errorMem with
    (((windowed | ⟨_, rfl⟩) | ⟨_, rfl⟩ | ⟨_, rfl⟩) | ⟨_, rfl⟩ | ⟨_, rfl⟩) | ⟨_, rfl⟩
  · exact windowed
  all_goals cases about

theorem isAboutWindow_of_mem_windowFaults {config : Config} {request : RowsRequest}
    {error : CompileError} (errorMem : error ∈ request.windowFaults config) :
    error.isAboutWindow = true := by
  simp only [windowFaults, List.mem_append, mem_faultIf] at errorMem
  rcases errorMem with ⟨_, rfl⟩ | ⟨_, rfl⟩
  · rfl
  · rfl

/--
A request is refused for its window exactly if the window is out of bounds. The window is checked
first, so its first fault is the one that is reported.
-/
theorem window_refused_iff (config : Config) (table : String) (request : RowsRequest)
    (values : PivotValues) :
    (∃ error, (Context.resolve config table request values).result = .error error ∧
      error.isAboutWindow = true) ↔ ¬request.InBounds config := by
  have reports := Context.resolve_reports config request table values
  rw [← windowFaults_eq_nil]
  constructor
  · rintro ⟨error, refused, about⟩ faultless
    rcases reports.eq_cons_of_error refused with ⟨others, faults_eq⟩
    have errorMem : error ∈ request.checkFaults config table := by
      rw [faults_eq]
      exact List.mem_cons_self
    have windowed := mem_windowFaults_of_isAboutWindow errorMem about
    rw [faultless] at windowed
    cases windowed
  · intro faulty
    rcases List.exists_cons_of_ne_nil faulty with ⟨error, others, windowed⟩
    rw [checkFaults, windowed] at reports
    have errorMem : error ∈ request.windowFaults config := by
      rw [windowed]
      exact List.mem_cons_self
    exact ⟨error, reports, isAboutWindow_of_mem_windowFaults errorMem⟩

theorem sizeFitsWords {request : RowsRequest} (started : 0 ≤ request.startRow.toInt)
    (ordered : request.startRow.toInt ≤ request.endRow.toInt) : request.SizeFitsWords := by
  have wordStarted : 0 ≤ request.startRow := Int64.le_iff_toInt_le.mpr started
  have wordOrdered := Int64.le_iff_toInt_le.mpr ordered
  have distance := Int64.toInt_sub_of_le _ _ wordStarted wordOrdered
  refine ⟨distance, ?_, Context.windowSize_toNat wordStarted wordOrdered⟩
  rw [Int64.toNat_toUInt64_of_le (Int64.sub_nonneg_of_le wordStarted wordOrdered),
    ← Int64.toNat_toInt, distance]
  omega

/-- Within the limit of a valid configuration the size of a window is a row number. -/
theorem InBounds.toInt_pageSize {text : String} {config : Config} {request : RowsRequest}
    (inBounds : request.InBounds config) (accepted : Config.parse text = .ok config) :
    request.pageSize.toInt = request.windowSize := by
  rcases inBounds with ⟨started, ordered, within⟩
  have limit : config.maxPageSize.toNat ≤ Config.pageSizeLimit := Config.maxPageSize_le accepted
  have largest : (Config.pageSizeLimit : Int) = Int64.maxValue.toInt := rfl
  have least := Int64.toInt_minValue
  rw [windowSize] at within
  have distance : (Int64.ofIntClamp (request.endRow.toInt - request.startRow.toInt)).toInt =
      request.endRow.toInt - request.startRow.toInt := by
    apply toInt_ofIntClamp
    · omega
    · omega
  rw [pageSize, distance, windowSize]
  apply toInt_ofIntClamp
  · omega
  · omega

/-- The query of a request fetches as many rows as the window has. -/
theorem fetch_of_statement {text : String} {config : Config} {table : String}
    {request : RowsRequest} {values : PivotValues} {statement : Statement}
    (accepted : Config.parse text = .ok config)
    (stated : request.statement config table values = .ok statement) :
    statement.fetch = .number (.integer request.windowSize) := by
  rcases statement_ok stated with ⟨context, _, _, reflects, _, _, equal⟩
  rw [equal, windowSize, ← reflects.pageSize_toInt accepted]
  rfl

end RowsRequest

/--
Windows are checked and sized as in unbounded integers. Of a page that was asked for, the end of
the result is told exactly if it was not filled up.
-/
theorem window_exact (text : String) (config : Config) (request : RowsRequest)
    (accepted : Config.parse text = .ok config) :
    (∀ table values,
      (∀ error, (Context.resolve config table request values).result = .error error →
        error.isAboutWindow = false) ↔ request.InBounds config) ∧
    (0 ≤ request.startRow.toInt → request.startRow.toInt ≤ request.endRow.toInt →
      request.SizeFitsWords) ∧
    (request.InBounds config →
      request.pageSize.toInt = request.windowSize ∧
      1 ≤ request.windowSize ∧ request.windowSize ≤ config.maxPageSize.toNat ∧
      (∀ table values statement, request.statement config table values = .ok statement →
        statement.fetch = .number (.integer request.windowSize)) ∧
      ∀ returned : Nat,
        (returned < request.windowSize →
          (lastRow request.startRow request.endRow returned).toInt =
            request.startRow.toInt + returned) ∧
        (request.windowSize ≤ returned →
          lastRow request.startRow request.endRow returned = -1)) := by
  refine ⟨?_, RowsRequest.sizeFitsWords, ?_⟩
  · intro table values
    have refused := request.window_refused_iff config table values
    constructor
    · intro unrefused
      by_contra outOfBounds
      rcases refused.mpr outOfBounds with ⟨error, failed, about⟩
      rw [unrefused error failed] at about
      cases about
    · intro inBounds error failed
      rw [← Bool.not_eq_true]
      intro about
      exact refused.mp ⟨error, failed, about⟩ inBounds
  · intro inBounds
    have size_eq := inBounds.toInt_pageSize accepted
    rcases inBounds with ⟨started, ordered, within⟩
    refine ⟨size_eq, ?_, within, ?_, ?_⟩
    · rw [RowsRequest.windowSize]
      omega
    · intro table values statement stated
      exact RowsRequest.fetch_of_statement accepted stated
    · intro returned
      rw [RowsRequest.windowSize]
      refine ⟨?_, ?_⟩
      · intro short
        exact toInt_lastRow started (by omega)
      · intro full
        exact lastRow_eq_unknown (by omega)

theorem window_exact_largestPage :
    let config := { Config.default with maxPageSize := 9223372036854775807 }
    let request := RowsRequest.new 0 9223372036854775806
    Config.parse "\x7b\"max_page_size\":9223372036854775807\x7d" = .ok config ∧
      request.InBounds config ∧ request.SizeFitsWords ∧
      request.pageSize.toInt = 9223372036854775807 ∧
      (lastRow 0 9223372036854775806 9223372036854775806).toInt = 9223372036854775806 ∧
      lastRow 0 9223372036854775806 9223372036854775807 = -1 := by
  intro config request
  have accepted : Config.parse "\x7b\"max_page_size\":9223372036854775807\x7d" = .ok config := by
    cbv
  have inBounds : request.InBounds config := ⟨by decide, by decide, by decide⟩
  rcases window_exact _ config request accepted with ⟨_, fits, exact⟩
  rcases exact inBounds with ⟨size_eq, _, _, _, told⟩
  refine ⟨accepted, inBounds, fits inBounds.started inBounds.ordered, size_eq.trans ?_, ?_, ?_⟩
  · decide
  · exact ((told 9223372036854775806).1 (by decide)).trans (by decide)
  · exact (told 9223372036854775807).2 (by decide)

end RowQuery
