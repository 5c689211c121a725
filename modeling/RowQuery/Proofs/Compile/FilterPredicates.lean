import RowQuery.Proofs.Compile.Outcome

/-!
# What filters stand for

A filter that compiles becomes the predicate that its operator and its values stand for. This
file writes these predicates down in one table, so that what holds of compiled filters can be
read off the table. Whether a filter compiles at all is not said here.
-/

namespace RowQuery

namespace Filter

/-- The predicate of a filter on a column. An operator without a meaning has none. -/
def predicate? (column : String) : Filter → Option Predicate
  | .text .contains (some value) => some (.like column (.text ("%" ++ value ++ "%")) false)
  | .text .notContains (some value) => some (.like column (.text ("%" ++ value ++ "%")) true)
  | .text .startsWith (some value) => some (.like column (.text (value ++ "%")) false)
  | .text .endsWith (some value) => some (.like column (.text ("%" ++ value)) false)
  | .text .equals (some value) => some (.compare column .equal (.text value))
  | .text .notEqual (some value) => some (.compare column .notEqual (.text value))
  | .text .blank _ => some (.isNull column false)
  | .text .notBlank _ => some (.isNull column true)
  | .text _ _ => none
  | .number .equals (some value) _ => some (.compare column .equal (.number value))
  | .number .notEqual (some value) _ => some (.compare column .notEqual (.number value))
  | .number .lessThan (some value) _ => some (.compare column .less (.number value))
  | .number .lessThanOrEqual (some value) _ => some (.compare column .lessOrEqual (.number value))
  | .number .greaterThan (some value) _ => some (.compare column .greater (.number value))
  | .number .greaterThanOrEqual (some value) _ =>
      some (.compare column .greaterOrEqual (.number value))
  | .number .inRange (some low) (some high) => some (.between column (.number low) (.number high))
  | .number _ _ _ => none
  | .set values => some (.inList column (values.values.map .text))

variable {policy : OperatorPolicy} {column : String} {predicate : Option Predicate}

theorem requireValue_ok {α : Type} {operator : String} {missing : FilterOperand}
    {supplied : Option α} {value : α}
    (required : requireValue column operator missing supplied = .ok value) :
    supplied = some value := by
  cases supplied with
  | none => cases required
  | some content =>
      cases required
      rfl

/-- A filter that is passed over has no predicate. -/
theorem compileUnknown_ok {kind operator : String}
    (compiled : (compileUnknown policy column kind operator).result = .ok predicate) :
    predicate = none := by
  cases policy with
  | ignore =>
      cases compiled
      rfl
  | reject => cases compiled

/--
A text filter makes the predicate that its operator asks for: a test for blanks by itself, any other
one with the value, which it needs.
-/
theorem compileText_ok {operator : TextOperator} {value : Option String}
    (compiled : (compileText policy column operator value).result = .ok predicate) :
    predicate = (Filter.text operator value).predicate? column := by
  cases operator with
  | unknown name =>
      rw [compileUnknown_ok compiled]
      simp [predicate?]
  | blank =>
      cases compiled
      simp [predicate?]
  | notBlank =>
      cases compiled
      simp [predicate?]
  | _ =>
      simp only [compileText, Traced.result_bind, Traced.result_liftM, Traced.result_pure,
        bind_eq_ok] at compiled
      rcases compiled with ⟨content, required, equal⟩
      cases equal
      rw [requireValue_ok required]
      rfl

theorem compileNumber_ok {operator : NumberOperator} {value upper : Option Number}
    (compiled : (compileNumber policy column operator value upper).result = .ok predicate) :
    predicate = (Filter.number operator value upper).predicate? column := by
  cases operator with
  | unknown name =>
      rw [compileUnknown_ok compiled]
      simp [predicate?]
  | inRange =>
      simp only [compileNumber, Traced.result_bind, Traced.result_liftM, Traced.result_pure,
        bind_eq_ok] at compiled
      rcases compiled with ⟨low, lowRequired, high, highRequired, equal⟩
      cases equal
      rw [requireValue_ok lowRequired, requireValue_ok highRequired]
      rfl
  | _ =>
      simp only [compileNumber, Traced.result_bind, Traced.result_liftM, Traced.result_pure,
        bind_eq_ok] at compiled
      rcases compiled with ⟨number, required, equal⟩
      cases equal
      rw [requireValue_ok required]
      rfl

/-- A filter makes the predicate that it asks for. -/
theorem compile_ok {filter : Filter}
    (compiled : (filter.compile policy column).result = .ok predicate) :
    predicate = filter.predicate? column := by
  unfold compile at compiled
  split at compiled
  · cases compiled
  · cases filter with
    | text operator value => exact compileText_ok compiled
    | number operator value upper => exact compileNumber_ok compiled
    | set values =>
        cases compiled
        rfl

/-- Filters that all compile become their predicates, in the same order. -/
theorem compileEach_ok {entries : List (String × Filter)} {predicates : List Predicate}
    (compiled : (compileEach policy entries).result = .ok predicates) :
    predicates = entries.filterMap fun entry => entry.2.predicate? entry.1 := by
  induction entries generalizing predicates with
  | nil =>
      cases compiled
      rfl
  | cons entry rest ih =>
      rcases entry with ⟨column, filter⟩
      simp only [compileEach, Traced.result_bind, Traced.result_pure, bind_eq_ok] at compiled
      rcases compiled with ⟨first, firstCompiled, others, othersCompiled, equal⟩
      cases equal
      rw [compile_ok firstCompiled, ih othersCompiled, List.filterMap_cons]
      cases filter.predicate? column with
      | none => rfl
      | some predicate => rfl

end Filter

end RowQuery
