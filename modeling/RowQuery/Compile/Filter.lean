import RowQuery.Compile.Error
import RowQuery.Config
import RowQuery.Log.Traced
import RowQuery.Request.Basic

/-!
# Filters as predicates

A filter becomes one predicate on its column, or none if its operator has no meaning
and such filters are passed over. The values of a filter go into the predicate as
binds; a filter that needs a value and has none is refused.
-/

namespace RowQuery

/-- The value that an operator needs. -/
def requireValue {α : Type} (column operator : String) (missing : FilterOperand) :
    Option α → Except CompileError α
  | some value => .ok value
  | none => .error (.missingFilterValue column operator missing)

/-- The condition that a text operator puts on a column with a value, if it takes a value. -/
def TextOperator.predicate? (column value : String) : TextOperator → Option Predicate
  | .contains => some (.like column (.text ("%" ++ value ++ "%")) false)
  | .notContains => some (.like column (.text ("%" ++ value ++ "%")) true)
  | .startsWith => some (.like column (.text (value ++ "%")) false)
  | .endsWith => some (.like column (.text ("%" ++ value)) false)
  | .equals => some (.compare column .equal (.text value))
  | .notEqual => some (.compare column .notEqual (.text value))
  | _ => none

/-- The comparison that a number operator makes with a single value. -/
def NumberOperator.comparison? : NumberOperator → Option Comparison
  | .equals => some .equal
  | .notEqual => some .notEqual
  | .lessThan => some .less
  | .lessThanOrEqual => some .lessOrEqual
  | .greaterThan => some .greater
  | .greaterThanOrEqual => some .greaterOrEqual
  | .inRange => none
  | .unknown _ => none

namespace Filter

/-- The record of a filter that is passed over. -/
def ignoredRecord (column kind operator : String) : LogRecord :=
  Event.record .filterIgnored [("column", column), ("kind", kind), ("op", operator)]

/-- What becomes of a filter whose operator has no meaning. -/
def compileUnknown (policy : OperatorPolicy) (column kind operator : String) :
    Traced CompileError (Option Predicate) :=
  match policy with
  | .ignore => do
      Traced.log (ignoredRecord column kind operator)
      pure none
  | .reject => throw (.unknownOperator column kind operator)

/-- The predicate of a text filter. Blanks are tested for without a value. -/
def compileText (policy : OperatorPolicy) (column : String) (operator : TextOperator)
    (value : Option String) : Traced CompileError (Option Predicate) :=
  match operator with
  | .unknown name => compileUnknown policy column "text" name
  | .blank => pure (some (.isNull column false))
  | .notBlank => pure (some (.isNull column true))
  | operator => do
      let content ← requireValue column operator.name .value value
      pure (operator.predicate? column content)

/-- The predicate of a number filter. A range needs both of its bounds. -/
def compileNumber (policy : OperatorPolicy) (column : String) (operator : NumberOperator)
    (value upper : Option Number) : Traced CompileError (Option Predicate) :=
  match operator with
  | .unknown name => compileUnknown policy column "number" name
  | .inRange => do
      let low ← requireValue column operator.name .value value
      let high ← requireValue column operator.name .upper upper
      pure (some (.between column (.number low) (.number high)))
  | operator => do
      let number ← requireValue column operator.name .value value
      pure (operator.comparison?.map fun comparison => .compare column comparison (.number number))

/-- The predicate of a filter on a column, which needs a name. -/
def compile (policy : OperatorPolicy) (column : String) (filter : Filter) :
    Traced CompileError (Option Predicate) :=
  if column.isEmpty then throw (.emptyIdentifier .filterColumn)
  else
    match filter with
    | .text operator value => compileText policy column operator value
    | .number operator value upper => compileNumber policy column operator value upper
    | .set values => pure (some (.inList column (values.values.map .text)))

/-- The predicates of filters, in order, without those that are passed over. -/
def compileEach (policy : OperatorPolicy) :
    List (String × Filter) → Traced CompileError (List Predicate)
  | [] => pure []
  | (column, filter) :: rest => do
      let predicate ← filter.compile policy column
      let predicates ← compileEach policy rest
      pure (predicate.toList ++ predicates)

end Filter

end RowQuery
