import RowQuery.Decimal.Notation

/-!
# Why a request cannot be compiled

Each error is a cause. Two of them say that the request names something that is not
offered, an aggregate function above all; the others say that the request itself is
not in order.
-/

namespace RowQuery

/-- Where an identifier is empty. -/
inductive IdentifierPlace where
  | tableName
  | valueColumn
  | sortColumn
  | rowGroupColumn
  | pivotColumn
  | filterColumn
  deriving DecidableEq, Repr

/-- The phrase for a place in a message. -/
def IdentifierPlace.phrase : IdentifierPlace → String
  | .tableName => "table name"
  | .valueColumn => "value column"
  | .sortColumn => "sort column"
  | .rowGroupColumn => "row group column"
  | .pivotColumn => "pivot column"
  | .filterColumn => "filter column"

/-- A value that a filter needs. -/
inductive FilterOperand where
  /-- The value to compare with, or the lower bound of a range. -/
  | value
  /-- The upper bound of a range. -/
  | upper
  deriving DecidableEq, Repr

/-- The phrase for a value that a filter needs. -/
def FilterOperand.phrase : FilterOperand → String
  | .value => "a filter value"
  | .upper => "a filterTo value"

/-- Whether a request is not in order, or names something that is not offered. -/
inductive ErrorKind where
  | validation
  | configuration
  deriving DecidableEq, Repr

/-- The word for a kind of error. -/
def ErrorKind.name : ErrorKind → String
  | .validation => "VALIDATION"
  | .configuration => "CONFIGURATION"

/-- Why a request was refused. -/
inductive CompileError where
  /-- The page starts before the first row or ends before it starts. -/
  | invalidWindow (startRow endRow : Int64)
  /-- The page has more rows than are allowed. -/
  | pageTooLarge (size maximum : UInt64)
  /-- More groups were opened than there are columns to group by. -/
  | tooManyGroupKeys (keys groups : Nat)
  | emptyIdentifier (place : IdentifierPlace)
  /-- A filter lacks a value that its operator needs. -/
  | missingFilterValue (column operator : String) (missing : FilterOperand)
  /-- A filter of some kind has an operator without a meaning. -/
  | unknownOperator (column kind operator : String)
  /-- An aggregate function is not offered. -/
  | unsupportedAggregate (column function : String)
  /-- A column has to be aggregated and is not. -/
  | missingAggregate (column : String)
  deriving DecidableEq, Repr

namespace CompileError

/-- The kind of an error: what is not offered is a matter of configuration. -/
def kind : CompileError → ErrorKind
  | .unsupportedAggregate _ _ => .configuration
  | .missingAggregate _ => .configuration
  | _ => .validation

/-- The code of an error, which stays the same when messages change. -/
def code : CompileError → String
  | .invalidWindow _ _ => "GRIDSQL_INVALID_WINDOW"
  | .pageTooLarge _ _ => "GRIDSQL_PAGE_TOO_LARGE"
  | .tooManyGroupKeys _ _ => "GRIDSQL_TOO_MANY_GROUP_KEYS"
  | .emptyIdentifier _ => "GRIDSQL_EMPTY_IDENTIFIER"
  | .missingFilterValue _ _ _ => "GRIDSQL_MISSING_FILTER_VALUE"
  | .unknownOperator _ _ _ => "GRIDSQL_UNKNOWN_OPERATOR"
  | .unsupportedAggregate _ _ => "GRIDSQL_UNSUPPORTED_AGGREGATE"
  | .missingAggregate _ => "GRIDSQL_MISSING_AGGREGATE"

/-- The message of an error, with the names and numbers that it is about. -/
def message : CompileError → String
  | .invalidWindow startRow endRow =>
      "Invalid row window: startRow=" ++ intText startRow.toInt ++ ", endRow=" ++
        intText endRow.toInt
  | .pageTooLarge size maximum =>
      "Page size " ++ natText size.toNat ++ " exceeds maximum " ++ natText maximum.toNat
  | .tooManyGroupKeys keys groups =>
      natText keys ++ " group keys supplied for " ++ natText groups ++ " row group columns"
  | .emptyIdentifier place => "Empty identifier in " ++ place.phrase
  | .missingFilterValue column operator missing =>
      "Filter '" ++ operator ++ "' on column '" ++ column ++ "' requires " ++ missing.phrase
  | .unknownOperator column kind operator =>
      "Unknown " ++ kind ++ " filter operator '" ++ operator ++ "' on column '" ++ column ++ "'"
  | .unsupportedAggregate column function =>
      "Unsupported aggregate function '" ++ function ++ "' on column '" ++ column ++ "'"
  | .missingAggregate column =>
      "Pivot value column '" ++ column ++ "' requires an aggregate function"

end CompileError

end RowQuery
