import RowQuery.Log.Severity
import RowQuery.Sql.Dialect

/-!
# Configuration

What can be set about compiling, shaping and logging. A page size has to be positive
and has to fit a row number; `Config.invalid?` says what is wrong with a configuration
that breaks this.
-/

namespace RowQuery

/-- What is done with a filter whose operator has no meaning. -/
inductive OperatorPolicy where
  /-- The filter is left out. -/
  | ignore
  /-- The request is refused. -/
  | reject
  deriving DecidableEq, Repr

/-- The word for a policy. -/
def OperatorPolicy.name : OperatorPolicy → String
  | .ignore => "ignore"
  | .reject => "reject"

/-- What can be set. -/
structure Config where
  dialect : Dialect
  unknownOperator : OperatorPolicy
  maxPageSize : UInt64
  /-- Whether a page carries the query it came from. -/
  includeSql : Bool
  /-- Whether a failed page carries the error. -/
  includeError : Bool
  logLevel : Severity
  deriving DecidableEq, Repr

namespace Config

/-- The configuration that holds when nothing is set. -/
def default : Config := ⟨.ansi, .ignore, 10000, false, false, .initial⟩

/-- The largest page size that fits a row number. -/
def pageSizeLimit : Nat := Int64.maxValue.toInt.toNat

/-- What is wrong with a configuration, if anything is. -/
def invalid? (config : Config) : Option String :=
  if config.maxPageSize = 0 then some "max_page_size must be > 0"
  else if pageSizeLimit < config.maxPageSize.toNat then
    some ("max_page_size must be <= " ++ natText pageSizeLimit)
  else none

end Config

end RowQuery
