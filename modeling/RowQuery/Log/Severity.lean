/-!
# Severities

Every log record has a severity, and the log has a threshold: records below it are
not written.
-/

namespace RowQuery

/-- How serious a log record is. -/
inductive Severity where
  /-- Detail of a single call. -/
  | trace
  /-- Normal operation. -/
  | info
  /-- Input that was tolerated or refused. -/
  | warn
  /-- A failed command. -/
  | error
  deriving DecidableEq, Repr

namespace Severity

/-- The place of a severity in their order. -/
def rank : Severity → Nat
  | .trace => 0
  | .info => 1
  | .warn => 2
  | .error => 3

instance : LE Severity := ⟨fun lower upper => lower.rank ≤ upper.rank⟩

instance (lower upper : Severity) : Decidable (lower ≤ upper) :=
  inferInstanceAs (Decidable (lower.rank ≤ upper.rank))

/-- The word for a severity, as configurations have it. -/
def name : Severity → String
  | .trace => "trace"
  | .info => "info"
  | .warn => "warn"
  | .error => "error"

/-- The name of a severity in a log line. -/
def label : Severity → String
  | .trace => "TRACE"
  | .info => "INFO"
  | .warn => "WARN"
  | .error => "ERROR"

/-- The threshold that holds until a configuration sets another one. -/
def initial : Severity := .warn

end Severity

end RowQuery
