import RowQuery.Log.Severity

/-!
# Log records and their lines

A log line is an object on one line: the event, the severity, and then the fields in
the order of their names. Fields with the same name keep the order in which they were
given. Quotes, backslashes and control characters are escaped, those above the ASCII
range included, so that no field can end its line or its text early.
-/

namespace RowQuery

/-- The events that the library logs by itself. -/
inductive Event where
  | configLoaded
  | compileStart
  | compileComplete
  | compileRejected
  /-- A filter with an unknown operator was left out. -/
  | filterIgnored
  /-- A pivot column came without values. -/
  | pivotValuesMissing
  | responseShaped
  | commandFailed
  deriving DecidableEq, Repr

namespace Event

/-- All events. -/
def all : List Event :=
  [.configLoaded, .compileStart, .compileComplete, .compileRejected, .filterIgnored,
    .pivotValuesMissing, .responseShaped, .commandFailed]

/-- The name of an event in a log line. -/
def name : Event → String
  | .configLoaded => "CONFIG_LOADED"
  | .compileStart => "COMPILE_START"
  | .compileComplete => "COMPILE_COMPLETE"
  | .compileRejected => "COMPILE_REJECTED"
  | .filterIgnored => "FILTER_IGNORED"
  | .pivotValuesMissing => "PIVOT_VALUES_MISSING"
  | .responseShaped => "RESPONSE_SHAPED"
  | .commandFailed => "COMMAND_FAILED"

/-- How severe an event is. -/
def severity : Event → Severity
  | .configLoaded => .info
  | .compileStart => .trace
  | .compileComplete => .trace
  | .compileRejected => .warn
  | .filterIgnored => .warn
  | .pivotValuesMissing => .warn
  | .responseShaped => .trace
  | .commandFailed => .error

end Event

/-- One entry of the log. -/
structure LogRecord where
  event : String
  severity : Severity
  /-- Named details, in the order in which they were given. -/
  fields : List (String × String)
  deriving DecidableEq, Repr

/-- The record of an event. -/
def Event.record (event : Event) (fields : List (String × String)) : LogRecord :=
  ⟨event.name, event.severity, fields⟩

namespace LogRecord

/-- Whether a character has a control code. -/
def isControl (character : Char) : Bool :=
  character.toNat < 0x20 || (0x7f ≤ character.toNat && character.toNat < 0xa0)

/-- A character as it stands in a text of a log line. -/
def escape (character : Char) : List Char :=
  if character = '"' then ['\\', '"']
  else if character = '\\' then ['\\', '\\']
  else if character = '\n' then ['\\', 'n']
  else if character = '\r' then ['\\', 'r']
  else if character = '\t' then ['\\', 't']
  else if isControl character then
    ['\\', 'u', '0', '0', Nat.digitChar (character.toNat / 16),
      Nat.digitChar (character.toNat % 16)]
  else [character]

/-- A text of a log line, with its quotes. -/
def quoted (content : String) : List Char := '"' :: content.toList.flatMap escape ++ ['"']

/-- A field as a member of an object: its name, a colon and its text. -/
def member (field : String × String) : List Char := quoted field.1 ++ ':' :: quoted field.2

/-- The fields in the order of their names. -/
def sortedFields (record : LogRecord) : List (String × String) :=
  record.fields.mergeSort fun first second => decide (first.1 ≤ second.1)

/-- The names and texts of a log line, in order. -/
def members (record : LogRecord) : List (String × String) :=
  ("event", record.event) :: ("severity", record.severity.label) :: record.sortedFields

/-- The characters of a log line, without its line end. -/
def chars (record : LogRecord) : List Char :=
  '{' :: List.intercalate [','] (record.members.map member) ++ ['}']

/-- A log line, without its line end. -/
def line (record : LogRecord) : String := String.ofList record.chars

/-- The lines that are written of records, under a threshold. -/
def written (minimum : Severity) (records : List LogRecord) : List String :=
  (records.filter fun record => decide (minimum ≤ record.severity)).map line

end LogRecord

end RowQuery
