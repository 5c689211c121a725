import RowQuery.Config
import RowQuery.Wire.Record

/-!
# Configurations in documents

Every setting may be left out, and no other names are allowed. A configuration that
can be read may still be invalid.
-/

namespace RowQuery

/-- The dialects by their names. -/
def Dialect.known : List (String × Dialect) := [("ansi", .ansi), ("postgres", .postgres)]

/-- The policies by their names. -/
def OperatorPolicy.known : List (String × OperatorPolicy) :=
  [("ignore", .ignore), ("reject", .reject)]

/-- The severities by their names. -/
def Severity.known : List (String × Severity) :=
  [("trace", .trace), ("info", .info), ("warn", .warn), ("error", .error)]

/-- The settings of a configuration. -/
inductive ConfigField where
  | dialect
  | unknownOperator
  | maxPageSize
  | includeSql
  | includeError
  | logLevel
  deriving DecidableEq, Repr

/-- Why a configuration text was refused. -/
inductive ConfigError where
  /-- It cannot be read as a configuration. -/
  | unreadable (fault : Fault)
  /-- A setting is out of range. -/
  | invalid (reason : String)
  deriving DecidableEq, Repr

namespace ConfigError

/-- The code of an error, which stays the same when messages change. -/
def code : ConfigError → String
  | .unreadable _ => "GRIDSQL_CONFIG_PARSE"
  | .invalid _ => "GRIDSQL_CONFIG_INVALID"

/-- The message of an error. -/
def message : ConfigError → String
  | .unreadable fault => "Invalid config JSON: " ++ fault.message
  | .invalid reason => "Invalid config value: " ++ reason

end ConfigError

namespace Config

/-- How configurations are sent. Other names than these are refused. -/
def format : RecordFormat ConfigField where
  Content
    | .dialect => Dialect
    | .unknownOperator => OperatorPolicy
    | .maxPageSize => Nat
    | .includeSql => Bool
    | .includeError => Bool
    | .logLevel => Severity
  fields := [.dialect, .unknownOperator, .maxPageSize, .includeSql, .includeError, .logLevel]
  name
    | .dialect => "dialect"
    | .unknownOperator => "unknown_operator"
    | .maxPageSize => "max_page_size"
    | .includeSql => "include_sql_in_response"
    | .includeError => "include_error_in_response"
    | .logLevel => "log_level"
  aliases _ := []
  required _ := false
  closed := true
  surplus := .malformed
  content
    | .dialect => Decoder.enumeration Dialect.known
    | .unknownOperator => Decoder.enumeration OperatorPolicy.known
    | .maxPageSize => Decoder.nat64
    | .includeSql => Decoder.bool
    | .includeError => Decoder.bool
    | .logLevel => Decoder.enumeration Severity.known

/-- Reads a configuration. A setting that is not sent has its default. -/
def decode : Decoder Config :=
  format.decode fun slots => pure {
    dialect := (slots .dialect).getD default.dialect
    unknownOperator := (slots .unknownOperator).getD default.unknownOperator
    maxPageSize := UInt64.ofNat ((slots .maxPageSize).getD default.maxPageSize.toNat)
    includeSql := (slots .includeSql).getD default.includeSql
    includeError := (slots .includeError).getD default.includeError
    logLevel := (slots .logLevel).getD default.logLevel }

/-- A configuration as it is sent. -/
def json (config : Config) : Json :=
  .object [
    ("dialect", .text config.dialect.name),
    ("unknown_operator", .text config.unknownOperator.name),
    ("max_page_size", .ofNat config.maxPageSize.toNat),
    ("include_sql_in_response", .bool config.includeSql),
    ("include_error_in_response", .bool config.includeError),
    ("log_level", .text config.logLevel.name)]

/-- The configuration that a text holds, if it is one and its settings are in range. -/
def parse (text : String) : Except ConfigError Config :=
  match decode.run text with
  | .error fault => .error (.unreadable fault)
  | .ok config =>
      match config.invalid? with
      | some reason => .error (.invalid reason)
      | none => .ok config

end Config

end RowQuery
