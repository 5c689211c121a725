import RowQuery.Command.Arguments
import RowQuery.Json.Printer
import RowQuery.Log.Traced
import RowQuery.Wire.Input

/-!
# Running a command

A command reads its configuration, if one is named, and then its input, and answers
with one line. A request that cannot be compiled is answered as well, with the error;
a command fails only if the configuration or the input cannot be used, and then it
answers nothing.

What is read from outside comes in as bytes, or as the reason why there are none, so a
run is a function of what was read. The log starts with its initial threshold and
takes over the threshold of the configuration as soon as that has been loaded.
-/

namespace RowQuery

/-- What reading from outside gave: bytes, or the reason why there are none. -/
abbrev Content := Except String ByteArray

namespace Content

/-- Why bytes cannot be read as text. -/
def notText : String := "stream did not contain valid UTF-8"

/-- The text that was read, or the reason why there is none. -/
def text : Content → Except String String
  | .error reason => .error reason
  | .ok bytes =>
      match String.fromUTF8? bytes with
      | some text => .ok text
      | none => .error notText

end Content

/-- Why a command failed. -/
inductive CommandError where
  | configUnreadable (path reason : String)
  | configRefused (error : ConfigError)
  | inputUnreadable (reason : String)
  | inputRefused (error : InputError)
  deriving DecidableEq, Repr

namespace CommandError

/-- The code of a failure, which stays the same when messages change. -/
def code : CommandError → String
  | .configUnreadable _ _ => "GRIDSQL_CLI_CONFIG_ERROR"
  | .configRefused _ => "GRIDSQL_CLI_CONFIG_ERROR"
  | .inputUnreadable _ => "GRIDSQL_CLI_IO_ERROR"
  | .inputRefused _ => "GRIDSQL_CLI_INVALID_INPUT"

/-- The message of a failure, which says what could not be used. -/
def message : CommandError → String
  | .configUnreadable path reason => "Failed to read config " ++ path ++ ": " ++ reason
  | .configRefused error => error.message
  | .inputUnreadable reason => reason
  | .inputRefused error => error.message

/-- A failure as it is shown to the caller. -/
def display (error : CommandError) : String := error.code ++ ": " ++ error.message

/-- The record of a failure. -/
def record (error : CommandError) : LogRecord :=
  Event.record .commandFailed [("code", error.code), ("message", error.message)]

end CommandError

/-- The record of a configuration that was loaded from a file. -/
def loadedRecord (config : Config) (path : String) : LogRecord :=
  Event.record .configLoaded [("dialect", config.dialect.name), ("path", path)]

/-- The configuration of a command: what the named file holds, or else the default. -/
def Config.load (file : Option (String × Content)) : Traced CommandError Config :=
  match file with
  | none => pure default
  | some (path, content) =>
      match content.text with
      | .error reason => throw (.configUnreadable path reason)
      | .ok text =>
          match parse text with
          | .error error => throw (.configRefused error)
          | .ok config => do
              Traced.log (loadedRecord config path)
              pure config

/-- The document that a command answers with: a value, or the error of a refused request. -/
def answer : Except CompileError Json → Json
  | .ok data => .object [("status", .text "ok"), ("data", data)]
  | .error error =>
      .object [("status", .text "error"), ("code", .text error.code),
        ("message", .text error.message)]

namespace Command

/-- What a command makes of its input. -/
def respond (command : Command) (config : Config) (text : String) :
    Except InputError (Traced CompileError Json) :=
  match command with
  | .compile => (CompileInput.decode.parseInput text).map fun input =>
      Query.json <$> input.compile config
  | .explain => (CompileInput.decode.parseInput text).map fun input =>
      Explanation.json <$> input.explain config
  | .shape => (ShapeInput.decode.parseInput text).map fun input =>
      RowsPage.json <$> input.shape config

/-- The line with which a command answers its input. -/
def work (command : Command) (config : Config) (input : Content) :
    Traced CommandError String :=
  match input.text with
  | .error reason => throw (.inputUnreadable reason)
  | .ok text =>
      match command.respond config text with
      | .error error => throw (.inputRefused error)
      | .ok response => ⟨response.records, .ok ((answer response.result).print ++ "\n")⟩

end Command

/-- What a run of a command leaves behind. -/
structure Outcome where
  log : List String
  /-- What was written, or why the command failed. -/
  result : Except CommandError String

namespace Outcome

/-- The exit code of a run. -/
def exitCode (outcome : Outcome) : UInt32 :=
  match outcome.result with
  | .ok _ => 0
  | .error _ => 1

/-- What a run has written. -/
def output (outcome : Outcome) : String :=
  match outcome.result with
  | .ok text => text
  | .error _ => ""

end Outcome

/-- The outcome of work under a threshold, with the record of its failure at the end. -/
def Traced.outcome (work : Traced CommandError String) (minimum : Severity) : Outcome where
  log :=
    LogRecord.written minimum <| work.records ++
      match work.result with
      | .ok _ => []
      | .error error => [error.record]
  result := work.result

/-- Runs a command on what was read from the file it names and from its input. -/
def Command.run (command : Command) (file : Option (String × Content)) (input : Content) :
    Outcome :=
  let loading := Config.load file
  match loading.result with
  | .error error => Traced.outcome ⟨loading.records, .error error⟩ .initial
  | .ok config =>
      let outcome := (command.work config input).outcome config.logLevel
      { outcome with log := LogRecord.written .initial loading.records ++ outcome.log }

end RowQuery
