import RowQuery.Command.Run
import RowQuery.Proofs.Compile.Trace
import RowQuery.Proofs.Json.RoundTrip
import RowQuery.Proofs.Log.Lines

/-!
# How a command ends

This file says what a run of a command leaves behind, from what was read alone. A command
whose configuration loads and whose input is accepted answers with one line, also where the
answer is an error, and its exit code is zero. The line is read again as the answer it was
written from. Any other command writes nothing, ends with the exit code one and logs its failure.

The record of a failure is above every threshold and comes last. No work logs one by itself,
and since a line is read as the record it was written from, no other line can pass for one.
-/

namespace RowQuery

/-- The bytes that were read are those of a text. -/
def Content.Holds (content : Content) (text : String) : Prop := content = .ok text.toUTF8

/-- The configuration under which a command runs. -/
inductive Config.Loads : Option (String × Content) → Config → Prop where
  | unnamed : Loads none .default
  | named {path text : String} {content : Content} {config : Config}
      (holds : content.Holds text) (decoded : decode.run text = .ok config)
      (valid : config.invalid? = none) : Loads (some (path, content)) config

/-- An input is a text that is not blank and holds a value. -/
def Decoder.Accepts {α : Type} (decoder : Decoder α) (input : Content) (value : α) : Prop :=
  ∃ text, input.Holds text ∧ (∃ character ∈ text.toList, isBlank character = false) ∧
    decoder.run text = .ok value

/-- What the library makes of the input of a command. -/
inductive Command.Answers (config : Config) (input : Content) :
    Command → Except CompileError Json → Prop where
  | compile {found : CompileInput} (accepted : CompileInput.decode.Accepts input found) :
      Answers config input .compile ((found.compile config).result.map Query.json)
  | explain {found : CompileInput} (accepted : CompileInput.decode.Accepts input found) :
      Answers config input .explain ((found.explain config).result.map Explanation.json)
  | shape {found : ShapeInput} (accepted : ShapeInput.decode.Accepts input found) :
      Answers config input .shape ((found.shape config).result.map RowsPage.json)

/-- The event of a log line, as the reader of documents finds it. -/
def lineEvent? (line : String) : Option String :=
  match (Document.read line.toList).1 with
  | .object ((some "event", .text event) :: _) => event
  | _ => none

/-- None of the lines reports a failed command. -/
def NoFailure (lines : List String) : Prop :=
  ∀ line ∈ lines, lineEvent? line ≠ some "COMMAND_FAILED"

namespace Outcome

/-- What the line of an answer is read as: a value, or the error of a refused request. -/
def reading : Except CompileError Json → Document
  | .ok value => .object [(some "status", .text (some "ok")), (some "data", value.reading)]
  | .error error => .object [(some "status", .text (some "error")),
      (some "code", .text (some error.code)), (some "message", .text (some error.message))]

/-- A command has answered on one line, with a value or with the error of a refused request. -/
structure Answered (outcome : Outcome) (response : Except CompileError Json) : Prop where
  exitCode_eq : outcome.exitCode = 0
  exists_line : ∃ line, outcome.output = line ++ "\n" ∧ '\n' ∉ line.toList ∧
    Document.read line.toList = (reading response, [])
  output_ok : ∀ value, response = .ok value → outcome.output =
    "\x7b\"status\":\"ok\",\"data\":" ++ value.print ++ "\x7d\n"
  output_error : ∀ error, response = .error error → outcome.output =
    "\x7b\"status\":\"error\",\"code\":\"" ++ error.code ++ "\",\"message\":" ++
      (Json.text error.message).print ++ "\x7d\n"
  noFailure : NoFailure outcome.log

/-- A command has failed: it has written nothing, and its failure is the last line of the log. -/
structure Failed (outcome : Outcome) (code : String) : Prop where
  exitCode_eq : outcome.exitCode = 1
  output_eq : outcome.output = ""
  exists_error : ∃ error, outcome.result = .error error ∧ error.code = code ∧
    ∃ before, NoFailure before ∧
      outcome.log = before ++ [LogRecord.line ⟨"COMMAND_FAILED", .error,
        [("code", code), ("message", error.message)]⟩]

end Outcome

/-- The code of what was wrong first: the configuration, the bytes of the input, or the input. -/
inductive FailureCode (file : Option (String × Content)) (input : Content) : String → Prop where
  | config (refused : ∀ config, ¬ Config.Loads file config) :
      FailureCode file input "GRIDSQL_CLI_CONFIG_ERROR"
  | bytes {config : Config} (loaded : Config.Loads file config)
      (noText : ∀ text, ¬ input.Holds text) : FailureCode file input "GRIDSQL_CLI_IO_ERROR"
  | text {config : Config} {text : String} (loaded : Config.Loads file config)
      (holds : input.Holds text) : FailureCode file input "GRIDSQL_CLI_INVALID_INPUT"

namespace Content

/-- Bytes are read as a text exactly if they are its encoding. -/
theorem fromUTF8?_eq_some {bytes : ByteArray} {text : String} :
    String.fromUTF8? bytes = some text ↔ bytes = text.toUTF8 := by
  unfold String.fromUTF8?
  split
  · constructor
    · rintro equal
      cases equal
      rfl
    · rintro rfl
      rfl
  · next invalid =>
      constructor
      · rintro equal
        cases equal
      · rintro rfl
        exact absurd text.isValidUTF8 invalid

theorem holds_iff {content : Content} {text : String} :
    content.Holds text ↔ content.text = .ok text := by
  cases content with
  | error reason => simp [Holds, Content.text]
  | ok bytes =>
      rw [Holds, Except.ok.injEq, ← fromUTF8?_eq_some, Content.text]
      split
      · next found => rw [found, Option.some.injEq, Except.ok.injEq]
      · next missing => simp [missing]

theorem no_text {content : Content} {reason : String} (unreadable : content.text = .error reason)
    (text : String) : ¬ content.Holds text := by
  intro holds
  rw [holds_iff, unreadable] at holds
  cases holds

/-- Bytes hold at most one text. -/
theorem Holds.unique {content : Content} {text other : String} (holds : content.Holds text)
    (otherHolds : content.Holds other) : text = other := by
  rw [holds_iff] at holds otherHolds
  exact Except.ok.inj (holds.symm.trans otherHolds)

end Content

namespace LogRecord

/-- The event of a line is the one that was logged. -/
theorem lineEvent?_line (record : LogRecord) : lineEvent? record.line = some record.event := by
  have read := record.read_chars []
  rw [List.append_nil] at read
  rw [lineEvent?, line, String.toList_ofList, read]
  rfl

/-- None of the records reports a failed command. -/
def Quiet (records : List LogRecord) : Prop :=
  ∀ record ∈ records, record.event ≠ Event.commandFailed.name

/-- A line that is written for a quiet record reports no failure. -/
theorem Quiet.written {records : List LogRecord} (quiet : Quiet records) (minimum : Severity) :
    NoFailure (written minimum records) := by
  intro line lineMem
  rcases List.mem_map.mp lineMem with ⟨record, recordMem, rfl⟩
  rw [lineEvent?_line]
  exact fun equal => quiet record (List.mem_filter.mp recordMem).1 (Option.some.inj equal)

theorem Quiet.append {first second : List LogRecord} (firstQuiet : Quiet first)
    (secondQuiet : Quiet second) : Quiet (first ++ second) :=
  List.forall_mem_append.mpr ⟨firstQuiet, secondQuiet⟩

/-- No other event has the name of a failed command. -/
theorem event_ne (event : Event) (different : event ≠ .commandFailed) :
    event.name ≠ Event.commandFailed.name := by
  revert different
  cases event with
  | commandFailed => exact fun different => absurd rfl different
  | _ => exact fun _ => by decide

theorem quiet_nil : Quiet [] := List.forall_mem_nil _

theorem Quiet.cons (event : Event) {record : LogRecord} {others : List LogRecord}
    (named : record.event = event.name) (different : event ≠ .commandFailed)
    (quiet : Quiet others) : Quiet (record :: others) :=
  List.forall_mem_cons.mpr ⟨named ▸ event_ne event different, quiet⟩

theorem Quiet.recordsUnless {records : List LogRecord} (quiet : Quiet records)
    (faults : List CompileError) : Quiet (recordsUnless faults records) := by
  rw [RowQuery.recordsUnless]
  split
  · exact quiet
  · exact quiet_nil

end LogRecord

open LogRecord

theorem NoFailure.append {first second : List String} (firstQuiet : NoFailure first)
    (secondQuiet : NoFailure second) : NoFailure (first ++ second) :=
  List.forall_mem_append.mpr ⟨firstQuiet, secondQuiet⟩

theorem missingValuesRecords_quiet (values : PivotValues) (columns : List ColumnSpec) :
    Quiet (Expansion.missingValuesRecords values columns) := by
  rw [Expansion.missingValuesRecords, Quiet, List.forall_mem_map]
  exact fun column _ => event_ne .pivotValuesMissing (by decide)

theorem ignoredRecord_quiet {column : String} {filter : Filter} {record : LogRecord}
    (found : filter.ignoredRecord? column = some record) :
    record.event ≠ Event.commandFailed.name := by
  unfold Filter.ignoredRecord? at found
  split at found
  · cases found
    exact event_ne .filterIgnored (by decide)
  · cases found
    exact event_ne .filterIgnored (by decide)
  · cases found

namespace RowsRequest

/-- No record of a compile reports a failed command. -/
theorem trace_quiet {α : Type} (config : Config) (table : String) (values : PivotValues)
    (request : RowsRequest) (outcome : Except CompileError α) :
    Quiet (request.trace config table values outcome) := by
  have missing : Quiet (request.missingValuesRecords values) := by
    rw [missingValuesRecords]
    split
    · exact missingValuesRecords_quiet _ _
    · exact quiet_nil
  have ignored : Quiet (request.ignoredRecords config) := by
    rw [ignoredRecords]
    split
    · intro record recordMem
      rcases List.mem_filterMap.mp recordMem with ⟨entry, _, found⟩
      exact ignoredRecord_quiet found
    · exact quiet_nil
  have closing : Quiet [request.closingRecord table outcome] := by
    cases outcome with
    | ok value => exact .cons .compileComplete rfl (by decide) quiet_nil
    | error error => exact .cons .compileRejected rfl (by decide) quiet_nil
  have warned := (missing.recordsUnless (request.earlyFaults config table)).append
    (ignored.recordsUnless (request.checkFaults config table ++ request.aggregateFaults))
  exact .append (.cons .compileStart rfl (by decide) warned) closing

theorem secondaryColumns_quiet (request : RowsRequest) (values : PivotValues) :
    Quiet (request.secondaryColumns values).records := by
  rw [secondaryColumns]
  split
  · rw [bind_pure_comp, Traced.records_map, Expansion.resolve_records]
    exact missingValuesRecords_quiet _ _
  · exact quiet_nil

/-- No record of a page that is shaped reports a failed command. -/
theorem shape_quiet (request : RowsRequest) (config : Config) (rows : List Row)
    (values : PivotValues) (query : Option Query) :
    Quiet (request.shape config rows values query).records := by
  have columnsQuiet := request.secondaryColumns_quiet values
  rw [shape]
  cases found : (request.secondaryColumns values).result with
  | error error =>
      rw [Traced.records_bind_error found]
      exact columnsQuiet
  | ok columns =>
      rw [Traced.records_bind_ok found]
      exact columnsQuiet.append (.cons .responseShaped rfl (by decide) quiet_nil)

end RowsRequest

namespace Config

/-- A configuration that loads is the one that a command runs under. -/
theorem Loads.result_eq {file : Option (String × Content)} {config : Config}
    (loads : Loads file config) : (Config.load file).result = .ok config := by
  cases loads with
  | unnamed => rfl
  | named holds decoded valid =>
      rw [load, Content.holds_iff.mp holds]
      simp only [parse, decoded, valid]
      rfl

/-- A configuration that does not load is a configuration failure. -/
theorem load_cases (file : Option (String × Content)) :
    (∃ config records, Config.load file = ⟨records, .ok config⟩ ∧ Loads file config ∧
        Quiet records) ∨
      ∃ error, Config.load file = ⟨[], .error error⟩ ∧ error.code = "GRIDSQL_CLI_CONFIG_ERROR" := by
  cases file with
  | none => exact .inl ⟨.default, [], rfl, .unnamed, quiet_nil⟩
  | some named =>
      rcases named with ⟨path, content⟩
      rw [load]
      cases read : content.text with
      | error reason => exact .inr ⟨.configUnreadable path reason, rfl, rfl⟩
      | ok text =>
          dsimp only
          rw [parse]
          cases decoded : decode.run text with
          | error fault => exact .inr ⟨.configRefused (.unreadable fault), rfl, rfl⟩
          | ok config =>
              dsimp only
              cases valid : config.invalid? with
              | some reason => exact .inr ⟨.configRefused (.invalid reason), rfl, rfl⟩
              | none =>
                  have loggedQuiet : Quiet [loadedRecord config path] :=
                    .cons .configLoaded rfl (by decide) quiet_nil
                  exact .inl ⟨config, _, rfl, .named (Content.holds_iff.mpr read) decoded valid,
                    loggedQuiet⟩

end Config

/-- An input is accepted if it is not blank and can be read. -/
theorem Decoder.parseInput_ok_iff {α : Type} {decoder : Decoder α} {text : String} {value : α} :
    decoder.parseInput text = .ok value ↔
      (∃ character ∈ text.toList, isBlank character = false) ∧ decoder.run text = .ok value := by
  rw [parseInput]
  split
  · next blank =>
      rw [List.all_eq_true] at blank
      constructor
      · rintro equal
        cases equal
      · rintro ⟨⟨character, characterMem, visible⟩, _⟩
        rw [blank character characterMem] at visible
        cases visible
  · next visible =>
      have someVisible : ∃ character ∈ text.toList, isBlank character = false := by
        simpa [List.all_eq_true] using visible
      cases decoder.run text with
      | ok found => simp [someVisible]
      | error fault => simp

theorem Decoder.accepts_iff {α : Type} {decoder : Decoder α} {input : Content} {text : String}
    {value : α} (holds : input.Holds text) :
    decoder.Accepts input value ↔ decoder.parseInput text = .ok value := by
  rw [parseInput_ok_iff]
  constructor
  · rintro ⟨other, otherHolds, found⟩
    rwa [holds.unique otherHolds]
  · exact fun found => ⟨text, holds, found⟩

namespace Command

variable {command : Command} {config : Config} {input : Content} {text : String}

/-- What a command responds with is the answer of the library, and no failure is logged. -/
theorem respond_ok (holds : input.Holds text) {work : Traced CompileError Json}
    (responded : command.respond config text = .ok work) :
    command.Answers config input work.result ∧ Quiet work.records := by
  cases command with
  | compile =>
      rw [respond, map_eq_ok] at responded
      rcases responded with ⟨found, read, rfl⟩
      rw [Traced.result_map, Traced.records_map, CompileInput.compile, RowsRequest.compile_records]
      exact ⟨.compile ((Decoder.accepts_iff holds).mpr read), found.request.trace_quiet _ _ _ _⟩
  | explain =>
      rw [respond, map_eq_ok] at responded
      rcases responded with ⟨found, read, rfl⟩
      rw [Traced.result_map, Traced.records_map, CompileInput.explain, RowsRequest.explain_records]
      exact ⟨.explain ((Decoder.accepts_iff holds).mpr read), found.request.trace_quiet _ _ _ _⟩
  | shape =>
      rw [respond, map_eq_ok] at responded
      rcases responded with ⟨found, read, rfl⟩
      rw [Traced.result_map, Traced.records_map]
      refine ⟨.shape ((Decoder.accepts_iff holds).mpr read), ?_⟩
      rw [ShapeInput.shape]
      split
      · exact quiet_nil
      · exact found.request.shape_quiet config found.rows found.pivotValues found.query

/-- The command responds with what the library answers. -/
theorem Answers.respond_eq {response : Except CompileError Json}
    (answers : command.Answers config input response) (holds : input.Holds text) :
    ∃ work, command.respond config text = .ok work ∧ work.result = response := by
  cases answers with
  | compile accepted =>
      rw [respond, (Decoder.accepts_iff holds).mp accepted]
      exact ⟨_, rfl, Traced.result_map _ _⟩
  | explain accepted =>
      rw [respond, (Decoder.accepts_iff holds).mp accepted]
      exact ⟨_, rfl, Traced.result_map _ _⟩
  | shape accepted =>
      rw [respond, (Decoder.accepts_iff holds).mp accepted]
      exact ⟨_, rfl, Traced.result_map _ _⟩

/-- What is answered was a text. -/
theorem Answers.exists_text {response : Except CompileError Json}
    (answers : command.Answers config input response) : ∃ text, input.Holds text := by
  cases answers with
  | compile accepted => exact ⟨accepted.choose, accepted.choose_spec.1⟩
  | explain accepted => exact ⟨accepted.choose, accepted.choose_spec.1⟩
  | shape accepted => exact ⟨accepted.choose, accepted.choose_spec.1⟩

/-- A command writes the answer of the library. -/
theorem Answers.work_eq {response : Except CompileError Json}
    (answers : command.Answers config input response) :
    ∃ records, command.work config input = ⟨records, .ok ((answer response).print ++ "\n")⟩ ∧
      Quiet records := by
  rcases answers.exists_text with ⟨text, holds⟩
  rcases answers.respond_eq holds with ⟨work, responded, rfl⟩
  refine ⟨work.records, ?_, (respond_ok holds responded).2⟩
  rw [Command.work, Content.holds_iff.mp holds]
  simp only [responded]

/-- A command fails before it has logged anything if the library has no answer to its input. -/
theorem work_of_no_answer (unanswered : ∀ response, ¬ command.Answers config input response) :
    ∃ error, command.work config input = ⟨[], .error error⟩ ∧
      ((∀ text, ¬ input.Holds text) ∧ error.code = "GRIDSQL_CLI_IO_ERROR" ∨
        (∃ text, input.Holds text) ∧ error.code = "GRIDSQL_CLI_INVALID_INPUT") := by
  rw [work]
  cases read : input.text with
  | error reason => exact ⟨.inputUnreadable reason, rfl, .inl ⟨Content.no_text read, rfl⟩⟩
  | ok text =>
      have holds := Content.holds_iff.mpr read
      dsimp only
      cases responded : command.respond config text with
      | ok work => exact absurd (respond_ok holds responded).1 (unanswered work.result)
      | error error => exact ⟨.inputRefused error, rfl, .inr ⟨⟨text, holds⟩, rfl⟩⟩

end Command

theorem Severity.le_error (minimum : Severity) : minimum ≤ .error := by
  cases minimum with
  | _ => decide

/-- The record of a failure is written under every threshold. -/
theorem CommandError.written_record (minimum : Severity) (error : CommandError) :
    LogRecord.written minimum [error.record] = [error.record.line] := by
  have kept : [error.record].filter (fun record => decide (minimum ≤ record.severity)) =
      [error.record] := List.filter_cons_of_pos (decide_eq_true minimum.le_error)
  rw [LogRecord.written, kept]
  rfl

namespace Outcome

/-- An answer is printed on one line. -/
theorem answer_oneLine (response : Except CompileError Json) :
    '\n' ∉ (answer response).print.toList := by
  rw [Json.print, String.toList_ofList]
  exact (Json.chars_unbroken _).newline_not_mem

/-- The line of an answer is read as the answer. -/
theorem read_answer (response : Except CompileError Json) :
    Document.read (answer response).print.toList = (reading response, []) := by
  rw [Json.read_print]
  cases response with
  | ok value => rfl
  | error error => rfl

/-- The code of an error is written as it is. -/
theorem chars_code (error : CompileError) :
    Quoted.chars error.code = '"' :: error.code.toList ++ ['"'] := by
  cases error with
  | _ => cbv

/-- The line of a value is its text, marked as a success. -/
theorem answer_ok (value : Json) : (answer (.ok value)).print ++ "\n" =
    "\x7b\"status\":\"ok\",\"data\":" ++ value.print ++ "\x7d\n" := by
  have status : Quoted.chars "status" = "\"status\"".toList := by decide
  have ok : Quoted.chars "ok" = "\"ok\"".toList := by decide
  have data : Quoted.chars "data" = "\"data\"".toList := by decide
  apply String.toList_injective
  simp [answer, Json.print, Json.chars, Json.memberTexts, status, ok, data,
    List.intercalate_cons_cons]

/-- The line of a refused request is the code and the message of its error. -/
theorem answer_error (error : CompileError) : (answer (.error error)).print ++ "\n" =
    "\x7b\"status\":\"error\",\"code\":\"" ++ error.code ++ "\",\"message\":" ++
      (Json.text error.message).print ++ "\x7d\n" := by
  have status : Quoted.chars "status" = "\"status\"".toList := by decide
  have refused : Quoted.chars "error" = "\"error\"".toList := by decide
  have code : Quoted.chars "code" = "\"code\"".toList := by decide
  have message : Quoted.chars "message" = "\"message\"".toList := by decide
  apply String.toList_injective
  simp [answer, Json.print, Json.chars, Json.memberTexts, status, refused, code, message,
    chars_code, List.intercalate_cons_cons]

end Outcome

namespace Command

variable (command : Command) (file : Option (String × Content)) (input : Content)

/-- A command that loads its configuration and has an answer writes it. -/
theorem run_answered {config : Config} {response : Except CompileError Json}
    (loads : Config.Loads file config) (answers : command.Answers config input response) :
    (command.run file input).Answered response := by
  rcases Config.load_cases file with ⟨found, loadRecords, loaded, _, loadQuiet⟩ | ⟨error, failed, _⟩
  · have result := loads.result_eq
    rw [loaded] at result
    cases result
    rcases answers.work_eq with ⟨records, worked, workQuiet⟩
    have ran : command.run file input = ⟨LogRecord.written .initial loadRecords ++
        LogRecord.written config.logLevel (records ++ []),
          .ok ((answer response).print ++ "\n")⟩ := by
      rw [run, loaded]
      simp only [worked]
      rfl
    rw [ran, List.append_nil]
    refine ⟨rfl, ⟨_, rfl, Outcome.answer_oneLine response, Outcome.read_answer response⟩,
      ?_, ?_, ?_⟩
    · rintro value rfl
      exact Outcome.answer_ok value
    · rintro error rfl
      exact Outcome.answer_error error
    · exact (loadQuiet.written _).append (workQuiet.written _)
  · have result := loads.result_eq
    rw [failed] at result
    cases result

/-- A command without an answer fails with the code of what was wrong first. -/
theorem run_failed (unanswered : ∀ config response, Config.Loads file config →
      ¬ command.Answers config input response) :
    ∃ code, FailureCode file input code ∧ (command.run file input).Failed code := by
  rcases Config.load_cases file with
    ⟨config, loadRecords, loaded, loads, loadQuiet⟩ | ⟨error, failed, code⟩
  · rcases work_of_no_answer fun response => unanswered config response loads with
      ⟨error, worked, fault⟩
    have ran : command.run file input = ⟨LogRecord.written .initial loadRecords ++
        LogRecord.written config.logLevel [error.record], .error error⟩ := by
      rw [run, loaded]
      simp only [worked]
      rfl
    rw [ran, CommandError.written_record]
    have reported : Outcome.Failed ⟨LogRecord.written .initial loadRecords ++ [error.record.line],
        .error error⟩ error.code :=
      ⟨rfl, rfl, error, rfl, rfl, _, loadQuiet.written _, rfl⟩
    rcases fault with ⟨noText, code⟩ | ⟨⟨text, holds⟩, code⟩
    · exact ⟨_, .bytes loads noText, code ▸ reported⟩
    · exact ⟨_, .text loads holds, code ▸ reported⟩
  · have refused (config : Config) : ¬ Config.Loads file config := by
      intro loads
      have result := loads.result_eq
      rw [failed] at result
      cases result
    have ran : command.run file input =
        ⟨LogRecord.written .initial [error.record], .error error⟩ := by
      rw [run, failed]
      rfl
    rw [ran, CommandError.written_record]
    have reported : Outcome.Failed ⟨[error.record.line], .error error⟩ error.code :=
      ⟨rfl, rfl, error, rfl, rfl, [], List.forall_mem_nil _, rfl⟩
    exact ⟨_, .config refused, code ▸ reported⟩

end Command

/--
A command answers if its configuration loads and its input is accepted, and then it writes what
the library answers. Otherwise it writes nothing and reports one failure, as the last thing.
-/
theorem command_outcome (command : Command) (file : Option (String × Content)) (input : Content) :
    (∀ config response, Config.Loads file config → command.Answers config input response →
        (command.run file input).Answered response) ∧
      ((∀ config response, Config.Loads file config → ¬ command.Answers config input response) →
        ∃ code, FailureCode file input code ∧ (command.run file input).Failed code) :=
  ⟨fun _ _ => command.run_answered file input, command.run_failed file input⟩

/--
Requests that are sent as lists are answered, with a query, with a page and with the error of a
table that has no name. An empty input is not answered.
-/
theorem command_outcome_listAndEmpty :
    (∃ response, Command.Answers .default (.ok "[\"t\",[0,9]]".toUTF8) .compile response ∧
        (Command.run .compile none (.ok "[\"t\",[0,9]]".toUTF8)).Answered response ∧
        (Command.run .compile none (.ok "[\"t\",[0,9]]".toUTF8)).output =
          "\x7b\"status\":\"ok\",\"data\":\x7b\"sql\":" ++
            "\"SELECT * FROM \\\"t\\\" OFFSET ? ROWS FETCH NEXT ? ROWS ONLY\"," ++
            "\"binds\":[0,10]\x7d\x7d\n") ∧
      (∃ response, Command.Answers .default
            (.ok "[[0,9],[\x7b\"v\":[null,-5,\"\\n\"]\x7d]]".toUTF8) .shape response ∧
          (Command.run .shape none
            (.ok "[[0,9],[\x7b\"v\":[null,-5,\"\\n\"]\x7d]]".toUTF8)).Answered response ∧
          (Command.run .shape none
              (.ok "[[0,9],[\x7b\"v\":[null,-5,\"\\n\"]\x7d]]".toUTF8)).output =
            "\x7b\"status\":\"ok\",\"data\":\x7b\"rows\":" ++
              "[\x7b\"v\":[null,-5,\"\\n\"]\x7d],\"lastRow\":1\x7d\x7d\n") ∧
      (∃ response, Command.Answers .default (.ok "[\"\",[0,9]]".toUTF8) .explain response ∧
          (Command.run .explain none (.ok "[\"\",[0,9]]".toUTF8)).Answered response ∧
          (Command.run .explain none (.ok "[\"\",[0,9]]".toUTF8)).output =
            "\x7b\"status\":\"error\",\"code\":\"GRIDSQL_EMPTY_IDENTIFIER\"," ++
              "\"message\":\"Empty identifier in table name\"\x7d\n") ∧
      ∃ code, FailureCode none (.ok "".toUTF8) code ∧
        (Command.run .compile none (.ok "".toUTF8)).Failed code := by
  refine ⟨?_, ?_, ?_, ?_⟩
  · have read : CompileInput.decode.run "[\"t\",[0,9]]" = .ok ⟨"t", .new 0 9, .empty⟩ := by cbv
    have accepted : CompileInput.decode.Accepts (.ok "[\"t\",[0,9]]".toUTF8) _ :=
      ⟨_, rfl, ⟨'[', by decide, by decide⟩, read⟩
    have compiled : (CompileInput.compile ⟨"t", .new 0 9, .empty⟩ .default).result = .ok
        ⟨"SELECT * FROM \"t\" OFFSET ? ROWS FETCH NEXT ? ROWS ONLY",
          [.number (.integer 0), .number (.integer 10)]⟩ := by cbv
    have printed : (Query.json ⟨"SELECT * FROM \"t\" OFFSET ? ROWS FETCH NEXT ? ROWS ONLY",
        [.number (.integer 0), .number (.integer 10)]⟩).print = "\x7b\"sql\":" ++
          "\"SELECT * FROM \\\"t\\\" OFFSET ? ROWS FETCH NEXT ? ROWS ONLY\"," ++
          "\"binds\":[0,10]\x7d" := by cbv
    have answered := (command_outcome .compile none _).1 _ _ .unnamed (.compile accepted)
    have output := answered.output_ok _ (congrArg (Except.map Query.json) compiled)
    rw [printed] at output
    exact ⟨_, .compile accepted, answered, output⟩
  · have read : ShapeInput.decode.run "[[0,9],[\x7b\"v\":[null,-5,\"\\n\"]\x7d]]" = .ok
        ⟨.new 0 9, [OrderedMap.empty.insert "v" (.list [.null, .ofInt (-5), .text "\n"])],
          .empty, none, none⟩ := by cbv
    have accepted : ShapeInput.decode.Accepts
        (.ok "[[0,9],[\x7b\"v\":[null,-5,\"\\n\"]\x7d]]".toUTF8) _ :=
      ⟨_, rfl, ⟨'[', by decide, by decide⟩, read⟩
    have shaped : (ShapeInput.shape ⟨.new 0 9,
        [OrderedMap.empty.insert "v" (.list [.null, .ofInt (-5), .text "\n"])],
          .empty, none, none⟩ .default).result = .ok
        ⟨[OrderedMap.empty.insert "v" (.list [.null, .ofInt (-5), .text "\n"])], 1,
          none, none, none⟩ := rfl
    have printed : (RowsPage.json
        ⟨[OrderedMap.empty.insert "v" (.list [.null, .ofInt (-5), .text "\n"])], 1,
          none, none, none⟩).print = "\x7b\"rows\":" ++
            "[\x7b\"v\":[null,-5,\"\\n\"]\x7d],\"lastRow\":1\x7d" := by cbv
    have answered := (command_outcome .shape none _).1 _ _ .unnamed (.shape accepted)
    have output := answered.output_ok _ (congrArg (Except.map RowsPage.json) shaped)
    rw [printed] at output
    exact ⟨_, .shape accepted, answered, output⟩
  · have read : CompileInput.decode.run "[\"\",[0,9]]" = .ok ⟨"", .new 0 9, .empty⟩ := by cbv
    have accepted : CompileInput.decode.Accepts (.ok "[\"\",[0,9]]".toUTF8) _ :=
      ⟨_, rfl, ⟨'[', by decide, by decide⟩, read⟩
    have printed : (Json.text (CompileError.message (.emptyIdentifier .tableName))).print =
        "\"Empty identifier in table name\"" := by decide
    have answered := (command_outcome .explain none _).1 _ _ .unnamed (.explain accepted)
    have output := answered.output_error (.emptyIdentifier .tableName) rfl
    rw [printed] at output
    exact ⟨_, .explain accepted, answered, output⟩
  · apply (command_outcome .compile none _).2
    rintro config response _ (⟨text, holds, ⟨character, characterMem, _⟩, _⟩ | _ | _)
    rw [← Content.Holds.unique rfl holds] at characterMem
    cases characterMem

end RowQuery
