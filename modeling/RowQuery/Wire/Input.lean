import RowQuery.Page.Shape
import RowQuery.Text.Blank
import RowQuery.Wire.Page
import RowQuery.Wire.Request

/-!
# Inputs of commands

A command reads one document. To compile, it is a request with its table and the
values of its pivot columns; to shape, a request with the rows that were returned for
it, or with the error that came instead.
-/

namespace RowQuery

/-- What is compiled or explained. -/
structure CompileInput where
  table : String
  request : RowsRequest
  pivotValues : PivotValues
  deriving DecidableEq, Repr

/-- The fields of what is compiled. -/
inductive CompileInputField where
  | table
  | request
  | pivotValues
  deriving DecidableEq, Repr

namespace CompileInput

/-- How the input of a compile is sent. -/
def format : RecordFormat CompileInputField where
  Content
    | .table => String
    | .request => RowsRequest
    | .pivotValues => PivotValues
  fields := [.table, .request, .pivotValues]
  name
    | .table => "table"
    | .request => "request"
    | .pivotValues => "pivotValues"
  aliases _ := []
  required field := field = .table || field = .request
  closed := false
  surplus := .malformed
  content
    | .table => Decoder.text
    | .request => RowsRequest.decode
    | .pivotValues => PivotValues.decode

/-- Reads the input of a compile. Without values, no pivot column has any. -/
def decode : Decoder CompileInput :=
  format.decode fun slots => do
    let table ← format.require slots .table
    let request ← format.require slots .request
    pure ⟨table, request, (slots .pivotValues).getD .empty⟩

/-- The query of the input. -/
def compile (input : CompileInput) (config : Config) : Traced CompileError Query :=
  input.request.compile config input.table input.pivotValues

/-- The explanation of the input. -/
def explain (input : CompileInput) (config : Config) : Traced CompileError Explanation :=
  input.request.explain config input.table input.pivotValues

end CompileInput

/-- What is shaped. -/
structure ShapeInput where
  request : RowsRequest
  rows : List Row
  pivotValues : PivotValues
  query : Option Query
  /-- The error that came instead of rows. -/
  error : Option String
  deriving Repr

/-- The fields of what is shaped. -/
inductive ShapeInputField where
  | request
  | rows
  | pivotValues
  | query
  | error
  deriving DecidableEq, Repr

namespace ShapeInput

/-- How rows come in to be shaped. -/
def format : RecordFormat ShapeInputField where
  Content
    | .request => RowsRequest
    | .rows => List Row
    | .pivotValues => PivotValues
    | .query => Option Query
    | .error => Option String
  fields := [.request, .rows, .pivotValues, .query, .error]
  name
    | .request => "request"
    | .rows => "rows"
    | .pivotValues => "pivotValues"
    | .query => "query"
    | .error => "error"
  aliases _ := []
  required field := field = .request
  closed := false
  surplus := .malformed
  content
    | .request => RowsRequest.decode
    | .rows => Decoder.list Row.decode
    | .pivotValues => PivotValues.decode
    | .query => Decoder.optional Query.decode
    | .error => Decoder.optional Decoder.text

/-- Reads what is shaped. Only the request is needed. -/
def decode : Decoder ShapeInput :=
  format.decode fun slots => do
    let request ← format.require slots .request
    pure {
      request := request
      rows := (slots .rows).getD []
      pivotValues := (slots .pivotValues).getD .empty
      query := (slots .query).getD none
      error := (slots .error).getD none }

/-- The page of the rows, or of the error that came instead of them. -/
def shape (input : ShapeInput) (config : Config) : Traced CompileError RowsPage :=
  match input.error with
  | some error => pure (config.shapeError error input.query)
  | none => input.request.shape config input.rows input.pivotValues input.query

end ShapeInput

/-- Why the input of a command was refused. -/
inductive InputError where
  /-- There is nothing but blanks. -/
  | empty
  /-- It is not the document that the command expects. -/
  | unreadable (fault : Fault)
  deriving DecidableEq, Repr

/-- The message of a refused input. -/
def InputError.message : InputError → String
  | .empty => "Empty input"
  | .unreadable fault => "JSON error: " ++ fault.message

/-- Reads the input of a command. -/
def Decoder.parseInput {α : Type} (decoder : Decoder α) (text : String) : Except InputError α :=
  if text.toList.all isBlank then .error .empty
  else
    match decoder.run text with
    | .ok value => .ok value
    | .error fault => .error (.unreadable fault)

end RowQuery
