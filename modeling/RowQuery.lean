import RowQuery.Main
import RowQuery.Sql.Display
import RowQuery.Wire.Input
import RowQuery.Proofs.Sql.Lexing
import RowQuery.Proofs.Sql.Reading
import RowQuery.Proofs.Sql.Lossless
import RowQuery.Proofs.Sql.QuotedRuns
import RowQuery.Proofs.Sql.Scanner
import RowQuery.Proofs.Sql.Placeholders
import RowQuery.Proofs.Sql.Stretches
import RowQuery.Proofs.Sql.Conjunctions
import RowQuery.Proofs.Sql.BindCount
import RowQuery.Proofs.Sql.Patterns
import RowQuery.Proofs.Sql.Brackets
import RowQuery.Proofs.Compile.Outcome
import RowQuery.Proofs.Compile.Numbering
import RowQuery.Proofs.Compile.Alignment
import RowQuery.Proofs.Compile.Resolved
import RowQuery.Proofs.Compile.FilterPredicates
import RowQuery.Proofs.Compile.TextSearch
import RowQuery.Proofs.Compile.BindOrder
import RowQuery.Proofs.Compile.Faults
import RowQuery.Proofs.Compile.PivotColumns
import RowQuery.Proofs.Compile.PivotRows
import RowQuery.Proofs.Compile.ValueIndependence
import RowQuery.Proofs.Compile.UnknownOperators
import RowQuery.Proofs.Compile.DrillDown
import RowQuery.Proofs.Compile.Trace
import RowQuery.Proofs.Compile.Window
import RowQuery.Proofs.Compile.PivotNames
import RowQuery.Proofs.Compile.Clauses
import RowQuery.Proofs.Compile.WellFormed
import RowQuery.Proofs.Compile.GroupOrder
import RowQuery.Proofs.Compile.PivotPositions
import RowQuery.Proofs.Compile.SuppliedValues
import RowQuery.Proofs.Compile.Explaining
import RowQuery.Proofs.Page.Paging
import RowQuery.Proofs.Json.Reading
import RowQuery.Proofs.Json.Printing
import RowQuery.Proofs.Log.Lines
import RowQuery.Proofs.Wire.Records
import RowQuery.Proofs.Wire.Requests
import RowQuery.Proofs.Wire.RoundTrip
import RowQuery.Proofs.Wire.Members
import RowQuery.Proofs.Wire.Edits
import RowQuery.Proofs.Wire.Spellings
import RowQuery.Proofs.Command.Outcome
