/-!
# Faults of documents

A document that is not what a reader expects has one fault: the first one in the order
of reading. The messages name fields and variants where that helps the sender; of a
type, a value, a length or the grammar they only say which of them is wrong.
-/

namespace RowQuery

/-- Why a document was refused. -/
inductive Fault where
  /-- The text is not a document, nests too deep, or has a number that is too large. -/
  | malformed
  /-- A value of another type is expected. -/
  | wrongType
  /-- A value is of the right type, but out of range. -/
  | wrongValue
  /-- A list has too few items, or too many. -/
  | wrongLength
  | missingField (name : String)
  | duplicateField (name : String)
  /-- A field that the reader does not know, and the fields that it does. -/
  | unknownField (name : String) (expected : List String)
  /-- A variant that the reader does not know, and the variants that it does. -/
  | unknownVariant (name : String) (expected : List String)
  /-- A value that is none of the alternatives of a type. -/
  | noVariant (type : String)
  deriving DecidableEq, Repr

namespace Fault

/-- A name between backquotes. -/
def quote (name : String) : String := "`" ++ name ++ "`"

/-- What was expected: one name, two names, or one of several. -/
def expectation : List String → String
  | [] => "there are none"
  | [only] => "expected " ++ quote only
  | [first, second] => "expected " ++ quote first ++ " or " ++ quote second
  | names => "expected one of " ++ String.intercalate ", " (names.map quote)

/-- The message of a fault. -/
def message : Fault → String
  | .malformed => "syntax"
  | .wrongType => "invalid type"
  | .wrongValue => "invalid value"
  | .wrongLength => "invalid length"
  | .missingField name => "missing field " ++ quote name
  | .duplicateField name => "duplicate field " ++ quote name
  | .unknownField name expected => "unknown field " ++ quote name ++ ", " ++ expectation expected
  | .unknownVariant name expected =>
      "unknown variant " ++ quote name ++ ", " ++ expectation expected
  | .noVariant type => "data did not match any variant of untagged enum " ++ type

end Fault

end RowQuery
