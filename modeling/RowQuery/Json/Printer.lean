import RowQuery.Json.Quoted
import RowQuery.Json.Value

/-!
# Writing documents

Documents are written without blanks, on one line. The members of an object come in
their own order, and only what has to be escaped in a text is escaped.
-/

namespace RowQuery

namespace Json

mutual

/-- The text of a value. -/
def chars : Json → List Char
  | .null => ['n', 'u', 'l', 'l']
  | .bool true => ['t', 'r', 'u', 'e']
  | .bool false => ['f', 'a', 'l', 's', 'e']
  | .number value => value.chars
  | .text content => Quoted.chars content
  | .list items => '[' :: List.intercalate [','] (itemTexts items) ++ [']']
  | .object members => '{' :: List.intercalate [','] (memberTexts members) ++ ['}']

/-- The text of each item. -/
def itemTexts : List Json → List (List Char)
  | [] => []
  | item :: rest => item.chars :: itemTexts rest

/-- The text of each member: its name, a colon and its value. -/
def memberTexts : List (String × Json) → List (List Char)
  | [] => []
  | (name, value) :: rest => (Quoted.chars name ++ ':' :: value.chars) :: memberTexts rest

end

/-- A value as one line of text, without a line end. -/
def print (value : Json) : String := String.ofList value.chars

end Json

end RowQuery
