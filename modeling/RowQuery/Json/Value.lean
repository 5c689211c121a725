import RowQuery.Json.Number

/-!
# Document values

`Json` is the value of a document: what rows carry through the library unchanged, and
what every answer of the library is turned into before it is written. The members of
an object keep their order.
-/

namespace RowQuery

/-- A document value. -/
inductive Json where
  | null
  | bool (value : Bool)
  | number (value : Number)
  | text (content : String)
  | list (items : List Json)
  /-- Named values, in order. -/
  | object (members : List (String × Json))
  deriving Inhabited, Repr

namespace Json

/-- A whole number as a value. -/
def ofInt (value : Int) : Json := .number (.integer value)

/-- A natural number as a value. -/
def ofNat (value : Nat) : Json := .ofInt value

/-- A list of texts as a value. -/
def ofTexts (texts : List String) : Json := .list (texts.map .text)

/-- The value of an optional text, with `null` for none. -/
def ofText? : Option String → Json
  | none => .null
  | some content => .text content

/-- The members of an object that has one under `name` only if there is a value for it. -/
def optional (name : String) : Option Json → List (String × Json)
  | none => []
  | some value => [(name, value)]

/-- The member of an object under a name. -/
def get? (name : String) : Json → Option Json
  | .object members => members.lookup name
  | _ => none

end Json

end RowQuery
