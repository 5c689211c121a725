import RowQuery.Collection.OrderedMap
import RowQuery.Json.Value

/-!
# What can be read of a text

A `Document` is the tree of everything that could be read of a text, up to the place
where reading had to stop. It keeps more than a value does, because what is wrong with
a text depends on who asks: half of a pair in a quoted text, a number that is too
large and any depth of nesting are harmless in a value that nobody looks at, and
repeated names matter only to some readers.

The place where reading stopped is the leaf `cut`. A list or an object that is broken
off ends with it, so that a reader who goes through the tree in order meets the faults
of a text in the order in which they stand there.

`Document.whole` says that a document holds no `cut`. `Document.json?` is the value of a
document whose texts and numbers all have one and whose nesting is not too deep.
-/

namespace RowQuery

/--
The name of a member. It is missing if the quoted text that stands there holds half of
a pair, and where no name could be read.
-/
abbrev Key := Option String

/-- What could be read of a text. -/
inductive Document where
  | null
  | bool (value : Bool)
  /-- A number, which has no value if it is too large. -/
  | number (value : Option Number)
  /-- A text, which has no content if it holds half of a pair. -/
  | text (content : Option String)
  | list (items : List Document)
  /-- An object, with repeated names kept. -/
  | object (members : List (Key × Document))
  /-- The place where reading stopped. -/
  | cut
  deriving Inhabited, Repr

namespace Document

mutual

/-- Nothing of a document is missing. -/
def whole : Document → Bool
  | .list items => wholeItems items
  | .object members => wholeMembers members
  | .cut => false
  | _ => true

/-- Nothing is missing in any of the items. -/
def wholeItems : List Document → Bool
  | [] => true
  | item :: rest => item.whole && wholeItems rest

/-- Nothing is missing in any of the members' values. -/
def wholeMembers : List (Key × Document) → Bool
  | [] => true
  | (_, value) :: rest => value.whole && wholeMembers rest

end

mutual

/--
The value of a document in which lists and objects nest at most `room` deep. Of
members with the same name the last one counts, at the place of the first.
-/
def json? (room : Nat) : Document → Option Json
  | .null => some .null
  | .bool value => some (.bool value)
  | .number value => value.map .number
  | .text content => content.map .text
  | .list items =>
      match room with
      | 0 => none
      | room + 1 => (jsonItems? room items).map .list
  | .object members =>
      match room with
      | 0 => none
      | room + 1 => (jsonMembers? room members).map fun entries =>
          .object (OrderedMap.ofList entries).entries
  | .cut => none

/-- The values of the items of a list, if all of them have one. -/
def jsonItems? (room : Nat) : List Document → Option (List Json)
  | [] => some []
  | item :: rest => do
      let value ← item.json? room
      let values ← jsonItems? room rest
      pure (value :: values)

/-- The names and values of the members of an object, if all of them have both. -/
def jsonMembers? (room : Nat) : List (Key × Document) → Option (List (String × Json))
  | [] => some []
  | (some name, content) :: rest => do
      let value ← content.json? room
      let entries ← jsonMembers? room rest
      pure ((name, value) :: entries)
  | _ :: _ => none

end

end Document

mutual

/-- A value as a document that holds all of it. -/
def Json.document : Json → Document
  | .null => .null
  | .bool value => .bool value
  | .number value => .number (some value)
  | .text content => .text (some content)
  | .list items => .list (Json.documentItems items)
  | .object members => .object (Json.documentMembers members)

/-- The items of a list as documents. -/
def Json.documentItems : List Json → List Document
  | [] => []
  | item :: rest => item.document :: Json.documentItems rest

/-- The members of an object as documents, under their names. -/
def Json.documentMembers : List (String × Json) → List (Key × Document)
  | [] => []
  | (name, value) :: rest => (some name, value.document) :: Json.documentMembers rest

end

end RowQuery
