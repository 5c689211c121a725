import RowQuery.Collection.OrderedSet
import RowQuery.Json.Reader
import RowQuery.Wire.Fault

/-!
# Decoders

A `Decoder α` reads a value of type `α` from a document. It also knows how many more
lists and objects may be opened inside each other from here on: a text may nest
`Decoder.nesting` deep, and one level more is as bad as a broken text.

Decoders visit a document in the order of its text and stop at the first fault. A
value of the wrong type is told from a broken one by `Document.mismatch`: what opens a
list or an object is enough to know its type, while every other value must be readable
before its type is held against it.
-/

namespace RowQuery

/-- Reads a value from a document, with room for so many levels of nesting. -/
abbrev Decoder (α : Type) := Nat → Document → Except Fault α

/-- The fault of a document that stands where a value of another type is expected. -/
def Document.mismatch : Document → Fault
  | .cut => .malformed
  | .number none => .malformed
  | .text none => .malformed
  | _ => .wrongType

namespace Decoder

variable {α β : Type}

/-- How deep lists and objects may nest. -/
def nesting : Nat := 127

/-- Reads a value and changes it. -/
def map (change : α → β) (decoder : Decoder α) : Decoder β :=
  fun room document => (decoder room document).map change

/-- A text. -/
def text : Decoder String
  | _, .text (some content) => .ok content
  | _, document => .error document.mismatch

/-- A truth value. -/
def bool : Decoder Bool
  | _, .bool value => .ok value
  | _, document => .error document.mismatch

/-- A number of any kind. -/
def number : Decoder Number
  | _, .number (some value) => .ok value
  | _, document => .error document.mismatch

/-- A whole number from `low` to `high`, both ends included. -/
def integer (low high : Int) : Decoder Int
  | _, .number (some (.integer value)) =>
      if low ≤ value ∧ value ≤ high then .ok value else .error .wrongValue
  | _, document => .error document.mismatch

/-- A signed whole number of 64 bits. -/
def int64 : Decoder Int64 := (integer Int64.minValue.toInt Int64.maxValue.toInt).map Int64.ofInt

/-- An unsigned whole number of 64 bits. -/
def nat64 : Decoder Nat := (integer 0 (UInt64.size - 1)).map Int.toNat

/-- A value, or none for `null`. -/
def optional (decoder : Decoder α) : Decoder (Option α)
  | _, .null => .ok none
  | room, document => (decoder room document).map some

/-- The values of the items of a list, from left to right. -/
def items (decoder : Decoder α) (room : Nat) : List Document → Except Fault (List α)
  | [] => .ok []
  | item :: rest => do
      let value ← decoder room item
      let values ← items decoder room rest
      pure (value :: values)

/-- A list whose items all have the same type. -/
def list (decoder : Decoder α) : Decoder (List α)
  | 0, .list _ => .error .malformed
  | room + 1, .list found => decoder.items room found
  | _, document => .error document.mismatch

/-- A list of texts, taken as a set. -/
def textSet : Decoder OrderedSet := (list text).map OrderedSet.ofList

/-- The names and values of the members of an object, from left to right. -/
def members (decoder : Decoder α) (room : Nat) :
    List (Key × Document) → Except Fault (List (String × α))
  | [] => .ok []
  | (some name, content) :: rest => do
      let value ← decoder room content
      let entries ← members decoder room rest
      pure ((name, value) :: entries)
  | _ :: _ => .error .malformed

/-- A map: an object whose members all have the same type. -/
def orderedMap (decoder : Decoder α) : Decoder (OrderedMap α)
  | 0, .object _ => .error .malformed
  | room + 1, .object found => (decoder.members room found).map OrderedMap.ofList
  | _, document => .error document.mismatch

/-- Any value, as it stands. -/
def json : Decoder Json := fun room document =>
  match document.json? room with
  | some value => .ok value
  | none => .error .malformed

/-- The value that a name stands for, among named alternatives. -/
def named (alternatives : List (String × α)) (name : String) : Except Fault α :=
  match alternatives.lookup name with
  | some value => .ok value
  | none => .error (.unknownVariant name (alternatives.map Prod.fst))

/-- The empty value that may stand beside the name of an alternative. -/
def unit : Decoder Unit
  | _, .null => .ok ()
  | _, document => .error document.mismatch

/--
One of several named alternatives: the name as a text, or an object whose one member
has that name and no value.
-/
def enumeration (alternatives : List (String × α)) : Decoder α
  | _, .text (some name) => named alternatives name
  | room + 1, .object ((some name, content) :: rest) => do
      let value ← named alternatives name
      unit room content
      if rest.isEmpty then pure value else .error .malformed
  | _, _ => .error .malformed

/-- Reads a whole text. Nothing but blanks may follow the document. -/
def run (decoder : Decoder α) (source : String) : Except Fault α := do
  let (document, rest) := Document.read source.toList
  let value ← decoder nesting document
  if (Document.skipBlanks rest).isEmpty then pure value else .error .malformed

end Decoder

end RowQuery
