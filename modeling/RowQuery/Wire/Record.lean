import RowQuery.Wire.Decoder

/-!
# Records in documents

A record is sent as an object with one member per field, in any order, or as a list of
the fields' contents in the order of declaration. A `RecordFormat` lists the fields,
the names each may be sent under, and how its content is read; `RecordFormat.decode`
is the reader that follows from it.

Reading goes through the members in order and puts the content of each field into its
slot. A field may occur once, under whatever name. Members with unknown names are
passed over, unless the record is closed. In a list, fields at the end that are not
required may be left out.

Which slots are filled, and with what, does not depend on the order of the members;
what depends on it is only which fault is found first.
-/

namespace RowQuery

/-- The fields of a record, and how they are read. -/
structure RecordFormat (Field : Type) where
  /-- The type of a field's content. -/
  Content : Field → Type
  fields : List Field
  name : Field → String
  /-- Other names that stand for a field. -/
  aliases : Field → List String
  required : Field → Bool
  /-- Whether members with unknown names are refused. -/
  closed : Bool
  /-- The fault of a list with more items than there are fields. -/
  surplus : Fault
  /-- How a field's content is read. -/
  content : (field : Field) → Decoder (Content field)

namespace RecordFormat

variable {Field : Type} [DecidableEq Field] {α : Type}

/-- The contents of the fields that were found. -/
abbrev Slots (format : RecordFormat Field) :=
  (field : Field) → Option (format.Content field)

/-- No field was found. -/
def noSlots (format : RecordFormat Field) : format.Slots := fun _ => none

/-- Puts a content into the slot of a field. -/
def fill (format : RecordFormat Field) (slots : format.Slots) (field : Field)
    (content : format.Content field) : format.Slots :=
  fun other => if same : field = other then some (same ▸ content) else slots other

@[simp]
theorem fill_same (format : RecordFormat Field) (slots : format.Slots) (field : Field)
    (content : format.Content field) : format.fill slots field content field = some content := by
  simp [fill]

theorem fill_other (format : RecordFormat Field) (slots : format.Slots) {field other : Field}
    (content : format.Content field) (different : field ≠ other) :
    format.fill slots field content other = slots other := by
  simp [fill, different]

/-- The field that a name stands for. -/
def field? (format : RecordFormat Field) (name : String) : Option Field :=
  format.fields.find? fun field => format.name field = name || (format.aliases field).contains name

/-- Fills the slots from the members of an object. -/
def fillMembers (format : RecordFormat Field) (room : Nat) (slots : format.Slots) :
    List (Key × Document) → Except Fault format.Slots
  | [] => .ok slots
  | (some name, document) :: rest =>
      match format.field? name with
      | none =>
          if format.closed then .error (.unknownField name (format.fields.map format.name))
          else if document.whole then format.fillMembers room slots rest
          else .error .malformed
      | some field =>
          if (slots field).isSome then .error (.duplicateField (format.name field))
          else do
            let content ← format.content field room document
            format.fillMembers room (format.fill slots field content) rest
  | _ :: _ => .error .malformed

/-- Fills the slots of fields from the items of a list. -/
def fillItems (format : RecordFormat Field) (room : Nat) (slots : format.Slots) :
    List Field → List Document → Except Fault format.Slots
  | [], [] => .ok slots
  | [], _ :: _ => .error format.surplus
  | field :: fields, [] =>
      if format.required field then .error .wrongLength
      else format.fillItems room slots fields []
  | field :: fields, document :: rest => do
      let content ← format.content field room document
      format.fillItems room (format.fill slots field content) fields rest

/-- The slots that a document fills. -/
def slots (format : RecordFormat Field) : Decoder format.Slots
  | 0, .object _ => .error .malformed
  | 0, .list _ => .error .malformed
  | room + 1, .object members => format.fillMembers room format.noSlots members
  | room + 1, .list items => format.fillItems room format.noSlots format.fields items
  | _, document => .error document.mismatch

/-- The content of a required field. -/
def require (format : RecordFormat Field) (slots : format.Slots) (field : Field) :
    Except Fault (format.Content field) :=
  match slots field with
  | some content => .ok content
  | none => .error (.missingField (format.name field))

/-- Reads a record and builds a value from its slots. -/
def decode (format : RecordFormat Field) (build : format.Slots → Except Fault α) : Decoder α :=
  fun room document => format.slots room document >>= build

end RecordFormat

end RowQuery
