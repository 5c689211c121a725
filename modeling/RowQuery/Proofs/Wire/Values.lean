import RowQuery.Proofs.Compile.Outcome
import RowQuery.Wire.Decoder

/-!
# Values that are sent and read

A value is recovered if reading the document that is sent of it gives the value back. This
file shows it for the values that documents are made of: numbers, texts, named alternatives,
and lists, sets and maps of values that are recovered one by one.

In the other direction it shows what is known of a value because it was read: the items of a
list and the values of a map were read themselves, and a document value that was read nests
no deeper than there was room and has no name twice in an object. This is all that is needed
to recover it.
-/

namespace RowQuery

namespace Decoder

variable {α : Type}

/-- Some document is read as the value. -/
def Yields (decoder : Decoder α) (room : Nat) (value : α) : Prop :=
  ∃ document, decoder room document = .ok value

/-- What is sent of a value is read as the value. -/
def Recovers (decoder : Decoder α) (json : α → Json) (room : Nat) (value : α) : Prop :=
  decoder room (json value).document = .ok value

end Decoder

/-- A document value nests at most so deep, and none of its objects has a name twice. -/
inductive Json.Fits : Nat → Json → Prop where
  | null {room : Nat} : Fits room .null
  | bool {room : Nat} (value : Bool) : Fits room (.bool value)
  | number {room : Nat} (value : Number) : Fits room (.number value)
  | text {room : Nat} (content : String) : Fits room (.text content)
  | list {room : Nat} {items : List Json} (each : ∀ item ∈ items, Fits room item) :
      Fits (room + 1) (.list items)
  | object {room : Nat} {members : List (String × Json)}
      (distinct : (members.map Prod.fst).Nodup) (each : ∀ member ∈ members, Fits room member.2) :
      Fits (room + 1) (.object members)

namespace Json

theorem documentItems_eq (items : List Json) : documentItems items = items.map document := by
  induction items with
  | nil => rfl
  | cons first others ih => rw [documentItems, ih, List.map_cons]

theorem Fits.mono {room larger : Nat} {value : Json} (fits : value.Fits room)
    (enough : room ≤ larger) : value.Fits larger := by
  induction fits generalizing larger with
  | null => exact .null
  | bool value => exact .bool value
  | number value => exact .number value
  | text content => exact .text content
  | list _ ih =>
      obtain ⟨more, rfl⟩ := Nat.exists_eq_add_one.mpr (Nat.lt_of_lt_of_le (Nat.succ_pos _) enough)
      exact .list fun item itemMem => ih item itemMem (Nat.le_of_succ_le_succ enough)
  | object distinct _ ih =>
      obtain ⟨more, rfl⟩ := Nat.exists_eq_add_one.mpr (Nat.lt_of_lt_of_le (Nat.succ_pos _) enough)
      exact .object distinct fun member memberMem =>
        ih member memberMem (Nat.le_of_succ_le_succ enough)

theorem jsonItems?_documentItems {room : Nat} {items : List Json}
    (each : ∀ item ∈ items, item.document.json? room = some item) :
    Document.jsonItems? room (documentItems items) = some items := by
  induction items with
  | nil => rfl
  | cons first others ih =>
      rw [List.forall_mem_cons] at each
      simp [documentItems, Document.jsonItems?, each.1, ih each.2]

theorem jsonMembers?_documentMembers {room : Nat} {members : List (String × Json)}
    (each : ∀ member ∈ members, member.2.document.json? room = some member.2) :
    Document.jsonMembers? room (documentMembers members) = some members := by
  induction members with
  | nil => rfl
  | cons first others ih =>
      rw [List.forall_mem_cons] at each
      simp [documentMembers, Document.jsonMembers?, each.1, ih each.2]

/-- A document value that fits is read as it was sent. -/
theorem Fits.json?_document {room : Nat} {value : Json} (fits : value.Fits room) :
    value.document.json? room = some value := by
  induction fits with
  | null => rfl
  | bool value => rfl
  | number value => rfl
  | text content => rfl
  | list _ ih => simp [document, Document.json?, jsonItems?_documentItems ih]
  | object distinct _ ih =>
      simp [document, Document.json?, jsonMembers?_documentMembers ih,
        OrderedMap.entries_ofList distinct]

end Json

namespace Document

mutual

/-- A document value that was read fits. -/
theorem fits_of_json? : (document : Document) → {room : Nat} → {value : Json} →
    document.json? room = some value → value.Fits room
  | .null, _, _, read => by
      cases read
      exact .null
  | .bool value, _, _, read => by
      cases read
      exact .bool value
  | .number found, _, _, read => by
      rcases Option.map_eq_some_iff.mp read with ⟨value, _, rfl⟩
      exact .number value
  | .text found, _, _, read => by
      rcases Option.map_eq_some_iff.mp read with ⟨content, _, rfl⟩
      exact .text content
  | .list items, 0, _, read => by cases read
  | .list items, room + 1, _, read => by
      rcases Option.map_eq_some_iff.mp read with ⟨values, readItems, rfl⟩
      exact .list (fits_of_jsonItems? items readItems)
  | .object members, 0, _, read => by cases read
  | .object members, room + 1, _, read => by
      rcases Option.map_eq_some_iff.mp read with ⟨entries, readMembers, rfl⟩
      exact .object (OrderedMap.ofList entries).distinct fun member memberMem =>
        fits_of_jsonMembers? members readMembers member (OrderedMap.mem_of_mem_ofList memberMem)
  | .cut, _, _, read => by cases read

theorem fits_of_jsonItems? : (items : List Document) → {room : Nat} → {values : List Json} →
    jsonItems? room items = some values → ∀ value ∈ values, value.Fits room
  | [], _, _, read => by
      cases read
      simp
  | item :: rest, _, _, read => by
      simp only [jsonItems?, bind, pure, Option.bind_eq_some_iff, Option.some.injEq] at read
      rcases read with ⟨first, readFirst, others, readOthers, rfl⟩
      exact List.forall_mem_cons.mpr
        ⟨fits_of_json? item readFirst, fits_of_jsonItems? rest readOthers⟩

theorem fits_of_jsonMembers? : (members : List (Key × Document)) → {room : Nat} →
    {entries : List (String × Json)} → jsonMembers? room members = some entries →
      ∀ entry ∈ entries, entry.2.Fits room
  | [], _, _, read => by
      cases read
      simp
  | (none, _) :: _, _, _, read => by cases read
  | (some name, content) :: rest, _, _, read => by
      simp only [jsonMembers?, bind, pure, Option.bind_eq_some_iff, Option.some.injEq] at read
      rcases read with ⟨first, readFirst, others, readOthers, rfl⟩
      exact List.forall_mem_cons.mpr
        ⟨fits_of_json? content readFirst, fits_of_jsonMembers? rest readOthers⟩

end

end Document

namespace Decoder

variable {α : Type} {decoder : Decoder α} {json : α → Json} {room : Nat}

theorem json_recovers {value : Json} (fits : value.Fits room) :
    Decoder.json.Recovers id room value := by
  rw [Recovers, Decoder.json, id, fits.json?_document]

theorem Yields.json_fits {value : Json} (yields : Decoder.json.Yields room value) :
    value.Fits room := by
  rcases yields with ⟨document, read⟩
  rw [Decoder.json] at read
  split at read
  · next found =>
      cases read
      exact document.fits_of_json? found
  · cases read

theorem Yields.of_map {β : Type} {change : α → β} {value : β}
    (yields : (decoder.map change).Yields room value) : ∃ source, change source = value := by
  rcases yields with ⟨document, read⟩
  rcases map_eq_ok.mp read with ⟨source, _, equal⟩
  exact ⟨source, equal⟩

theorem text_recovers (content : String) : text.Recovers .text room content := rfl

theorem number_recovers (value : Number) : number.Recovers .number room value := rfl

theorem int64_recovers (value : Int64) :
    int64.Recovers (fun value => .ofInt value.toInt) room value := by
  have bounds : Int64.minValue.toInt ≤ value.toInt ∧ value.toInt ≤ Int64.maxValue.toInt :=
    ⟨value.minValue_le_toInt, value.toInt_le⟩
  have read : (integer Int64.minValue.toInt Int64.maxValue.toInt) room
      (.number (some (.integer value.toInt))) = .ok value.toInt := if_pos bounds
  rw [Recovers, int64, map, Json.ofInt, Json.document, read]
  exact congrArg Except.ok (Int64.ofInt_toInt value)

theorem nat64_recovers {value : Nat} (small : value < UInt64.size) :
    nat64.Recovers .ofNat room value := by
  have bounds : 0 ≤ (value : Int) ∧ (value : Int) ≤ UInt64.size - 1 := by omega
  have read : (integer 0 (UInt64.size - 1)) room (.number (some (.integer value))) = .ok value :=
    if_pos bounds
  rw [Recovers, nat64, map, Json.ofNat, Json.ofInt, Json.document, read]
  rfl

theorem Yields.nat64_lt {value : Nat} (yields : nat64.Yields room value) : value < UInt64.size := by
  rcases yields with ⟨document, read⟩
  rw [nat64, map, map_eq_ok] at read
  rcases read with ⟨whole, read, rfl⟩
  unfold integer at read
  split at read
  · split at read
    · next bounds =>
        cases read
        have positive : 0 < UInt64.size := by decide
        omega
    · cases read
  · cases read

/-- An alternative is recovered if it is the one that its name stands for. -/
theorem enumeration_recovers {alternatives : List (String × α)} {name : α → String} {value : α}
    (known : alternatives.lookup (name value) = some value) (room : Nat) :
    (enumeration alternatives).Recovers (fun value => .text (name value)) room value := by
  rw [Recovers, Json.document, enumeration, named, known]

/-- Of an optional value something is sent only if there is one. -/
theorem optional_sent {value : Option α} (sent : ∀ found, (json found).document ≠ .null)
    (each : ∀ found ∈ value, decoder.Recovers json room found) :
    (value.map json).map (fun content => optional decoder room content.document) =
      (value.map some).map .ok := by
  cases value with
  | none => rfl
  | some found =>
      have read := each found rfl
      rw [Recovers] at read
      have opened : optional decoder room (json found).document =
          (decoder room (json found).document).map some := by
        rw [optional]
        exact sent found
      simp only [Option.map_some, opened, read]
      rfl

/-- A list is read as it was sent if its items are. -/
theorem list_recovers {values : List α}
    (each : ∀ value ∈ values, decoder.Recovers json room value) :
    (list decoder).Recovers (fun values => .list (values.map json)) (room + 1) values := by
  rw [Recovers, Json.document, Json.documentItems_eq, list]
  induction values with
  | nil => rfl
  | cons first others ih =>
      rw [List.forall_mem_cons] at each
      have read : decoder room (json first).document = .ok first := each.1
      rw [List.map_cons, List.map_cons, items, read, ih each.2]
      rfl

theorem items_yield {found : List Document} {values : List α}
    (read : decoder.items room found = .ok values) :
    ∀ value ∈ values, decoder.Yields room value := by
  induction found generalizing values with
  | nil =>
      cases read
      simp
  | cons first others ih =>
      simp only [items, bind_eq_ok, pure, Except.pure, Except.ok.injEq] at read
      rcases read with ⟨value, readFirst, further, readOthers, rfl⟩
      exact List.forall_mem_cons.mpr ⟨⟨first, readFirst⟩, ih readOthers⟩

/-- The items of a list that was read were read. -/
theorem Yields.list_each {values : List α} (yields : (list decoder).Yields room values) :
    ∃ inner, room = inner + 1 ∧ ∀ value ∈ values, decoder.Yields inner value := by
  rcases yields with ⟨document, read⟩
  unfold list at read
  split at read
  · cases read
  · next inner found => exact ⟨inner, rfl, items_yield read⟩
  · cases read

theorem texts_recovers (texts : List String) :
    (list text).Recovers Json.ofTexts (room + 1) texts :=
  list_recovers fun content _ => text_recovers content

theorem textSet_recovers (set : OrderedSet) :
    textSet.Recovers (fun set => Json.ofTexts set.values) (room + 1) set := by
  have read : list text (room + 1) (Json.ofTexts set.values).document = .ok set.values :=
    texts_recovers set.values
  rw [Recovers, textSet, map, read]
  exact congrArg Except.ok set.ofList_values

theorem members_sent {entries : List (String × α)}
    (each : ∀ entry ∈ entries, decoder.Recovers json room entry.2) :
    decoder.members room (Json.documentMembers (entries.map fun entry =>
      (entry.1, json entry.2))) = .ok entries := by
  induction entries with
  | nil => rfl
  | cons first others ih =>
      rw [List.forall_mem_cons] at each
      have read : decoder room (json first.2).document = .ok first.2 := each.1
      rw [List.map_cons, Json.documentMembers, members, read, ih each.2]
      rfl

/-- A map is read as it was sent if its values are. -/
theorem orderedMap_recovers {map : OrderedMap α}
    (each : ∀ entry ∈ map.entries, decoder.Recovers json room entry.2) :
    (orderedMap decoder).Recovers
      (fun map => .object (map.entries.map fun entry => (entry.1, json entry.2)))
      (room + 1) map := by
  rw [Recovers, Json.document, orderedMap, members_sent each]
  exact congrArg Except.ok map.ofList_entries

theorem members_yield {found : List (Key × Document)} {entries : List (String × α)}
    (read : decoder.members room found = .ok entries) :
    ∀ entry ∈ entries, decoder.Yields room entry.2 := by
  induction found generalizing entries with
  | nil =>
      cases read
      simp
  | cons first others ih =>
      rcases first with ⟨_ | name, content⟩
      · cases read
      · simp only [members, bind_eq_ok, pure, Except.pure, Except.ok.injEq] at read
        rcases read with ⟨value, readFirst, further, readOthers, rfl⟩
        exact List.forall_mem_cons.mpr ⟨⟨content, readFirst⟩, ih readOthers⟩

/-- The values of a map that was read were read. -/
theorem Yields.orderedMap_each {map : OrderedMap α}
    (yields : (orderedMap decoder).Yields room map) :
    ∃ inner, room = inner + 1 ∧ ∀ entry ∈ map.entries, decoder.Yields inner entry.2 := by
  rcases yields with ⟨document, read⟩
  unfold orderedMap at read
  split at read
  · cases read
  · next inner found =>
      rcases map_eq_ok.mp read with ⟨entries, readMembers, rfl⟩
      exact ⟨inner, rfl, fun entry entryMem =>
        members_yield readMembers entry (OrderedMap.mem_of_mem_ofList entryMem)⟩
  · cases read

end Decoder

end RowQuery
