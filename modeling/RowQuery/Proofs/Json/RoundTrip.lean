import RowQuery.Proofs.Json.Numerals
import RowQuery.Proofs.Json.Printing
import RowQuery.Proofs.Json.Reading

/-!
# Reading printed documents

This file reads a printed document again. What is read is the document itself, with its lists,
its objects, its names and its texts. A number is read as its digits say, which for a whole number
of 64 bits is the number itself.

A value may be followed by whatever ends a value, so that the same statement serves inside lists
and objects. The proof follows the data: one step for an item and one for a member, both of which
come back to a value.
-/

namespace RowQuery

/-- An escaped character is read as the character. -/
theorem Quoted.escape_writes (character : Char) : Writes (escape character) character := by
  unfold escape
  split
  · exact writes_letter (by decide) rfl
  · exact writes_letter (by decide) rfl
  · exact writes_letter (by decide) rfl
  · exact writes_letter (by decide) rfl
  · exact writes_letter (by decide) rfl
  · exact writes_letter (by decide) rfl
  · exact writes_letter (by decide) rfl
  · next quote backslash _ _ _ _ _ =>
      split
      · next control => exact writes_code (by omega)
      · next printed => exact writes_self quote backslash (Nat.not_lt.mp printed)

/-- A printed number begins with a digit or with its sign, so nothing else begins like it. -/
theorem Number.exists_first (number : Number) : ∃ first others, number.chars = first :: others ∧
    ∀ other, other ≠ '-' → other.isDigit = false → first ≠ other := by
  have wellFormed := number.wellFormed_numeral
  rcases List.exists_cons_of_ne_nil wellFormed.whole.1 with ⟨first, others, whole⟩
  have digit : first.isDigit = true := wellFormed.whole.2 first (by simp [whole])
  rw [← number.chars_numeral, Numeral.chars, whole]
  cases number.numeral.negative with
  | true => exact ⟨'-', _, rfl, fun other noSign _ => noSign.symm⟩
  | false =>
      refine ⟨first, _, rfl, ?_⟩
      rintro other _ noDigit rfl
      rw [digit] at noDigit
      cases noDigit

namespace Json

mutual

/-- A value as it is read again, with its numbers as their digits say. -/
def reading : Json → Document
  | .null => .null
  | .bool value => .bool value
  | .number value => .number value.reading
  | .text content => .text (some content)
  | .list items => .list (itemReadings items)
  | .object members => .object (memberReadings members)

/-- The items of a list as they are read again. -/
def itemReadings : List Json → List Document
  | [] => []
  | item :: rest => item.reading :: itemReadings rest

/-- The members of an object as they are read again, with their names. -/
def memberReadings : List (String × Json) → List (Key × Document)
  | [] => []
  | (name, value) :: rest => (some name, value.reading) :: memberReadings rest

end

/-- A printed number is read as its digits say. -/
theorem read_number (number : Number) {rest : List Char} (ends : EndsValue rest) :
    Document.read (number.chars ++ rest) = (.number number.reading, rest) := by
  have found := Numeral.read?_chars number.wellFormed_numeral ends
  rcases number.exists_first with ⟨first, others, written, apart⟩
  rw [number.chars_numeral, written] at found
  rw [written]
  have visible : Document.isBlank first = false := by
    simp [Document.isBlank, apart]
  have leaf : Document.leaf? (first :: others ++ rest) = some (.number number.reading, rest) := by
    rw [← number.number?_numeral, Document.leaf?]
    · rw [found]
      rfl
    · exact fun after same => apart 'n' (by decide) (by decide) (List.cons.inj same).1
    · exact fun after same => apart 't' (by decide) (by decide) (List.cons.inj same).1
    · exact fun after same => apart 'f' (by decide) (by decide) (List.cons.inj same).1
    · exact fun after same => apart '"' (by decide) (by decide) (List.cons.inj same).1
  exact Document.read_leaf visible (apart '[' (by decide) (by decide))
    (apart '{' (by decide) (by decide)) leaf

/-- A printed value does not begin like a blank or like the end of a list. -/
theorem exists_first (value : Json) : ∃ first others, value.chars = first :: others ∧
    Document.isBlank first = false ∧ first ≠ ']' := by
  cases value with
  | null => exact ⟨_, _, rfl, rfl, by decide⟩
  | bool value =>
      cases value with
      | true => exact ⟨_, _, rfl, rfl, by decide⟩
      | false => exact ⟨_, _, rfl, rfl, by decide⟩
  | number value =>
      rcases value.exists_first with ⟨first, others, written, apart⟩
      refine ⟨first, others, written, ?_, apart ']' (by decide) (by decide)⟩
      simp [Document.isBlank, apart]
  | text content => exact ⟨_, _, rfl, rfl, by decide⟩
  | list items => exact ⟨_, _, rfl, rfl, by decide⟩
  | object members => exact ⟨_, _, rfl, rfl, by decide⟩

/-- A printed text is read as its content, whatever comes behind it. -/
theorem read_text (content : String) (rest : List Char) :
    Document.read (Quoted.chars content ++ rest) = (.text (some content), rest) := by
  have found := Quoted.read?_flatMap Quoted.escape_writes content rest
  have written : Quoted.chars content ++ rest =
      '"' :: (content.toList.flatMap Quoted.escape ++ '"' :: rest) := by
    simp [Quoted.chars]
  rw [written, Document.read_text found]

/-- The printed value is read again, whatever ends it. -/
def ReadsBack (value : Json) : Prop := ∀ rest, EndsValue rest →
  Document.read (value.chars ++ rest) = (value.reading, rest)

/-- The printed items of a list are read in order. -/
theorem items_itemTexts (item : Json) (others : List Json)
    (each : ∀ value ∈ item :: others, value.ReadsBack) (rest : List Char) :
    Document.items (List.intercalate [','] (itemTexts (item :: others)) ++ ']' :: rest) =
      (itemReadings (item :: others), rest) := by
  induction others generalizing item with
  | nil =>
      have read := each item List.mem_cons_self (']' :: rest) (.cons (by decide) rest)
      rw [itemTexts, itemTexts, List.intercalate_singleton, Document.items_last read]
      rfl
  | cons second others ih =>
      have further := ih second fun value valueMem => each value (List.mem_cons_of_mem _ valueMem)
      have read := each item List.mem_cons_self
        (',' :: (List.intercalate [','] (itemTexts (second :: others)) ++ ']' :: rest))
        (.cons (by decide) _)
      have texts : List.intercalate [','] (itemTexts (item :: second :: others)) ++ ']' :: rest =
          item.chars ++
            ',' :: (List.intercalate [','] (itemTexts (second :: others)) ++ ']' :: rest) := by
        simp [itemTexts, List.intercalate_cons_cons]
      rw [texts, Document.items_more read, further]
      rfl

/-- The printed members of an object are read in order, under their names. -/
theorem members_memberTexts (member : String × Json) (others : List (String × Json))
    (each : ∀ entry ∈ member :: others, entry.2.ReadsBack) (rest : List Char) :
    Document.members (List.intercalate [','] (memberTexts (member :: others)) ++ '}' :: rest) =
      (memberReadings (member :: others), rest) := by
  induction others generalizing member with
  | nil =>
      have named := Quoted.read?_flatMap Quoted.escape_writes member.1
        (':' :: (member.2.chars ++ '}' :: rest))
      have read := each member List.mem_cons_self ('}' :: rest) (.cons (by decide) rest)
      have texts : List.intercalate [','] (memberTexts [member]) ++ '}' :: rest =
          '"' :: (member.1.toList.flatMap Quoted.escape ++
            '"' :: ':' :: (member.2.chars ++ '}' :: rest)) := by
        simp [memberTexts, Quoted.chars]
      rw [texts, Document.members_last named read]
      rfl
  | cons second others ih =>
      have further := ih second fun entry entryMem => each entry (List.mem_cons_of_mem _ entryMem)
      have named := Quoted.read?_flatMap Quoted.escape_writes member.1 (':' :: (member.2.chars ++
        ',' :: (List.intercalate [','] (memberTexts (second :: others)) ++ '}' :: rest)))
      have read := each member List.mem_cons_self
        (',' :: (List.intercalate [','] (memberTexts (second :: others)) ++ '}' :: rest))
        (.cons (by decide) _)
      have texts : List.intercalate [','] (memberTexts (member :: second :: others)) ++
          '}' :: rest = '"' :: (member.1.toList.flatMap Quoted.escape ++
            '"' :: ':' :: (member.2.chars ++ ',' ::
              (List.intercalate [','] (memberTexts (second :: others)) ++ '}' :: rest))) := by
        simp [memberTexts, Quoted.chars, List.intercalate_cons_cons]
      rw [texts, Document.members_more named read, further]
      rfl

/-- A list is read again if its items are. -/
theorem readsBack_list {items : List Json} (each : ∀ value ∈ items, value.ReadsBack) :
    (list items).ReadsBack := by
  intro rest _
  cases items with
  | nil => exact Document.read_emptyList rest
  | cons item others =>
      have read := items_itemTexts item others each rest
      rcases item.exists_first with ⟨first, behind, written, visible, unclosed⟩
      rcases exists_intercalate_cons [','] item.chars (itemTexts others) with ⟨further, texts⟩
      have opened : (list (item :: others)).chars ++ rest =
          '[' :: first :: (behind ++ further ++ ']' :: rest) := by
        rw [chars, itemTexts, texts, written]
        simp
      rw [itemTexts, texts, written, List.cons_append, List.cons_append] at read
      rw [opened, Document.read_list visible unclosed, read]
      rfl

/-- An object is read again if the values of its members are. -/
theorem readsBack_object {members : List (String × Json)}
    (each : ∀ entry ∈ members, entry.2.ReadsBack) : (object members).ReadsBack := by
  intro rest _
  cases members with
  | nil => exact Document.read_emptyObject rest
  | cons member others =>
      have read := members_memberTexts member others each rest
      rcases exists_intercalate_cons [','] (Quoted.chars member.1 ++ ':' :: member.2.chars)
        (memberTexts others) with ⟨further, texts⟩
      have opened : (object (member :: others)).chars ++ rest =
          '{' :: (Quoted.chars member.1 ++ ':' :: member.2.chars ++ further ++ '}' :: rest) := by
        simp [chars, memberTexts, texts]
      rw [memberTexts, texts] at read
      rw [opened, Quoted.chars, List.cons_append, List.cons_append, List.cons_append,
        List.cons_append, Document.read_object]
      exact congrArg (fun found => (Document.object found.1, found.2)) read

mutual

/-- Every printed value is read again. -/
theorem readsBack : (value : Json) → value.ReadsBack
  | .null => fun _ _ => Document.read_leaf rfl (by decide) (by decide) rfl
  | .bool true => fun _ _ => Document.read_leaf rfl (by decide) (by decide) rfl
  | .bool false => fun _ _ => Document.read_leaf rfl (by decide) (by decide) rfl
  | .number value => fun _ ends => read_number value ends
  | .text content => fun rest _ => read_text content rest
  | .list items => readsBack_list (readsBack_items items)
  | .object members => readsBack_object (readsBack_members members)

/-- Every printed item of a list is read again. -/
theorem readsBack_items : (items : List Json) → ∀ value ∈ items, value.ReadsBack
  | [] => List.forall_mem_nil _
  | item :: others => List.forall_mem_cons.mpr ⟨item.readsBack, readsBack_items others⟩

/-- The printed value of every member of an object is read again. -/
theorem readsBack_members : (members : List (String × Json)) →
    ∀ entry ∈ members, entry.2.ReadsBack
  | [] => List.forall_mem_nil _
  | (_, value) :: others => List.forall_mem_cons.mpr ⟨value.readsBack, readsBack_members others⟩

end

/-- A printed document is read as the whole of its text. -/
theorem read_print (value : Json) : Document.read value.print.toList = (value.reading, []) := by
  have read := value.readsBack [] .nil
  rw [List.append_nil] at read
  rw [print, String.toList_ofList, read]

end Json

end RowQuery
