import RowQuery.Json.Document
import RowQuery.Json.Quoted

/-!
# Reading documents

`Document.read` reads the document a text starts with and hands back the rest of the
text. It never fails: where the text breaks the grammar, the document is cut, and then
nothing is left of the text.

Every reader returns the rest of its text together with the fact that it is no longer
than the text; this is what the recursion ends by.
-/

namespace RowQuery

namespace Document

/-- A rest of a text that is no longer than the text. -/
abbrev Rest (text : List Char) := { rest : List Char // rest.length ≤ text.length }

/-- The blanks that may stand between the parts of a document. -/
def isBlank (character : Char) : Bool :=
  character = ' ' || character = '\t' || character = '\n' || character = '\r'

/-- A text without the blanks it starts with. -/
def skipBlanks (text : List Char) : List Char := text.dropWhile isBlank

theorem length_skipBlanks_le (text : List Char) :
    (skipBlanks text).length ≤ text.length :=
  Numeral.length_dropWhile_le isBlank text

/-- The word, text or number that a text starts with, and the rest. -/
def leaf? : List Char → Option (Document × List Char)
  | 'n' :: 'u' :: 'l' :: 'l' :: rest => some (.null, rest)
  | 't' :: 'r' :: 'u' :: 'e' :: rest => some (.bool true, rest)
  | 'f' :: 'a' :: 'l' :: 's' :: 'e' :: rest => some (.bool false, rest)
  | '"' :: rest => (Quoted.read? rest).map fun (content, rest) => (.text content, rest)
  | start => (Numeral.read? start).map fun (numeral, rest) => (.number numeral.number?, rest)

theorem length_of_leaf? {text rest : List Char} {document : Document}
    (found : leaf? text = some (document, rest)) : rest.length ≤ text.length := by
  unfold leaf? at found
  split at found
  · grind
  · grind
  · grind
  · simp only [Option.map_eq_some_iff, Prod.mk.injEq, Prod.exists] at found
    obtain ⟨_, _, inner, _, rfl⟩ := found
    have := Quoted.length_of_read? inner
    simp only [List.length_cons]
    omega
  · simp only [Option.map_eq_some_iff, Prod.mk.injEq, Prod.exists] at found
    obtain ⟨_, _, inner, _, rfl⟩ := found
    have := Numeral.length_of_read? inner
    omega

mutual

/-- The value a text starts with, and the rest. -/
def readValue (text : List Char) : Document × Rest text :=
  match bound : skipBlanks text with
  | '[' :: rest =>
      have shorter : rest.length < text.length := by
        have := length_skipBlanks_le text
        simp only [bound, List.length_cons] at this
        omega
      match inner : skipBlanks rest with
      | ']' :: rest' =>
          (.list [], ⟨rest', by
            have := length_skipBlanks_le rest
            simp only [inner, List.length_cons] at this
            omega⟩)
      | _ =>
          let (items, remaining) := readItems rest
          (.list items, ⟨remaining.val, by have := remaining.property; omega⟩)
  | '{' :: rest =>
      have shorter : rest.length < text.length := by
        have := length_skipBlanks_le text
        simp only [bound, List.length_cons] at this
        omega
      match inner : skipBlanks rest with
      | '}' :: rest' =>
          (.object [], ⟨rest', by
            have := length_skipBlanks_le rest
            simp only [inner, List.length_cons] at this
            omega⟩)
      | _ =>
          let (members, remaining) := readMembers rest
          (.object members, ⟨remaining.val, by have := remaining.property; omega⟩)
  | start =>
      match found : leaf? start with
      | none => (.cut, ⟨[], Nat.zero_le _⟩)
      | some (document, rest) =>
          (document, ⟨rest, by
            have := length_of_leaf? found
            have := length_skipBlanks_le text
            rw [bound] at this
            omega⟩)
termination_by (text.length, 0)

/-- The items of a list that is not empty, up to its closing bracket, and the rest. -/
def readItems (text : List Char) : List Document × Rest text :=
  let (item, remaining) := readValue text
  match bound : skipBlanks remaining.val with
  | ',' :: rest =>
      have shorter : rest.length < text.length := by
        have := remaining.property
        have := length_skipBlanks_le remaining.val
        simp only [bound, List.length_cons] at this
        omega
      let (items, others) := readItems rest
      (item :: items, ⟨others.val, by have := others.property; omega⟩)
  | ']' :: rest =>
      ([item], ⟨rest, by
        have := remaining.property
        have := length_skipBlanks_le remaining.val
        simp only [bound, List.length_cons] at this
        omega⟩)
  | _ => ([item, .cut], ⟨[], Nat.zero_le _⟩)
termination_by (text.length, 1)

/-- The members of an object that is not empty, up to its closing brace, and the rest. -/
def readMembers (text : List Char) : List (Key × Document) × Rest text :=
  match bound : skipBlanks text with
  | '"' :: rest =>
      match found : Quoted.read? rest with
      | none => ([(none, .cut)], ⟨[], Nat.zero_le _⟩)
      | some (content, afterKey) =>
          match colon : skipBlanks afterKey with
          | ':' :: rest₁ =>
              have shorter : rest₁.length < text.length := by
                have := length_skipBlanks_le text
                have := Quoted.length_of_read? found
                have := length_skipBlanks_le afterKey
                simp only [bound, colon, List.length_cons] at *
                omega
              let (value, remaining) := readValue rest₁
              match next : skipBlanks remaining.val with
              | ',' :: rest₂ =>
                  have shorter₂ : rest₂.length < text.length := by
                    have := remaining.property
                    have := length_skipBlanks_le remaining.val
                    simp only [next, List.length_cons] at this
                    omega
                  let (members, others) := readMembers rest₂
                  ((content, value) :: members,
                    ⟨others.val, by have := others.property; omega⟩)
              | '}' :: rest₂ =>
                  ([(content, value)], ⟨rest₂, by
                    have := remaining.property
                    have := length_skipBlanks_le remaining.val
                    simp only [next, List.length_cons] at this
                    omega⟩)
              | _ => ([(content, value), (none, .cut)],
                  ⟨[], Nat.zero_le _⟩)
          | _ => ([(content, .cut)], ⟨[], Nat.zero_le _⟩)
  | _ => ([(none, .cut)], ⟨[], Nat.zero_le _⟩)
termination_by (text.length, 1)

end

/-- The document a text starts with, and the rest of the text. -/
def read (text : List Char) : Document × List Char :=
  let (document, rest) := readValue text
  (document, rest.val)

end Document

end RowQuery
