import RowQuery.Json.Reader

/-!
# Reading written objects

This file says what is read of an object whose members are quoted texts, written without
blanks.

How a character is escaped is left open. `Quoted.Writes` says that some characters stand for
one character of a quoted text, whatever comes after them; a text in which every character is
written in such a way is read as it was. From there on a member is read as its name and its
content, and the members follow one another in the order in which they were written. Names
that occur more than once are read as often as they were written.
-/

namespace RowQuery

namespace Quoted

/-- What is written stands for one character, whatever comes after it. -/
def Writes (written : List Char) (character : Char) : Prop :=
  ∀ rest, pieces? (written ++ rest) =
    (pieces? rest).map fun (pieces, rest) => (.whole character :: pieces, rest)

/-- A character that is not escaped stands for itself. -/
theorem writes_self {character : Char} (unquoted : character ≠ '"') (unescaped : character ≠ '\\')
    (printed : 0x20 ≤ character.toNat) : Writes [character] character := by
  intro rest
  simp [pieces?, unescaped, Nat.not_lt.mpr printed]

/-- A character may be written as a backslash and a letter. -/
theorem writes_letter {letter character : Char} (long : letter ≠ 'u')
    (short : escaped? letter = some character) : Writes ['\\', letter] character := by
  intro rest
  cases read : pieces? rest with
  | none => simp [pieces?, long, short, read]
  | some found => simp [pieces?, long, short, read]

theorem hexValue?_digitChar (value : Nat) (digit : value < 16) :
    hexValue? (Nat.digitChar value) = some value := by
  have each : ∀ value < 16, hexValue? (Nat.digitChar value) = some value := by decide
  exact each value digit

/-- A character with a code of two hexadecimal digits may be written with four of them. -/
theorem writes_code {character : Char} (small : character.toNat < 0x100) :
    Writes ['\\', 'u', '0', '0', Nat.digitChar (character.toNat / 16),
      Nat.digitChar (character.toNat % 16)] character := by
  intro rest
  have zero : hexValue? '0' = some 0 := by decide
  have high := hexValue?_digitChar (character.toNat / 16) (by omega)
  have low := hexValue?_digitChar (character.toNat % 16) (by omega)
  have unit : unit? '0' '0' (Nat.digitChar (character.toNat / 16))
      (Nat.digitChar (character.toNat % 16)) = some character.toNat := by
    have joined : (0 * 16 + 0) * 16 + character.toNat / 16 = character.toNat / 16 := by omega
    simp only [unit?, zero, high, low, bind, Option.bind, pure, joined, Nat.div_add_mod']
  have whole : Piece.ofUnit character.toNat = .whole character := by
    rw [Piece.ofUnit, if_neg (by omega), Char.ofNat_toNat]
  cases read : pieces? rest with
  | none => simp [pieces?, unit, read]
  | some found => simp [pieces?, unit, whole, read]

/-- Of a text that is written character by character, each character is a piece. -/
theorem pieces?_flatMap {escape : Char → List Char}
    (writes : ∀ character, Writes (escape character) character) (content rest : List Char) :
    pieces? (content.flatMap escape ++ '"' :: rest) = some (content.map .whole, rest) := by
  induction content with
  | nil => simp [pieces?]
  | cons first others ih =>
      rw [List.flatMap_cons, List.append_assoc, writes first, ih]
      rfl

theorem join?_whole (content : List Char) : join? (content.map .whole) = some content := by
  induction content with
  | nil => rfl
  | cons first others ih => simp [join?, ih]

/-- A text that is written character by character is read up to its closing quote. -/
theorem read?_flatMap {escape : Char → List Char}
    (writes : ∀ character, Writes (escape character) character) (content : String)
    (rest : List Char) :
    read? (content.toList.flatMap escape ++ '"' :: rest) = some (some content, rest) := by
  simp [read?, pieces?_flatMap writes, join?_whole]

end Quoted

namespace Document

/-- The items of a list that is not empty, and the rest of the text. -/
def items (text : List Char) : List Document × List Char :=
  ((readItems text).1, (readItems text).2.val)

/-- The members of an object that is not empty, and the rest of the text. -/
def members (text : List Char) : List (Key × Document) × List Char :=
  ((readMembers text).1, (readMembers text).2.val)

theorem read_eq (text : List Char) :
    read text = ((readValue text).1, (readValue text).2.val) := rfl

theorem skipBlanks_cons {first : Char} (visible : isBlank first = false) (rest : List Char) :
    skipBlanks (first :: rest) = first :: rest := by
  simp [skipBlanks, visible]

/-- A text that opens neither a list nor an object is read as a word, a text or a number. -/
theorem read_leaf {first : Char} {others rest : List Char} {document : Document}
    (visible : isBlank first = false) (noList : first ≠ '[') (noObject : first ≠ '{')
    (found : leaf? (first :: others) = some (document, rest)) :
    read (first :: others) = (document, rest) := by
  have start : skipBlanks (first :: others) = first :: others := skipBlanks_cons visible others
  rw [read_eq, readValue]
  split
  · next equal =>
      rw [start] at equal
      exact absurd (List.cons.inj equal).1 noList
  · next equal =>
      rw [start] at equal
      exact absurd (List.cons.inj equal).1 noObject
  · split
    · next none =>
        rw [start, found] at none
        cases none
    · next other equal =>
        rw [start, found] at equal
        cases equal
        rfl

/-- What stands behind a quote is read as a text. -/
theorem read_text {content : Option String} {text rest : List Char}
    (found : Quoted.read? text = some (content, rest)) :
    read ('"' :: text) = (.text content, rest) := by
  have leaf : leaf? ('"' :: text) = some (.text content, rest) := by
    simp [leaf?, found]
  exact read_leaf rfl (by decide) (by decide) leaf

theorem read_emptyList (rest : List Char) : read ('[' :: ']' :: rest) = (.list [], rest) := by
  have start : skipBlanks ('[' :: ']' :: rest) = '[' :: ']' :: rest := skipBlanks_cons rfl _
  have closing : skipBlanks (']' :: rest) = ']' :: rest := skipBlanks_cons rfl rest
  rw [read_eq, readValue]
  split
  · next equal =>
      rw [start] at equal
      cases equal
      split
      · next equal =>
          rw [closing] at equal
          cases equal
          rfl
      · next unclosed => exact absurd closing (unclosed _)
  · next equal =>
      rw [start] at equal
      cases equal
  · next noList _ => exact absurd start (noList _)

/-- A list that is not closed at once is read as its items. -/
theorem read_list {first : Char} (visible : isBlank first = false) (unclosed : first ≠ ']')
    (others : List Char) :
    read ('[' :: first :: others) =
      (.list (items (first :: others)).1, (items (first :: others)).2) := by
  have start : skipBlanks ('[' :: first :: others) = '[' :: first :: others :=
    skipBlanks_cons rfl _
  have item : skipBlanks (first :: others) = first :: others := skipBlanks_cons visible others
  rw [read_eq, readValue]
  split
  · next equal =>
      rw [start] at equal
      cases equal
      split
      · next closing =>
          rw [item] at closing
          exact absurd (List.cons.inj closing).1 unclosed
      · rfl
  · next equal =>
      rw [start] at equal
      cases equal
  · next noList _ => exact absurd start (noList _)

theorem read_emptyObject (rest : List Char) :
    read ('{' :: '}' :: rest) = (.object [], rest) := by
  have start : skipBlanks ('{' :: '}' :: rest) = '{' :: '}' :: rest := skipBlanks_cons rfl _
  have closing : skipBlanks ('}' :: rest) = '}' :: rest := skipBlanks_cons rfl rest
  rw [read_eq, readValue]
  split
  · next equal =>
      rw [start] at equal
      cases equal
  · next equal =>
      rw [start] at equal
      cases equal
      split
      · next equal =>
          rw [closing] at equal
          cases equal
          rfl
      · next unclosed => exact absurd closing (unclosed _)
  · next _ noObject => exact absurd start (noObject _)

/-- An object that begins with a name is read as its members. -/
theorem read_object (text : List Char) :
    read ('{' :: '"' :: text) = (.object (members ('"' :: text)).1, (members ('"' :: text)).2) := by
  have start : skipBlanks ('{' :: '"' :: text) = '{' :: '"' :: text := skipBlanks_cons rfl _
  have named : skipBlanks ('"' :: text) = '"' :: text := skipBlanks_cons rfl text
  rw [read_eq, readValue]
  split
  · next equal =>
      rw [start] at equal
      cases equal
  · next equal =>
      rw [start] at equal
      cases equal
      split
      · next closing =>
          rw [named] at closing
          cases closing
      · rfl
  · next _ noObject => exact absurd start (noObject _)

/-- What an item is read as does not depend on the items behind it. -/
theorem items_eq (text : List Char) :
    items text =
      match skipBlanks (read text).2 with
      | ',' :: rest => ((read text).1 :: (items rest).1, (items rest).2)
      | ']' :: rest => ([(read text).1], rest)
      | _ => ([(read text).1, .cut], []) := by
  rw [items, readItems]
  dsimp only [read_eq]
  split
  · next comma => simp only [comma, items]
  · next closing => simp only [closing]
  · next noComma noClosing =>
      split
      · next comma => exact absurd comma (noComma _)
      · next closing => exact absurd closing (noClosing _)
      · rfl

/-- Behind a comma the list goes on with its other items. -/
theorem items_more {value : Document} {text rest : List Char}
    (valued : read text = (value, ',' :: rest)) :
    items text = (value :: (items rest).1, (items rest).2) := by
  rw [items_eq, valued, skipBlanks_cons rfl rest]
  rfl

theorem items_last {value : Document} {text rest : List Char}
    (valued : read text = (value, ']' :: rest)) : items text = ([value], rest) := by
  rw [items_eq, valued, skipBlanks_cons rfl rest]
  rfl

/-- What a quoted name, a colon and a value are read as depends on what follows the value. -/
theorem members_named {name : Option String} {text valueText : List Char}
    (named : Quoted.read? text = some (name, ':' :: valueText)) :
    members ('"' :: text) =
      match skipBlanks (read valueText).2 with
      | ',' :: rest => ((name, (read valueText).1) :: (members rest).1, (members rest).2)
      | '}' :: rest => ([(name, (read valueText).1)], rest)
      | _ => ([(name, (read valueText).1), (none, .cut)], []) := by
  have start : skipBlanks ('"' :: text) = '"' :: text := skipBlanks_cons rfl text
  have colon : skipBlanks (':' :: valueText) = ':' :: valueText := skipBlanks_cons rfl valueText
  rw [members, readMembers]
  split
  · next other equal =>
      rw [start] at equal
      cases equal
      split
      · next none =>
          rw [named] at none
          cases none
      · next content after found =>
          rw [named] at found
          cases found
          split
          · next other equal =>
              rw [colon] at equal
              cases equal
              dsimp only [read_eq]
              split
              · next comma => simp only [comma, members]
              · next closing => simp only [closing]
              · next noComma noClosing =>
                  split
                  · next comma => exact absurd comma (noComma _)
                  · next closing => exact absurd closing (noClosing _)
                  · rfl
          · next different => exact absurd colon (different _)
  · next different => exact absurd start (different _)

/-- Behind a comma the object goes on with its other members. -/
theorem members_more {name : Option String} {value : Document} {text valueText rest : List Char}
    (named : Quoted.read? text = some (name, ':' :: valueText))
    (valued : read valueText = (value, ',' :: rest)) :
    members ('"' :: text) = ((name, value) :: (members rest).1, (members rest).2) := by
  rw [members_named named, valued, skipBlanks_cons rfl rest]
  rfl

theorem members_last {name : Option String} {value : Document} {text valueText rest : List Char}
    (named : Quoted.read? text = some (name, ':' :: valueText))
    (valued : read valueText = (value, '}' :: rest)) :
    members ('"' :: text) = ([(name, value)], rest) := by
  rw [members_named named, valued, skipBlanks_cons rfl rest]
  rfl

end Document

end RowQuery
