import RowQuery.Sql.Render

/-!
# The text of a token

This file gives the facts about the texts of single tokens that readers and scanners of
whole texts rest on. The text of a token is never empty, and its first character tells
what kind of token it is: quotes begin names, marks of placeholders begin slots, and
the words begin with neither. Where one token ends and the next begins, the text goes
on with a character of one of these kinds, so never with a digit or with the quote of
a literal.
-/

namespace RowQuery

/-- The characters that begin quoted runs or placeholders. -/
def marks : List Char := ['"', '\'', '?', '$']

/-- A name as it stands between its quotes. -/
def escaped (name : List Char) : List Char :=
  name.flatMap fun character => if character = '"' then ['"', '"'] else [character]

@[simp]
theorem escaped_nil : escaped [] = [] := rfl

@[simp]
theorem escaped_quote (name : List Char) : escaped ('"' :: name) = '"' :: '"' :: escaped name :=
  rfl

theorem escaped_cons {first : Char} (other : first ≠ '"') (name : List Char) :
    escaped (first :: name) = first :: escaped name := by
  simp [escaped, other]

theorem quotedName_eq (name : String) : quotedName name = '"' :: escaped name.toList ++ ['"'] :=
  rfl

namespace Token

/-- The text of a token, after so many values have been written. -/
def chars (dialect : Dialect) (written : Nat) : Token → List Char
  | .word content => content.text.toList
  | .name content => quotedName content
  | .slot _ => dialect.placeholder (written + 1)

/-- The number of values of a token. -/
def slotCount (token : Token) : Nat := (binds [token]).length

/-- Whether a token is a name. -/
def isName : Token → Bool
  | .name _ => true
  | _ => false

theorem binds_cons (token : Token) (rest : List Token) :
    binds (token :: rest) = binds [token] ++ binds rest :=
  binds_append [token] rest

end Token

theorem Dialect.write_cons (dialect : Dialect) (written : Nat) (token : Token)
    (rest : List Token) :
    dialect.write written (token :: rest) =
      token.chars dialect written ++ dialect.write (written + token.slotCount) rest := by
  cases token with
  | word content => simp [write, Token.chars, Token.slotCount]
  | name content => simp [write, Token.chars, Token.slotCount]
  | slot value => simp [write, Token.chars, Token.slotCount]

/-- No word begins with a mark or with a digit. -/
theorem Word.text_cons (word : Word) :
    ∃ first rest, word.text.toList = first :: rest ∧ first ∉ marks ∧ first.isDigit = false := by
  cases word with
  | aggregate function => cases function <;> exact ⟨_, _, rfl, by decide, by decide⟩
  | comparison operator => cases operator <;> exact ⟨_, _, rfl, by decide, by decide⟩
  | _ => exact ⟨_, _, rfl, by decide, by decide⟩

namespace Dialect

/-- The character that placeholders begin with. -/
def mark : Dialect → Char
  | .ansi => '?'
  | .postgres => '$'

/-- What a placeholder says of its number. -/
def digits : Dialect → Nat → List Char
  | .ansi, _ => []
  | .postgres, number => natChars number

theorem placeholder_eq (dialect : Dialect) (number : Nat) :
    dialect.placeholder number = dialect.mark :: dialect.digits number := by
  cases dialect with
  | ansi => rfl
  | postgres => rfl

theorem mark_mem (dialect : Dialect) : dialect.mark ∈ ['?', '$'] := by
  cases dialect with
  | ansi => decide
  | postgres => decide

theorem isDigit_of_mem_digits {dialect : Dialect} {number : Nat} {digit : Char}
    (digitMem : digit ∈ dialect.digits number) : digit.isDigit = true := by
  cases dialect with
  | ansi => exact absurd digitMem List.not_mem_nil
  | postgres => exact Nat.isDigit_of_mem_toDigits (by decide) (by decide) digitMem

/-- Placeholders have no characters but their mark and digits. -/
theorem not_mem_placeholder {character : Char} (unmarked : character ∉ ['?', '$'])
    (noDigit : character.isDigit = false) (dialect : Dialect) (number : Nat) :
    character ∉ dialect.placeholder number := by
  rw [placeholder_eq, List.mem_cons, not_or]
  constructor
  · rintro rfl
    exact unmarked dialect.mark_mem
  · intro digitMem
    rw [isDigit_of_mem_digits digitMem] at noDigit
    cases noDigit

end Dialect

/-- The first character of a token's text is a quote exactly for a name. -/
theorem Token.chars_cons (dialect : Dialect) (written : Nat) (token : Token) :
    ∃ first rest, token.chars dialect written = first :: rest ∧ first ≠ '\'' ∧
      first.isDigit = false ∧ (token.isName = false → first ≠ '"') := by
  cases token with
  | word content =>
      rcases content.text_cons with ⟨first, rest, equal, unmarked, noDigit⟩
      refine ⟨first, rest, equal, ?_, noDigit, ?_⟩
      · rintro rfl
        exact unmarked (by decide)
      · rintro _ rfl
        exact unmarked (by decide)
  | name content => exact ⟨'"', _, rfl, by decide, by decide, by simp [isName]⟩
  | slot value =>
      have facts : dialect.mark ≠ '\'' ∧ dialect.mark.isDigit = false ∧ dialect.mark ≠ '"' := by
        cases dialect with
        | ansi => decide
        | postgres => decide
      rcases facts with ⟨noApostrophe, noDigit, noQuote⟩
      exact ⟨_, _, dialect.placeholder_eq (written + 1), noApostrophe, noDigit, fun _ => noQuote⟩

namespace Dialect

theorem head?_write_ne_apostrophe (dialect : Dialect) (written : Nat) (tokens : List Token) :
    (dialect.write written tokens).head? ≠ some '\'' := by
  cases tokens with
  | nil => simp [write]
  | cons token rest =>
      rcases token.chars_cons dialect written with ⟨first, others, equal, plain, _⟩
      rw [write_cons, equal]
      simpa using plain

theorem head?_write_ne_digit (dialect : Dialect) (written : Nat) (tokens : List Token) :
    (dialect.write written tokens).head?.any Char.isDigit = false := by
  cases tokens with
  | nil => simp [write]
  | cons token rest =>
      rcases token.chars_cons dialect written with ⟨first, others, equal, _, noDigit, _⟩
      rw [write_cons, equal]
      simpa using noDigit

theorem head?_write_ne_quote (dialect : Dialect) (written : Nat) {tokens : List Token}
    (unnamed : tokens.head?.any Token.isName = false) :
    (dialect.write written tokens).head? ≠ some '"' := by
  cases tokens with
  | nil => simp [write]
  | cons token rest =>
      rcases token.chars_cons dialect written with ⟨first, others, equal, _, _, unquoted⟩
      rw [write_cons, equal]
      simpa using unquoted (by simpa using unnamed)

end Dialect

end RowQuery
