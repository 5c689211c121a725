import RowQuery.Sql.Token

/-!
# Dialects

The dialects differ in one thing only, the text of a placeholder: a bare question
mark, or a dollar sign and the number of the value. Names are written alike in all of
them, between double quotes, with quotes inside a name written twice.

`Dialect.write` writes tokens for a dialect. Placeholders are numbered on from the
values that came before, so that several statements can share one list of values.
-/

namespace RowQuery

/-- How placeholders are written. -/
inductive Dialect where
  /-- A question mark for every value. -/
  | ansi
  /-- A dollar sign and the number of the value. -/
  | postgres
  deriving DecidableEq, Repr

/-- A name between double quotes, with each quote inside it written twice. -/
def quotedName (name : String) : List Char :=
  '"' :: (name.toList.flatMap fun character =>
    if character = '"' then ['"', '"'] else [character]) ++ ['"']

namespace Dialect

/-- The word for a dialect. -/
def name : Dialect → String
  | .ansi => "ansi"
  | .postgres => "postgres"

/-- The placeholder for the value with a number, counted from one. -/
def placeholder : Dialect → Nat → List Char
  | .ansi, _ => ['?']
  | .postgres, number => '$' :: natChars number

/-- The text of tokens, after so many values have been written. -/
def write (dialect : Dialect) (written : Nat) : List Token → List Char
  | [] => []
  | .word word :: rest => word.text.toList ++ dialect.write written rest
  | .name name :: rest => quotedName name ++ dialect.write written rest
  | .slot _ :: rest => dialect.placeholder (written + 1) ++ dialect.write (written + 1) rest

theorem write_append (dialect : Dialect) (written : Nat) (first second : List Token) :
    dialect.write written (first ++ second) =
      dialect.write written first ++
        dialect.write (written + (Token.binds first).length) second := by
  induction first generalizing written with
  | nil => simp [write]
  | cons token rest ih =>
      cases token with
      | word word => simp [write, ih]
      | name name => simp [write, ih]
      | slot value => simp [write, ih, Nat.add_assoc, Nat.add_comm 1]

end Dialect

end RowQuery
