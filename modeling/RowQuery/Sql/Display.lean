import RowQuery.Sql.Syntax
import RowQuery.Text.Printable

/-!
# Values as they are shown

A value that is shown to a person is a number as it is, or a text between double
quotes in which everything that could not be seen is escaped.
-/

namespace RowQuery

/-- The code of a character in small hexadecimal digits, between braces. -/
def codeChars (character : Char) : List Char :=
  '{' :: Nat.toDigits 16 character.toNat ++ ['}']

/-- A character as it is shown inside a text. -/
def shownChars : Char → List Char
  | '\x00' => ['\\', '0']
  | '\t' => ['\\', 't']
  | '\r' => ['\\', 'r']
  | '\n' => ['\\', 'n']
  | '\\' => ['\\', '\\']
  | '"' => ['\\', '"']
  | character =>
      if isPrintable character then [character] else '\\' :: 'u' :: codeChars character

/-- A text between quotes, as it is shown. -/
def shownText (content : String) : String :=
  String.ofList ('"' :: content.toList.flatMap shownChars ++ ['"'])

/-- A value as it is shown. -/
def Bind.display : Bind → String
  | .number value => String.ofList value.chars
  | .text content => shownText content

end RowQuery
