import RowQuery.Decimal.Shortest

/-!
# How numbers are written

Whole numbers are written with their digits alone. A double-precision number is
written with the digits of its shortest decimal: positionally, with at least one
digit after the point, from `0.00001` up to but not including `1e+16`, and otherwise
with one digit before the point and a signed exponent.
-/

namespace RowQuery

/-- The decimal digits of a natural number. -/
def natChars (number : Nat) : List Char := Nat.toDigits 10 number

/-- A whole number: its digits, after a minus sign if it is negative. -/
def intChars : Int → List Char
  | .ofNat number => natChars number
  | .negSucc number => '-' :: natChars (number + 1)

/-- A whole number as text. -/
def intText (number : Int) : String := String.ofList (intChars number)

/-- A natural number as text. -/
def natText (number : Nat) : String := String.ofList (natChars number)

theorem intText_eq_toString (number : Int) : intText number = toString number := by
  cases number with
  | ofNat number => rfl
  | negSucc number =>
      apply String.toList_injective
      simp [intText, intChars, natChars, Int.toString_eq_repr, Int.repr]

namespace Decimal

/-- The exponent with its sign, as it follows the letter `e`. -/
def exponentChars (exponent : Int) : List Char :=
  if 0 ≤ exponent then '+' :: natChars exponent.toNat else intChars exponent

/-- One digit, the others after a point if there are any, and the exponent. -/
def scientificChars (digits : List Char) (exponent : Int) : List Char :=
  match digits with
  | [] => []
  | [digit] => digit :: 'e' :: exponentChars exponent
  | digit :: others => digit :: '.' :: others ++ 'e' :: exponentChars exponent

/-- A decimal as it is written, positionally or with an exponent. -/
def chars (decimal : Decimal) : List Char :=
  let digits := natChars decimal.digits
  let point := Int.ofNat digits.length + decimal.exponent
  if 16 < point ∨ point ≤ -5 then scientificChars digits (point - 1)
  else if 0 ≤ decimal.exponent then
    digits ++ List.replicate decimal.exponent.toNat '0' ++ ['.', '0']
  else if 0 < point then digits.take point.toNat ++ '.' :: digits.drop point.toNat
  else '0' :: '.' :: List.replicate (-point).toNat '0' ++ digits

end Decimal

/-- A double-precision number as it is written, with its sign. -/
def Binary64.chars (number : Binary64) : List Char :=
  let size :=
    if number.size.significand = 0 then ['0', '.', '0'] else number.size.shortest.chars
  if number.negative then '-' :: size else size

end RowQuery
