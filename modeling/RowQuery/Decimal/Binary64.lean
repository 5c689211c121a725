/-!
# Double-precision numbers

A fraction in a document is kept as the double-precision number nearest to it.
Such a number is a sign, a significand below `2 ^ 53` and a binary exponent; its
size is `significand * 2 ^ exponent`. Infinities and not-a-number never arise, so
they have no representation: `round?` answers `none` for a size that is too large.

All arithmetic is on natural numbers, so that nothing depends on how the machine
represents floating-point values.
-/

namespace RowQuery

/-- A size `significand * 2 ^ exponent`. -/
structure Scaled where
  significand : Nat
  exponent : Int
  deriving DecidableEq, Repr

/-- A finite double-precision number. Zero keeps its sign. -/
structure Binary64 where
  /-- Whether the number carries a minus sign. -/
  negative : Bool
  size : Scaled
  deriving DecidableEq, Repr

/-- The quotient rounded to the nearest whole number, a half to the even neighbour. -/
def roundDiv (numerator denominator : Nat) : Nat :=
  let quotient := numerator / denominator
  let twice := 2 * (numerator % denominator)
  if twice < denominator then quotient
  else if denominator < twice then quotient + 1
  else quotient + quotient % 2

namespace Scaled

/-- The size zero. -/
def zero : Scaled := ⟨0, -1074⟩

/-- The quotient `numerator / denominator / 2 ^ exponent` as a numerator and a denominator. -/
def ratio (numerator denominator : Nat) (exponent : Int) : Nat × Nat :=
  if 0 ≤ exponent then (numerator, denominator * Nat.pow 2 exponent.toNat)
  else (numerator * Nat.pow 2 (-exponent).toNat, denominator)

/-- The exponent at which a positive quotient has a significand of 53 bits, or the least one. -/
def exponentFor (numerator denominator : Nat) : Int :=
  let guess : Int := Int.ofNat numerator.log2 - Int.ofNat denominator.log2 - 53
  let (scaledNumerator, scaledDenominator) := ratio numerator denominator guess
  let exponent := if scaledNumerator / scaledDenominator < Nat.pow 2 53 then guess else guess + 1
  max exponent (-1074)

/--
The double-precision size nearest to a quotient, a tie going to the even
significand. There is none if the quotient is too large.
-/
def round? (numerator denominator : Nat) : Option Scaled :=
  if numerator = 0 then some zero
  else
    let exponent := exponentFor numerator denominator
    let (scaledNumerator, scaledDenominator) := ratio numerator denominator exponent
    let significand := roundDiv scaledNumerator scaledDenominator
    let rounded : Scaled :=
      if significand = Nat.pow 2 53 then ⟨Nat.pow 2 52, exponent + 1⟩
      else ⟨significand, exponent⟩
    if 971 < rounded.exponent then none else some rounded

/-- The double-precision size nearest to a natural number. -/
def ofNat? (number : Nat) : Option Scaled := round? number 1

/-- A size as a quotient of whole numbers. -/
def quotient (size : Scaled) : Nat × Nat := ratio size.significand 1 (-size.exponent)

/-- The product of two sizes, rounded. -/
def mul? (left right : Scaled) : Option Scaled :=
  let (leftNumerator, leftDenominator) := left.quotient
  let (rightNumerator, rightDenominator) := right.quotient
  round? (leftNumerator * rightNumerator) (leftDenominator * rightDenominator)

/-- The quotient of two sizes, rounded. -/
def div? (left right : Scaled) : Option Scaled :=
  let (leftNumerator, leftDenominator) := left.quotient
  let (rightNumerator, rightDenominator) := right.quotient
  round? (leftNumerator * rightDenominator) (leftDenominator * rightNumerator)

end Scaled

end RowQuery
