import RowQuery.Decimal.Binary64

/-!
# Shortest decimals

Every decimal in a certain interval around a double-precision size rounds to that
size. `Scaled.shortest` picks a decimal of that interval with as few digits as
possible, and among those the nearest to the size itself; of two that are equally
near, the even one.

The search goes through the decimal grids from coarse to fine. On each grid only the
two neighbours of the size need a test: if any point of the grid lies in the interval,
so does one of them.
-/

namespace RowQuery

/-- A decimal `digits * 10 ^ exponent`. -/
structure Decimal where
  digits : Nat
  exponent : Int
  deriving DecidableEq, Repr

namespace Scaled

/--
The lower end of the interval of numbers that round to a size, in quarters of the
size's own unit. Below a power of two the neighbour is only half a unit away.
-/
def lowerQuarters (size : Scaled) : Nat :=
  if size.significand = Nat.pow 2 52 ∧ -1074 < size.exponent then 4 * size.significand - 1
  else 4 * size.significand - 2

/-- The upper end of the interval of numbers that round to a size, in quarters of its unit. -/
def upperQuarters (size : Scaled) : Nat := 4 * size.significand + 2

/-- A quarter of a size's unit, measured in steps of the grid `10 ^ exponent`. -/
def quarterOnGrid (size : Scaled) (exponent : Int) : Nat × Nat :=
  let (numerator, denominator) := ratio 1 1 (2 - size.exponent)
  if 0 ≤ exponent then (numerator, denominator * Nat.pow 10 exponent.toNat)
  else (numerator * Nat.pow 10 (-exponent).toNat, denominator)

/-- The nearest point of the grid `10 ^ exponent` that rounds to a size, if there is one. -/
def onGrid? (size : Scaled) (exponent : Int) : Option Nat :=
  let (numerator, denominator) := size.quarterOnGrid exponent
  let middle := 4 * size.significand * numerator
  let lower := size.lowerQuarters * numerator
  let upper := size.upperQuarters * numerator
  let rounds (point : Nat) : Bool :=
    let position := point * denominator
    if size.significand % 2 = 0 then lower ≤ position && position ≤ upper
    else lower < position && position < upper
  let below := middle / denominator
  let above := below + 1
  match rounds below, rounds above with
  | false, false => none
  | true, false => some below
  | false, true => some above
  | true, true =>
      let down := middle - below * denominator
      let up := above * denominator - middle
      if down < up then some below
      else if up < down then some above
      else some (below + below % 2)

/-- The first grid with a point that rounds to a size, among `steps` grids from coarse to fine. -/
def searchGrids (size : Scaled) (exponent : Int) : Nat → Decimal
  | 0 => ⟨size.significand, 0⟩
  | steps + 1 =>
      match size.onGrid? exponent with
      | some digits => ⟨digits, exponent⟩
      | none => size.searchGrids (exponent - 1) steps

/--
The shortest decimal that rounds to a positive size. Seventeen digits always
suffice, and the first grid of the search is at most three places too coarse.
-/
def shortest (size : Scaled) : Decimal :=
  let binaryOrder := Int.ofNat size.significand.log2 + size.exponent
  size.searchGrids (Int.fdiv (binaryOrder * 30103) 100000 + 2) 24

end Scaled

end RowQuery
