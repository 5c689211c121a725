import RowQuery.Decimal.Notation

/-!
# Numbers in documents

A number written without fraction and exponent is a whole number as long as it fits
a machine word: 64 bits without a sign, or 64 bits in two's complement after a minus
sign. Every other number is double precision, and so is `-0`.

`Numeral.read?` takes a number apart into its runs of digits, by the grammar of the
format: no leading zeros, and at least one digit in each run. `Numeral.number?` gives
the value. A double-precision value is not always the nearest one to what was written:
digits enter a 64-bit significand from the left while it has room for them, and the
significand is then scaled once by a rounded power of ten. A number that is too large
has no value.
-/

namespace RowQuery

/-- A number of a document. -/
inductive Number where
  /-- A whole number that fits 64 bits. -/
  | integer (value : Int)
  /-- Any other number. -/
  | real (value : Binary64)
  deriving DecidableEq, Repr

namespace Number

/-- The number as it is written in a document. -/
def chars : Number → List Char
  | .integer value => intChars value
  | .real value => value.chars

/-- The value of a whole number that fits 64 bits in two's complement. -/
def int64? : Number → Option Int64
  | .integer value =>
      if Int64.minValue.toInt ≤ value ∧ value ≤ Int64.maxValue.toInt then
        some (Int64.ofInt value)
      else none
  | .real _ => none

end Number

/-- A number as it stands in a text: the runs of digits between its marks. -/
structure Numeral where
  /-- Whether a minus sign comes first. -/
  negative : Bool
  /-- The digits before the point. -/
  whole : List Char
  /-- The digits after the point, if there is a point. -/
  fraction : Option (List Char)
  /-- Whether the exponent is negative, and its digits, if there is an exponent. -/
  exponent : Option (Bool × List Char)
  deriving DecidableEq, Repr

namespace Numeral

/-- The run of digits a text starts with, and the rest. There must be at least one digit. -/
def digits? (text : List Char) : Option (List Char × List Char) :=
  if (text.takeWhile Char.isDigit).isEmpty then none
  else some (text.takeWhile Char.isDigit, text.dropWhile Char.isDigit)

/-- The digits before the point: a zero stands alone. -/
def whole? (text : List Char) : Option (List Char × List Char) :=
  match digits? text with
  | some ('0' :: _ :: _, _) => none
  | found => found

/-- The digits after a point, if a point comes next. -/
def fraction? : List Char → Option (Option (List Char) × List Char)
  | '.' :: text => (digits? text).map fun (digits, rest) => (some digits, rest)
  | text => some (none, text)

/-- The digits of an exponent, after its sign. -/
def signedDigits? : List Char → Option ((Bool × List Char) × List Char)
  | '-' :: text => (digits? text).map fun (digits, rest) => ((true, digits), rest)
  | '+' :: text => (digits? text).map fun (digits, rest) => ((false, digits), rest)
  | text => (digits? text).map fun (digits, rest) => ((false, digits), rest)

/-- The exponent, if its letter comes next. -/
def exponent? : List Char → Option (Option (Bool × List Char) × List Char)
  | 'e' :: text => (signedDigits? text).map fun (exponent, rest) => (some exponent, rest)
  | 'E' :: text => (signedDigits? text).map fun (exponent, rest) => (some exponent, rest)
  | text => some (none, text)

/-- The sign of a number, and the text after it. -/
def sign : List Char → Bool × List Char
  | '-' :: text => (true, text)
  | text => (false, text)

/-- The number a text starts with, and the rest. -/
def read? (text : List Char) : Option (Numeral × List Char) := do
  let (whole, text₁) ← whole? (sign text).2
  let (fraction, text₂) ← fraction? text₁
  let (exponent, text₃) ← exponent? text₂
  pure (⟨(sign text).1, whole, fraction, exponent⟩, text₃)

theorem length_dropWhile_le (keep : Char → Bool) (text : List Char) :
    (text.dropWhile keep).length ≤ text.length := by
  induction text with
  | nil => simp
  | cons first rest ih =>
      simp only [List.dropWhile_cons]
      split
      · simp only [List.length_cons]
        omega
      · simp

theorem length_of_digits? {text digits rest : List Char}
    (found : digits? text = some (digits, rest)) : rest.length < text.length := by
  unfold digits? at found
  split at found
  · simp at found
  · next some_digit =>
      simp only [Option.some.injEq, Prod.mk.injEq] at found
      obtain ⟨_, rfl⟩ := found
      cases text with
      | nil => simp at some_digit
      | cons first others =>
          simp only [List.takeWhile_cons, List.dropWhile_cons] at some_digit ⊢
          split
          · have := length_dropWhile_le Char.isDigit others
            simp only [List.length_cons]
            omega
          · next not_digit => simp [not_digit] at some_digit

theorem length_of_whole? {text digits rest : List Char}
    (found : whole? text = some (digits, rest)) : rest.length < text.length := by
  unfold whole? at found
  split at found
  · simp at found
  · exact length_of_digits? found

theorem length_of_fraction? {text rest : List Char} {fraction : Option (List Char)}
    (found : fraction? text = some (fraction, rest)) : rest.length ≤ text.length := by
  unfold fraction? at found
  split at found
  · simp only [Option.map_eq_some_iff, Prod.mk.injEq, Prod.exists] at found
    obtain ⟨_, _, inner, _, rfl⟩ := found
    have := length_of_digits? inner
    simp only [List.length_cons]
    omega
  · simp only [Option.some.injEq, Prod.mk.injEq] at found
    obtain ⟨_, rfl⟩ := found
    exact Nat.le_refl _

theorem length_of_signedDigits? {text rest : List Char} {exponent : Bool × List Char}
    (found : signedDigits? text = some (exponent, rest)) : rest.length < text.length := by
  unfold signedDigits? at found
  split at found
  all_goals
    simp only [Option.map_eq_some_iff, Prod.mk.injEq, Prod.exists] at found
    obtain ⟨_, _, inner, _, rfl⟩ := found
    have := length_of_digits? inner
    grind

theorem length_of_exponent? {text rest : List Char} {exponent : Option (Bool × List Char)}
    (found : exponent? text = some (exponent, rest)) : rest.length ≤ text.length := by
  unfold exponent? at found
  split at found
  · simp only [Option.map_eq_some_iff, Prod.mk.injEq, Prod.exists] at found
    obtain ⟨_, _, _, inner, _, rfl⟩ := found
    have := length_of_signedDigits? inner
    simp only [List.length_cons]
    omega
  · simp only [Option.map_eq_some_iff, Prod.mk.injEq, Prod.exists] at found
    obtain ⟨_, _, _, inner, _, rfl⟩ := found
    have := length_of_signedDigits? inner
    simp only [List.length_cons]
    omega
  · simp only [Option.some.injEq, Prod.mk.injEq] at found
    obtain ⟨_, rfl⟩ := found
    exact Nat.le_refl _

theorem length_sign_le (text : List Char) : (sign text).2.length ≤ text.length := by
  unfold sign
  split <;> simp

/-- Reading a number leaves a shorter text. -/
theorem length_of_read? {text rest : List Char} {numeral : Numeral}
    (found : read? text = some (numeral, rest)) : rest.length < text.length := by
  simp only [read?, bind, pure, Option.bind_eq_some_iff, Option.some.injEq, Prod.mk.injEq,
    Prod.exists] at found
  obtain ⟨_, _, whole, _, _, fraction, _, _, exponent, _, rfl⟩ := found
  have := length_sign_le text
  have := length_of_whole? whole
  have := length_of_fraction? fraction
  have := length_of_exponent? exponent
  omega

/-- The value of a digit. -/
def digitValue (digit : Char) : Nat := digit.toNat - 48

/-- The number that a run of digits writes. -/
def value (digits : List Char) : Nat :=
  digits.foldl (fun total digit => total * 10 + digitValue digit) 0

/--
Appends digits to a significand while it fits 64 bits. The second component is the
number of digits that were appended.
-/
def absorb (significand : Nat) : List Char → Nat × Nat
  | [] => (significand, 0)
  | digit :: rest =>
      if significand * 10 + digitValue digit < UInt64.size then
        let (total, taken) := absorb (significand * 10 + digitValue digit) rest
        (total, taken + 1)
      else (significand, 0)

/-- The exponent of the largest power of ten in double precision. -/
def largestPower : Nat := 308

/-- The double-precision size nearest to a power of ten. -/
def powerOfTen? (exponent : Nat) : Option Scaled := Scaled.ofNat? (Nat.pow 10 exponent)

/-- Divides by one rounded power of ten. -/
def divideByPower? (size : Scaled) (exponent : Nat) : Option Scaled :=
  powerOfTen? exponent >>= size.div?

/-- Divides by the largest power of ten a number of times, or until nothing is left. -/
def divideByLargest? (size : Scaled) : Nat → Option Scaled
  | 0 => some size
  | times + 1 =>
      if size.significand = 0 then some size
      else
        match divideByPower? size largestPower with
        | none => none
        | some smaller => divideByLargest? smaller times

/-- Divides by a power of ten, in steps of at most the largest one. -/
def scaleDown? (size : Scaled) (exponent : Nat) : Option Scaled :=
  let times := (exponent - 1) / largestPower
  divideByLargest? size times >>= (divideByPower? · (exponent - times * largestPower))

/-- Multiplies by a power of ten. There is no product if it would be too large. -/
def scaleUp? (size : Scaled) (exponent : Nat) : Option Scaled :=
  if size.significand = 0 then some size
  else if exponent ≤ largestPower then powerOfTen? exponent >>= size.mul?
  else none

/-- The size of a significand scaled by a power of ten. -/
def scale? (significand : Nat) (exponent : Int) : Option Scaled := do
  let size ← Scaled.ofNat? significand
  if 0 ≤ exponent then scaleUp? size exponent.toNat else scaleDown? size (-exponent).toNat

/-- The whole number a significand stands for, if it fits 64 bits with its sign. -/
def integer? (negative : Bool) (significand : Nat) : Option Int :=
  if !negative then some (Int.ofNat significand)
  else if significand ≠ 0 ∧ Int64.minValue.toInt ≤ -Int.ofNat significand then
    some (-Int.ofNat significand)
  else none

/-- The value of a number, unless it is too large. -/
def number? (numeral : Numeral) : Option Number :=
  let (leading, taken) := absorb 0 numeral.whole
  let dropped := numeral.whole.length - taken
  let (significand, shifted) := absorb leading (numeral.fraction.getD [])
  let written : Int :=
    match numeral.exponent with
    | none => 0
    | some (true, digits) => -Int.ofNat (value digits)
    | some (false, digits) => Int.ofNat (value digits)
  let real := (scale? significand (Int.ofNat dropped - Int.ofNat shifted + written)).map
    fun size => Number.real ⟨numeral.negative, size⟩
  if numeral.fraction.isSome ∨ numeral.exponent.isSome ∨ dropped ≠ 0 then real
  else
    match integer? numeral.negative significand with
    | some integer => some (.integer integer)
    | none => real

end Numeral

end RowQuery
