import RowQuery.Json.Number

/-!
# Written numbers

This file shows that the text of a number can be read again, whatever is written behind it.

A `Numeral` holds the runs of digits between the marks of a number. `Numeral.chars` writes them
down, and reading undoes this where every run has a digit and no zero leads. `Number.numeral` says
which numeral the text of a number is. Of a whole number it has the digits alone, so that a number
of 64 bits is read as itself. Of any other number it has those of the shortest decimal, which is
not zero unless the number is, so that no zero leads there either.
-/

namespace RowQuery

/-- A run of decimal digits. -/
def IsDigits (text : List Char) : Prop := text ≠ [] ∧ ∀ digit ∈ text, digit.isDigit = true

namespace IsDigits

variable {text other : List Char}

theorem append (isDigits : IsDigits text) (others : ∀ digit ∈ other, digit.isDigit = true) :
    IsDigits (text ++ other) := by
  refine ⟨?_, List.forall_mem_append.mpr ⟨isDigits.2, others⟩⟩
  simp [isDigits.1]

theorem sublist (isDigits : IsDigits text) (part : other.Sublist text) (nonempty : other ≠ []) :
    IsDigits other :=
  ⟨nonempty, fun digit digitMem => isDigits.2 digit (part.subset digitMem)⟩

theorem zeros (count : Nat) : ∀ digit ∈ List.replicate count '0', digit.isDigit = true := by
  intro digit digitMem
  rw [List.eq_of_mem_replicate digitMem]
  decide

theorem zero : IsDigits ['0'] :=
  ⟨List.cons_ne_nil _ _, zeros 1⟩

theorem toDigits (number : Nat) : IsDigits (Nat.toDigits 10 number) :=
  ⟨Nat.toDigits_ne_nil, fun _ => Nat.isDigit_of_mem_toDigits (by decide) (by decide)⟩

end IsDigits

/-- What can stand behind a value: nothing, a comma or a closing bracket. -/
def EndsValue (rest : List Char) : Prop := ∀ first ∈ rest.head?, first ∈ [',', ']', '}']

namespace EndsValue

theorem nil : EndsValue [] := by
  intro first firstMem
  cases firstMem

theorem cons {first : Char} (closing : first ∈ [',', ']', '}']) (rest : List Char) :
    EndsValue (first :: rest) := by
  intro other same
  cases same
  exact closing

/-- Nothing that ends a value could go on with a number. -/
theorem cases {rest : List Char} (ends : EndsValue rest) :
    rest = [] ∨ ∃ first others, rest = first :: others ∧ first.isDigit = false ∧ first ≠ '.' ∧
      first ≠ 'e' ∧ first ≠ 'E' := by
  cases rest with
  | nil => exact .inl rfl
  | cons first others =>
      have closing := ends first rfl
      refine .inr ⟨first, others, rfl, ?_⟩
      simp only [List.mem_cons, List.not_mem_nil, or_false] at closing
      rcases closing with rfl | rfl | rfl <;> decide

end EndsValue

namespace Numeral

/-- The digits after the point, with the point. -/
def fractionChars : Option (List Char) → List Char
  | none => []
  | some digits => '.' :: digits

/-- The digits of an exponent, with its letter and its sign. -/
def exponentChars : Option (Bool × List Char) → List Char
  | none => []
  | some (negative, digits) => 'e' :: (if negative then '-' else '+') :: digits

/-- A numeral as text. -/
def chars (numeral : Numeral) : List Char :=
  (if numeral.negative then ['-'] else []) ++ (numeral.whole ++
    (fractionChars numeral.fraction ++ exponentChars numeral.exponent))

/-- Every run has a digit, and a zero before the point stands alone. -/
structure WellFormed (numeral : Numeral) : Prop where
  whole : IsDigits numeral.whole
  leading : ∀ others, numeral.whole = '0' :: others → others = []
  fraction : ∀ digits ∈ numeral.fraction, IsDigits digits
  exponent : ∀ negative digits, numeral.exponent = some (negative, digits) → IsDigits digits

/-- A run of digits is read up to where no digit follows. -/
theorem digits?_append {digits rest : List Char} (isDigits : IsDigits digits)
    (ended : ∀ first ∈ rest.head?, first.isDigit = false) :
    digits? (digits ++ rest) = some (digits, rest) := by
  have behind : rest.takeWhile Char.isDigit = [] ∧ rest.dropWhile Char.isDigit = rest := by
    cases rest with
    | nil => exact ⟨rfl, rfl⟩
    | cons first others =>
        have noDigit := ended first rfl
        simp [noDigit]
  rw [digits?, List.takeWhile_append_of_pos isDigits.2, List.dropWhile_append_of_pos isDigits.2,
    behind.1, behind.2, List.append_nil]
  simp [isDigits.1]

/-- The digits of an exponent are read with their sign. -/
theorem signedDigits?_append {digits rest : List Char} (negative : Bool)
    (isDigits : IsDigits digits) (ended : ∀ first ∈ rest.head?, first.isDigit = false) :
    signedDigits? ((if negative then '-' else '+') :: (digits ++ rest)) =
      some ((negative, digits), rest) := by
  have found := digits?_append isDigits ended
  cases negative with
  | true => simp [signedDigits?, found]
  | false => simp [signedDigits?, found]

section Reading

variable {numeral : Numeral} (wellFormed : numeral.WellFormed) {rest : List Char}
  (ends : EndsValue rest)

include wellFormed

theorem whole_ne_sign (others : List Char) : numeral.whole ≠ '-' :: others := by
  intro equal
  have isDigit := wellFormed.whole.2 '-' (by simp [equal])
  exact absurd isDigit (by decide)

/-- The sign of a numeral is told by its first character, since no digit is a sign. -/
theorem sign_chars : sign (numeral.chars ++ rest) =
    (numeral.negative, numeral.whole ++
      (fractionChars numeral.fraction ++ exponentChars numeral.exponent) ++ rest) := by
  have unsigned := whole_ne_sign wellFormed
  have nonempty := wellFormed.whole.1
  rcases numeral with ⟨negative, whole, fraction, exponent⟩
  cases negative with
  | true => rfl
  | false =>
      rcases List.exists_cons_of_ne_nil nonempty with ⟨first, others, rfl⟩
      unfold sign
      split
      · next same => exact absurd rfl ((List.cons.inj same).1 ▸ unsigned others)
      · rfl

include ends

/-- An exponent is read where it was written, and none is read where none was. -/
theorem exponent?_exponentChars :
    exponent? (exponentChars numeral.exponent ++ rest) = some (numeral.exponent, rest) := by
  cases found : numeral.exponent with
  | none =>
      rcases ends.cases with rfl | ⟨first, others, rfl, _, _, noSmall, noCapital⟩
      · rfl
      · simp [exponentChars, exponent?, noSmall, noCapital]
  | some written =>
      rcases written with ⟨negative, digits⟩
      have ended : ∀ first ∈ rest.head?, first.isDigit = false := by
        rcases ends.cases with rfl | ⟨first, others, rfl, noDigit, _⟩
        · simp
        · simpa using noDigit
      have read := signedDigits?_append negative (wellFormed.exponent negative digits found) ended
      simp only [exponentChars, List.cons_append, exponent?, read, Option.map_some]

/-- A fraction is read up to the exponent, and none is read where none was written. -/
theorem fraction?_fractionChars :
    fraction? (fractionChars numeral.fraction ++ (exponentChars numeral.exponent ++ rest)) =
      some (numeral.fraction, exponentChars numeral.exponent ++ rest) := by
  have ended : ∀ first ∈ (exponentChars numeral.exponent ++ rest).head?,
      first.isDigit = false ∧ first ≠ '.' := by
    cases numeral.exponent with
    | none =>
        rcases ends.cases with rfl | ⟨first, others, rfl, noDigit, noPoint, _⟩
        · simp [exponentChars]
        · simpa [exponentChars] using ⟨noDigit, noPoint⟩
    | some written =>
        intro first same
        cases same
        decide
  cases found : numeral.fraction with
  | none =>
      cases behind : exponentChars numeral.exponent ++ rest with
      | nil => rfl
      | cons first others =>
          rw [behind] at ended
          have noPoint := (ended first rfl).2
          simp [fractionChars, fraction?, noPoint]
  | some digits =>
      have read := digits?_append (wellFormed.fraction digits found)
        fun first firstMem => (ended first firstMem).1
      simp only [fractionChars, List.cons_append, fraction?, read, Option.map_some]

/-- The digits before the point are read up to the point, the exponent or the end. -/
theorem whole?_chars :
    whole? (numeral.whole ++ (fractionChars numeral.fraction ++
        (exponentChars numeral.exponent ++ rest))) =
      some (numeral.whole, fractionChars numeral.fraction ++
        (exponentChars numeral.exponent ++ rest)) := by
  have ended : ∀ first ∈ (fractionChars numeral.fraction ++
      (exponentChars numeral.exponent ++ rest)).head?, first.isDigit = false := by
    cases numeral.fraction with
    | some digits =>
        intro first same
        cases same
        decide
    | none =>
        cases numeral.exponent with
        | some written =>
            intro first same
            cases same
            decide
        | none =>
            rcases ends.cases with rfl | ⟨first, others, rfl, noDigit, _⟩
            · simp [fractionChars, exponentChars]
            · simpa [fractionChars, exponentChars] using noDigit
  rw [whole?, digits?_append wellFormed.whole ended]
  split
  · next second others _ same =>
      have whole := (Prod.mk.inj (Option.some.inj same)).1
      cases wellFormed.leading _ whole
  · rfl

/-- A well-formed numeral is read as it was written. -/
theorem read?_chars : read? (numeral.chars ++ rest) = some (numeral, rest) := by
  have whole := whole?_chars wellFormed ends
  have fraction := fraction?_fractionChars wellFormed ends
  have exponent := exponent?_exponentChars wellFormed ends
  simp only [read?, sign_chars wellFormed, List.append_assoc, whole, fraction, exponent, bind,
    Option.bind, pure]

end Reading

/-- A significand takes all digits of a number that fits 64 bits. -/
theorem absorb_eq {digits : List Char} {significand : Nat}
    (small : Nat.ofDigitChars 10 digits significand < UInt64.size) :
    absorb significand digits = (Nat.ofDigitChars 10 digits significand, digits.length) := by
  induction digits generalizing significand with
  | nil => rfl
  | cons digit rest ih =>
      have next : 10 * significand + (digit.toNat - '0'.toNat) =
          significand * 10 + digitValue digit := by
        rw [Nat.mul_comm]
        rfl
      rw [Nat.ofDigitChars_cons, next] at small ⊢
      have grown : significand * 10 + digitValue digit ≤
          Nat.ofDigitChars 10 rest (significand * 10 + digitValue digit) := by
        rw [Nat.ofDigitChars_eq_ofDigitChars_zero]
        have positive : 0 < 10 ^ rest.length := Nat.pow_pos (by decide)
        have larger := Nat.le_mul_of_pos_left (significand * 10 + digitValue digit) positive
        omega
      rw [absorb, if_pos (Nat.lt_of_le_of_lt grown small), ih small]
      rfl

/-- A sign and a significand are read as the whole number they were taken from. -/
theorem integer?_natAbs {value : Int} (fits : Int64.minValue.toInt ≤ value) :
    integer? (decide (value < 0)) value.natAbs = some value := by
  by_cases below : value < 0
  · have nonzero : value.natAbs ≠ 0 := by
      omega
    have restored : -Int.ofNat value.natAbs = value := by
      simp only [Int.ofNat_eq_natCast]
      omega
    rw [integer?, restored, if_neg (by simp [below]), if_pos ⟨nonzero, fits⟩]
  · simp [integer?, below, Int.natAbs_of_nonneg (Int.not_lt.mp below)]

end Numeral

namespace IsDigits

/-- The digits of a number that is not zero do not begin with a zero. -/
theorem leading_toDigits {number : Nat} (nonzero : number ≠ 0) (others : List Char) :
    Nat.toDigits 10 number ≠ '0' :: others := by
  induction number using Nat.strongRecOn generalizing others with
  | ind number ih =>
      rw [Nat.toDigits_eq_if (by decide)]
      split
      · next small =>
          have digit : ∀ digit < 10, digit ≠ 0 → Nat.digitChar digit ≠ '0' := by decide
          intro equal
          exact digit number small nonzero (List.cons.inj equal).1
      · next large =>
          have leading := ih (number / 10) (by omega) (by omega)
          have nonempty : Nat.toDigits 10 (number / 10) ≠ [] := Nat.toDigits_ne_nil
          rcases List.exists_cons_of_ne_nil nonempty with ⟨first, rest, equal⟩
          rw [equal] at leading ⊢
          intro same
          rw [List.cons_append, List.cons.injEq] at same
          exact leading rest (by rw [same.1])

end IsDigits

namespace Scaled

theorem ratio_pos (exponent : Int) : 0 < (ratio 1 1 exponent).1 := by
  rw [ratio]
  split
  · exact Nat.one_pos
  · rw [Nat.one_mul]
    exact Nat.pow_pos (by decide)

theorem quarterOnGrid_pos (size : Scaled) (exponent : Int) :
    0 < (size.quarterOnGrid exponent).1 := by
  have positive := ratio_pos (2 - size.exponent)
  simp only [quarterOnGrid]
  split
  · exact positive
  · exact Nat.mul_pos positive (Nat.pow_pos (by decide))

theorem lowerQuarters_pos {size : Scaled} (nonzero : size.significand ≠ 0) :
    0 < size.lowerQuarters := by
  rw [lowerQuarters]
  split
  · omega
  · omega

/-- Zero does not round to a size that is not zero. -/
theorem onGrid?_ne_zero {size : Scaled} (nonzero : size.significand ≠ 0) {exponent : Int}
    {point : Nat} (found : size.onGrid? exponent = some point) : point ≠ 0 := by
  have lower : 0 < size.lowerQuarters * (size.quarterOnGrid exponent).1 :=
    Nat.mul_pos (lowerQuarters_pos nonzero) (size.quarterOnGrid_pos exponent)
  have inside (below denominator upper : Nat)
      (rounds : (if size.significand % 2 = 0 then
          decide (size.lowerQuarters * (size.quarterOnGrid exponent).1 ≤ below * denominator) &&
            decide (below * denominator ≤ upper)
        else
          decide (size.lowerQuarters * (size.quarterOnGrid exponent).1 < below * denominator) &&
            decide (below * denominator < upper)) = true) : below ≠ 0 := by
    rintro rfl
    simp [Nat.not_le.mpr lower] at rounds
  simp only [onGrid?] at found
  split at found
  · cases found
  · next rounds _ =>
      cases found
      exact inside _ _ _ rounds
  · cases found
    exact Nat.succ_ne_zero _
  · next rounds _ =>
      have below := inside _ _ _ rounds
      split at found
      · cases found
        exact below
      · split at found
        · cases found
          exact Nat.succ_ne_zero _
        · cases found
          exact Nat.ne_of_gt (Nat.add_pos_left (Nat.pos_of_ne_zero below) _)

/-- The shortest decimal of a size that is not zero is not zero either. -/
theorem searchGrids_ne_zero {size : Scaled} (nonzero : size.significand ≠ 0) (exponent : Int)
    (steps : Nat) : (size.searchGrids exponent steps).digits ≠ 0 := by
  induction steps generalizing exponent with
  | zero => exact nonzero
  | succ steps ih =>
      rw [searchGrids]
      split
      · next point found => exact onGrid?_ne_zero nonzero found
      · exact ih _

end Scaled

namespace Decimal

/-- The numeral that a decimal is written as, under a sign. -/
def numeral (negative : Bool) (decimal : Decimal) : Numeral :=
  let digits := Nat.toDigits 10 decimal.digits
  let point := Int.ofNat digits.length + decimal.exponent
  if 16 < point ∨ point ≤ -5 then
    ⟨negative, digits.take 1, if digits.length = 1 then none else some (digits.drop 1),
      some (decide (point - 1 < 0), Nat.toDigits 10 (point - 1).natAbs)⟩
  else if 0 ≤ decimal.exponent then
    ⟨negative, digits ++ List.replicate decimal.exponent.toNat '0', some ['0'], none⟩
  else if 0 < point then
    ⟨negative, digits.take point.toNat, some (digits.drop point.toNat), none⟩
  else ⟨negative, ['0'], some (List.replicate (-point).toNat '0' ++ digits), none⟩

/-- A signed exponent is written as that of a numeral. -/
theorem exponentChars_eq (exponent : Int) : 'e' :: exponentChars exponent =
    Numeral.exponentChars (some (decide (exponent < 0), Nat.toDigits 10 exponent.natAbs)) := by
  cases exponent with
  | ofNat number => simp [exponentChars, Numeral.exponentChars, natChars]
  | negSucc number => simp [exponentChars, Numeral.exponentChars, natChars, intChars]

/-- Digits with an exponent are written with a point only if there is more than one. -/
theorem scientificChars_eq {digits : List Char} (nonempty : digits ≠ []) (exponent : Int) :
    scientificChars digits exponent = digits.take 1 ++
      (Numeral.fractionChars (if digits.length = 1 then none else some (digits.drop 1)) ++
        ('e' :: exponentChars exponent)) := by
  rcases digits with _ | ⟨first, _ | ⟨second, others⟩⟩
  · exact absurd rfl nonempty
  · rfl
  · rfl

/-- A decimal is written as its numeral. -/
theorem chars_numeral (negative : Bool) (decimal : Decimal) :
    (decimal.numeral negative).chars = (if negative then ['-'] else []) ++ decimal.chars := by
  have nonempty : natChars decimal.digits ≠ [] := Nat.toDigits_ne_nil
  have digits_eq : Nat.toDigits 10 decimal.digits = natChars decimal.digits := rfl
  rw [chars, numeral, digits_eq]
  generalize natChars decimal.digits = digits at nonempty
  split
  · rw [scientificChars_eq nonempty, exponentChars_eq]
    rfl
  · split
    · simp [Numeral.chars, Numeral.fractionChars, Numeral.exponentChars]
    · split
      · simp [Numeral.chars, Numeral.fractionChars, Numeral.exponentChars]
      · simp [Numeral.chars, Numeral.fractionChars, Numeral.exponentChars]

/-- The numeral of a decimal can be read, as no zero leads in a decimal that is not zero. -/
theorem wellFormed_numeral (negative : Bool) {decimal : Decimal} (nonzero : decimal.digits ≠ 0) :
    (decimal.numeral negative).WellFormed := by
  have isDigits := IsDigits.toDigits decimal.digits
  have leading := IsDigits.leading_toDigits nonzero
  rw [numeral]
  generalize Nat.toDigits 10 decimal.digits = digits at isDigits leading
  have positive : 0 < digits.length := List.length_pos_iff.mpr isDigits.1
  have unled {taken : List Char} (part : taken <+: digits) (others : List Char)
      (zero : taken = '0' :: others) : others = [] := by
    rcases part with ⟨behind, rfl⟩
    exact absurd (congrArg (· ++ behind) zero) (leading _)
  have taken {count : Nat} (some_digit : 0 < count) : IsDigits (digits.take count) :=
    isDigits.sublist (List.take_sublist _ _) (by simp [isDigits.1]; omega)
  have dropped {count : Nat} (some_left : count < digits.length) : IsDigits (digits.drop count) :=
    isDigits.sublist (List.drop_sublist _ _) (by simpa using some_left)
  have single (others : List Char) (zero : ['0'] = '0' :: others) : others = [] :=
    (List.cons.inj zero).2.symm
  split
  · refine ⟨taken Nat.one_pos, unled (List.take_prefix _ _), ?_, ?_⟩
    · intro fraction fractionMem
      split at fractionMem
      · cases fractionMem
      · cases fractionMem
        exact dropped (by omega)
    · intro sign exponent same
      cases same
      exact IsDigits.toDigits _
  · next positional =>
      split
      · refine ⟨isDigits.append (IsDigits.zeros _), ?_, ?_, ?_⟩
        · intro others zero
          rcases List.exists_cons_of_ne_nil isDigits.1 with ⟨first, behind, rfl⟩
          exact absurd (by rw [(List.cons.inj zero).1]) (leading behind)
        · rintro fraction ⟨⟩
          exact IsDigits.zero
        · rintro sign exponent ⟨⟩
      · split
        · refine ⟨taken (by omega), unled (List.take_prefix _ _), ?_, ?_⟩
          · rintro fraction ⟨⟩
            have inside : (Int.ofNat digits.length + decimal.exponent).toNat < digits.length := by
              simp only [Int.ofNat_eq_natCast] at *
              omega
            exact dropped inside
          · rintro sign exponent ⟨⟩
        · refine ⟨IsDigits.zero, single, ?_, ?_⟩
          · rintro fraction ⟨⟩
            refine ⟨by simp [isDigits.1], ?_⟩
            exact List.forall_mem_append.mpr ⟨IsDigits.zeros _, isDigits.2⟩
          · rintro sign exponent ⟨⟩

end Decimal

namespace Number

/-- The numeral that a number is written as. -/
def numeral : Number → Numeral
  | .integer value => ⟨decide (value < 0), Nat.toDigits 10 value.natAbs, none, none⟩
  | .real value =>
      if value.size.significand = 0 then ⟨value.negative, ['0'], some ['0'], none⟩
      else value.size.shortest.numeral value.negative

/-- What a written number is read as: a whole number of 64 bits as itself. -/
def reading (number : Number) : Option Number :=
  match number with
  | .integer value =>
      if Int64.minValue.toInt ≤ value ∧ value < Int.ofNat UInt64.size then some (.integer value)
      else number.numeral.number?
  | .real _ => number.numeral.number?

/-- A number is written as its numeral. -/
theorem chars_numeral (number : Number) : number.numeral.chars = number.chars := by
  cases number with
  | integer value =>
      cases value with
      | ofNat digits =>
          simp [numeral, chars, intChars, natChars, Numeral.chars, Numeral.fractionChars,
            Numeral.exponentChars]
      | negSucc digits =>
          simp [numeral, chars, intChars, natChars, Numeral.chars, Numeral.fractionChars,
            Numeral.exponentChars]
  | real value =>
      rw [numeral, chars, Binary64.chars]
      cases value.negative with
      | true =>
          split
          · rfl
          · rw [Decimal.chars_numeral]
            rfl
      | false =>
          split
          · rfl
          · rw [Decimal.chars_numeral]
            rfl

/-- The text of a number is a number. -/
theorem wellFormed_numeral (number : Number) : number.numeral.WellFormed := by
  cases number with
  | integer value =>
      refine ⟨IsDigits.toDigits _, ?_, ?_, ?_⟩
      · intro others zero
        by_cases isZero : value.natAbs = 0
        · simp only [numeral, isZero] at zero
          exact (List.cons.inj zero).2.symm
        · exact absurd zero (IsDigits.leading_toDigits isZero others)
      · rintro digits ⟨⟩
      · rintro negative digits ⟨⟩
  | real value =>
      rw [numeral]
      split
      · refine ⟨IsDigits.zero, fun others same => (List.cons.inj same).2.symm, ?_, ?_⟩
        · rintro digits ⟨⟩
          exact IsDigits.zero
        · rintro negative digits ⟨⟩
      · next nonzero =>
          exact Decimal.wellFormed_numeral _ (Scaled.searchGrids_ne_zero nonzero _ _)

/-- A whole number of 64 bits keeps its value. -/
theorem number?_numeral (number : Number) : number.numeral.number? = number.reading := by
  cases number with
  | real value => rfl
  | integer value =>
      rw [reading]
      split
      · next fits =>
          have digits : Nat.ofDigitChars 10 (Nat.toDigits 10 value.natAbs) 0 = value.natAbs :=
            Nat.ofDigitChars_ten_toDigits
          have small : value.natAbs < UInt64.size := by
            have lowest : Int64.minValue.toInt = -9223372036854775808 := rfl
            have words : UInt64.size = 18446744073709551616 := rfl
            simp only [lowest, words, Int.ofNat_eq_natCast] at fits ⊢
            omega
          have absorbed := Numeral.absorb_eq (digits.symm ▸ small)
          rw [digits] at absorbed
          have signed := Numeral.integer?_natAbs fits.1
          simp [Numeral.number?, numeral, absorbed, Numeral.absorb, signed]
      · rfl

end Number

end RowQuery
