import RowQuery.Json.Printer

/-!
# Printed documents

This file shows that a document is printed on one line: no character of its text has a code
below that of the blank. In texts these characters are escaped, and nothing else that is
printed has any.
-/

namespace RowQuery

/-- What holds of all characters of several texts holds of the texts in a row. -/
theorem forall_mem_intercalate {α : Type} {good : α → Prop} {separator : List α}
    {parts : List (List α)} (separated : ∀ item ∈ separator, good item)
    (each : ∀ part ∈ parts, ∀ item ∈ part, good item) :
    ∀ item ∈ List.intercalate separator parts, good item := by
  induction parts with
  | nil => simp
  | cons first others ih =>
      have firstGood := each first List.mem_cons_self
      have othersGood := ih fun part partMem => each part (List.mem_cons_of_mem _ partMem)
      cases others with
      | nil => simpa using firstGood
      | cons second others =>
          rw [List.intercalate_cons_cons, List.forall_mem_append, List.forall_mem_append]
          exact ⟨⟨firstGood, separated⟩, othersGood⟩

/-- Several texts in a row begin with the first of them. -/
theorem exists_intercalate_cons {α : Type} (separator first : List α) (others : List (List α)) :
    ∃ behind, List.intercalate separator (first :: others) = first ++ behind := by
  cases others with
  | nil => exact ⟨[], by simp⟩
  | cons second others => exact ⟨_, List.intercalate_cons_cons.trans (List.append_assoc _ _ _)⟩

/-- No character has a code below that of the blank, so none ends a line. -/
def Unbroken (text : List Char) : Prop := ∀ character ∈ text, 0x20 ≤ character.toNat

instance (text : List Char) : Decidable (Unbroken text) :=
  List.decidableBAll (fun character : Char => 0x20 ≤ character.toNat) text

namespace Unbroken

theorem cons {first : Char} {rest : List Char} (visible : 0x20 ≤ first.toNat)
    (unbroken : Unbroken rest) : Unbroken (first :: rest) :=
  List.forall_mem_cons.mpr ⟨visible, unbroken⟩

theorem append {text other : List Char} (unbroken : Unbroken text)
    (otherUnbroken : Unbroken other) : Unbroken (text ++ other) :=
  List.forall_mem_append.mpr ⟨unbroken, otherUnbroken⟩

theorem sublist {text part : List Char} (unbroken : Unbroken text) (sublist : part.Sublist text) :
    Unbroken part :=
  fun character characterMem => unbroken character (sublist.subset characterMem)

theorem commas {parts : List (List Char)} (each : ∀ part ∈ parts, Unbroken part) :
    Unbroken (List.intercalate [','] parts) :=
  forall_mem_intercalate (by decide : Unbroken [',']) each

/-- An unbroken text has no line end in it. -/
theorem newline_not_mem {text : List Char} (unbroken : Unbroken text) : '\n' ∉ text := by
  intro newlineMem
  exact absurd (unbroken '\n' newlineMem) (by decide)

theorem digit {digit : Char} (isDigit : digit.isDigit = true) : 0x20 ≤ digit.toNat := by
  simp only [Char.isDigit, Bool.and_eq_true, decide_eq_true_eq] at isDigit
  have low : '0'.toNat ≤ digit.toNat := isDigit.1
  exact Nat.le_trans (by decide) low

theorem digits (number : Nat) : Unbroken (natChars number) := by
  intro character characterMem
  exact digit (Nat.isDigit_of_mem_toDigits (by decide) (by decide) characterMem)

end Unbroken

theorem intChars_unbroken (number : Int) : Unbroken (intChars number) := by
  cases number with
  | ofNat number => exact .digits number
  | negSucc number => exact .cons (by decide) (.digits (number + 1))

namespace Decimal

theorem exponentChars_unbroken (exponent : Int) : Unbroken (exponentChars exponent) := by
  unfold exponentChars
  split
  · exact .cons (by decide) (.digits _)
  · exact intChars_unbroken exponent

theorem scientificChars_unbroken {digits : List Char} (unbroken : Unbroken digits)
    (exponent : Int) : Unbroken (scientificChars digits exponent) := by
  unfold scientificChars
  have written := exponentChars_unbroken exponent
  split
  · exact unbroken
  · exact .cons (unbroken _ List.mem_cons_self) (.cons (by decide) written)
  · next first others _ =>
      have remaining : Unbroken others := unbroken.sublist (List.sublist_cons_self _ _)
      exact .cons (unbroken _ List.mem_cons_self)
        (.cons (by decide) (.append remaining (.cons (by decide) written)))

theorem chars_unbroken (decimal : Decimal) : Unbroken decimal.chars := by
  have digits := Unbroken.digits decimal.digits
  have zeros (count : Nat) : Unbroken (List.replicate count '0') := by
    intro character characterMem
    rw [List.eq_of_mem_replicate characterMem]
    decide
  unfold chars
  dsimp only
  split
  · exact scientificChars_unbroken digits _
  · split
    · exact .append (.append digits (zeros _)) (by decide)
    · split
      · exact .append (digits.sublist (List.take_sublist _ _))
          (.cons (by decide) (digits.sublist (List.drop_sublist _ _)))
      · exact .cons (by decide) (.cons (by decide) (.append (zeros _) digits))

end Decimal

theorem Number.chars_unbroken (number : Number) : Unbroken number.chars := by
  cases number with
  | integer value => exact intChars_unbroken value
  | real value =>
      have size : Unbroken (if value.size.significand = 0 then ['0', '.', '0']
          else value.size.shortest.chars) := by
        split
        · decide
        · exact Decimal.chars_unbroken _
      rw [chars, Binary64.chars]
      split
      · exact .cons (by decide) size
      · exact size

namespace Quoted

/-- An escaped character is written without control characters. -/
theorem escape_unbroken (character : Char) : Unbroken (escape character) := by
  unfold escape
  split
  · decide
  · decide
  · decide
  · decide
  · decide
  · decide
  · decide
  · split
    · next control =>
        have digits : ∀ code < 0x20, Unbroken ('\\' :: 'u' :: '0' :: '0' ::
            [Nat.digitChar (code / 16), Nat.digitChar (code % 16)]) := by decide
        exact digits character.toNat control
    · next printed => exact .cons (Nat.not_lt.mp printed) (by decide)

theorem chars_unbroken (content : String) : Unbroken (chars content) := by
  refine .append (.cons (by decide) ?_) (by decide)
  intro character characterMem
  rcases List.mem_flatMap.mp characterMem with ⟨source, _, escaped⟩
  exact escape_unbroken source character escaped

end Quoted

namespace Json

mutual

/-- A document is printed on one line. -/
theorem chars_unbroken : (value : Json) → Unbroken value.chars
  | .null => by decide
  | .bool true => by decide
  | .bool false => by decide
  | .number value => value.chars_unbroken
  | .text content => Quoted.chars_unbroken content
  | .list items => .append (.cons (by decide) (.commas (itemTexts_unbroken items))) (by decide)
  | .object members =>
      .append (.cons (by decide) (.commas (memberTexts_unbroken members))) (by decide)

theorem itemTexts_unbroken : (items : List Json) → ∀ text ∈ itemTexts items, Unbroken text
  | [] => by simp [itemTexts]
  | item :: rest => List.forall_mem_cons.mpr ⟨item.chars_unbroken, itemTexts_unbroken rest⟩

theorem memberTexts_unbroken :
    (members : List (String × Json)) → ∀ text ∈ memberTexts members, Unbroken text
  | [] => by simp [memberTexts]
  | (name, value) :: rest => List.forall_mem_cons.mpr
      ⟨.append (Quoted.chars_unbroken name) (.cons (by decide) value.chars_unbroken),
        memberTexts_unbroken rest⟩

end

end Json

end RowQuery
