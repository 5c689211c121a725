import RowQuery.Proofs.Sql.TokenText
import RowQuery.Sql.Placeholder

/-!
# Scanning text outside of quotes

This file gives the common form of all functions that pass over a text and treat what
stands between quotes apart from the rest: counting placeholders, collecting them,
numbering them, telling whether the text ends between quotes. A `Scanner` says what
such a function does with a quoted character, with any other character, and at the end.

The main lemmas say what a scanner does with the text of one token, whatever text
follows. A name is a closed run of quoted characters however many quotes it holds,
because the quotes inside it are written twice. A word holds no mark of a placeholder,
and its quotes, if any, are closed within it. This leaves the slots, which each scanner
treats in its own way.
-/

namespace RowQuery

/-- What is done with each character of a text, from the end of the text to its start. -/
structure Scanner (α : Type) where
  /-- The outcome at the end of the text, given the quote of a run that is still open. -/
  finish : Option Char → α
  /-- The outcome at a character of a quoted run, quotes included. -/
  quoted : Char → α → α
  /-- The outcome at any other character, given the text behind it. -/
  plain : Char → List Char → α → α

namespace Scanner

variable {α : Type}

/-- The outcome of a text, inside a run that ends at the given quote or outside of runs. -/
def run (scanner : Scanner α) : Option Char → List Char → α
  | quote, [] => scanner.finish quote
  | some quote, character :: rest =>
      scanner.quoted character (scanner.run (if character = quote then none else some quote) rest)
  | none, character :: rest =>
      if character = '"' ∨ character = '\'' then
        scanner.quoted character (scanner.run (some character) rest)
      else scanner.plain character rest (scanner.run none rest)

/-- A scanner that treats characters like quoted ones unless they can begin a placeholder. -/
def Even (scanner : Scanner α) : Prop :=
  ∀ character rest outcome, character ≠ '?' → character ≠ '$' →
    scanner.plain character rest outcome = scanner.quoted character outcome

/-- A text without a mark is passed over. -/
theorem run_unmarked {scanner : Scanner α} (even : scanner.Even) {text : List Char}
    (unmarked : text.all (fun character => !marks.elem character) = true) (rest : List Char) :
    scanner.run none (text ++ rest) = text.foldr scanner.quoted (scanner.run none rest) := by
  induction text with
  | nil => rfl
  | cons first others ih =>
      rw [List.all_cons, Bool.and_eq_true] at unmarked
      rcases unmarked with ⟨firstUnmarked, othersUnmarked⟩
      have different : first ≠ '"' ∧ first ≠ '\'' ∧ first ≠ '?' ∧ first ≠ '$' := by
        simpa [marks] using firstUnmarked
      rcases different with ⟨noQuote, noApostrophe, noQuestion, noDollar⟩
      rw [List.cons_append, run, if_neg (by simp [noQuote, noApostrophe]),
        even _ _ _ noQuestion noDollar, ih othersUnmarked, List.foldr_cons]

/--
A word is passed over like quoted characters. The quotes of the empty literal open a run and close
it at once.
-/
theorem run_word {scanner : Scanner α} (even : scanner.Even) (word : Word) (rest : List Char) :
    scanner.run none (word.text.toList ++ rest) =
      word.text.toList.foldr scanner.quoted (scanner.run none rest) := by
  cases word with
  | inNothing =>
      have literal (behind : List Char) : scanner.run none (['\'', '\''] ++ behind) =
          ['\'', '\''].foldr scanner.quoted (scanner.run none behind) := by
        simp [run]
      have split : Word.inNothing.text.toList = " IN (".toList ++ (['\'', '\''] ++ [')']) := rfl
      rw [split, List.append_assoc, List.append_assoc, run_unmarked even (by decide), literal,
        run_unmarked even (by decide), List.foldr_append, List.foldr_append]
  | aggregate function => cases function <;> exact run_unmarked even (by decide) rest
  | comparison operator => cases operator <;> exact run_unmarked even (by decide) rest
  | _ => exact run_unmarked even (by decide) rest

/-- Inside quotes, no quote of a name ends the run, and the quote behind the name does. -/
theorem run_escaped (scanner : Scanner α) (name rest : List Char) :
    scanner.run (some '"') (escaped name ++ '"' :: rest) =
      (escaped name ++ ['"']).foldr scanner.quoted (scanner.run none rest) := by
  induction name with
  | nil => simp [run]
  | cons first others ih =>
      by_cases quote : first = '"'
      · subst quote
        simp [run, ih]
      · simp [escaped_cons quote, run, quote, ih]

theorem run_quotedName (scanner : Scanner α) (name : String) (rest : List Char) :
    scanner.run none (quotedName name ++ rest) =
      (quotedName name).foldr scanner.quoted (scanner.run none rest) := by
  have closed := scanner.run_escaped name.toList rest
  simp only [quotedName_eq, List.cons_append, List.append_assoc, List.nil_append, List.foldr_cons]
  rw [run, if_pos (Or.inl rfl), closed]

/-- A placeholder is met at its mark; the digits behind it are passed over. -/
theorem run_placeholder {scanner : Scanner α} (even : scanner.Even) (dialect : Dialect)
    (number : Nat) (rest : List Char) :
    scanner.run none (dialect.placeholder number ++ rest) =
      scanner.plain dialect.mark (dialect.digits number ++ rest)
        ((dialect.digits number).foldr scanner.quoted (scanner.run none rest)) := by
  have noQuote : ¬(dialect.mark = '"' ∨ dialect.mark = '\'') := by
    cases dialect with
    | ansi => decide
    | postgres => decide
  have unmarked : (dialect.digits number).all (fun digit => !marks.elem digit) = true := by
    rw [List.all_eq_true]
    intro digit digitMem
    have isDigit := Dialect.isDigit_of_mem_digits digitMem
    rw [Bool.not_eq_true', ← Bool.not_eq_true, List.elem_iff]
    intro marked
    simp only [marks, List.mem_cons, List.not_mem_nil, or_false] at marked
    rcases marked with rfl | rfl | rfl | rfl <;> exact absurd isDigit (by decide)
  rw [Dialect.placeholder_eq, List.cons_append, run, if_neg noQuote, run_unmarked even unmarked]

/-- A token that is no slot is passed over whole, as if it stood between quotes. -/
theorem run_chars {scanner : Scanner α} (even : scanner.Even) (dialect : Dialect) (written : Nat)
    {token : Token} (noSlot : token.slotCount = 0) (rest : List Char) :
    scanner.run none (token.chars dialect written ++ rest) =
      (token.chars dialect written).foldr scanner.quoted (scanner.run none rest) := by
  cases token with
  | word content => exact run_word even content rest
  | name content => exact scanner.run_quotedName content rest
  | slot value => exact absurd noSlot Nat.one_ne_zero

end Scanner

end RowQuery
