import RowQuery.Proofs.Sql.Scanner

/-!
# Placeholders found in text

This file compares what can be found in a written text with what was written. A text can
be searched for placeholders without knowing where it comes from: `Dialect.search` passes
over quoted runs in silence and takes note of each placeholder outside of them. In a
written text it finds the placeholders that were written for the slots, with their
numbers and in their order, and nothing else, whatever the names hold.

Counting placeholders, listing them and telling whether a text ends inside a run are
searches that differ in what they take note of.
-/

namespace RowQuery

namespace Dialect

variable {α : Type}

/-- What a placeholder says of its number, in the text behind its mark. -/
def digitsAt : Dialect → List Char → List Char
  | .ansi, _ => []
  | .postgres, rest => rest.takeWhile Char.isDigit

/-- The scanner that takes note of the placeholders of a dialect, and of nothing else. -/
def search (dialect : Dialect) (finish : Option Char → α) (note : List Char → α → α) :
    Scanner α where
  finish := finish
  quoted _ outcome := outcome
  plain character rest outcome :=
    if dialect.startsPlaceholder character rest then
      note (character :: dialect.digitsAt rest) outcome
    else outcome

/-- Only a mark begins a placeholder. -/
theorem startsPlaceholder_of_ne (dialect : Dialect) {character : Char} (rest : List Char)
    (noQuestion : character ≠ '?') (noDollar : character ≠ '$') :
    dialect.startsPlaceholder character rest = false := by
  cases dialect with
  | ansi => simp [startsPlaceholder, noQuestion]
  | postgres =>
      cases rest with
      | nil => rfl
      | cons digit others => simp [startsPlaceholder, noDollar]

/-- A mark begins a placeholder where the digits of a number follow. -/
theorem startsPlaceholder_mark (dialect : Dialect) (number : Nat) (rest : List Char) :
    dialect.startsPlaceholder dialect.mark (dialect.digits number ++ rest) = true := by
  cases dialect with
  | ansi => rfl
  | postgres =>
      have nonempty : postgres.digits number ≠ [] := Nat.toDigits_ne_nil
      rcases List.exists_cons_of_ne_nil nonempty with ⟨first, others, equal⟩
      have firstMem : first ∈ postgres.digits number := by
        rw [equal]
        exact List.mem_cons_self
      have isDigit := isDigit_of_mem_digits firstMem
      simp [startsPlaceholder, mark, equal, isDigit]

/-- The digits of a number end where no digit follows. -/
theorem digitsAt_digits (dialect : Dialect) (number : Nat) {rest : List Char}
    (ended : rest.head?.any Char.isDigit = false) :
    dialect.digitsAt (dialect.digits number ++ rest) = dialect.digits number := by
  cases dialect with
  | ansi => rfl
  | postgres =>
      have allDigits : ∀ digit ∈ postgres.digits number, digit.isDigit = true := by
        intro digit digitMem
        exact isDigit_of_mem_digits digitMem
      have noneBehind : rest.takeWhile Char.isDigit = [] := by
        cases rest with
        | nil => rfl
        | cons first others =>
            have noDigit : first.isDigit = false := by simpa using ended
            simp [noDigit]
      rw [digitsAt, List.takeWhile_append_of_pos allDigits, noneBehind, List.append_nil]

theorem even_search (dialect : Dialect) (finish : Option Char → α) (note : List Char → α → α) :
    (dialect.search finish note).Even := by
  intro character rest outcome noQuestion noDollar
  simp [search, dialect.startsPlaceholder_of_ne rest noQuestion noDollar]

@[simp]
theorem foldr_search_quoted (dialect : Dialect) (finish : Option Char → α)
    (note : List Char → α → α) (text : List Char) (outcome : α) :
    text.foldr (dialect.search finish note).quoted outcome = outcome := by
  induction text with
  | nil => rfl
  | cons first others ih => exact ih

/-- A written text holds the placeholders of its slots and ends outside of quoted runs. -/
theorem search_write (dialect : Dialect) (finish : Option Char → α) (note : List Char → α → α)
    (written : Nat) (tokens : List Token) :
    (dialect.search finish note).run none (dialect.write written tokens) =
      ((List.range' (written + 1) (Token.binds tokens).length).map dialect.placeholder).foldr
        note (finish none) := by
  have even := dialect.even_search finish note
  induction tokens generalizing written with
  | nil => rfl
  | cons token rest ih =>
      cases token with
      | word content =>
          rw [write_cons, Scanner.run_chars even dialect written rfl, foldr_search_quoted, ih]
          rfl
      | name content =>
          rw [write_cons, Scanner.run_chars even dialect written rfl, foldr_search_quoted, ih]
          rfl
      | slot value =>
          have ended := dialect.head?_write_ne_digit (written + 1) rest
          have noted (outcome : α) : (dialect.search finish note).plain dialect.mark
              (dialect.digits (written + 1) ++ dialect.write (written + 1) rest) outcome =
                note (dialect.placeholder (written + 1)) outcome := by
            simp [search, dialect.startsPlaceholder_mark, dialect.digitsAt_digits _ ended,
              placeholder_eq]
          rw [write, Scanner.run_placeholder even, foldr_search_quoted, noted, ih,
            Token.binds_slot, List.length_cons, List.range'_succ, List.map_cons, List.foldr_cons]

/-- Counting placeholders is a search. -/
theorem scan_eq_run (dialect : Dialect) (quote : Option Char) (text : List Char) :
    dialect.scan quote text =
      (dialect.search (fun _ => 0) fun _ count => count + 1).run quote text := by
  induction text generalizing quote with
  | nil => cases quote <;> rfl
  | cons character rest ih =>
      cases quote with
      | none =>
          rw [scan, Scanner.run, ih, ih]
          rfl
      | some quote =>
          rw [scan, Scanner.run, ih, ih]
          by_cases closing : character = quote
          · simp [closing, search]
          · simp [closing, search]

/-- The placeholders of a dialect in a text, from left to right. -/
def placeholders (dialect : Dialect) (text : List Char) : List (List Char) :=
  (dialect.search (fun _ => []) List.cons).run none text

/-- Counting placeholders gives the number of those that are listed, in any text. -/
theorem length_placeholders (dialect : Dialect) (text : List Char) :
    (dialect.placeholders text).length = dialect.scan none text := by
  have counted (quote : Option Char) :
      ((dialect.search (fun _ => []) List.cons).run quote text).length =
        dialect.scan quote text := by
    rw [scan_eq_run]
    induction text generalizing quote with
    | nil => cases quote <;> rfl
    | cons character rest ih =>
        cases quote with
        | some quote => exact ih _
        | none =>
            rw [Scanner.run, Scanner.run]
            by_cases opening : character = '"' ∨ character = '\''
            · rw [if_pos opening, if_pos opening]
              exact ih _
            · rw [if_neg opening, if_neg opening, ← ih none]
              by_cases starts : dialect.startsPlaceholder character rest = true
              · simp [search, starts]
              · simp [search, starts]
  exact counted none

/-- The placeholders in a written text are numbered on from the values that came before. -/
theorem placeholders_write (dialect : Dialect) (written : Nat) (tokens : List Token) :
    dialect.placeholders (dialect.write written tokens) =
      (List.range' (written + 1) (Token.binds tokens).length).map dialect.placeholder := by
  rw [placeholders, search_write, List.foldr_cons_nil]

/-- A written text has as many placeholders as there are values. -/
theorem scan_write (dialect : Dialect) (written : Nat) (tokens : List Token) :
    dialect.scan none (dialect.write written tokens) = (Token.binds tokens).length := by
  rw [← length_placeholders, placeholders_write, List.length_map, List.length_range']

end Dialect

/-- The quote that a text leaves open, inside a run that ends at the given quote or outside. -/
def openQuote : Option Char → List Char → Option Char
  | quote, [] => quote
  | some quote, character :: rest =>
      openQuote (if character = quote then none else some quote) rest
  | none, character :: rest =>
      openQuote (if character = '"' ∨ character = '\'' then some character else none) rest

namespace Dialect

/-- Telling whether a text ends inside a run is a search that takes no notes. -/
theorem openQuote_eq_run (dialect : Dialect) (quote : Option Char) (text : List Char) :
    openQuote quote text = (dialect.search id fun _ => id).run quote text := by
  induction text generalizing quote with
  | nil => cases quote <;> rfl
  | cons character rest ih =>
      cases quote with
      | none =>
          rw [openQuote, Scanner.run, ih]
          by_cases opening : character = '"' ∨ character = '\''
          · simp [opening, search]
          · simp [opening, search]
      | some quote =>
          rw [openQuote, Scanner.run, ih]
          rfl

/-- A written text closes all quotes that it opens. -/
theorem openQuote_write (dialect : Dialect) (written : Nat) (tokens : List Token) :
    openQuote none (dialect.write written tokens) = none := by
  have kept (found : List (List Char)) : found.foldr (fun _ => id) (none : Option Char) = none := by
    induction found with
    | nil => rfl
    | cons first others ih => exact ih
  rw [dialect.openQuote_eq_run, search_write]
  exact kept _

end Dialect

end RowQuery
