import RowQuery.Proofs.Sql.TokenText

/-!
# Reading tokens back from text

This file gives a reader of written tokens and proves that it undoes `Dialect.write`.
The reader takes the text from left to right and the values from the front of their
list, one for each placeholder it meets.

A token is recognised by how its text starts: a name by its quote, a slot by the
placeholder that is due next, and a word by its own text. The words are tried in an
order in which no word is mistaken for a longer one. What follows a token can be
mistaken for a part of it in one way only: a name directly behind another name would
look like a quote inside that name. `Token.Spaced` excludes this.
-/

namespace RowQuery

namespace Token

/-- Whether the first of the tokens is a name. -/
def startsWithName (tokens : List Token) : Bool := tokens.head?.any isName

/-- No name stands directly behind another name. -/
def Spaced : List Token → Prop
  | [] => True
  | .name _ :: rest => startsWithName rest = false ∧ Spaced rest
  | _ :: rest => Spaced rest

theorem Spaced.tail {token : Token} {rest : List Token} (spaced : Spaced (token :: rest)) :
    Spaced rest := by
  cases token with
  | word content => exact spaced
  | name content => exact spaced.2
  | slot value => exact spaced

/-- The text behind a name does not begin like a name. -/
theorem Spaced.head?_write_ne_quote {token : Token} {rest : List Token}
    (spaced : Spaced (token :: rest)) (dialect : Dialect) (written : Nat)
    (named : token.isName = true) : (dialect.write written rest).head? ≠ some '"' := by
  cases token with
  | word content => simp [isName] at named
  | name content => exact dialect.head?_write_ne_quote written spaced.1
  | slot value => simp [isName] at named

end Token

namespace Word

/-- The words of the language, each before all words that its text starts with. -/
def vocabulary : List Word :=
  [.inNothing, .select, .everything, .comma, .source, .dot, .named, .condition, .groupBy,
    .orderBy, .ascending, .descending, .offset, .fetch, .rowsOnly, .null, .aggregate .sum,
    .aggregate .avg, .aggregate .count, .aggregate .min, .aggregate .max, .opening, .closing,
    .caseWhen, .caseThen, .caseElse, .caseEnd, .comparison .equal, .comparison .notEqual,
    .comparison .less, .comparison .lessOrEqual, .comparison .greater,
    .comparison .greaterOrEqual, .like, .notLike, .isNull, .isNotNull, .inValues, .between,
    .and]

/-- The word that a text starts with, and the rest. -/
def read? (text : List Char) : Option (Word × List Char) :=
  (vocabulary.find? fun word => word.text.toList.isPrefixOf text).map fun word =>
    (word, text.drop word.text.toList.length)

/-- A word is read where its text comes first, unless a literal could begin behind it. -/
theorem read?_text (word : Word) {rest : List Char} (plain : rest.head? ≠ some '\'') :
    read? (word.text.toList ++ rest) = some (word, rest) := by
  cases word with
  | aggregate function => cases function <;> rfl
  | comparison operator => cases operator <;> rfl
  | inValues =>
      cases rest with
      | nil => rfl
      | cons first others =>
          have different : first ≠ '\'' := by simpa using plain
          have skipped : inNothing.text.toList.isPrefixOf
              (inValues.text.toList ++ first :: others) = false := by
            simp [text, List.isPrefixOf, different.symm]
          rw [read?, vocabulary, List.find?_cons_of_neg (by simp only [skipped]; decide)]
          rfl
  | _ => rfl

end Word

/-- The characters of a name up to its closing quote, and the rest. A double quote is one quote. -/
def unquote? : List Char → Option (List Char × List Char)
  | '"' :: '"' :: rest => (unquote? rest).map fun (name, rest) => ('"' :: name, rest)
  | '"' :: rest => some ([], rest)
  | character :: rest => (unquote? rest).map fun (name, rest) => (character :: name, rest)
  | [] => none

/-- The name that a text starts with, and the rest. -/
def quotedName? : List Char → Option (String × List Char)
  | '"' :: text => (unquote? text).map fun (name, rest) => (String.ofList name, rest)
  | _ => none

/-- An escaped name is read up to its closing quote. -/
theorem unquote?_escaped (name : List Char) {rest : List Char} (closed : rest.head? ≠ some '"') :
    unquote? (escaped name ++ '"' :: rest) = some (name, rest) := by
  induction name with
  | nil =>
      cases rest with
      | nil => rfl
      | cons first others =>
          have different : first ≠ '"' := by simpa using closed
          simp [unquote?, different]
  | cons first others ih =>
      by_cases quote : first = '"'
      · subst quote
        simp [unquote?, ih]
      · simp [escaped_cons quote, unquote?, quote, ih]

/-- A name is read back whole, with whatever quotes it holds, unless a quote comes next. -/
theorem quotedName?_append (name : String) {rest : List Char} (closed : rest.head? ≠ some '"') :
    quotedName? (quotedName name ++ rest) = some (name, rest) := by
  simp [quotedName_eq, quotedName?, unquote?_escaped _ closed]

theorem quotedName?_of_ne {first : Char} (rest : List Char) (other : first ≠ '"') :
    quotedName? (first :: rest) = none := by
  unfold quotedName?
  split
  · next equal => exact absurd (List.cons.inj equal).1 other
  · rfl

namespace Dialect

/-- The token that a text starts with, and the rest. -/
def nextToken? (dialect : Dialect) (written : Nat) (values : List Bind) (text : List Char) :
    Option (Token × List Char) :=
  match quotedName? text with
  | some (name, rest) => some (.name name, rest)
  | none =>
      match (dialect.placeholder (written + 1)).isPrefixOf text, values with
      | true, value :: _ => some (.slot value, text.drop (dialect.placeholder (written + 1)).length)
      | _, _ => (Word.read? text).map fun (word, rest) => (.word word, rest)

/-- The tokens of a text that holds places for exactly the given values. -/
def readTokens? (dialect : Dialect) (written : Nat) (values : List Bind) (text : List Char) :
    Option (List Token) :=
  if text.isEmpty then if values.isEmpty then some [] else none
  else do
    let (token, rest) ← dialect.nextToken? written values text
    if _shorter : rest.length < text.length then
      let tokens ←
        dialect.readTokens? (written + token.slotCount) (values.drop token.slotCount) rest
      pure (token :: tokens)
    else none
termination_by text.length

/-- A written token is read back if what follows cannot be taken for a part of it. -/
theorem nextToken?_chars (dialect : Dialect) (written : Nat) (token : Token)
    (values : List Bind) {rest : List Char} (plain : rest.head? ≠ some '\'')
    (closed : token.isName = true → rest.head? ≠ some '"') :
    dialect.nextToken? written (Token.binds [token] ++ values)
      (token.chars dialect written ++ rest) = some (token, rest) := by
  cases token with
  | name content =>
      have named := quotedName?_append content (closed rfl)
      simp [nextToken?, Token.chars, named]
  | word content =>
      have found := content.read?_text plain
      rcases content.text_cons with ⟨first, others, equal, unmarked, _⟩
      have unquoted : first ≠ '"' := by
        rintro rfl
        exact unmarked (by decide)
      have different : dialect.mark ≠ first := by
        rintro rfl
        exact unmarked (List.mem_cons_of_mem _ (List.mem_cons_of_mem _ dialect.mark_mem))
      have unnamed : quotedName? (content.text.toList ++ rest) = none := by
        rw [equal]
        exact quotedName?_of_ne _ unquoted
      have vacant : (dialect.placeholder (written + 1)).isPrefixOf
          (content.text.toList ++ rest) = false := by
        simp [equal, placeholder_eq, List.isPrefixOf, different]
      simp [nextToken?, Token.chars, unnamed, vacant, found]
  | slot value =>
      have unquoted : dialect.mark ≠ '"' := by
        intro equal
        exact absurd (equal ▸ dialect.mark_mem) (by decide)
      have unnamed : quotedName? (dialect.placeholder (written + 1) ++ rest) = none := by
        rw [placeholder_eq]
        exact quotedName?_of_ne _ unquoted
      have due : (dialect.placeholder (written + 1)).isPrefixOf
          (dialect.placeholder (written + 1) ++ rest) = true := by
        rw [List.isPrefixOf_iff_prefix]
        exact List.prefix_append _ _
      simp [nextToken?, Token.chars, unnamed, due]

/-- Written tokens are read back with their values, as long as no two names touch. -/
theorem readTokens?_write (dialect : Dialect) (written : Nat) {tokens : List Token}
    (spaced : Token.Spaced tokens) :
    dialect.readTokens? written (Token.binds tokens) (dialect.write written tokens) =
      some tokens := by
  induction tokens generalizing written with
  | nil =>
      rw [readTokens?]
      simp [write]
  | cons token rest ih =>
      have nonempty : (dialect.write written (token :: rest)).isEmpty = false := by
        rcases token.chars_cons dialect written with ⟨first, others, equal, _⟩
        rw [write_cons, equal]
        rfl
      have next := dialect.nextToken?_chars written token (Token.binds rest)
        (dialect.head?_write_ne_apostrophe (written + token.slotCount) rest)
        (spaced.head?_write_ne_quote dialect (written + token.slotCount))
      have remaining : (Token.binds [token] ++ Token.binds rest).drop token.slotCount =
          Token.binds rest := List.drop_left
      have shorter : (dialect.write (written + token.slotCount) rest).length <
          (token.chars dialect written ++
            dialect.write (written + token.slotCount) rest).length := by
        rcases token.chars_cons dialect written with ⟨first, others, equal, _⟩
        rw [equal, List.length_append, List.length_cons]
        omega
      rw [readTokens?, nonempty, write_cons, Token.binds_cons]
      simp only [next, remaining, ih (written + token.slotCount) spaced.tail, Option.bind_eq_bind,
        Option.bind_some, dif_pos shorter]
      rfl

end Dialect

end RowQuery
