/-!
# Quoted texts

A text stands in a document between double quotes. Quotes, backslashes and control
characters are escaped; every other character stands for itself, and any character
may also be written as one or two 16-bit units in hexadecimal.

A unit that is half of a pair means nothing without its other half. Such a text can
still be passed over, so `Quoted.read?` tells three cases apart: the text is broken
off or malformed, it is well formed but holds half a pair, or it has a content.
-/

namespace RowQuery

namespace Quoted

/-- What one character or one escape of a quoted text stands for. -/
inductive Piece where
  | whole (character : Char)
  /-- A 16-bit unit that is half of a pair. -/
  | half (unit : Nat)
  deriving DecidableEq, Repr

/-- The value of a hexadecimal digit of either case. -/
def hexValue? (digit : Char) : Option Nat :=
  if '0' ≤ digit ∧ digit ≤ '9' then some (digit.toNat - '0'.toNat)
  else if 'a' ≤ digit ∧ digit ≤ 'f' then some (digit.toNat - 'a'.toNat + 10)
  else if 'A' ≤ digit ∧ digit ≤ 'F' then some (digit.toNat - 'A'.toNat + 10)
  else none

/-- The 16-bit unit that four hexadecimal digits write. -/
def unit? (first second third fourth : Char) : Option Nat := do
  let a ← hexValue? first
  let b ← hexValue? second
  let c ← hexValue? third
  let d ← hexValue? fourth
  pure (((a * 16 + b) * 16 + c) * 16 + d)

/-- What a single unit stands for. -/
def Piece.ofUnit (unit : Nat) : Piece :=
  if 0xD800 ≤ unit ∧ unit ≤ 0xDFFF then .half unit else .whole (Char.ofNat unit)

/-- The character a short escape stands for, by the letter after the backslash. -/
def escaped? : Char → Option Char
  | '"' => some '"'
  | '\\' => some '\\'
  | '/' => some '/'
  | 'b' => some '\x08'
  | 'f' => some '\x0c'
  | 'n' => some '\n'
  | 'r' => some '\r'
  | 't' => some '\t'
  | _ => none

/-- The pieces of a text up to its closing quote, and the rest after the quote. -/
def pieces? : List Char → Option (List Piece × List Char)
  | [] => none
  | '"' :: rest => some ([], rest)
  | '\\' :: 'u' :: first :: second :: third :: fourth :: rest =>
      match unit? first second third fourth, pieces? rest with
      | some unit, some (pieces, rest) => some (.ofUnit unit :: pieces, rest)
      | _, _ => none
  | '\\' :: letter :: rest =>
      match escaped? letter, pieces? rest with
      | some character, some (pieces, rest) => some (.whole character :: pieces, rest)
      | _, _ => none
  | character :: rest =>
      if character = '\\' ∨ character.toNat < 0x20 then none
      else (pieces? rest).map fun (pieces, rest) => (.whole character :: pieces, rest)

/-- The characters of a text, unless half of a pair stands alone. -/
def join? : List Piece → Option (List Char)
  | [] => some []
  | .whole character :: rest => (join? rest).map (character :: ·)
  | .half high :: .half low :: rest =>
      if high ≤ 0xDBFF ∧ 0xDC00 ≤ low then
        (join? rest).map
          (Char.ofNat ((high - 0xD800) * 0x400 + (low - 0xDC00) + 0x10000) :: ·)
      else none
  | .half _ :: _ => none

/--
The content of a text up to its closing quote, and the rest after the quote. The
content is missing if half of a pair stands alone.
-/
def read? (text : List Char) : Option (Option String × List Char) :=
  (pieces? text).map fun (pieces, rest) => ((join? pieces).map String.ofList, rest)

theorem length_of_pieces? {text rest : List Char} {pieces : List Piece}
    (found : pieces? text = some (pieces, rest)) : rest.length < text.length := by
  fun_induction pieces? text generalizing pieces rest with
  | case1 => simp at found
  | case2 => grind
  | case3 first second third fourth rest unit inner remaining read_rest _ ih =>
      simp only [Option.some.injEq, Prod.mk.injEq] at found
      obtain ⟨_, rfl⟩ := found
      have := ih read_rest
      simp only [List.length_cons]
      omega
  | case4 => simp at found
  | case5 letter rest _ character inner remaining read_rest _ ih =>
      simp only [Option.some.injEq, Prod.mk.injEq] at found
      obtain ⟨_, rfl⟩ := found
      have := ih read_rest
      simp only [List.length_cons]
      omega
  | case6 => simp at found
  | case7 => simp at found
  | case8 character rest _ _ _ _ ih =>
      simp only [Option.map_eq_some_iff, Prod.mk.injEq, Prod.exists] at found
      obtain ⟨_, _, inner, _, rfl⟩ := found
      have := ih inner
      simp only [List.length_cons]
      omega

/-- Reading a quoted text leaves a shorter text. -/
theorem length_of_read? {text rest : List Char} {content : Option String}
    (found : read? text = some (content, rest)) : rest.length < text.length := by
  simp only [read?, Option.map_eq_some_iff, Prod.mk.injEq, Prod.exists] at found
  obtain ⟨_, _, inner, _, rfl⟩ := found
  exact length_of_pieces? inner

/-- The last two hexadecimal digits of a control character's code. -/
def controlDigits (character : Char) : List Char :=
  [Nat.digitChar (character.toNat / 16), Nat.digitChar (character.toNat % 16)]

/-- A character as it is written in a quoted text. -/
def escape : Char → List Char
  | '"' => ['\\', '"']
  | '\\' => ['\\', '\\']
  | '\x08' => ['\\', 'b']
  | '\x0c' => ['\\', 'f']
  | '\n' => ['\\', 'n']
  | '\r' => ['\\', 'r']
  | '\t' => ['\\', 't']
  | character =>
      if character.toNat < 0x20 then '\\' :: 'u' :: '0' :: '0' :: controlDigits character
      else [character]

/-- A text between quotes, with its characters escaped where they have to be. -/
def chars (content : String) : List Char :=
  '"' :: content.toList.flatMap escape ++ ['"']

end Quoted

end RowQuery
