import RowQuery.Json.Number

/-!
# Select statements

The statements the library builds, as trees. A statement holds names and values only
in places of their own: names are identifiers, aliases and table parts, and every
value is a `Bind`. No text of a statement exists before it is rendered, which is what
keeps names and values from being mistaken for anything else.
-/

namespace RowQuery

/-- A value that is sent beside a statement and takes the place of a placeholder. -/
inductive Bind where
  | number (value : Number)
  | text (content : String)
  deriving DecidableEq, Repr

namespace Bind

/-- The bind of a row number or a row count. -/
def ofInt64 (value : Int64) : Bind := .number (.integer value.toInt)

/-- The content of a text value. -/
def text? : Bind → Option String
  | .text content => some content
  | .number _ => none

/-- The value of a bind that is a whole number of 64 bits. -/
def int64? : Bind → Option Int64
  | .number value => value.int64?
  | .text _ => none

end Bind

/-- How a column is compared with a value. -/
inductive Comparison where
  | equal
  | notEqual
  | less
  | lessOrEqual
  | greater
  | greaterOrEqual
  deriving DecidableEq, Repr

/-- The sign of a comparison. -/
def Comparison.symbol : Comparison → String
  | .equal => "="
  | .notEqual => "<>"
  | .less => "<"
  | .lessOrEqual => "<="
  | .greater => ">"
  | .greaterOrEqual => ">="

/-- A condition on the columns of a row. -/
inductive Predicate where
  | compare (column : String) (comparison : Comparison) (value : Bind)
  /-- A column matched against a pattern. -/
  | like (column : String) (pattern : Bind) (negated : Bool)
  /-- A column that has no value. -/
  | isNull (column : String) (negated : Bool)
  /-- A column with one of several values. -/
  | inList (column : String) (values : List Bind)
  /-- A column within bounds that are themselves allowed. -/
  | between (column : String) (low high : Bind)
  | conj (parts : List Predicate)
  deriving Inhabited, Repr

namespace Predicate

/-- A column equal to a text. -/
def equalTo (column content : String) : Predicate := .compare column .equal (.text content)

/-- The parts of a conjunction, and any other predicate by itself. -/
def parts : Predicate → List Predicate
  | .conj inner => inner
  | other => [other]

/--
The conjunction of predicates, with the parts of conjunctions among them side by
side. One part stands for itself, and of no parts there is no conjunction.
-/
def all? (predicates : List Predicate) : Option Predicate :=
  match predicates.flatMap parts with
  | [] => none
  | [only] => some only
  | several => some (.conj several)

mutual

/-- The number of values a predicate holds. -/
def bindCount : Predicate → Nat
  | .compare _ _ _ => 1
  | .like _ _ _ => 1
  | .isNull _ _ => 0
  | .inList _ values => values.length
  | .between _ _ _ => 2
  | .conj parts => bindCountAll parts

/-- The number of values of several predicates. -/
def bindCountAll : List Predicate → Nat
  | [] => 0
  | part :: rest => part.bindCount + bindCountAll rest

end

end Predicate

/-- The aggregate functions. No other function name ever reaches a statement. -/
inductive Aggregate where
  | sum
  | avg
  | count
  | min
  | max
  deriving DecidableEq, Repr

namespace Aggregate

/-- The name of an aggregate function. -/
def name : Aggregate → String
  | .sum => "sum"
  | .avg => "avg"
  | .count => "count"
  | .min => "min"
  | .max => "max"

/-- The aggregate function with a name, in capital or small letters. -/
def ofName? (name : String) : Option Aggregate :=
  match name.toLower with
  | "sum" => some .sum
  | "avg" => some .avg
  | "count" => some .count
  | "min" => some .min
  | "max" => some .max
  | _ => none

end Aggregate

/-- The value of one column of a result. -/
inductive Expression where
  | column (name : String)
  | null
  | aggregate (function : Aggregate) (argument : Expression)
  /-- One expression where a condition holds and another where it does not. -/
  | caseWhen (condition : Predicate) (result otherwise : Expression)
  deriving Inhabited, Repr

/-- One entry of the select list. -/
structure SelectItem where
  expression : Expression
  name : Option String
  deriving Inhabited, Repr

/-- A column of the table, under its own name. -/
def SelectItem.column (name : String) : SelectItem := ⟨.column name, none⟩

/-- The order of a sorted column. -/
inductive SortDirection where
  | ascending
  | descending
  deriving DecidableEq, Repr

namespace SortDirection

/-- Reads a direction: `asc` in capital or small letters is ascending, all else descending. -/
def ofText (text : String) : SortDirection :=
  if text.toLower = "asc" then .ascending else .descending

/-- The name of a direction. -/
def name : SortDirection → String
  | .ascending => "asc"
  | .descending => "desc"

end SortDirection

/-- One entry of the order list. -/
structure OrderItem where
  column : String
  direction : SortDirection
  deriving DecidableEq, Repr

/-- The table that is selected from. -/
structure Table where
  /-- The schema, if the name was qualified. -/
  schema : Option String
  name : String
  deriving DecidableEq, Repr

namespace Table

/--
Splits a table name at its first dot. There is no table if the name, or the part on
either side of the dot, is empty.
-/
def ofQualified? (qualified : String) : Option Table :=
  let schema := qualified.toList.takeWhile (· ≠ '.')
  match qualified.toList.dropWhile (· ≠ '.') with
  | [] => if schema.isEmpty then none else some ⟨none, qualified⟩
  | _ :: name =>
      if schema.isEmpty || name.isEmpty then none
      else some ⟨some (String.ofList schema), String.ofList name⟩

end Table

/-- A select statement for one page of rows. -/
structure Statement where
  /-- What is selected; with no items, every column. -/
  items : List SelectItem
  /-- The table that is selected from. -/
  source : Table
  condition : Option Predicate
  groupBy : List String
  orderBy : List OrderItem
  /-- The number of rows before the page. -/
  offset : Bind
  /-- The number of rows of the page. -/
  fetch : Bind
  deriving Repr

end RowQuery
