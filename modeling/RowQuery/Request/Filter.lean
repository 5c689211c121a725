import RowQuery.Collection.OrderedSet
import RowQuery.Json.Number

/-!
# Column filters

A filter restricts one column: by its text, by its number, or to a set of values. An
operator that has no meaning here is kept under its name, so that it is for the
compiler to say whether such a filter is passed over or refused.
-/

namespace RowQuery

/-- An operator of a text filter. -/
inductive TextOperator where
  | contains
  | notContains
  | equals
  | notEqual
  | startsWith
  | endsWith
  | blank
  | notBlank
  /-- An operator without a meaning. -/
  | unknown (name : String)
  deriving DecidableEq, Repr

namespace TextOperator

/-- The operators with a meaning, and their names. -/
def known : List (String × TextOperator) :=
  [("contains", .contains), ("notContains", .notContains), ("equals", .equals),
    ("notEqual", .notEqual), ("startsWith", .startsWith), ("endsWith", .endsWith),
    ("blank", .blank), ("notBlank", .notBlank)]

/-- The operator that a name stands for. -/
def ofName (name : String) : TextOperator := (known.lookup name).getD (.unknown name)

/-- The name of an operator. -/
def name : TextOperator → String
  | .contains => "contains"
  | .notContains => "notContains"
  | .equals => "equals"
  | .notEqual => "notEqual"
  | .startsWith => "startsWith"
  | .endsWith => "endsWith"
  | .blank => "blank"
  | .notBlank => "notBlank"
  | .unknown name => name

/-- Whether an operator has a meaning. -/
def isKnown : TextOperator → Bool
  | .unknown _ => false
  | _ => true

/-- Whether an operator needs a text to compare with. -/
def takesValue : TextOperator → Bool
  | .blank => false
  | .notBlank => false
  | .unknown _ => false
  | _ => true

end TextOperator

/-- An operator of a number filter. -/
inductive NumberOperator where
  | equals
  | notEqual
  | lessThan
  | lessThanOrEqual
  | greaterThan
  | greaterThanOrEqual
  /-- The column lies within two bounds. -/
  | inRange
  /-- An operator without a meaning. -/
  | unknown (name : String)
  deriving DecidableEq, Repr

namespace NumberOperator

/-- The operators with a meaning, and their names. -/
def known : List (String × NumberOperator) :=
  [("equals", .equals), ("notEqual", .notEqual), ("lessThan", .lessThan),
    ("lessThanOrEqual", .lessThanOrEqual), ("greaterThan", .greaterThan),
    ("greaterThanOrEqual", .greaterThanOrEqual), ("inRange", .inRange)]

/-- The operator that a name stands for. -/
def ofName (name : String) : NumberOperator := (known.lookup name).getD (.unknown name)

/-- The name of an operator. -/
def name : NumberOperator → String
  | .equals => "equals"
  | .notEqual => "notEqual"
  | .lessThan => "lessThan"
  | .lessThanOrEqual => "lessThanOrEqual"
  | .greaterThan => "greaterThan"
  | .greaterThanOrEqual => "greaterThanOrEqual"
  | .inRange => "inRange"
  | .unknown name => name

/-- Whether an operator has a meaning. -/
def isKnown : NumberOperator → Bool
  | .unknown _ => false
  | _ => true

end NumberOperator

/-- A filter on one column. -/
inductive Filter where
  | text (operator : TextOperator) (value : Option String)
  /-- A filter by number. The upper bound matters only to a range. -/
  | number (operator : NumberOperator) (value upper : Option Number)
  | set (values : OrderedSet)
  deriving DecidableEq, Repr

namespace Filter

/-- The word for the kind of a filter. -/
def kind : Filter → String
  | .text _ _ => "text"
  | .number _ _ _ => "number"
  | .set _ => "set"

/-- Whether the operator of a filter has a meaning. A set filter has no operator to ask about. -/
def isKnown : Filter → Bool
  | .text operator _ => operator.isKnown
  | .number operator _ _ => operator.isKnown
  | .set _ => true

end Filter

end RowQuery
