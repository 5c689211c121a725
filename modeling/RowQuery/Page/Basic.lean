import RowQuery.Collection.OrderedMap
import RowQuery.Json.Value
import RowQuery.Sql.Render

/-!
# Pages of rows

A page carries its rows and says where the rows of the whole result end, as far as the
page can tell: a page that was not filled up holds the last row, while after a full one
there may be more.
-/

namespace RowQuery

/-- A row of a result, by column. -/
abbrev Row := OrderedMap Json

/-- A page of rows. -/
structure RowsPage where
  rows : List Row
  /-- The number of rows up to the end of the result, or `-1` if the end is not known. -/
  lastRow : Int64
  /-- The names of the columns that pivoting added, if it was on. -/
  secondaryColumns : Option (List String)
  fromSql : Option Query
  /-- The error that may be shown to a user. -/
  uxReportableError : Option String
  deriving Repr

namespace RowsPage

/-- The last row as long as the end is not known. -/
def unknownLastRow : Int64 := -1

/-- Whether the end of the result is known. -/
def isComplete (page : RowsPage) : Bool := page.lastRow ≠ unknownLastRow

end RowsPage

/--
The end of the result, told from the number of rows that a page returned: it is known
if the page holds fewer rows than were asked for. A count or an end that is no row
number tells nothing.
-/
def lastRow (startRow endRow : Int64) (returned : Nat) : Int64 :=
  let position := startRow.toInt + Int.ofNat returned
  if Int.ofNat returned ≤ Int64.maxValue.toInt ∧ position ≤ endRow.toInt then Int64.ofInt position
  else RowsPage.unknownLastRow

/-- A page that ends within its window tells the end by the number of its rows. -/
theorem toInt_lastRow {startRow endRow : Int64} {returned : Nat} (started : 0 ≤ startRow.toInt)
    (within : startRow.toInt + returned ≤ endRow.toInt) :
    (lastRow startRow endRow returned).toInt = startRow.toInt + returned := by
  have last := endRow.toInt_le
  have small := endRow.toInt_lt
  have known : Int.ofNat returned ≤ Int64.maxValue.toInt ∧
      startRow.toInt + Int.ofNat returned ≤ endRow.toInt := by
    rw [Int.ofNat_eq_natCast]
    omega
  rw [lastRow, if_pos known, Int.ofNat_eq_natCast]
  apply Int64.toInt_ofInt_of_le
  · omega
  · omega

/-- After a page that is filled up the end is not known. -/
theorem lastRow_eq_unknown {startRow endRow : Int64} {returned : Nat}
    (past : endRow.toInt < startRow.toInt + returned) :
    lastRow startRow endRow returned = RowsPage.unknownLastRow := by
  rw [lastRow]
  apply if_neg
  rintro ⟨_, within⟩
  rw [Int.ofNat_eq_natCast] at within
  omega

end RowQuery
