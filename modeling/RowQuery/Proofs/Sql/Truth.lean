import RowQuery.Proofs.Sql.Parts

/-!
# When predicates hold

A predicate is read as a condition once it is known which of the predicates without parts
are true. A conjunction then holds if all of its parts hold. Nothing else about the truth
of a predicate is fixed here, so that what is proved holds under every reading.

A row gives a reading of equalities: a column is equal to its value in the row, and a
column without a value is equal to nothing.
-/

namespace RowQuery.Predicate

mutual

/-- Whether a predicate holds, given the truth of the predicates that are no conjunctions. -/
def holds (truth : Predicate → Bool) : Predicate → Bool
  | .conj parts => holdsAll truth parts
  | atom => truth atom

/-- Whether all of several predicates hold. -/
def holdsAll (truth : Predicate → Bool) : List Predicate → Bool
  | [] => true
  | part :: rest => part.holds truth && holdsAll truth rest

end

theorem holdsAll_eq_all (truth : Predicate → Bool) (parts : List Predicate) :
    holdsAll truth parts = parts.all (holds truth) := by
  induction parts with
  | nil => simp [holdsAll]
  | cons first others ih => simp [holdsAll, ih]

@[simp]
theorem holds_conj (truth : Predicate → Bool) (parts : List Predicate) :
    (conj parts).holds truth = parts.all (holds truth) := by
  rw [holds, holdsAll_eq_all]

@[simp]
theorem holds_equalTo (truth : Predicate → Bool) (column content : String) :
    (equalTo column content).holds truth = truth (equalTo column content) := by
  rw [equalTo, holds]
  simp

theorem all_parts (truth : Predicate → Bool) (predicate : Predicate) :
    predicate.parts.all (holds truth) = predicate.holds truth := by
  cases predicate with
  | conj inner => rw [parts, holds_conj]
  | _ => simp [parts]

/-- Joined predicates hold if all of them do, and where nothing was joined every row will do. -/
theorem holds_all? (truth : Predicate → Bool) (predicates : List Predicate) :
    (all? predicates).all (holds truth) = predicates.all (holds truth) := by
  have flattened : (predicates.flatMap parts).all (holds truth) =
      predicates.all (holds truth) := by
    simp [List.all_flatMap, all_parts]
  rw [← flattened, all?]
  split
  · next empty => rw [empty, Option.all_none, List.all_nil]
  · next only single => rw [single, Option.all_some, List.all_cons, List.all_nil, Bool.and_true]
  · next several _ _ => rw [Option.all_some, holds_conj]

/-- The reading that a row gives of equalities, with a reading of all other predicates. -/
def rowTruth (row : String → Option String) (others : Predicate → Bool) : Predicate → Bool
  | .compare column .equal (.text content) => row column = some content
  | other => others other

@[simp]
theorem rowTruth_equalTo (row : String → Option String) (others : Predicate → Bool)
    (column content : String) :
    rowTruth row others (equalTo column content) = decide (row column = some content) := rfl

end RowQuery.Predicate
