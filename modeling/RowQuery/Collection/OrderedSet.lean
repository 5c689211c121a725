/-!
# Sets that keep insertion order

The values of a set filter become one bind each, in the order in which they were
first given. An `OrderedSet` is that list, together with the fact that no value
occurs twice.
-/

namespace RowQuery

/-- A set of texts, in the order they were first inserted. -/
structure OrderedSet where
  values : List String
  /-- No value occurs twice. -/
  distinct : values.Nodup
  deriving DecidableEq, Repr

namespace OrderedSet

/-- The set without values. -/
def empty : OrderedSet := ⟨[], List.nodup_nil⟩

instance : Inhabited OrderedSet := ⟨empty⟩

/-- Adds a value at the end, unless it is present. -/
def insert (set : OrderedSet) (value : String) : OrderedSet :=
  if present : value ∈ set.values then set
  else ⟨set.values ++ [value], by
    rw [List.nodup_append]
    refine ⟨set.distinct, by simp, ?_⟩
    intro old old_mem added added_mem equal
    simp only [List.mem_singleton] at added_mem
    exact present (added_mem ▸ equal ▸ old_mem)⟩

/-- The set of a list of values; of equal values the first one counts. -/
def ofList (values : List String) : OrderedSet := values.foldl insert empty

/-- The number of values of a set. -/
def size (set : OrderedSet) : Nat := set.values.length

theorem values_insert (set : OrderedSet) (value : String) :
    (set.insert value).values =
      if value ∈ set.values then set.values else set.values ++ [value] := by
  unfold insert
  split <;> rfl

/-- New and different values are appended. -/
theorem values_foldl_insert (set : OrderedSet) {values : List String}
    (distinct : (set.values ++ values).Nodup) :
    (values.foldl insert set).values = set.values ++ values := by
  induction values generalizing set with
  | nil => exact (List.append_nil _).symm
  | cons first others ih =>
      have fresh : first ∉ set.values := by
        intro present
        rw [List.nodup_append] at distinct
        exact distinct.2.2 _ present _ List.mem_cons_self rfl
      have appended : (set.insert first).values = set.values ++ [first] := by
        rw [values_insert, if_neg fresh]
      have remaining := ih (set.insert first) (by
        rwa [appended, List.append_assoc, List.singleton_append])
      rw [List.foldl_cons, remaining, appended, List.append_assoc, List.singleton_append]

/-- A set is what is inserted of its own values. -/
theorem ofList_values (set : OrderedSet) : ofList set.values = set := by
  have same := values_foldl_insert empty set.distinct
  cases set with
  | mk values distinct => exact (OrderedSet.mk.injEq ..).mpr same

end OrderedSet

end RowQuery
