/-!
# Maps that keep insertion order

Column filters, pivot values and result rows are maps whose order is visible in
what the library produces: filters are compiled in map order, and rows are sent
back with their columns as they came. An `OrderedMap` is the list of its entries
in that order, together with the fact that no key occurs twice.

Inserting under a key that is present replaces the value and keeps the position;
inserting under a new key appends. `keys_insert` and `get?_insert` say so through
the two views `keys` and `get?`. A map is rebuilt from its own entries, and holds
nothing but what was inserted.
-/

namespace RowQuery

universe u v

/-- A map from text keys, in the order the keys were first inserted. -/
structure OrderedMap (α : Type u) where
  entries : List (String × α)
  /-- No key occurs twice. -/
  distinct : (entries.map Prod.fst).Nodup
  deriving DecidableEq, Repr

namespace OrderedMap

variable {α : Type u} {β : Type v}

/-- The map without entries. -/
def empty : OrderedMap α := ⟨[], List.nodup_nil⟩

instance : Inhabited (OrderedMap α) := ⟨empty⟩

/-- The keys of a map, in order. -/
def keys (map : OrderedMap α) : List String := map.entries.map Prod.fst

/-- The value under a key. -/
def get? (map : OrderedMap α) (key : String) : Option α := map.entries.lookup key

/-- The entries with `value` under `key`: in place if the key is present, else at the end. -/
def insertEntry (key : String) (value : α) : List (String × α) → List (String × α)
  | [] => [(key, value)]
  | entry :: rest =>
      if entry.1 = key then (key, value) :: rest else entry :: insertEntry key value rest

/-- A key that is inserted comes last if it is new, and otherwise stays where it is. -/
theorem map_fst_insertEntry (key : String) (value : α) (entries : List (String × α)) :
    (insertEntry key value entries).map Prod.fst =
      if key ∈ entries.map Prod.fst then entries.map Prod.fst
      else entries.map Prod.fst ++ [key] := by
  induction entries with
  | nil => simp [insertEntry]
  | cons entry rest ih =>
      by_cases same : entry.1 = key
      · simp [insertEntry, same]
      · have other : ¬key = entry.1 := fun equal => same equal.symm
        simp only [insertEntry, same, if_false, List.map_cons, ih, List.mem_cons, other, false_or]
        split <;> simp

theorem nodup_insertEntry (key : String) (value : α) {entries : List (String × α)}
    (distinct : (entries.map Prod.fst).Nodup) :
    ((insertEntry key value entries).map Prod.fst).Nodup := by
  rw [map_fst_insertEntry]
  split
  · exact distinct
  · next fresh =>
      rw [List.nodup_append]
      refine ⟨distinct, by simp, ?_⟩
      intro present present_mem added added_mem equal
      simp only [List.mem_singleton] at added_mem
      exact fresh (added_mem ▸ equal ▸ present_mem)

/-- What is inserted under a key is found there, and all else is found as before. -/
theorem lookup_insertEntry (key other : String) (value : α) (entries : List (String × α)) :
    (insertEntry key value entries).lookup other =
      if other = key then some value else entries.lookup other := by
  induction entries with
  | nil =>
      by_cases equal : other = key
      · subst equal
        simp [insertEntry]
      · have different : (other == key) = false := by simpa using equal
        simp [insertEntry, List.lookup_cons, equal, different]
  | cons entry rest ih =>
      obtain ⟨first, content⟩ := entry
      by_cases same : first = key
      · subst same
        by_cases equal : other = first
        · simp [insertEntry, equal]
        · have different : (other == first) = false := by simpa using equal
          simp [insertEntry, List.lookup_cons, equal, different]
      · by_cases found : other = first
        · subst found
          simp [insertEntry, same]
        · have differs : (other == first) = false := by simpa using found
          simp [insertEntry, same, List.lookup_cons, differs, ih]

/-- Puts a value under a key, keeping the position of a key that is present. -/
def insert (map : OrderedMap α) (key : String) (value : α) : OrderedMap α :=
  ⟨insertEntry key value map.entries, nodup_insertEntry key value map.distinct⟩

/-- The map of a list of entries, inserted from left to right. -/
def ofList (entries : List (String × α)) : OrderedMap α :=
  entries.foldl (fun map entry => map.insert entry.1 entry.2) empty

/-- The entries whose key and value pass a test, in the same order. -/
def filter (keep : String → α → Bool) (map : OrderedMap α) : OrderedMap α :=
  ⟨map.entries.filter fun entry => keep entry.1 entry.2,
    List.Nodup.sublist ((List.filter_sublist (p := fun entry => keep entry.1 entry.2)).map Prod.fst)
      map.distinct⟩

@[simp]
theorem entries_empty : (empty : OrderedMap α).entries = [] := rfl

@[simp]
theorem keys_empty : (empty : OrderedMap α).keys = [] := rfl

theorem keys_insert (map : OrderedMap α) (key : String) (value : α) :
    (map.insert key value).keys = if key ∈ map.keys then map.keys else map.keys ++ [key] :=
  map_fst_insertEntry key value map.entries

@[simp]
theorem get?_insert (map : OrderedMap α) (key other : String) (value : α) :
    (map.insert key value).get? other = if other = key then some value else map.get? other :=
  lookup_insertEntry key other value map.entries

@[simp]
theorem entries_filter (keep : String → α → Bool) (map : OrderedMap α) :
    (map.filter keep).entries = map.entries.filter fun entry => keep entry.1 entry.2 := rfl

theorem insertEntry_of_not_mem {key : String} {entries : List (String × α)}
    (fresh : key ∉ entries.map Prod.fst) (value : α) :
    insertEntry key value entries = entries ++ [(key, value)] := by
  induction entries with
  | nil => rfl
  | cons first others ih =>
      rw [List.map_cons, List.mem_cons, not_or] at fresh
      rw [insertEntry, if_neg (Ne.symm fresh.1), ih fresh.2, List.cons_append]

/-- Entries with new and different keys are appended. -/
theorem entries_foldl_insert (map : OrderedMap α) {entries : List (String × α)}
    (distinct : ((map.entries ++ entries).map Prod.fst).Nodup) :
    (entries.foldl (fun map entry => map.insert entry.1 entry.2) map).entries =
      map.entries ++ entries := by
  induction entries generalizing map with
  | nil => exact (List.append_nil _).symm
  | cons first others ih =>
      have fresh : first.1 ∉ map.entries.map Prod.fst := by
        intro present
        rw [List.map_append, List.nodup_append] at distinct
        exact distinct.2.2 _ present _ List.mem_cons_self rfl
      have appended : (map.insert first.1 first.2).entries = map.entries ++ [first] :=
        insertEntry_of_not_mem fresh first.2
      have remaining := ih (map.insert first.1 first.2) (by
        rwa [appended, List.append_assoc, List.singleton_append])
      rw [List.foldl_cons, remaining, appended, List.append_assoc, List.singleton_append]

/-- Entries with different keys are kept as they are. -/
theorem entries_ofList {entries : List (String × α)} (distinct : (entries.map Prod.fst).Nodup) :
    (ofList entries).entries = entries :=
  entries_foldl_insert empty distinct

/-- A map is what is inserted of its own entries. -/
theorem ofList_entries (map : OrderedMap α) : ofList map.entries = map := by
  have same := entries_ofList map.distinct
  cases map with
  | mk entries distinct => exact (OrderedMap.mk.injEq ..).mpr same

theorem mem_insertEntry {key : String} {value : α} {entries : List (String × α)}
    {entry : String × α} (entryMem : entry ∈ insertEntry key value entries) :
    entry = (key, value) ∨ entry ∈ entries := by
  induction entries with
  | nil => exact .inl (List.mem_singleton.mp entryMem)
  | cons first others ih =>
      rw [insertEntry] at entryMem
      split at entryMem
      · rcases List.mem_cons.mp entryMem with new | old
        · exact .inl new
        · exact .inr (List.mem_cons_of_mem _ old)
      · rcases List.mem_cons.mp entryMem with kept | further
        · exact .inr (kept ▸ List.mem_cons_self)
        · rcases ih further with new | old
          · exact .inl new
          · exact .inr (List.mem_cons_of_mem _ old)

theorem mem_entries_foldl_insert (map : OrderedMap α) {entries : List (String × α)}
    {entry : String × α}
    (entryMem : entry ∈ (entries.foldl (fun map entry => map.insert entry.1 entry.2) map).entries) :
    entry ∈ map.entries ∨ entry ∈ entries := by
  induction entries generalizing map with
  | nil => exact .inl entryMem
  | cons first others ih =>
      rcases ih (map.insert first.1 first.2) entryMem with present | further
      · rcases mem_insertEntry present with new | old
        · exact .inr (new ▸ List.mem_cons_self)
        · exact .inl old
      · exact .inr (List.mem_cons_of_mem _ further)

/-- Every entry of a map is one of those that were inserted. -/
theorem mem_of_mem_ofList {entries : List (String × α)} {entry : String × α}
    (entryMem : entry ∈ (ofList entries).entries) : entry ∈ entries := by
  rcases mem_entries_foldl_insert empty entryMem with absent | present
  · cases absent
  · exact present

end OrderedMap

end RowQuery
