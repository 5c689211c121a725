import RowQuery.Proofs.Compile.BindOrder
import RowQuery.Proofs.Compile.PivotColumns

/-!
# The names of the columns that pivoting adds

The name of an added column joins a value for each pivot column and the field of a value column
with underscores. Nothing in a name tells these underscores from those that the texts have
themselves. This file says when different columns still get different names.

Two names that are spelled alike, though their texts differ, differ first where one text goes on
behind the whole of the other one and an underscore. What goes on there is what the other name
has to make up for with the texts behind it. Lists of texts where this can happen are
`Overlapping`; from all others the names are different.

To make up for it, a text of the other name has to be longer than its counterpart by something in
front of it. This gives a condition on single lists, which is easy to check: lists are
`Separable` if none with a text that is continued stands before one with a text that is preceded.
-/

namespace RowQuery

/--
Whether a text goes on, after an underscore, behind another one of its list, and texts of the
lists behind can be chosen in two ways that differ by just what goes on there.
-/
def Overlapping (lists : List (List String)) : Prop :=
  ∃ before texts behind, lists = before ++ texts :: behind ∧
    ∃ short ∈ texts, ∃ more, short ++ "_" ++ more ∈ texts ∧
      ∃ point ∈ points behind, ∃ other ∈ points behind,
        String.intercalate "_" point = more ++ "_" ++ String.intercalate "_" other

/-- Whether one of several texts goes on, after an underscore, behind another one. -/
def Continued (texts : List String) : Prop :=
  ∃ short ∈ texts, ∃ long ∈ texts, (short ++ "_").toList <+: long.toList

/-- Whether one of several texts ends in an underscore and another one. -/
def Preceded (texts : List String) : Prop :=
  ∃ short ∈ texts, ∃ long ∈ texts, ("_" ++ short).toList <:+ long.toList

instance (texts : List String) : Decidable (Continued texts) :=
  inferInstanceAs (Decidable (∃ short ∈ texts, ∃ long ∈ texts, _))

instance (texts : List String) : Decidable (Preceded texts) :=
  inferInstanceAs (Decidable (∃ short ∈ texts, ∃ long ∈ texts, _))

/-- No list with a text that is continued stands before one with a text that is preceded. -/
def Separable (lists : List (List String)) : Prop :=
  lists.Pairwise fun earlier later => ¬(Continued earlier ∧ Preceded later)

instance (lists : List (List String)) : Decidable (Separable lists) :=
  inferInstanceAs (Decidable (List.Pairwise _ lists))

section Points

variable {lists : List (List String)} {point other : List String}

theorem mem_points_cons {texts : List String} :
    point ∈ points (texts :: lists) ↔
      ∃ text ∈ texts, ∃ rest ∈ points lists, point = text :: rest := by
  simp only [points, List.mem_flatMap, List.mem_map, eq_comm]

theorem length_of_mem_points (pointMem : point ∈ points lists) : point.length = lists.length := by
  induction lists generalizing point with
  | nil =>
      rw [points, List.mem_singleton] at pointMem
      rw [pointMem, List.length_nil, List.length_nil]
  | cons texts lists ih =>
      rcases mem_points_cons.mp pointMem with ⟨text, _, rest, restMem, rfl⟩
      rw [List.length_cons, List.length_cons, ih restMem]

theorem append_mem_points {behind : List (List String)} (pointMem : point ∈ points lists)
    (otherMem : other ∈ points behind) : point ++ other ∈ points (lists ++ behind) := by
  induction lists generalizing point with
  | nil =>
      rw [points, List.mem_singleton] at pointMem
      rw [pointMem]
      exact otherMem
  | cons texts lists ih =>
      rcases mem_points_cons.mp pointMem with ⟨text, textMem, rest, restMem, rfl⟩
      exact mem_points_cons.mpr ⟨text, textMem, rest ++ other, ih restMem, rfl⟩

theorem exists_mem_points (filled : [] ∉ lists) : ∃ point, point ∈ points lists := by
  induction lists with
  | nil => exact ⟨[], List.mem_singleton_self []⟩
  | cons texts lists ih =>
      rw [List.mem_cons, not_or] at filled
      rcases List.exists_mem_of_ne_nil texts (Ne.symm filled.1) with ⟨text, textMem⟩
      rcases ih filled.2 with ⟨rest, restMem⟩
      exact ⟨text :: rest, mem_points_cons.mpr ⟨text, textMem, rest, restMem, rfl⟩⟩

theorem points_eq_nil (empty : [] ∈ lists) : points lists = [] := by
  induction lists with
  | nil => cases empty
  | cons texts lists ih =>
      rcases List.mem_cons.mp empty with rfl | further
      · rfl
      · rw [points, ih further]
        simp

/-- From lists without repetition no text is picked twice in the same way. -/
theorem nodup_points (distinct : ∀ texts ∈ lists, texts.Nodup) : (points lists).Nodup := by
  induction lists with
  | nil => exact List.nodup_singleton []
  | cons texts lists ih =>
      rw [List.forall_mem_cons] at distinct
      rw [points, List.nodup_flatMap]
      refine ⟨?_, ?_⟩
      · intro text _
        exact (ih distinct.2).map List.cons_injective
      · apply distinct.1.imp
        intro text other different
        rw [Function.onFun, List.disjoint_left]
        intro point pointMem otherMem
        rcases List.mem_map.mp pointMem with ⟨rest, _, rfl⟩
        rcases List.mem_map.mp otherMem with ⟨others, _, equal⟩
        exact different (List.cons.inj equal).1.symm

theorem points_concat (lists : List (List String)) (last : List String) :
    points (lists ++ [last]) =
      (points lists).flatMap fun point => last.map fun text => point ++ [text] := by
  induction lists with
  | nil => simp [points, ← List.map_eq_flatMap]
  | cons texts lists ih =>
      simp [points, ih, List.flatMap_assoc, List.map_flatMap, List.flatMap_map, Function.comp_def]

end Points

/-- Texts one after the other, each with an underscore behind it. -/
def spelled (texts : List String) : List Char := texts.flatMap fun text => text.toList ++ ['_']

section Spelling

variable {lists : List (List String)} {point other : List String}

theorem spelled_cons (text : String) (rest : List String) :
    spelled (text :: rest) = text.toList ++ '_' :: spelled rest := by
  simp [spelled]

theorem spelled_eq_of_ne_nil (filled : point ≠ []) :
    spelled point = (String.intercalate "_" point).toList ++ ['_'] := by
  induction point with
  | nil => exact absurd rfl filled
  | cons first others ih =>
      cases others with
      | nil => simp [spelled]
      | cons second further =>
          rw [String.intercalate_cons_cons, spelled_cons, ih (List.cons_ne_nil _ _)]
          simp

/-- Names are joined alike exactly if they are spelled alike. -/
theorem spelled_eq_iff (pointMem : point ∈ points lists) (otherMem : other ∈ points lists) :
    spelled point = spelled other ↔
      String.intercalate "_" point = String.intercalate "_" other := by
  have lengths : point.length = other.length :=
    (length_of_mem_points pointMem).trans (length_of_mem_points otherMem).symm
  cases point with
  | nil =>
      rw [List.length_eq_zero_iff.mp lengths.symm]
      exact iff_of_true rfl rfl
  | cons first rest =>
      have filled : other ≠ [] := by
        rintro rfl
        cases lengths
      rw [spelled_eq_of_ne_nil (List.cons_ne_nil first rest), spelled_eq_of_ne_nil filled,
        List.append_left_inj, String.toList_inj]

/-- What one choice of texts is longer by than another one can be read off the joined names. -/
theorem spelled_eq_append_iff (pointMem : point ∈ points lists) (otherMem : other ∈ points lists)
    (more : String) :
    spelled point = more.toList ++ '_' :: spelled other ↔
      String.intercalate "_" point = more ++ "_" ++ String.intercalate "_" other := by
  have lengths : point.length = other.length :=
    (length_of_mem_points pointMem).trans (length_of_mem_points otherMem).symm
  cases point with
  | nil =>
      rw [List.length_eq_zero_iff.mp lengths.symm, ← String.toList_inj]
      simp [spelled]
  | cons first rest =>
      have filled : other ≠ [] := by
        rintro rfl
        cases lengths
      rw [spelled_eq_of_ne_nil (List.cons_ne_nil first rest), spelled_eq_of_ne_nil filled,
        ← String.toList_inj, ← List.cons_append, ← List.append_assoc, List.append_left_inj]
      simp

/-- Texts that are spelled alike up to their ends begin alike, or one goes on behind the other. -/
theorem append_underscore_eq {first second rest others : List Char}
    (equal : first ++ '_' :: rest = second ++ '_' :: others) :
    (first = second ∧ rest = others) ∨
      (∃ more, second = first ++ '_' :: more ∧ rest = more ++ '_' :: others) ∨
        ∃ more, first = second ++ '_' :: more ∧ others = more ++ '_' :: rest := by
  rcases List.append_eq_append_iff.mp equal with
    ⟨longer, second_eq, remaining⟩ | ⟨longer, first_eq, remaining⟩
  · rcases List.cons_eq_append_iff.mp remaining with ⟨rfl, same⟩ | ⟨more, rfl, same⟩
    · left
      cases same
      exact ⟨by simpa using second_eq.symm, rfl⟩
    · right
      left
      exact ⟨more, second_eq, same⟩
  · rcases List.cons_eq_append_iff.mp remaining with ⟨rfl, same⟩ | ⟨more, rfl, same⟩
    · left
      cases same
      exact ⟨by simpa using first_eq, rfl⟩
    · right
      right
      exact ⟨more, first_eq, same⟩

theorem Overlapping.cons (texts : List String) (overlapping : Overlapping lists) :
    Overlapping (texts :: lists) := by
  rcases overlapping with ⟨before, found, behind, rfl, overlap⟩
  exact ⟨texts :: before, found, behind, rfl, overlap⟩

/-- A text that goes on behind another one is made up for only where lists overlap. -/
theorem overlapping_of_spelled {texts : List String} {short long : String} {more : List Char}
    (shortMem : short ∈ texts) (longMem : long ∈ texts)
    (continued : long.toList = short.toList ++ '_' :: more) (pointMem : point ∈ points lists)
    (otherMem : other ∈ points lists) (longer : spelled point = more ++ '_' :: spelled other) :
    Overlapping (texts :: lists) := by
  have long_eq : short ++ "_" ++ String.ofList more = long := by
    rw [← String.toList_inj, continued]
    simp
  refine ⟨[], texts, lists, rfl, short, shortMem, String.ofList more, ?_, point, pointMem, other,
    otherMem, ?_⟩
  · rw [long_eq]
    exact longMem
  · apply (spelled_eq_append_iff pointMem otherMem _).mp
    rw [String.toList_ofList]
    exact longer

/--
From lists that do not overlap, only the same texts are spelled the same: first texts that differ
overlap right there, whichever of them goes on behind the other.
-/
theorem eq_of_spelled_eq (apart : ¬Overlapping lists) (pointMem : point ∈ points lists)
    (otherMem : other ∈ points lists) (same : spelled point = spelled other) : point = other := by
  induction lists generalizing point other with
  | nil =>
      rw [points, List.mem_singleton] at pointMem otherMem
      rw [pointMem, otherMem]
  | cons texts lists ih =>
      rcases mem_points_cons.mp pointMem with ⟨text, textMem, rest, restMem, rfl⟩
      rcases mem_points_cons.mp otherMem with ⟨otherText, otherTextMem, others, othersMem, rfl⟩
      rw [spelled_cons, spelled_cons] at same
      rcases append_underscore_eq same with
        ⟨textSame, restSame⟩ | ⟨more, continued, longer⟩ | ⟨more, continued, longer⟩
      · have restApart : ¬Overlapping lists := fun overlapping => apart (overlapping.cons texts)
        rw [String.toList_inj.mp textSame, ih restApart restMem othersMem restSame]
      · exact absurd
          (overlapping_of_spelled textMem otherTextMem continued restMem othersMem longer) apart
      · exact absurd
          (overlapping_of_spelled otherTextMem textMem continued othersMem restMem longer) apart

/-- Overlapping lists have different choices of texts that are spelled the same. -/
theorem Overlapping.exists_spelled_eq (overlapping : Overlapping lists) (filled : [] ∉ lists) :
    ∃ point ∈ points lists, ∃ other ∈ points lists, point ≠ other ∧
      spelled point = spelled other := by
  rcases overlapping with
    ⟨before, texts, behind, rfl, short, shortMem, more, longMem, point, pointMem, other, otherMem,
      joined⟩
  have longer := (spelled_eq_append_iff pointMem otherMem more).mpr joined
  rw [List.mem_append, not_or] at filled
  rcases exists_mem_points filled.1 with ⟨front, frontMem⟩
  refine ⟨front ++ short :: point, ?_, front ++ (short ++ "_" ++ more) :: other, ?_, ?_, ?_⟩
  · exact append_mem_points frontMem (mem_points_cons.mpr ⟨_, shortMem, _, pointMem, rfl⟩)
  · exact append_mem_points frontMem (mem_points_cons.mpr ⟨_, longMem, _, otherMem, rfl⟩)
  · intro equal
    have texts_eq := (List.cons.inj (List.append_cancel_left equal)).1
    rw [← String.toList_inj] at texts_eq
    simp [List.append_assoc] at texts_eq
  · have front_append (texts : List String) :
        spelled (front ++ texts) = spelled front ++ spelled texts := List.flatMap_append
    rw [front_append, front_append, spelled_cons, spelled_cons, longer]
    simp

/--
What a choice of texts is spelled longer by at its front, it has too much in some list: either the
first texts make up for it, or one of the two choices is still longer behind them.
-/
theorem exists_preceded {more : List Char} (pointMem : point ∈ points lists)
    (otherMem : other ∈ points lists) (longer : spelled point = more ++ '_' :: spelled other) :
    ∃ texts ∈ lists, Preceded texts := by
  induction lists generalizing point other more with
  | nil =>
      rw [points, List.mem_singleton] at pointMem
      subst pointMem
      simp [spelled] at longer
  | cons texts lists ih =>
      rcases mem_points_cons.mp pointMem with ⟨text, textMem, rest, restMem, rfl⟩
      rcases mem_points_cons.mp otherMem with ⟨otherText, otherTextMem, others, othersMem, rfl⟩
      have aligned : text.toList ++ '_' :: spelled rest =
          (more ++ '_' :: otherText.toList) ++ '_' :: spelled others := by
        rw [← spelled_cons, longer, spelled_cons]
        simp
      rcases append_underscore_eq aligned with ⟨same, _⟩ | ⟨_, _, behind⟩ | ⟨_, _, behind⟩
      · refine ⟨texts, List.mem_cons_self, otherText, otherTextMem, text, textMem, ?_⟩
        rw [same]
        exact ⟨more, by simp⟩
      · rcases ih restMem othersMem behind with ⟨found, foundMem, preceded⟩
        exact ⟨found, List.mem_cons_of_mem _ foundMem, preceded⟩
      · rcases ih othersMem restMem behind with ⟨found, foundMem, preceded⟩
        exact ⟨found, List.mem_cons_of_mem _ foundMem, preceded⟩

/-- Lists that can be separated do not overlap. -/
theorem Separable.not_overlapping (separable : Separable lists) : ¬Overlapping lists := by
  rintro ⟨before, texts, behind, rfl, short, shortMem, more, longMem, point, pointMem, other,
    otherMem, joined⟩
  have longer := (spelled_eq_append_iff pointMem otherMem more).mpr joined
  rcases exists_preceded pointMem otherMem longer with ⟨found, foundMem, preceded⟩
  have fromHere : (texts :: behind).Pairwise
      fun earlier later => ¬(Continued earlier ∧ Preceded later) :=
    (List.pairwise_append.mp separable).2.1
  apply (List.pairwise_cons.mp fromHere).1 found foundMem
  refine ⟨⟨short, shortMem, _, longMem, ?_⟩, preceded⟩
  rw [String.toList_append (s := short ++ "_")]
  exact List.prefix_append ..

/-- The joined names of all choices are different exactly if the lists do not overlap. -/
theorem nodup_joined_iff (distinct : ∀ texts ∈ lists, texts.Nodup) :
    ((points lists).map (String.intercalate "_")).Nodup ↔ [] ∈ lists ∨ ¬Overlapping lists := by
  rw [List.nodup_map_iff_inj_on (nodup_points distinct)]
  constructor
  · intro injective
    by_contra overlapping
    rw [not_or, not_not] at overlapping
    rcases overlapping.2.exists_spelled_eq overlapping.1 with
      ⟨point, pointMem, other, otherMem, different, same⟩
    exact different
      (injective point pointMem other otherMem ((spelled_eq_iff pointMem otherMem).mp same))
  · rintro (empty | apart) point pointMem other otherMem same
    · rw [points_eq_nil empty] at pointMem
      cases pointMem
    · exact eq_of_spelled_eq apart pointMem otherMem ((spelled_eq_iff pointMem otherMem).mpr same)

end Spelling

namespace Expansion

/-- The names of the added columns join the texts of all choices from the axes and the fields. -/
theorem secondaryColumns_eq_map {expansion : Expansion} (filled : expansion.axes ≠ [])
    (columns : List ColumnSpec) :
    expansion.secondaryColumns columns =
      (points (expansion.axes.map Axis.values ++ [columns.map ColumnSpec.field])).map
        (String.intercalate "_") := by
  rw [points_concat, List.map_flatMap, ← Axis.product_values, List.flatMap_map, secondaryColumns,
    combinations, if_neg (by simpa using filled), List.flatMap_map]
  apply List.flatMap_congr
  intro point pointMem
  have valuesMem : point.map Prod.snd ∈ points (expansion.axes.map Axis.values) := by
    rw [← Axis.product_values]
    exact List.mem_map_of_mem pointMem
  have valued : point.map Prod.snd ≠ [] := by
    intro empty
    have counted := length_of_mem_points valuesMem
    rw [empty, List.length_nil, List.length_map] at counted
    exact filled (List.length_eq_zero_iff.mp counted.symm)
  rw [List.map_map, List.map_map]
  apply List.map_congr_left
  intro column _
  dsimp only [Function.comp_apply, Combination.columnName, Combination.label]
  rw [String.intercalate_append_of_ne_nil valued (List.cons_ne_nil _ _),
    String.intercalate_singleton]

/--
Names are different unless the lists overlap. Without axes there are no names, and nothing behind
the fields could make up for what goes on in one of them.
-/
theorem nodup_secondaryColumns_iff {expansion : Expansion} {columns : List ColumnSpec}
    (valuesDistinct : ∀ axis ∈ expansion.axes, axis.values.Nodup)
    (fieldsDistinct : (columns.map ColumnSpec.field).Nodup) :
    (expansion.secondaryColumns columns).Nodup ↔
      [] ∈ expansion.axes.map Axis.values ++ [columns.map ColumnSpec.field] ∨
        ¬Overlapping (expansion.axes.map Axis.values ++ [columns.map ColumnSpec.field]) := by
  by_cases filled : expansion.axes = []
  · have none : expansion.secondaryColumns columns = [] := by
      rw [secondaryColumns, combinations, if_pos (by simpa using filled)]
      rfl
    have separable : Separable [columns.map ColumnSpec.field] := List.pairwise_singleton ..
    rw [none, filled, List.map_nil, List.nil_append]
    simp [separable.not_overlapping]
  · rw [secondaryColumns_eq_map filled]
    apply nodup_joined_iff
    rw [List.forall_mem_append, List.forall_mem_map, List.forall_mem_singleton]
    exact ⟨valuesDistinct, fieldsDistinct⟩

end Expansion

/--
Different added columns have different names, and so have the aggregates that a statement
selects for them, exactly if the lists of texts that the names are made from do not overlap.
-/
theorem secondaryColumns_nodup_iff (columns valueColumns : List ColumnSpec) (values : PivotValues)
    (expansion : Expansion) (resolved : (Expansion.resolve columns values).result = .ok expansion)
    (valuesDistinct : ∀ column ∈ columns, ((values.get? column.field).getD []).Nodup)
    (fieldsDistinct : (valueColumns.map ColumnSpec.field).Nodup) :
    let lists := (columns.map fun column => (values.get? column.field).getD []) ++
      [valueColumns.map ColumnSpec.field]
    ((expansion.secondaryColumns valueColumns).Nodup ↔ [] ∈ lists ∨ ¬Overlapping lists) ∧
      (Separable lists → ¬Overlapping lists) ∧
      ∀ items, expansion.selectItems valueColumns = .ok items →
        items.filterMap SelectItem.name = expansion.secondaryColumns valueColumns := by
  intro lists
  have axes_eq := Expansion.resolve_ok resolved
  have values_eq : expansion.axes.map Axis.values =
      columns.map fun column => (values.get? column.field).getD [] := by
    rw [axes_eq, List.map_map]
    rfl
  have axesDistinct : ∀ axis ∈ expansion.axes, axis.values.Nodup := by
    rw [axes_eq, List.forall_mem_map]
    exact valuesDistinct
  have nodup_iff := Expansion.nodup_secondaryColumns_iff axesDistinct fieldsDistinct
  rw [values_eq] at nodup_iff
  exact ⟨nodup_iff, Separable.not_overlapping, fun _ => Expansion.selectItems_names⟩

theorem secondaryColumns_nodup_iff_underscores :
    let columns : List ColumnSpec := [.ofField "p" none, .ofField "q" none]
    let valueColumns : List ColumnSpec := [.ofField "t" (some "sum"), .ofField "t_s" (some "avg")]
    let values : PivotValues := (OrderedMap.empty.insert "p" ["x", "x_1"]).insert "q" ["y_z"]
    ∃ expansion, (Expansion.resolve columns values).result = .ok expansion ∧
      expansion.secondaryColumns valueColumns =
        ["x_y_z_t", "x_y_z_t_s", "x_1_y_z_t", "x_1_y_z_t_s"] ∧
      (expansion.secondaryColumns valueColumns).Nodup := by
  intro columns valueColumns values
  have resolved : (Expansion.resolve columns values).result =
      .ok ⟨[⟨"p", ["x", "x_1"]⟩, ⟨"q", ["y_z"]⟩]⟩ := by
    rfl
  rcases secondaryColumns_nodup_iff columns valueColumns values _ resolved (by decide) (by decide)
    with ⟨nodup_iff, apart, _⟩
  refine ⟨_, resolved, by decide, nodup_iff.mpr (.inr (apart ?_))⟩
  decide

/-- Values and fields that all differ can still give two columns one name. -/
theorem secondaryColumns_collide :
    let columns : List ColumnSpec := [.ofField "p" none]
    let valueColumns : List ColumnSpec := [.ofField "c" (some "sum"), .ofField "b_c" (some "sum")]
    let values : PivotValues := OrderedMap.empty.insert "p" ["a", "a_b"]
    (columns.map ColumnSpec.field).Nodup ∧ (∀ entry ∈ values.entries, entry.2.Nodup) ∧
      (valueColumns.map ColumnSpec.field).Nodup ∧
      ∃ expansion, (Expansion.resolve columns values).result = .ok expansion ∧
        expansion.secondaryColumns valueColumns = ["a_c", "a_b_c", "a_b_c", "a_b_b_c"] ∧
        ¬(expansion.secondaryColumns valueColumns).Nodup := by
  intro columns valueColumns values
  refine ⟨by decide, by decide, by decide, ⟨[⟨"p", ["a", "a_b"]⟩]⟩, rfl, ?_, ?_⟩
  · decide
  · decide

end RowQuery
