import RowQuery.Proofs.Compile.Clauses

/-!
# Where a combination stands

The result of a pivoted statement comes as rows of cells, and nothing in a cell says which
combination it belongs to: only its position does. This file says what stands at which position.

A position counts through the combinations like a number whose digits have a radix of their own,
one digit for each axis and the last one counting fastest. What an axis contributes to the
combination at a position is the value that this digit picks. Below the combinations the value
columns count on by one, and the names of the columns are counted in the same way.
-/

namespace RowQuery

/-- The number of ways to pick a text from each list. -/
def choices (lists : List (List String)) : Nat := (lists.map List.length).prod

theorem choices_cons (texts : List String) (lists : List (List String)) :
    choices (texts :: lists) = texts.length * choices lists := by
  rw [choices, List.map_cons, List.prod_cons, choices]

/-- The choices from a list and from those behind it divide all choices. -/
theorem choices_drop_dvd {lists : List (List String)} {level : Nat} {texts : List String}
    (listed : lists[level]? = some texts) :
    texts.length * choices (lists.drop (level + 1)) ∣ choices lists := by
  induction lists generalizing level with
  | nil => cases listed
  | cons first lists ih =>
      cases level with
      | zero =>
          cases listed
          rw [choices_cons, List.drop_succ_cons, List.drop_zero]
      | succ level =>
          rw [choices_cons, List.drop_succ_cons]
          exact Nat.dvd_trans (ih listed) (Nat.dvd_mul_left ..)

/-- In front of the piece of a position there are as many pieces, all of the same width. -/
theorem getElem?_flatMap {α β : Type} {inputs : List α} {build : α → List β} {width index : Nat}
    (even : ∀ input ∈ inputs, (build input).length = width) (within : index < width)
    (position : Nat) :
    (inputs.flatMap build)[position * width + index]? =
      inputs[position]?.bind fun input => (build input)[index]? := by
  induction inputs generalizing position with
  | nil => simp
  | cons first others ih =>
      rw [List.forall_mem_cons] at even
      rw [List.flatMap_cons]
      cases position with
      | zero =>
          rw [List.getElem?_append_left (by omega), Nat.zero_mul, Nat.zero_add]
          rfl
      | succ position =>
          have behind : (position + 1) * width + index =
              (build first).length + (position * width + index) := by
            rw [even.1, Nat.succ_mul]
            omega
          rw [behind, List.getElem?_append_right (Nat.le_add_right ..), Nat.add_sub_cancel_left,
            ih even.2, List.getElem?_cons_succ]

section Points

variable {lists : List (List String)} {point : List String}

theorem length_points (lists : List (List String)) : (points lists).length = choices lists := by
  induction lists with
  | nil => rfl
  | cons texts rest ih => simp [points, choices_cons, List.length_flatMap, ih]

/-- A point is made of the text that the leading digit of its position picks, and the rest. -/
theorem points_cons_getElem? {texts : List String} {position : Nat}
    (found : (points (texts :: lists))[position]? = some point) :
    ∃ text rest, point = text :: rest ∧ texts[position / choices lists]? = some text ∧
      (points lists)[position % choices lists]? = some rest := by
  have within : position < texts.length * choices lists := by
    have bound := (List.getElem?_eq_some_iff.mp found).1
    rwa [length_points, choices_cons] at bound
  have positive : 0 < choices lists := Nat.pos_of_mul_pos_left (Nat.zero_lt_of_lt within)
  have even : ∀ text ∈ texts, ((points lists).map (text :: ·)).length = choices lists := by
    intro text _
    rw [List.length_map, length_points]
  have split := getElem?_flatMap even (Nat.mod_lt position positive) (position / choices lists)
  rw [Nat.div_add_mod', ← points, found] at split
  rcases Option.bind_eq_some_iff.mp split.symm with ⟨text, picked, further⟩
  rw [List.getElem?_map] at further
  rcases Option.map_eq_some_iff.mp further with ⟨rest, remaining, equal⟩
  exact ⟨text, rest, equal.symm, picked, remaining⟩

/--
Which text of a list belongs to a point is told by one digit of the point's position. The digits in
front of it only add multiples of what it can count to.
-/
theorem points_getElem? {position level : Nat} {texts : List String}
    (found : (points lists)[position]? = some point) (listed : lists[level]? = some texts) :
    ∃ text, point[level]? = some text ∧
      texts[position / choices (lists.drop (level + 1)) % texts.length]? = some text := by
  induction lists generalizing position point level with
  | nil => cases listed
  | cons first lists ih =>
      rcases points_cons_getElem? found with ⟨text, rest, rfl, picked, remaining⟩
      cases level with
      | zero =>
          cases listed
          have bound := (List.getElem?_eq_some_iff.mp picked).1
          refine ⟨text, rfl, ?_⟩
          rw [List.drop_succ_cons, List.drop_zero, Nat.mod_eq_of_lt bound]
          exact picked
      | succ level =>
          rw [List.getElem?_cons_succ] at listed
          rcases ih remaining listed with ⟨text, present, digit⟩
          refine ⟨text, present, ?_⟩
          rcases choices_drop_dvd listed with ⟨factor, equal⟩
          rw [equal, Nat.mul_comm texts.length, Nat.mul_assoc, Nat.mod_mul_right_div_self,
            Nat.mod_mul_right_mod] at digit
          exact digit

end Points

namespace Expansion

section Supplied

variable {columns : List ColumnSpec} {values : PivotValues} {expansion : Expansion}
  (axes_eq : expansion.axes = columns.map (Axis.supplied values))

include axes_eq

/-- The combinations are the points of the supplied values, put beside the fields. -/
theorem combinations_eq (filled : columns ≠ []) :
    expansion.combinations =
      (points (columns.map fun column => (values.get? column.field).getD [])).map fun point =>
        ⟨(columns.map ColumnSpec.field).zip point⟩ := by
  have unempty : expansion.axes.isEmpty = false := by
    simpa [axes_eq] using filled
  rw [combinations, unempty, if_neg Bool.false_ne_true, Axis.product_eq_zip, axes_eq, List.map_map,
    List.map_map, List.map_map]
  rfl

theorem combinations_eq_nil (unfilled : columns = []) : expansion.combinations = [] := by
  rw [combinations, if_pos (by simp [axes_eq, unfilled])]

theorem combinationCount_eq :
    expansion.combinationCount = if columns = [] then 0
      else choices (columns.map fun column => (values.get? column.field).getD []) := by
  rw [combinationCount]
  by_cases unfilled : columns = []
  · rw [if_pos unfilled, combinations_eq_nil axes_eq unfilled, List.length_nil]
  · rw [if_neg unfilled, combinations_eq axes_eq unfilled, List.length_map, length_points]

end Supplied

/-- The columns of a combination are named in one go, and so are all of their names. -/
theorem secondaryColumns_getElem? {expansion : Expansion} {columns : List ColumnSpec}
    {position index : Nat} {combination : Combination} {column : ColumnSpec}
    (found : expansion.combinations[position]? = some combination)
    (listed : columns[index]? = some column) :
    (expansion.secondaryColumns columns)[position * columns.length + index]? =
      some (combination.columnName column) := by
  have within := (List.getElem?_eq_some_iff.mp listed).1
  rw [secondaryColumns, getElem?_flatMap (fun _ _ => List.length_map _) within, found,
    Option.bind_some, List.getElem?_map, listed]
  rfl

theorem selectItems_getElem? {expansion : Expansion} {columns : List ColumnSpec}
    {items : List SelectItem} (selected : expansion.selectItems columns = .ok items)
    {position index : Nat} {combination : Combination} {column : ColumnSpec}
    (found : expansion.combinations[position]? = some combination)
    (listed : columns[index]? = some column) :
    ∃ function, pivotAggregate column = .ok function ∧
      items[position * columns.length + index]? =
        some (combination.selectItem column function) := by
  rw [selectItems, bind_eq_ok] at selected
  rcases selected with ⟨functions, aggregated, equal⟩
  cases equal
  have each := mapM_eq_ok.mp aggregated
  have within := (List.getElem?_eq_some_iff.mp listed).1
  have functionWithin : index < functions.length := each.length_eq ▸ within
  have aggregate := each.get within functionWithin
  rw [List.get_eq_getElem, (List.getElem?_eq_some_iff.mp listed).2] at aggregate
  refine ⟨functions[index], aggregate, ?_⟩
  have even : ∀ combination ∈ expansion.combinations,
      ((columns.zip functions).map fun pair =>
        combination.selectItem pair.1 pair.2).length = columns.length := by
    intro combination _
    rw [List.length_map, List.length_zip, each.length_eq, Nat.min_self]
  have paired : (columns.zip functions)[index]? = some (column, functions[index]) := by
    rw [List.getElem?_zip_eq_some]
    exact ⟨listed, List.getElem?_eq_getElem functionWithin⟩
  rw [getElem?_flatMap even within, found, Option.bind_some, List.getElem?_map, paired]
  rfl

end Expansion

/--
The combination at a position takes from each axis the value that one digit of the position picks,
and the aggregate of a value column over it stands at the position where its name does.
-/
theorem combinations_by_position (columns : List ColumnSpec) (values : PivotValues)
    (expansion : Expansion)
    (resolved : (Expansion.resolve columns values).result = .ok expansion) :
    let supplied := columns.map fun column => (values.get? column.field).getD []
    expansion.combinationCount = (if columns = [] then 0 else choices supplied) ∧
      expansion.combinations.length = expansion.combinationCount ∧
      (∀ position combination, expansion.combinations[position]? = some combination →
        combination.pairs.length = columns.length ∧
        ∀ level column texts, columns[level]? = some column → supplied[level]? = some texts →
          ∃ value, texts[position / choices (supplied.drop (level + 1)) % texts.length]? =
              some value ∧
            combination.pairs[level]? = some (column.field, value)) ∧
      ∀ valueColumns items, expansion.selectItems valueColumns = .ok items →
        items.length = expansion.combinationCount * valueColumns.length ∧
        ∀ position combination index column,
          expansion.combinations[position]? = some combination →
          valueColumns[index]? = some column →
          ∃ function name,
            Aggregate.called? (column.aggregate.getD "") = some function ∧
            items[position * valueColumns.length + index]? =
              some ⟨.aggregate function (.caseWhen
                (.joined (Predicate.equalities combination.pairs)) (.column column.field) .null),
                  some name⟩ ∧
            (expansion.secondaryColumns valueColumns)[position * valueColumns.length + index]? =
              some name := by
  intro supplied
  have axes_eq := Expansion.resolve_ok resolved
  refine ⟨Expansion.combinationCount_eq axes_eq, rfl, ?_, ?_⟩
  · intro position combination found
    have filled : columns ≠ [] := by
      intro unfilled
      rw [Expansion.combinations_eq_nil axes_eq unfilled] at found
      cases found
    rw [Expansion.combinations_eq axes_eq filled, List.getElem?_map] at found
    rcases Option.map_eq_some_iff.mp found with ⟨point, pointFound, rfl⟩
    have sized : point.length = columns.length := by
      rw [length_of_mem_points (List.mem_of_getElem? pointFound), List.length_map]
    refine ⟨?_, ?_⟩
    · rw [List.length_zip, List.length_map, sized, Nat.min_self]
    · intro level column texts listed textsListed
      rcases points_getElem? pointFound textsListed with ⟨value, present, digit⟩
      refine ⟨value, digit, ?_⟩
      rw [List.getElem?_zip_eq_some, List.getElem?_map, listed]
      exact ⟨rfl, present⟩
  · intro valueColumns items selected
    refine ⟨?_, ?_⟩
    · rcases Expansion.selectItems_ok selected with ⟨aggregated, rfl, rfl⟩
      simp [List.length_flatMap, Expansion.combinationCount]
    · intro position combination index column found listed
      rcases Expansion.selectItems_getElem? selected found listed with ⟨function, named, item⟩
      have offered := ColumnSpec.aggregated?_of_pivotAggregate named
      rw [ColumnSpec.aggregated?, Option.map_eq_some_iff] at offered
      rcases offered with ⟨called, offered, equal⟩
      cases equal
      rw [Combination.selectItem, Combination.predicate_eq_joined] at item
      exact ⟨function, combination.columnName column, offered, item,
        Expansion.secondaryColumns_getElem? found listed⟩

theorem combinations_by_position_threeAxes :
    let columns : List ColumnSpec := [.ofField "p" none, .ofField "q" none, .ofField "p" none]
    let values : PivotValues :=
      (OrderedMap.empty.insert "q" ["x", "y", "z"]).insert "p" ["a", "b"]
    let valueColumns : List ColumnSpec := [.ofField "v" (some "SUM"), .ofField "w" (some "min")]
    ∃ expansion combination items, (Expansion.resolve columns values).result = .ok expansion ∧
      expansion.combinationCount = 12 ∧ expansion.combinations[9]? = some combination ∧
      combination.pairs[0]? = some ("p", "b") ∧ combination.pairs[1]? = some ("q", "y") ∧
      expansion.selectItems valueColumns = .ok items ∧
      items[9 * 2 + 1]? = some ⟨.aggregate .min (.caseWhen
        (.conj [.compare "p" .equal (.text "b"), .compare "q" .equal (.text "y"),
          .compare "p" .equal (.text "b")]) (.column "w") .null), some "b_y_b_w"⟩ := by
  intro columns values valueColumns
  let expansion : Expansion := ⟨[⟨"p", ["a", "b"]⟩, ⟨"q", ["x", "y", "z"]⟩, ⟨"p", ["a", "b"]⟩]⟩
  have resolved : (Expansion.resolve columns values).result = .ok expansion := rfl
  have ninth : expansion.combinations[9]? = some ⟨[("p", "b"), ("q", "y"), ("p", "b")]⟩ := rfl
  have aggregated : valueColumns.mapM pivotAggregate = .ok [.sum, .min] := by
    cbv
  obtain ⟨items, accepted⟩ : ∃ items, expansion.selectItems valueColumns = .ok items := by
    rw [Expansion.selectItems, aggregated]
    exact ⟨_, rfl⟩
  rcases combinations_by_position columns values expansion resolved with
    ⟨counted, _, placed, selected⟩
  rcases (placed 9 _ ninth).2 0 _ ["a", "b"] rfl rfl with ⟨first, firstDigit, firstPair⟩
  rcases (placed 9 _ ninth).2 1 _ ["x", "y", "z"] rfl rfl with ⟨second, secondDigit, secondPair⟩
  have firstText : ["a", "b"][9 / choices [["x", "y", "z"], ["a", "b"]] % 2]? = some "b" := rfl
  have secondText : ["x", "y", "z"][9 / choices [["a", "b"]] % 3]? = some "y" := rfl
  have first_eq : "b" = first := Option.some.inj (firstText.symm.trans firstDigit)
  have second_eq : "y" = second := Option.some.inj (secondText.symm.trans secondDigit)
  rcases (selected valueColumns items accepted).2 9 _ 1 _ ninth rfl with
    ⟨function, name, called, item, named⟩
  have least : Aggregate.min = function := by
    have minimum : Aggregate.called? "min" = some .min := by cbv
    exact Option.some.inj (minimum.symm.trans called)
  have joined : "b_y_b_w" = name := Option.some.inj named
  subst first_eq second_eq least joined
  exact ⟨expansion, _, items, resolved, counted, ninth, firstPair, secondPair, accepted, item⟩

end RowQuery
