import Mathlib.Logic.Relation
import RowQuery.Proofs.Wire.Edits
import RowQuery.Proofs.Wire.Requests

/-!
# Spellings of requests

The same request can be sent in many ways. This file shows what of a document does not matter:
the order of the members of the request, of its columns, sort entries and filters; which of its
names a field goes by; members that nothing reads; fields that are left out where they would say
what is assumed anyway. The only objects whose order matters are maps, whose names are not names
of fields: filters that change places are read in their new order.

A filter is not a record like the others, because its kind is one of its members and says what
the others mean. What is shown first is that the kind can be taken out wherever it stands.
-/

namespace RowQuery

open Document

namespace RecordFormat

variable {Field : Type} {format : RecordFormat Field} {defaults slots : format.Slots}
  {field : Field}

theorem require_joined (required : defaults field = none) :
    format.require (joined defaults slots) field = format.require slots field := by
  rw [require, joined, required, Option.or_none, require]

theorem getD_joined {value : format.Content field} (assumed : defaults field = some value) :
    (joined defaults slots field).getD value = (slots field).getD value := by
  rw [joined, assumed, Option.getD_or]
  rfl

end RecordFormat

open RecordFormat

namespace ColumnSpec

/-- What a column is assumed to hold where nothing is sent. -/
def defaults : format.Slots
  | .field => none
  | .id => some none
  | .displayName => some none
  | .aggregate => some none

/-- The edits of a column. -/
def Edit : DocumentEdit := format.Edit defaults fun _ => Unedited

/-- A column is read of its edited document. -/
theorem keeps_edit : decode.Keeps Edit := by
  refine RecordFormat.keeps_edit_unedited wellNamed.distinct rfl fun slots => ?_
  rw [require_joined rfl]
  refine congrArg (format.require slots .field >>= ·) (funext fun field => congrArg Except.ok ?_)
  exact (mk.injEq ..).mpr ⟨getD_joined rfl, getD_joined rfl, rfl, getD_joined rfl⟩

end ColumnSpec

namespace SortSpec

/-- The edits of a sort entry. -/
def Edit : DocumentEdit := format.Edit format.noSlots fun _ => Unedited

theorem keeps_edit : decode.Keeps Edit := by
  refine RecordFormat.keeps_edit_unedited wellNamed.distinct rfl fun slots => ?_
  rw [joined_noSlots]

end SortSpec

namespace Filter

/-- A member that may stand beside the kind of a filter. -/
def Beside (room : Nat) (member : Key × Document) : Prop :=
  ∃ name, member.1 = some name ∧ name ≠ kindName ∧ (member.2.json? room).isSome

theorem requireReadable_eq_ok {room : Nat} {document : Document} :
    requireReadable room document = .ok () ↔ (document.json? room).isSome := by
  rw [requireReadable]
  by_cases readable : (document.json? room).isSome
  · rw [if_pos readable]
    exact iff_of_true rfl readable
  · rw [if_neg readable]
    exact iff_of_false (by simp) readable

/-- A member that is not the kind is passed on, if it is readable. -/
theorem takeKind_cons_eq_ok {room : Nat} {found : Option FilterKind} {kind : FilterKind}
    {member : Key × Document} {members others : List (Key × Document)}
    (different : member.1 ≠ some kindName) :
    takeKind room found (member :: members) = .ok (kind, others) ↔
      Beside room member ∧ ∃ rest, takeKind room found members = .ok (kind, rest) ∧
        others = member :: rest := by
  rcases member with ⟨_ | name, content⟩
  · constructor
    · intro read
      cases read
    · rintro ⟨⟨_, named, _⟩, _⟩
      cases named
  · have other : name ≠ kindName := fun same => different (congrArg some same)
    rw [takeKind, if_neg other]
    constructor
    · intro read
      rcases bind_eq_ok.mp read with ⟨_, readable, further⟩
      rcases bind_eq_ok.mp further with ⟨⟨kind, rest⟩, readRest, equal⟩
      cases equal
      exact ⟨⟨name, rfl, other, requireReadable_eq_ok.mp readable⟩, rest, readRest, rfl⟩
    · rintro ⟨⟨_, _, _, readable⟩, rest, read, rfl⟩
      rw [requireReadable_eq_ok.mpr readable, read]
      rfl

/-- Once the kind was found, all members that follow are passed on. -/
theorem takeKind_some_eq_ok {room : Nat} {found kind : FilterKind}
    {members others : List (Key × Document)} :
    takeKind room (some found) members = .ok (kind, others) ↔
      kind = found ∧ others = members ∧ ∀ member ∈ members, Beside room member := by
  induction members generalizing others with
  | nil => simp [takeKind, eq_comm]
  | cons member members ih =>
      by_cases named : member.1 = some kindName
      · rcases member with ⟨_, content⟩
        subst named
        constructor
        · intro read
          cases read
        · rintro ⟨_, _, each⟩
          rcases each _ List.mem_cons_self with ⟨_, ⟨⟩, other, _⟩
          exact absurd rfl other
      · rw [takeKind_cons_eq_ok named, List.forall_mem_cons]
        simp only [ih]
        constructor
        · rintro ⟨beside, _, ⟨rfl, rfl, each⟩, rfl⟩
          exact ⟨rfl, rfl, beside, each⟩
        · rintro ⟨rfl, rfl, beside, each⟩
          exact ⟨beside, members, ⟨rfl, rfl, each⟩, rfl⟩

theorem takeKind_first_eq_ok {room : Nat} {kind : FilterKind} {content : Document}
    {members others : List (Key × Document)} :
    takeKind room none ((some kindName, content) :: members) = .ok (kind, others) ↔
      decodeKind room content = .ok kind ∧ others = members ∧
        ∀ member ∈ members, Beside room member := by
  rw [takeKind, if_pos rfl]
  change (decodeKind room content >>= fun found => takeKind room (some found) members) = _ ↔ _
  rw [bind_eq_ok]
  simp only [takeKind_some_eq_ok]
  constructor
  · rintro ⟨_, read, rfl, same, each⟩
    exact ⟨read, same, each⟩
  · rintro ⟨read, same, each⟩
    exact ⟨kind, read, rfl, same, each⟩

/-- The kind can be taken out wherever it stands, and the other members keep their order. -/
theorem takeKind_eq_ok_iff {room : Nat} {kind : FilterKind}
    {members others : List (Key × Document)} :
    takeKind room none members = .ok (kind, others) ↔
      ∃ before content after, members = before ++ (some kindName, content) :: after ∧
        others = before ++ after ∧ decodeKind room content = .ok kind ∧
          ∀ member ∈ others, Beside room member := by
  induction members generalizing others with
  | nil =>
      constructor
      · intro read
        cases read
      · rintro ⟨_ | _, _, _, ⟨⟩, _⟩
  | cons member members ih =>
      by_cases named : member.1 = some kindName
      · rcases member with ⟨_, content⟩
        subst named
        rw [takeKind_first_eq_ok]
        constructor
        · rintro ⟨read, rfl, each⟩
          exact ⟨[], content, others, rfl, rfl, read, each⟩
        · rintro ⟨_ | ⟨first, before⟩, content, after, same, rfl, read, each⟩
          · cases same
            exact ⟨read, rfl, each⟩
          · cases same
            rcases each _ List.mem_cons_self with ⟨_, ⟨⟩, other, _⟩
            exact absurd rfl other
      · rw [takeKind_cons_eq_ok named]
        simp only [ih]
        constructor
        · rintro ⟨beside, rest, ⟨before, content, after, rfl, rfl, read, each⟩, rfl⟩
          exact ⟨member :: before, content, after, rfl, rfl, read,
            List.forall_mem_cons.mpr ⟨beside, each⟩⟩
        · rintro ⟨_ | ⟨first, before⟩, content, after, same, rfl, read, each⟩
          · cases same
            exact absurd rfl named
          · cases same
            rcases List.forall_mem_cons.mp each with ⟨beside, each⟩
            exact ⟨beside, _, ⟨before, content, after, rfl, rfl, read, each⟩, rfl⟩

/-- What a text filter is assumed to hold where nothing is sent. -/
def textDefaults : textFormat.Slots
  | .operator => none
  | .value => some none

/-- What a number filter is assumed to hold where nothing is sent. -/
def numberDefaults : numberFormat.Slots
  | .operator => none
  | .value => some none
  | .upper => some none

/-- What a set filter is assumed to hold where nothing is sent. -/
def setDefaults : setFormat.Slots
  | .values => some .empty

/-- The edits of the fields of a filter of a kind. -/
def FieldsEdit : FilterKind → DocumentEdit
  | .text => textFormat.Edit textDefaults fun _ => Unedited
  | .number => numberFormat.Edit numberDefaults fun _ => Unedited
  | .set => setFormat.Edit setDefaults fun _ => Unedited

theorem decodeFields_keeps (kind : FilterKind) : (decodeFields kind).Keeps (FieldsEdit kind) := by
  cases kind with
  | text =>
      refine RecordFormat.keeps_edit_unedited textFormat_wellNamed.distinct rfl fun slots => ?_
      rw [require_joined rfl]
      refine congrArg (textFormat.require slots .operator >>= ·)
        (funext fun operator => congrArg Except.ok ?_)
      exact (text.injEq ..).mpr ⟨rfl, getD_joined rfl⟩
  | number =>
      refine RecordFormat.keeps_edit_unedited numberFormat_wellNamed.distinct rfl fun slots => ?_
      rw [require_joined rfl]
      refine congrArg (numberFormat.require slots .operator >>= ·)
        (funext fun operator => congrArg Except.ok ?_)
      exact (number.injEq ..).mpr ⟨rfl, getD_joined rfl, getD_joined rfl⟩
  | set =>
      refine RecordFormat.keeps_edit_unedited setFormat_wellNamed.distinct rfl fun slots => ?_
      exact congrArg Except.ok ((set.injEq ..).mpr (getD_joined rfl))

theorem decodeFields_perm {room : Nat} {kind : FilterKind} {members others : List (Key × Document)}
    (same : members.Perm others) {filter : Filter}
    (read : decodeFields kind (room + 1) (.object members) = .ok filter) :
    decodeFields kind (room + 1) (.object others) = .ok filter := by
  refine decodeFields_keeps kind ?_ read
  cases kind with
  | _ => exact .permute same

/--
The members of a filter may stand in any order, its kind among them. Where the kind stands does not
matter, because what is left without it is the same.
-/
theorem decode_perm {room : Nat} {members others : List (Key × Document)}
    (same : members.Perm others) {filter : Filter}
    (read : decode (room + 1) (.object members) = .ok filter) :
    decode (room + 1) (.object others) = .ok filter := by
  rcases bind_eq_ok.mp read with ⟨⟨kind, rest⟩, taken, readFields⟩
  rcases takeKind_eq_ok_iff.mp taken with ⟨before, content, after, rfl, rfl, readKind, each⟩
  have kindMem : (some kindName, content) ∈ others :=
    same.subset (List.mem_append_right before List.mem_cons_self)
  rcases List.append_of_mem kindMem with ⟨otherBefore, otherAfter, rfl⟩
  have sameFields : (before ++ after).Perm (otherBefore ++ otherAfter) :=
    ((List.perm_middle.symm.trans same).trans List.perm_middle).cons_inv
  refine bind_eq_ok.mpr ⟨(kind, otherBefore ++ otherAfter), takeKind_eq_ok_iff.mpr ?_,
    decodeFields_perm sameFields readFields⟩
  exact ⟨otherBefore, content, otherAfter, rfl, rfl, readKind,
    fun member memberMem => each member (sameFields.mem_iff.mpr memberMem)⟩

/--
An edit of a filter: its members change places, or its fields are edited as those of its kind.
Unlike in a record, a member that is added must be readable, because a filter is read whole before
its kind is known.
-/
inductive Edit : DocumentEdit where
  | permute {room : Nat} {members others : List (Key × Document)} (same : members.Perm others) :
      Edit (room + 1) (.object members) (.object others)
  | fields {room : Nat} {kind : FilterKind} {content : Document}
      {members others : List (Key × Document)} (readKind : decodeKind room content = .ok kind)
      (edited : FieldsEdit kind (room + 1) (.object members) (.object others))
      (readable : ∀ member ∈ others, member ∈ members ∨ Beside room member) :
      Edit (room + 1) (.object ((some kindName, content) :: members))
        (.object ((some kindName, content) :: others))

/-- A filter is read of its edited document. -/
theorem keeps_edit : decode.Keeps Edit := by
  intro room document edited filter edit read
  cases edit with
  | permute same => exact decode_perm same read
  | fields readKind fieldsEdited readable =>
      rcases bind_eq_ok.mp read with ⟨⟨found, rest⟩, taken, readFields⟩
      rcases takeKind_first_eq_ok.mp taken with ⟨readAgain, rfl, each⟩
      rw [readKind] at readAgain
      cases readAgain
      have besides : ∀ member ∈ _, Beside _ member := fun member memberMem =>
        (readable member memberMem).elim (each member) id
      exact bind_eq_ok.mpr ⟨(_, _), takeKind_first_eq_ok.mpr ⟨readKind, rfl, besides⟩,
        decodeFields_keeps _ fieldsEdited readFields⟩

end Filter

namespace RowsRequest

/-- The names that the fields of a request may be sent under. -/
def fieldNames : List (String × RequestField) :=
  [("startRow", .startRow), ("endRow", .endRow), ("rowGroupCols", .rowGroups),
    ("valueCols", .valueColumns), ("pivotCols", .pivotColumns), ("pivotMode", .pivotMode),
    ("groupKeys", .groupKeys), ("filterModel", .filters), ("filters", .filters),
    ("sortModel", .sort), ("sort", .sort)]

/-- Filters and sort entries have two names each, every other field has one. -/
theorem field?_eq_some_iff (name : String) (field : RequestField) :
    format.field? name = some field ↔ (name, field) ∈ fieldNames := by
  constructor
  · intro found
    have named : format.name field = name ∨ name ∈ format.aliases field := by
      simpa using List.find?_some found
    rcases named with rfl | aliased
    · cases field with
      | _ => decide
    · cases field with
      | filters =>
          cases List.mem_singleton.mp aliased
          decide
      | sort =>
          cases List.mem_singleton.mp aliased
          decide
      | _ => cases aliased
  · intro listed
    simp only [fieldNames, List.mem_cons, List.not_mem_nil, or_false, Prod.mk.injEq] at listed
    rcases listed with ⟨rfl, rfl⟩ | ⟨rfl, rfl⟩ | ⟨rfl, rfl⟩ | ⟨rfl, rfl⟩ | ⟨rfl, rfl⟩ |
      ⟨rfl, rfl⟩ | ⟨rfl, rfl⟩ | ⟨rfl, rfl⟩ | ⟨rfl, rfl⟩ | ⟨rfl, rfl⟩ | ⟨rfl, rfl⟩
    all_goals decide

/-- What a request is assumed to hold where nothing is sent. -/
def defaults : format.Slots
  | .startRow => none
  | .endRow => none
  | .rowGroups => some []
  | .valueColumns => some []
  | .pivotColumns => some []
  | .pivotMode => some false
  | .groupKeys => some []
  | .filters => some .empty
  | .sort => some []

/-- The edits of what a request holds: of one column, one filter or one sort entry. -/
def ContentEdit : RequestField → DocumentEdit
  | .rowGroups => ItemEdit ColumnSpec.Edit
  | .valueColumns => ItemEdit ColumnSpec.Edit
  | .pivotColumns => ItemEdit ColumnSpec.Edit
  | .filters => MemberEdit Filter.Edit
  | .sort => ItemEdit SortSpec.Edit
  | _ => Unedited

/-- The edits of a request. -/
def Edit : DocumentEdit := format.Edit defaults ContentEdit

theorem content_keeps : (field : RequestField) → (format.content field).Keeps (ContentEdit field)
  | .startRow => Decoder.keeps_unedited _
  | .endRow => Decoder.keeps_unedited _
  | .rowGroups => ColumnSpec.keeps_edit.list
  | .valueColumns => ColumnSpec.keeps_edit.list
  | .pivotColumns => ColumnSpec.keeps_edit.list
  | .pivotMode => Decoder.keeps_unedited _
  | .groupKeys => Decoder.keeps_unedited _
  | .filters => Filter.keeps_edit.orderedMap
  | .sort => SortSpec.keeps_edit.list

/-- A request is read of its edited document. -/
theorem keeps_edit : decode.Keeps Edit := by
  refine RecordFormat.keeps_edit wellNamed.distinct rfl content_keeps fun slots => ?_
  rw [require_joined rfl, require_joined rfl]
  refine congrArg (format.require slots .startRow >>= ·) (funext fun startRow => ?_)
  refine congrArg (format.require slots .endRow >>= ·) (funext fun endRow => congrArg Except.ok ?_)
  exact (mk.injEq ..).mpr ⟨rfl, rfl, getD_joined rfl, getD_joined rfl, getD_joined rfl,
    getD_joined rfl, getD_joined rfl, getD_joined rfl, getD_joined rfl⟩

/-- A request is read after any number of edits. -/
theorem decode_of_edits {room : Nat} {document edited : Document} {request : RowsRequest}
    (read : decode room document = .ok request)
    (edits : Relation.ReflTransGen (Edit room) document edited) :
    decode room edited = .ok request := by
  induction edits with
  | refl => exact read
  | tail _ edit ih => exact keeps_edit edit ih

/-- Other filters take the place of those that were read, and all else is as it was. -/
theorem decode_replace_filters {room : Nat} {filters others document edited : Document}
    {request : RowsRequest} (replaces : format.Replaces .filters filters others document edited)
    (read : decode (room + 1) document = .ok request) :
    FilterMap.decode room filters = .ok request.filters ∧
      ∀ map, FilterMap.decode room others = .ok map →
        decode (room + 1) edited = .ok { request with filters := map } := by
  rcases bind_eq_ok.mp read with ⟨slots, readSlots, built⟩
  rcases slots_replace wellNamed.distinct replaces readSlots with
    ⟨value, readFilters, filled, replaced⟩
  rcases bind_eq_ok.mp built with ⟨startRow, start, further⟩
  rcases bind_eq_ok.mp further with ⟨endRow, last, equal⟩
  cases equal
  constructor
  · rw [filled]
    exact readFilters
  · intro map readOthers
    exact bind_eq_ok.mpr ⟨_, replaced map readOthers, bind_eq_ok.mpr ⟨startRow, start,
      bind_eq_ok.mpr ⟨endRow, last, rfl⟩⟩⟩

end RowsRequest

/--
How a request is spelled does not matter: whatever edits lead from one document to another, what
was read of the first is read of the second. An edit may exchange the two names of the filters and
those of the sort entries, which are the only fields with several names. Only the filters have an
order: if those on different columns change places, then so do those of the request.
-/
theorem only_filter_order_matters {room : Nat} {document : Document} {request : RowsRequest}
    (read : RowsRequest.decode room document = .ok request) :
    (∀ name field, RowsRequest.format.field? name = some field ↔
      (name, field) ∈ RowsRequest.fieldNames) ∧
    (∀ edited, Relation.ReflTransGen (RowsRequest.Edit room) document edited →
      RowsRequest.decode room edited = .ok request) ∧
    ∀ entries others edited, (entries.map Prod.fst).Nodup → entries.Perm others →
      RowsRequest.format.Replaces .filters (.object entries) (.object others) document edited →
        ∃ filters : FilterMap,
          RowsRequest.decode room edited = .ok { request with filters := filters } ∧
            filters.entries.Perm request.filters.entries ∧
            filters.keys.map some = others.map Prod.fst := by
  refine ⟨RowsRequest.field?_eq_some_iff, ?_, ?_⟩
  · intro edited edits
    exact RowsRequest.decode_of_edits read edits
  · intro entries others edited distinct same replaces
    cases room with
    | zero =>
        cases replaces with
        | _ => cases read
    | succ room =>
        rcases RowsRequest.decode_replace_filters replaces read with ⟨readFilters, replaced⟩
        rcases Decoder.orderedMap_perm distinct same readFilters with
          ⟨filters, readOthers, permutes, keys⟩
        exact ⟨filters, replaced filters readOthers, permutes, keys⟩

/-- A list is left out, two names are others, a member is unknown, a kind stands last. -/
theorem only_filter_order_matters_respelled :
    let kind : Key × Document := (some "filterType", .text (some "text"))
    let operator : Key × Document := (some "type", .text (some "blank"))
    let product : Key × Document :=
      (some "product", .object [(some "filterType", .text (some "set"))])
    let filters : Document := .object [(some "region", .object [kind, operator]), product]
    let otherFilters : Document := .object [(some "region", .object [operator, kind]), product]
    let permutedFilters : Document := .object [product, (some "region", .object [kind, operator])]
    let column : Key × Document := (some "colId", .text (some "region"))
    let direction : Key × Document := (some "sort", .text (some "desc"))
    let order : Document := .list [.object [column, direction]]
    let otherOrder : Document := .list [.object [direction, column]]
    let start : Key × Document := (some "startRow", .number (some (.integer 0)))
    let last : Key × Document := (some "endRow", .number (some (.integer 9)))
    let document : Document := .object
      [(some "groupKeys", .list []), start, last, (some "filterModel", filters),
        (some "sortModel", order)]
    let respelled : Document := .object
      [(some "filters", otherFilters), (some "sort", otherOrder), last, start,
        (some "comment", .null)]
    let permuted : Document := .object
      [(some "groupKeys", .list []), start, last, (some "filterModel", permutedFilters),
        (some "sortModel", order)]
    let request : RowsRequest := ⟨0, 9, [], [], [], false, [],
      ⟨[("region", .text .blank none), ("product", .set .empty)], by decide⟩,
      [⟨"region", .descending⟩]⟩
    RowsRequest.decode 127 document = .ok request ∧
      RowsRequest.decode 127 respelled = .ok request ∧
      ∃ found : FilterMap,
        RowsRequest.decode 127 permuted = .ok { request with filters := found } ∧
          found.keys.map some = [some "product", some "region"] := by
  intro kind operator product filters otherFilters permutedFilters column direction order otherOrder
    start last document respelled permuted request
  have read : RowsRequest.decode 127 document = .ok request := by decide +kernel
  refine ⟨read, (only_filter_order_matters read).2.1 respelled ?_, ?_⟩
  · have leftOut : RowsRequest.Edit 127 document (.object
        [start, last, (some "filterModel", filters), (some "sortModel", order)]) :=
      .leaveOut _ rfl rfl rfl
    have reversed : RowsRequest.Edit 127 (.object
          [start, last, (some "filterModel", filters), (some "sortModel", order)])
        (.object [(some "sortModel", order), (some "filterModel", filters), last, start]) :=
      .permute (List.reverse_perm [_, _, _, _]).symm
    have resorted : RowsRequest.Edit 127
        (.object [(some "sortModel", order), (some "filterModel", filters), last, start])
        (.object [(some "sort", order), (some "filterModel", filters), last, start]) :=
      .rename _ _ rfl rfl
    have directionFirst : RowsRequest.ContentEdit .sort 126 order otherOrder :=
      .item [] [] (.permute (.swap ..))
    have reordered : RowsRequest.Edit 127
        (.object [(some "sort", order), (some "filterModel", filters), last, start])
        (.object [(some "sort", otherOrder), (some "filterModel", filters), last, start]) :=
      .content directionFirst (.member [] _ rfl)
    have swapped : RowsRequest.Edit 127
        (.object [(some "sort", otherOrder), (some "filterModel", filters), last, start])
        (.object [(some "filterModel", filters), (some "sort", otherOrder), last, start]) :=
      .permute (.swap ..)
    have renamed : RowsRequest.Edit 127
        (.object [(some "filterModel", filters), (some "sort", otherOrder), last, start])
        (.object [(some "filters", filters), (some "sort", otherOrder), last, start]) :=
      .rename _ _ rfl rfl
    have kindLast : RowsRequest.ContentEdit .filters 126 filters otherFilters :=
      .member [] [product] _ (.permute (.swap ..))
    have refiltered : RowsRequest.Edit 127
        (.object [(some "filters", filters), (some "sort", otherOrder), last, start])
        (.object [(some "filters", otherFilters), (some "sort", otherOrder), last, start]) :=
      .content kindLast (.member [] _ rfl)
    have added : RowsRequest.Edit 127
        (.object [(some "filters", otherFilters), (some "sort", otherOrder), last, start])
        (.object [(some "comment", .null), (some "filters", otherFilters),
          (some "sort", otherOrder), last, start]) :=
      .add _ rfl rfl
    have moved : RowsRequest.Edit 127
        (.object [(some "comment", .null), (some "filters", otherFilters),
          (some "sort", otherOrder), last, start])
        respelled := .permute (List.perm_append_singleton _ [_, _, _, _]).symm
    exact .head leftOut (.head reversed (.head resorted (.head reordered (.head swapped
      (.head renamed (.head refiltered (.head added (.single moved))))))))
  · rcases (only_filter_order_matters read).2.2 _ _ permuted (by decide) (.swap ..)
      (.member [_, start, last] [_] rfl) with ⟨found, readPermuted, _, keys⟩
    exact ⟨found, readPermuted, keys⟩

end RowQuery
